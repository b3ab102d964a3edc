import VirtualRecords.Proofs.QueryText.Fragments

/-! How one bracketed text is taken out. It stands behind a front without opening brackets, which
neither search looks past, and it does not stand a second time behind itself. So what is taken out
is that text, and nothing but a placeholder in its place is changed. -/

namespace VirtualRecords.QueryText

open Text

variable {front part other inner rest text : List Char} {c : Char}

theorem replaceAll_cons_of_eq_none (fails : after? part (c :: text) = none) :
    replaceAll part other (c :: text) = c :: replaceAll part other text := by
  conv => lhs; unfold replaceAll
  rw [fails]

theorem replaceAll_append_self (nonempty : part ≠ []) (rest : List Char) :
    replaceAll part other (part ++ rest) = other ++ replaceAll part other rest := by
  obtain ⟨p, more, rfl⟩ := List.exists_cons_of_ne_nil nonempty
  have found : after? (p :: more) (p :: (more ++ rest)) = some rest := after?_eq_some_iff.2 rfl
  have shorter : rest.length < (p :: (more ++ rest)).length := by
    rw [List.length_cons, List.length_append]
    omega
  rw [List.cons_append]
  conv => lhs; unfold replaceAll
  simp only [found, shorter, dif_pos]

theorem replaceAll_of_not_infix (absent : ¬ part <:+: text) : replaceAll part other text = text := by
  induction text with
  | nil => unfold replaceAll; rfl
  | cons c text ih =>
    have fails : after? part (c :: text) = none := by
      refine Option.eq_none_iff_forall_ne_some.2 fun rest found => absent ?_
      rw [after?_eq_some_iff.1 found]
      exact (List.prefix_append part rest).isInfix
    rw [replaceAll_cons_of_eq_none fails,
      ih fun later => absent (later.trans (List.suffix_cons c text).isInfix)]

theorem replaceAll_append_of_not_mem (absent : c ∉ front) (text : List Char) :
    replaceAll (c :: part) other (front ++ text) = front ++ replaceAll (c :: part) other text := by
  induction front with
  | nil => rfl
  | cons d front ih =>
    obtain ⟨apart, absent⟩ := not_or.1 (mt List.mem_cons.2 absent)
    have fails : after? (c :: part) (d :: (front ++ text)) = none := if_neg apart
    rw [List.cons_append, replaceAll_cons_of_eq_none fails, ih absent, List.cons_append]

theorem replaceAll_bracketed (plain : '(' ∉ front) (once : ¬ bracketed inner <:+: rest) :
    replaceAll (bracketed inner) other (front ++ (bracketed inner ++ rest)) =
      front ++ (other ++ rest) := by
  have nonempty : bracketed inner ≠ [] := List.cons_ne_nil _ _
  rw [bracketed, List.cons_append] at nonempty once ⊢
  rw [replaceAll_append_of_not_mem plain, replaceAll_append_self nonempty,
    replaceAll_of_not_infix once]

theorem takeWhile_isPlain (plain : inner.all isPlain = true) (rest : List Char) :
    (inner ++ ')' :: rest).takeWhile isPlain = inner ∧
      (inner ++ ')' :: rest).dropWhile isPlain = ')' :: rest := by
  have each := List.all_eq_true.1 plain
  have closes : isPlain ')' = false := rfl
  rw [List.takeWhile_append_of_pos each, List.dropWhile_append_of_pos each]
  simp [closes]

theorem bracketAt?_bracketed (nonempty : inner ≠ []) (plain : inner.all isPlain = true)
    (rest : List Char) : bracketAt? (bracketed inner ++ rest) = some inner := by
  obtain ⟨taken, left⟩ := takeWhile_isPlain plain rest
  have split : bracketed inner ++ rest = '(' :: (inner ++ ')' :: rest) := by simp [bracketed]
  rw [split, bracketAt?, taken, left]
  simp [nonempty]

theorem infix_of_append_of_not_mem (absent : c ∉ front) (inside : c :: part <:+: front ++ text) :
    c :: part <:+: text := by
  induction front with
  | nil => exact inside
  | cons d front ih =>
    obtain ⟨apart, absent⟩ := not_or.1 (mt List.mem_cons.2 absent)
    rw [List.cons_append, List.infix_cons_iff, List.cons_prefix_cons] at inside
    exact ih absent (inside.resolve_left fun starts => apart starts.1)

/-- A bracketed text does not begin within another one, nor in its place unless it is the same. -/
theorem infix_of_append_bracketed {outer : List Char} (plain : inner.all isPlain = true)
    (plainOuter : outer.all isPlain = true) (apart : inner ≠ outer)
    (inside : bracketed inner <:+: bracketed outer ++ rest) : bracketed inner <:+: rest := by
  have split : bracketed outer ++ rest = '(' :: (outer ++ [')'] ++ rest) := by simp [bracketed]
  have closed : '(' ∉ outer ++ [')'] := by
    have opens : '(' ∉ outer := fun member => by
      have here := List.all_eq_true.1 plainOuter '(' member
      contradiction
    simp [opens]
  rw [split] at inside
  rcases List.infix_cons_iff.1 inside with ⟨after, same⟩ | later
  · have whole : inner ++ ')' :: after = outer ++ ')' :: rest := by simpa [bracketed] using same
    have taken := (takeWhile_isPlain plain after).1
    rw [whole, (takeWhile_isPlain plainOuter rest).1] at taken
    exact absurd taken.symm apart
  · exact infix_of_append_of_not_mem closed later

theorem extract_append_bracketed (plain : '(' ∉ front) (nonempty : inner ≠ [])
    (plainInner : inner.all isPlain = true) (once : ¬ bracketed inner <:+: rest) :
    extract (front ++ (bracketed inner ++ rest)) =
      (inner :: (extract (front ++ (placeholder ++ rest))).1,
        (extract (front ++ (placeholder ++ rest))).2) := by
  have found : firstBracket? (front ++ (bracketed inner ++ rest)) = some inner := by
    have here := bracketAt?_bracketed nonempty plainInner rest
    rw [firstBracket?_append plain]
    rw [bracketed, List.cons_append, List.cons_append] at here ⊢
    rw [firstBracket?, here, Option.some_or]
  rw [extract_of_eq_some found, replaceAll_bracketed plain once]

end VirtualRecords.QueryText
