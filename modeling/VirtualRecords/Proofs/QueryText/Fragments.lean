import VirtualRecords.Proofs.QueryText.Brackets

/-! What the text of a leaf comes from. The brackets are taken out of a text, and what was in them
and what is left are the fragments that are searched for comparisons. A fragment has no character
that the text has not, the placeholder apart, and each text in brackets costs an opening bracket;
so a leaf keeps the opening brackets of the text only if none is taken out. -/

namespace VirtualRecords.QueryText

open Text

variable {text inner fragment value : List Char} {c : Char} {leaf : Leaf}

theorem bracketAt?_of_ne (apart : c ≠ '(') (rest : List Char) : bracketAt? (c :: rest) = none := by
  rw [bracketAt?, if_neg fun opens => apart opens.1]

theorem bracketAt?_concat (plain : isPlain c = true) (text : List Char) :
    bracketAt? (text ++ [c]) = bracketAt? text := by
  cases text with
  | nil =>
    refine bracketAt?_of_ne ?_ []
    rintro rfl
    contradiction
  | cons first rest =>
    rw [List.cons_append, bracketAt?, bracketAt?]
    by_cases unclosed : rest.dropWhile isPlain = []
    · have last : (rest ++ [c]).dropWhile isPlain = [] := by
        rw [List.dropWhile_append]
        simp [unclosed, plain]
      simp [unclosed, last]
    · have shorter : (rest.takeWhile isPlain).length ≠ rest.length := by
        have whole := congrArg List.length (rest.takeWhile_append_dropWhile (p := isPlain))
        have left := List.length_pos_iff.2 unclosed
        rw [List.length_append] at whole
        omega
      have ahead : (rest ++ [c]).takeWhile isPlain = rest.takeWhile isPlain := by
        rw [List.takeWhile_append, if_neg shorter]
      have behind : ((rest ++ [c]).dropWhile isPlain).head? = (rest.dropWhile isPlain).head? := by
        rw [List.dropWhile_append, if_neg (by simpa using unclosed),
          List.head?_append_of_ne_nil _ unclosed]
      rw [ahead, behind]

theorem firstBracket?_eq_none_iff (text : List Char) :
    firstBracket? text = none ↔ Nowhere bracketAt? text :=
  scan_eq_none_iff rfl rfl (fun _ _ => rfl) text

theorem firstBracket?_append {front : List Char} (plain : '(' ∉ front) (text : List Char) :
    firstBracket? (front ++ text) = firstBracket? text := by
  induction front with
  | nil => rfl
  | cons c front ih =>
    obtain ⟨apart, plain⟩ := not_or.1 (mt List.mem_cons.2 plain)
    rw [List.cons_append, firstBracket?, bracketAt?_of_ne (Ne.symm apart), Option.none_or, ih plain]

def fragments (text : List Char) : List (List Char) := (extract text).2 :: (extract text).1

theorem fragments_of_eq_none (plain : firstBracket? text = none) : fragments text = [text] := by
  rw [fragments, extract_of_eq_none plain]

theorem mem_fragments_of_eq_some (found : firstBracket? text = some inner)
    (member : fragment ∈ fragments text) :
    fragment = inner ∨ fragment ∈ fragments (replaceAll (bracketed inner) placeholder text) := by
  rw [fragments, extract_of_eq_some found] at member
  rw [fragments]
  simp only [List.mem_cons] at member ⊢
  tauto

theorem count_fragments_le (fresh : placeholder.count c = 0)
    (member : fragment ∈ fragments text) : fragment.count c ≤ text.count c := by
  induction text using extract.induct with
  | case1 text plain =>
    rw [fragments_of_eq_none plain, List.mem_singleton] at member
    rw [member]
  | case2 text inner found _ _ _ ih =>
    rcases mem_fragments_of_eq_some found member with rfl | later
    · have inside : fragment <:+: bracketed fragment := ⟨['('], [')'], rfl⟩
      exact (inside.trans (firstBracket?_isInfix found)).sublist.count_le c
    · exact (ih later).trans (count_replaceAll_le fresh text)

theorem not_mem_fragment (fresh : c ∉ placeholder) (absent : c ∉ text)
    (member : fragment ∈ fragments text) : c ∉ fragment := by
  rw [← List.count_eq_zero] at fresh absent ⊢
  exact Nat.eq_zero_of_le_zero (absent ▸ count_fragments_le fresh member)

theorem count_inner_lt (found : firstBracket? text = some inner) :
    inner.count '(' < text.count '(' := by
  have inside := (firstBracket?_isInfix found).sublist.count_le '('
  rw [bracketed, List.cons_append, List.count_cons_self, List.count_append] at inside
  omega

/-- Every bracketed text that is taken out costs the others an opening bracket. -/
theorem count_fragments_lt (found : firstBracket? text = some inner)
    (member : fragment ∈ fragments text) : fragment.count '(' < text.count '(' := by
  have fresh : placeholder.count '(' = 0 := by decide
  rcases mem_fragments_of_eq_some found member with rfl | later
  · exact count_inner_lt found
  · have opens : 0 < (bracketed inner).count '(' := by simp [bracketed]
    exact (count_fragments_le fresh later).trans_lt
      (count_replaceAll_lt fresh opens (firstBracket?_isInfix found))

theorem exists_fragment_of_mem_leaves (member : leaf ∈ (readConditions text .empty).leaves) :
    ∃ fragment ∈ fragments text, leaf ∈ leavesOf fragment := by
  rw [readConditions_empty] at member
  rcases List.mem_append.1 member with bracketed | rest
  · cases first : (fromReadable (extract text).1).head? with
    | none => simp [first] at bracketed
    | some inner =>
      have readable : inner ∈ fromReadable (extract text).1 := List.mem_of_mem_head? first
      have taken : inner ∈ (extract text).1 := (List.dropWhile_sublist _).subset readable
      refine ⟨inner, List.mem_cons_of_mem _ taken, ?_⟩
      simpa [first] using bracketed
  · exact ⟨_, List.mem_cons_self, rest⟩

theorem stands_of_mem_leavesOf (member : leaf ∈ leavesOf text)
    (isText : leaf.value = .string (String.ofList value)) :
    ∃ part ∈ parts text, inQuotes value <:+: part ∨ Solid value ∧ value <:+: part := by
  rw [leavesOf_eq_map] at member
  obtain ⟨comparison, compared, rfl⟩ := List.mem_map.1 member
  obtain ⟨part, kept, found⟩ := List.mem_filterMap.1 compared
  obtain ⟨source, suffix, read⟩ := readIn_of_comparison? found
  refine ⟨part, (List.mem_filter.1 kept).1, ?_⟩
  rcases stands_of_literal? read isText with quoted | ⟨solid, bare⟩
  · exact .inl (quoted.trans suffix.isInfix)
  · exact .inr ⟨solid, bare.trans suffix.isInfix⟩

theorem infix_of_mem_leavesOf (member : leaf ∈ leavesOf text)
    (isText : leaf.value = .string (String.ofList value)) : value <:+: text := by
  obtain ⟨part, isPart, stands⟩ := stands_of_mem_leavesOf member isText
  have inside : value <:+: inQuotes value := ⟨['\''], ['\''], rfl⟩
  rcases stands with quoted | ⟨_, bare⟩
  · exact (inside.trans quoted).trans (infix_of_mem_parts isPart)
  · exact bare.trans (infix_of_mem_parts isPart)

end VirtualRecords.QueryText
