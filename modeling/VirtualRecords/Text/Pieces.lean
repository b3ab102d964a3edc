/-! Cutting texts at a separator, joining them with one, and replacing a part
wherever it occurs. -/

namespace VirtualRecords.Text

/-- The pieces between the separators: one more than there are separators. -/
def pieces (separator : Char) : List Char → List (List Char)
  | [] => [[]]
  | c :: rest =>
    match pieces separator rest with
    | [] => [[c]]
    | piece :: more => if c = separator then [] :: piece :: more else (c :: piece) :: more

def join (separator : String) : List String → String
  | [] => ""
  | [s] => s
  | s :: t :: rest => s ++ separator ++ join separator (t :: rest)

def within? (opening closing : Char) : List Char → Option (List Char)
  | [] => none
  | c :: rest =>
    if c = opening ∧ rest.getLast? = some closing then some rest.dropLast else none

theorem within?_eq_some_iff {opening closing : Char} {text inner : List Char} :
    within? opening closing text = some inner ↔ text = opening :: (inner ++ [closing]) := by
  cases text with
  | nil => simp [within?]
  | cons c rest =>
    rw [within?, Option.ite_none_right_eq_some, List.getLast?_eq_some_iff, Option.some_inj,
      List.cons.injEq]
    constructor
    · rintro ⟨⟨rfl, front, rfl⟩, same⟩
      rw [List.dropLast_concat] at same
      rw [same]
      exact ⟨rfl, rfl⟩
    · rintro ⟨rfl, rfl⟩
      exact ⟨⟨rfl, inner, rfl⟩, List.dropLast_concat⟩

def after? : (part text : List Char) → Option (List Char)
  | [], text => some text
  | _ :: _, [] => none
  | p :: part, c :: text => if p = c then after? part text else none

theorem after?_eq_some_iff {part text rest : List Char} :
    after? part text = some rest ↔ text = part ++ rest := by
  induction part generalizing text with
  | nil => simp [after?]
  | cons p part ih =>
    cases text with
    | nil => simp [after?]
    | cons c text =>
      simp only [after?, List.cons_append, List.cons.injEq]
      split
      · next same => simp [ih, same]
      · next other => simp [Ne.symm other]

/-- Every occurrence of `part`, found from the left without overlap, gives way to `other`. -/
def replaceAll (part other : List Char) (text : List Char) : List Char :=
  match text with
  | [] => []
  | c :: rest =>
    match after? part (c :: rest) with
    | some after =>
      if _shorter : after.length < (c :: rest).length then other ++ replaceAll part other after
      else c :: replaceAll part other rest
    | none => c :: replaceAll part other rest
termination_by text.length
decreasing_by
  · exact _shorter
  · exact Nat.lt_succ_self _
  · exact Nat.lt_succ_self _

theorem pieces_ne_nil (separator : Char) (text : List Char) : pieces separator text ≠ [] := by
  cases text with
  | nil => simp [pieces]
  | cons c rest =>
    unfold pieces
    split
    · simp
    · split <;> simp

theorem pieces_of_not_mem {separator : Char} {text : List Char} (absent : separator ∉ text) :
    pieces separator text = [text] := by
  induction text with
  | nil => rfl
  | cons c rest ih =>
    obtain ⟨apart, later⟩ := not_or.1 (mt List.mem_cons.2 absent)
    rw [pieces, ih later]
    simp [Ne.symm apart]

theorem pieces_append_cons {separator : Char} {front : List Char} (absent : separator ∉ front)
    (rest : List Char) :
    pieces separator (front ++ separator :: rest) = front :: pieces separator rest := by
  induction front with
  | nil =>
    obtain ⟨piece, more, split⟩ := List.exists_cons_of_ne_nil (pieces_ne_nil separator rest)
    rw [List.nil_append, pieces, split]
    exact if_pos rfl
  | cons c front ih =>
    obtain ⟨apart, later⟩ := not_or.1 (mt List.mem_cons.2 absent)
    rw [List.cons_append, pieces, ih later]
    exact if_neg (Ne.symm apart)

theorem pieces_append_flatMap {separator : Char} {front : List Char} {more : List (List Char)}
    (absent : ∀ piece ∈ front :: more, separator ∉ piece) :
    pieces separator (front ++ more.flatMap (separator :: ·)) = front :: more := by
  induction more generalizing front with
  | nil =>
    rw [List.flatMap_nil, List.append_nil]
    exact pieces_of_not_mem (absent front List.mem_cons_self)
  | cons next more ih =>
    obtain ⟨here, later⟩ := List.forall_mem_cons.1 absent
    rw [List.flatMap_cons, List.cons_append, pieces_append_cons here, ih later]

@[simp] theorem join_singleton (separator s : String) : join separator [s] = s := rfl

theorem toList_join_cons (separator s : String) (rest : List String) :
    (join separator (s :: rest)).toList =
      s.toList ++ rest.flatMap fun t => separator.toList ++ t.toList := by
  induction rest generalizing s with
  | nil => simp
  | cons t rest ih =>
    rw [join, String.toList_append, String.toList_append, ih, List.flatMap_cons,
      List.append_assoc, List.append_assoc]

theorem join_pieces (separator : Char) (text : List Char) :
    join (String.ofList [separator]) ((pieces separator text).map String.ofList) =
      String.ofList text := by
  induction text with
  | nil => rfl
  | cons c rest ih =>
    obtain ⟨piece, more, split⟩ := List.exists_cons_of_ne_nil (pieces_ne_nil separator rest)
    rw [split, List.map_cons] at ih
    have whole := congrArg String.toList ih
    rw [pieces, split, String.ext_iff]
    dsimp only
    split
    · next same =>
      rw [List.map_cons, List.map_cons, join, String.toList_append, whole]
      simp [same]
    · cases more with
      | nil => simpa using whole
      | cons next more => simpa [join] using whole

end VirtualRecords.Text
