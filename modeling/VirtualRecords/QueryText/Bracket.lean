import VirtualRecords.Text.Pieces

/-! Bracketed parts of the conditions. Brackets around text without brackets are taken out
from the left, one text at a time: a placeholder takes the place of every occurrence of
that bracketed text. This goes on until no such brackets are left; each round uses up
an opening bracket. -/

namespace VirtualRecords.QueryText

open Text

def isPlain (c : Char) : Bool := c != '(' && c != ')'

def bracketed (inner : List Char) : List Char := '(' :: inner ++ [')']

def placeholder : List Char := "__group__".toList

/-- The text in the brackets that stand first, if it is plain and not empty. -/
def bracketAt? : List Char → Option (List Char)
  | [] => none
  | c :: rest =>
    if c = '(' ∧ rest.takeWhile isPlain ≠ [] ∧ (rest.dropWhile isPlain).head? = some ')' then
      some (rest.takeWhile isPlain)
    else none

def firstBracket? : List Char → Option (List Char)
  | [] => none
  | c :: rest => (bracketAt? (c :: rest)).or (firstBracket? rest)

theorem bracketAt?_eq_append {text inner : List Char} (h : bracketAt? text = some inner) :
    ∃ after, text = bracketed inner ++ after := by
  cases text with
  | nil => simp [bracketAt?] at h
  | cons c rest =>
    simp only [bracketAt?] at h
    split at h
    · next found =>
      obtain ⟨rfl, _, closing⟩ := found
      cases h
      cases split : rest.dropWhile isPlain with
      | nil => simp [split] at closing
      | cons d after =>
        simp only [split, List.head?_cons, Option.some.injEq] at closing
        refine ⟨after, ?_⟩
        have whole := List.takeWhile_append_dropWhile (p := isPlain) (l := rest)
        rw [split, closing] at whole
        simp only [bracketed, List.cons_append, List.append_assoc, List.nil_append]
        exact congrArg _ whole.symm
    · simp at h

theorem firstBracket?_isInfix {text inner : List Char} (h : firstBracket? text = some inner) :
    bracketed inner <:+: text := by
  induction text with
  | nil => simp [firstBracket?] at h
  | cons c rest ih =>
    simp only [firstBracket?, Option.or_eq_some_iff] at h
    rcases h with here | ⟨_, later⟩
    · obtain ⟨after, whole⟩ := bracketAt?_eq_append here
      exact ⟨[], after, by simp [whole]⟩
    · exact (ih later).trans (List.suffix_cons c rest).isInfix

theorem count_replaceAll_le {part other : List Char} {x : Char} (h : other.count x = 0)
    (text : List Char) : (replaceAll part other text).count x ≤ text.count x := by
  fun_induction replaceAll part other text with
  | case1 => simp
  | case2 c rest after found shorter ih =>
    rw [after?_eq_some_iff.1 found, List.count_append, List.count_append]
    omega
  | case3 c rest after found shorter ih => simp only [List.count_cons]; omega
  | case4 c rest found ih => simp only [List.count_cons]; omega

theorem count_replaceAll_lt {part other : List Char} {x : Char} (h : other.count x = 0)
    (once : 0 < part.count x) {text : List Char} (inside : part <:+: text) :
    (replaceAll part other text).count x < text.count x := by
  fun_induction replaceAll part other text with
  | case1 =>
    have := List.eq_nil_of_infix_nil inside
    simp [this] at once
  | case2 c rest after found shorter ih =>
    have : (replaceAll part other after).count x ≤ after.count x := count_replaceAll_le h after
    rw [after?_eq_some_iff.1 found, List.count_append, List.count_append]
    omega
  | case3 c rest after found shorter ih =>
    have whole := congrArg List.length (after?_eq_some_iff.1 found)
    have : 0 < part.length := List.length_pos_iff.2 (by rintro rfl; simp at once)
    simp only [List.length_append] at whole
    omega
  | case4 c rest found ih =>
    have later : part <:+: rest := by
      rcases List.infix_cons_iff.1 inside with ahead | later
      · obtain ⟨after, whole⟩ := ahead
        rw [after?_eq_some_iff.2 whole.symm] at found
        simp at found
      · exact later
    have := ih later
    simp only [List.count_cons]
    omega

/-- The plain texts in brackets in the order in which they are taken out, and what is left. -/
def extract (text : List Char) : List (List Char) × List Char :=
  match _found : firstBracket? text with
  | none => ([], text)
  | some inner =>
    let (later, left) := extract (replaceAll (bracketed inner) placeholder text)
    (inner :: later, left)
termination_by text.count '('
decreasing_by
  exact count_replaceAll_lt (by decide) (by simp [bracketed]) (firstBracket?_isInfix _found)

end VirtualRecords.QueryText
