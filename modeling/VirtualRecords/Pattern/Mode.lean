import VirtualRecords.Text.Blank

/-! Patterns, the regular expressions that a filter may give for a value. They are read
here only to see whether they are well formed and do not nest too deep. How a pattern is
read depends on two settings, which it may change for parts of itself. -/

namespace VirtualRecords.Pattern

/-- In a spaced pattern blanks and comments between the parts mean nothing. A wide pattern
is about the characters of Unicode, a narrow one about those of ASCII. -/
structure Mode where
  spaced : Bool
  wide : Bool
deriving DecidableEq

namespace Mode

def standard : Mode := ⟨false, true⟩

def afterSpace : (inComment : Bool) → List Char → List Char
  | _, [] => []
  | true, c :: rest => afterSpace (c != '\n') rest
  | false, c :: rest =>
    if c = '#' then afterSpace true rest
    else if Text.isBlank c then afterSpace false rest
    else c :: rest

def skip (mode : Mode) (text : List Char) : List Char :=
  if mode.spaced then afterSpace false text else text

/-- The character that is taken to stand next when only one is looked at: in a spaced
pattern the first that is no blank, a single number sign left out, if there is one. -/
def next? (mode : Mode) (text : List Char) : Option Char :=
  if mode.spaced then
    match Text.skipBlank text with
    | '#' :: rest => (Text.skipBlank rest).head?.or text.head?
    | rest => rest.head?.or text.head?
  else text.head?

theorem afterSpace_length_le (inComment : Bool) (text : List Char) :
    (afterSpace inComment text).length ≤ text.length := by
  induction text generalizing inComment with
  | nil => cases inComment <;> simp [afterSpace]
  | cons c rest ih =>
    cases inComment with
    | true => exact Nat.le_succ_of_le (ih _)
    | false =>
      simp only [afterSpace]
      split
      · exact Nat.le_succ_of_le (ih _)
      · split
        · exact Nat.le_succ_of_le (ih _)
        · exact Nat.le_refl _

theorem skip_length_le (mode : Mode) (text : List Char) :
    (mode.skip text).length ≤ text.length := by
  unfold skip
  split
  · exact afterSpace_length_le false text
  · exact Nat.le_refl _

end Mode

/-- How deep the parts of a row nest together. A row of several parts is a level of its own. -/
def rowDepth : List Nat → Nat
  | [] => 0
  | [depth] => depth
  | depths => depths.foldl max 0 + 1

end VirtualRecords.Pattern
