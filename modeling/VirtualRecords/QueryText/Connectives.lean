import VirtualRecords.Condition.Operator
import VirtualRecords.QueryText.Blanks

/-! Connectives between comparisons: the words `AND` and `OR` with white space on both
sides. They cut a text into parts; white space belongs to the connective beside it. -/

namespace VirtualRecords.QueryText

open Text

def connectiveAt? (text : List Char) : Option (Connective × List Char) := do
  let word ← afterBlanks? text
  match afterKeyword? andWord word with
  | some after => return (.all, ← afterBlanks? after)
  | none => return (.any, ← afterBlanks? (← afterKeyword? orWord word))

theorem connectiveAt?_length {text rest : List Char} {c : Connective}
    (h : connectiveAt? text = some (c, rest)) : rest.length < text.length := by
  simp only [connectiveAt?, Option.bind_eq_bind, Option.bind_eq_some_iff] at h
  obtain ⟨word, first, h⟩ := h
  have := afterBlanks?_length first
  split at h
  · next after second =>
    simp only [Option.pure_def, Option.bind_eq_some_iff, Option.some.injEq, Prod.mk.injEq] at h
    obtain ⟨_, third, _, rfl⟩ := h
    have := afterBlanks?_length third
    have := afterKeyword?_length second
    omega
  · simp only [Option.pure_def, Option.bind_eq_some_iff, Option.some.injEq, Prod.mk.injEq] at h
    obtain ⟨after, second, _, third, _, rfl⟩ := h
    have := afterBlanks?_length third
    have := afterKeyword?_length second
    omega

/-- The part before the first connective, then each connective with the part behind it. -/
def cut (text : List Char) : List Char × List (Connective × List Char) :=
  match text with
  | [] => ([], [])
  | c :: rest =>
    match _found : connectiveAt? (c :: rest) with
    | some (connective, after) =>
      let (first, more) := cut after
      ([], (connective, first) :: more)
    | none =>
      let (first, more) := cut rest
      (c :: first, more)
termination_by text.length
decreasing_by
  · exact connectiveAt?_length _found
  · exact Nat.lt_succ_self _

def parts (text : List Char) : List (List Char) :=
  let (first, more) := cut text
  first :: more.map Prod.snd

def connectiveOf (text : List Char) : Connective :=
  let used := (cut text).2.map Prod.fst
  if used ≠ [] ∧ used.all (· = .any) then .any else .all

end VirtualRecords.QueryText
