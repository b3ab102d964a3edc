import VirtualRecords.Text.Blank
import VirtualRecords.Number.Numeral

/-! Reading a text from the front. A scan takes some characters and leaves the rest;
it may fail. -/

namespace VirtualRecords

abbrev Scan := StateT (List Char) Option

namespace Scan

def one (test : Char → Bool) : Scan Char := fun text =>
  match text with
  | [] => none
  | c :: rest => if test c then some (c, rest) else none

def char (expected : Char) : Scan Unit := do discard (one (· == expected))

def skipBlank : Scan Unit := fun text => some ((), Text.skipBlank text)

def optional (expected : Char) : Scan Bool := fun text =>
  match text with
  | [] => some (false, [])
  | c :: rest => if c = expected then some (true, rest) else some (false, c :: rest)

/-- Takes the run of digits in front, but no more than `most`; it must have `least`. -/
def digits (least most : Nat) : Scan (List Char) := fun text =>
  let run := (text.takeWhile Char.isDigit).take most
  if least ≤ run.length then some (run, text.drop run.length) else none

def allDigits : Scan (List Char) := fun text =>
  let run := text.takeWhile Char.isDigit
  if run.isEmpty then none else some (run, text.dropWhile Char.isDigit)

def number (least most : Nat) : Scan Nat := do return Numeral.digitsValue (← digits least most)

def complete? {α : Type} (scan : Scan α) (text : List Char) : Option α :=
  match scan.run text with
  | some (value, []) => some value
  | _ => none

end Scan
end VirtualRecords
