import VirtualRecords.Pattern.Mode
import VirtualRecords.Text.Hex

/-! Escapes in patterns: what may stand behind a backslash. No closing brace occurs in the
pattern of a filter, so that escapes with braces are never complete. -/

namespace VirtualRecords.Pattern

inductive Escape where
  | literal (c : Char)
  | charClass
  | place
deriving DecidableEq

def code? (mode : Mode) : (digits value : Nat) → List Char → Option (Nat × List Char)
  | 0, value, text => some (value, text)
  | digits + 1, value, text =>
    match mode.skip text with
    | [] => none
    | c :: rest => do code? mode digits (16 * value + (← Text.hexValue? c)) rest

/-- A character by its number. Two digits number a byte, which a narrow pattern takes for a
character only in ASCII. -/
def numbered? (mode : Mode) (digits : Nat) (text : List Char) : Option (Escape × List Char) := do
  let (code, rest) ← code? mode digits 0 text
  if code.isValidChar ∧ (mode.wide ∨ digits ≠ 2 ∨ code < 128) then
    some (.literal (Char.ofNat code), rest)
  else none

def categoryLetters : List Char := ['c', 'l', 'm', 'n', 'p', 's', 'z']

def category? (mode : Mode) (text : List Char) : Option (Escape × List Char) :=
  match mode.skip text with
  | [] => none
  | c :: rest =>
    if mode.wide ∧ categoryLetters.contains c.toLower then some (.charClass, rest) else none

/-- The punctuation and controls of ASCII stand for themselves behind a backslash. -/
def isPlainEscape (c : Char) : Bool := c.toNat < 128 && !c.isAlphanum

/-- Reads on behind a backslash. The complement of a class is not narrow, and places that
depend on words are known in narrow patterns only. -/
def escape? (mode : Mode) : List Char → Option (Escape × List Char)
  | [] => none
  | c :: rest =>
    match c with
    | 'x' => numbered? mode 2 rest
    | 'u' => numbered? mode 4 rest
    | 'U' => numbered? mode 8 rest
    | 'p' | 'P' => category? mode rest
    | 'd' | 's' | 'w' => some (.charClass, rest)
    | 'D' | 'S' | 'W' => if mode.wide then some (.charClass, rest) else none
    | 'A' | 'z' => some (.place, rest)
    | 'b' | 'B' | '<' | '>' => if mode.wide then none else some (.place, rest)
    | 'a' => some (.literal '\x07', rest)
    | 'f' => some (.literal '\x0c', rest)
    | 'n' => some (.literal '\n', rest)
    | 'r' => some (.literal '\r', rest)
    | 't' => some (.literal '\t', rest)
    | 'v' => some (.literal '\x0b', rest)
    | _ => if isPlainEscape c then some (.literal c, rest) else none

end VirtualRecords.Pattern
