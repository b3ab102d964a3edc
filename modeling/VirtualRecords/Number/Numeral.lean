import VirtualRecords.Text.Blank
import VirtualRecords.Number.Basic

/-! Decimal numerals as they are written, and the numbers they stand for.

Plain text is read with one rounding. A literal of a JSON document with a point,
an exponent or too many digits is read with two: as many of its digits as a
64-bit word can hold make up a whole number, which is rounded, and the product or
quotient with a power of ten is rounded again. -/

namespace VirtualRecords

structure Numeral where
  sign : Option Char
  whole : List Char
  fraction : Option (List Char)
  exponent : Option Int
deriving DecidableEq

namespace Numeral

def digitValue (c : Char) : Nat := c.toNat - '0'.toNat

def digitsValue (digits : List Char) : Nat :=
  digits.foldl (fun n c => 10 * n + digitValue c) 0

def allDigits (text : List Char) : Bool := text.all Char.isDigit

def splitSign : List Char → Option Char × List Char
  | [] => (none, [])
  | c :: rest => if c = '+' ∨ c = '-' then (some c, rest) else (none, c :: rest)

def exponentOf? : List Char → Option (Option Int)
  | [] => some none
  | mark :: rest =>
    let (sign, digits) := splitSign rest
    if (mark = 'e' ∨ mark = 'E') ∧ digits ≠ [] ∧ allDigits digits then
      let size : Int := digitsValue digits
      some (some (if sign = some '-' then -size else size))
    else none

def ofText? (text : List Char) : Option Numeral :=
  let (sign, body) := splitSign text
  let whole := body.takeWhile Char.isDigit
  match body.dropWhile Char.isDigit with
  | '.' :: rest =>
    (exponentOf? (rest.dropWhile Char.isDigit)).map fun exponent =>
      { sign, whole, fraction := some (rest.takeWhile Char.isDigit), exponent }
  | rest => (exponentOf? rest).map fun exponent => { sign, whole, fraction := none, exponent }

def isNegative (n : Numeral) : Bool := n.sign == some '-'

def places (n : Numeral) : List Char := n.fraction.getD []

def hasDigits (n : Numeral) : Bool := !(n.whole.isEmpty && n.places.isEmpty)

def isWhole (n : Numeral) : Bool := n.fraction.isNone && n.exponent.isNone

def wholeValue (n : Numeral) : Int :=
  if n.isNegative then -digitsValue n.whole else digitsValue n.whole

/-- The form JSON allows: no plus sign, no needless zero in front, a digit on each
side of a point. -/
def isJson (n : Numeral) : Bool :=
  n.sign != some '+' && !n.whole.isEmpty && (n.whole.length == 1 || n.whole.head? != some '0') &&
    n.fraction != some []

/-- The nearest binary64 number to `digits * 10 ^ exponent`, rounded once. Exponents
far outside the format are answered without computing the power. -/
def nearest? (negative : Bool) (digits : Nat) (exponent : Int) : Option Binary64 :=
  let size := (Nat.toDigits 10 digits).length + exponent
  if digits = 0 ∨ size < -330 then some (Binary64.zero negative)
  else if size > 310 then none
  else Binary64.ofRatio? negative (digits * tenTo exponent.toNat) (tenTo (-exponent).toNat)

def value? (n : Numeral) : Option Binary64 :=
  nearest? n.isNegative (digitsValue (n.whole ++ n.places))
    (n.exponent.getD 0 - n.places.length)

/-- Reads on from `value` for as long as a 64-bit word can hold it; also the rest. -/
def fitWord (value : Nat) : List Char → Nat × List Char
  | [] => (value, [])
  | c :: rest =>
    if 10 * value + digitValue c < 18446744073709551616 then fitWord (10 * value + digitValue c) rest
    else (value, c :: rest)

def greatestPower : Nat := 308

def powerOfTen? (exponent : Nat) : Option Binary64 := Binary64.ofRatio? false (tenTo exponent) 1

def scaleDown? (x : Binary64) (exponent : Nat) : Option Binary64 :=
  if exponent ≤ greatestPower then do x.div? (← powerOfTen? exponent)
  else if x.magnitude = 0 then some x
  else do scaleDown? (← x.div? (← powerOfTen? greatestPower)) (exponent - greatestPower)
termination_by exponent
decreasing_by unfold greatestPower at *; omega

def scaleUp? (x : Binary64) (exponent : Nat) : Option Binary64 :=
  if exponent ≤ greatestPower then do x.mul? (← powerOfTen? exponent)
  else if x.magnitude = 0 then some x
  else none

/-- The finite value of a literal, rounded twice. -/
def literalValue? (n : Numeral) : Option Binary64 := do
  let (front, dropped) := fitWord 0 n.whole
  let (digits, unread) := fitWord front n.places
  let read := n.places.length - unread.length
  let exponent : Int := dropped.length - read + n.exponent.getD 0
  let start ← Binary64.ofRatio? n.isNegative digits 1
  if 0 ≤ exponent then scaleUp? start exponent.toNat else scaleDown? start (-exponent).toNat

/-- The number of a JSON literal; none if it lies past the format. The literal `-0` is
the negative zero. -/
def number? (n : Numeral) : Option Number :=
  if n.isWhole ∧ (!n.isNegative ∨ -9223372036854775808 ≤ n.wholeValue ∧ n.wholeValue < 0) then
    match Integer.ofInt? n.wholeValue with
    | some i => some (.integer i)
    | none => n.literalValue?.map .real
  else n.literalValue?.map .real

end Numeral

def signedOfText? (text : List Char) : Option Integer := do
  let n ← Numeral.ofText? text
  if n.isWhole ∧ n.hasDigits then
    (Integer.ofInt? n.wholeValue).filter Integer.isSigned
  else none

/-- The number that a text spells, white space around it aside: an integer if a signed
64-bit word holds it, else a finite real number. -/
def numberOfText? (text : List Char) : Option Number :=
  let body := Text.trim text
  match signedOfText? body with
  | some i => some (.integer i)
  | none => do
    let n ← Numeral.ofText? body
    if n.hasDigits then n.value?.map .real else none

def integerOfText? (text : List Char) : Option Integer := signedOfText? (Text.trim text)

/-- The unsigned 64-bit word that digits spell, behind a plus sign or not. -/
def wordOfText? (text : List Char) : Option UInt64 :=
  let (sign, digits) := Numeral.splitSign text
  if sign ≠ some '-' ∧ digits ≠ [] ∧ Numeral.allDigits digits ∧
      Numeral.digitsValue digits < 18446744073709551616 then
    some (UInt64.ofNat (Numeral.digitsValue digits))
  else none

end VirtualRecords
