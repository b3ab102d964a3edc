import VirtualRecords.Text.Scan

/-! Dates of the Gregorian calendar, carried on before its introduction, in the years
-262143 to 262142; and the text of a date, year, month and day with hyphens between
them. White space may stand before each number, month and day may have one digit, and
only a year with a sign may have more than four. -/

namespace VirtualRecords

def isLeapYear (year : Int) : Bool :=
  year % 4 == 0 && (year % 100 != 0 || year % 400 == 0)

def daysInMonth (year : Int) (month : Nat) : Nat :=
  match month with
  | 2 => if isLeapYear year then 29 else 28
  | 4 | 6 | 9 | 11 => 30
  | _ => 31

structure Date where
  year : Int
  month : Nat
  day : Nat
  inYears : -262143 ≤ year ∧ year ≤ 262142
  inYear : 1 ≤ month ∧ month ≤ 12
  inMonth : 1 ≤ day ∧ day ≤ daysInMonth year month
deriving DecidableEq

namespace Date

def ofNumbers? (year : Int) (month day : Nat) : Option Date :=
  if h : (-262143 ≤ year ∧ year ≤ 262142) ∧ (1 ≤ month ∧ month ≤ 12) ∧
      1 ≤ day ∧ day ≤ daysInMonth year month then
    some { year, month, day, inYears := h.1, inYear := h.2.1, inMonth := h.2.2 }
  else none

def order (a b : Date) : Ordering :=
  (compare a.year b.year).then ((compare a.month b.month).then (compare a.day b.day))

instance : Ord Date := ⟨order⟩

/-- A year: with a sign, any number of digits after it; without, at most four. -/
def scanYear : Scan Int := do
  Scan.skipBlank
  if ← Scan.optional '-' then return -Numeral.digitsValue (← Scan.allDigits)
  else if ← Scan.optional '+' then return Numeral.digitsValue (← Scan.allDigits)
  else return ← Scan.number 1 4

def scanPair : Scan Nat := do
  Scan.skipBlank
  Scan.number 1 2

def scanNumbers : Scan (Int × Nat × Nat) := do
  let year ← scanYear
  Scan.char '-'
  let month ← scanPair
  Scan.char '-'
  return (year, month, ← scanPair)

def ofChars? (text : List Char) : Option Date := do
  let (year, month, day) ← Scan.complete? scanNumbers text
  ofNumbers? year month day

def ofText? (s : String) : Option Date := ofChars? s.toList

/-- Days since the first of January 1970. Years are counted from March here, so that a
leap day ends its year. -/
def dayNumber (d : Date) : Int :=
  let year := if d.month ≤ 2 then d.year - 1 else d.year
  let month : Int := if d.month ≤ 2 then d.month + 9 else d.month - 3
  365 * year + year / 4 - year / 100 + year / 400 + (153 * month + 2) / 5 + d.day - 719469

def ofDayNumber? (n : Int) : Option Date :=
  let shifted := n + 719468
  let cycle := shifted / 146097
  let dayOfCycle := shifted % 146097
  let yearOfCycle :=
    (dayOfCycle - dayOfCycle / 1460 + dayOfCycle / 36524 - dayOfCycle / 146096) / 365
  let dayOfYear := dayOfCycle - (365 * yearOfCycle + yearOfCycle / 4 - yearOfCycle / 100)
  let month := (5 * dayOfYear + 2) / 153
  let day := dayOfYear - (153 * month + 2) / 5 + 1
  let year := yearOfCycle + 400 * cycle
  if month < 10 then ofNumbers? year (month + 3).toNat day.toNat
  else ofNumbers? (year + 1) (month - 9).toNat day.toNat

end Date
end VirtualRecords
