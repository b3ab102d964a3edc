import VirtualRecords.Calendar.Date

/-! Wall-clock times: a date and a time of day. A leap second is the second 59 with a
thousand million nanoseconds and more. The text of a time is read in one of three
forms: with strict digit counts and an offset, which is dropped; loosely with seconds;
loosely without. -/

namespace VirtualRecords

structure TimeOfDay where
  hour : Nat
  minute : Nat
  second : Nat
  nanosecond : Nat
  inDay : hour < 24 ∧ minute < 60 ∧ second < 60 ∧ nanosecond < 2000000000
deriving DecidableEq

structure DateTime where
  date : Date
  time : TimeOfDay
deriving DecidableEq

namespace TimeOfDay

/-- The time that the numbers of a text name; the second 60 is a leap second. -/
def ofNumbers? (hour minute second nanosecond : Nat) : Option TimeOfDay :=
  let (second, nanosecond) := if second = 60 then (59, nanosecond + 1000000000)
    else (second, nanosecond)
  if inDay : hour < 24 ∧ minute < 60 ∧ second < 60 ∧ nanosecond < 2000000000 then
    some { hour, minute, second, nanosecond, inDay }
  else none

/-- The decimals of a second, of which the first nine count. -/
def scanDecimals : Scan Nat := do
  let run ← Scan.allDigits
  let counted := run.take 9
  return Numeral.digitsValue counted * tenTo (9 - counted.length)

def scanFraction : Scan Nat := do
  if ← Scan.optional '.' then scanDecimals else return 0

end TimeOfDay

namespace DateTime

def ofNumbers? (year : Int) (month day hour minute second nanosecond : Nat) :
    Option DateTime := do
  let date ← Date.ofNumbers? year month day
  let time ← TimeOfDay.ofNumbers? hour minute second nanosecond
  return { date, time }

def scanOffsetSign : Scan Bool := do
  let sign ← Scan.one fun c => c == '+' || c == '-' || c == '\u2212'
  return sign != '+'

/-- An offset from universal time in seconds: a letter `z`, or a sign, hours, what
separates, and minutes. -/
def scanOffset (separator : Scan Unit) : Scan Int := fun text =>
  match text with
  | 'Z' :: rest => some (0, rest)
  | 'z' :: rest => some (0, rest)
  | text => (do
      let negative ← scanOffsetSign
      let hours ← Scan.number 2 2
      separator
      let minutes ← Scan.number 2 2
      if minutes < 60 then
        let size : Int := hours * 3600 + minutes * 60
        return if negative then -size else size
      else failure : Scan Int).run text

def isDateEnd (c : Char) : Bool := c == 'T' || c == 't' || c == ' '

def isOffset (seconds : Int) : Bool := -86400 < seconds && seconds < 86400

/-- The strict form: four digits for the year, two for each other number. -/
def scanStrict : Scan (Option DateTime) := do
  let year ← Scan.number 4 4
  Scan.char '-'
  let month ← Scan.number 2 2
  Scan.char '-'
  let day ← Scan.number 2 2
  discard (Scan.one isDateEnd)
  let hour ← Scan.number 2 2
  Scan.char ':'
  let minute ← Scan.number 2 2
  Scan.char ':'
  let second ← Scan.number 2 2
  let nanosecond ← TimeOfDay.scanFraction
  let offset ← scanOffset (Scan.char ':')
  return if isOffset offset then ofNumbers? year month day hour minute second nanosecond else none

def scanMinutes : Scan ((Int × Nat × Nat) × Nat × Nat) := do
  let date ← Date.scanNumbers
  Scan.char 'T'
  let hour ← Date.scanPair
  Scan.char ':'
  return (date, hour, ← Date.scanPair)

def scanLoose (withSeconds : Bool) : Scan (Option DateTime) := do
  let ((year, month, day), hour, minute) ← scanMinutes
  if withSeconds then
    Scan.char ':'
    let second ← Date.scanPair
    let nanosecond ← TimeOfDay.scanFraction
    return ofNumbers? year month day hour minute second nanosecond
  else return ofNumbers? year month day hour minute 0 0

def read? (scan : Scan (Option DateTime)) (text : List Char) : Option DateTime :=
  (Scan.complete? scan text).join

def ofChars? (text : List Char) : Option DateTime :=
  (read? scanStrict text).or ((read? (scanLoose true) text).or (read? (scanLoose false) text))

def ofText? (s : String) : Option DateTime := ofChars? s.toList

end DateTime
end VirtualRecords
