import VirtualRecords.Calendar.DateTime
import VirtualRecords.Json.Basic
import VirtualRecords.Text.Letter

/-! Points of universal time, to the nanosecond, counted from the start of 1970. Days
have 86400 seconds; a leap second belongs to the second before it, whose nanoseconds
then pass a thousand million. Instants are read loosely, with white space between the
parts and any offset, and written with a `Z` and no, three, six or nine decimals. -/

namespace VirtualRecords

structure Instant where
  second : Int
  nanosecond : Nat
deriving DecidableEq

namespace Instant

def order (a b : Instant) : Ordering :=
  (compare a.second b.second).then (compare a.nanosecond b.nanosecond)

instance : Ord Instant := ⟨order⟩

def ofDateTime (t : DateTime) (offset : Int) : Instant where
  second := t.date.dayNumber * 86400 + t.time.hour * 3600 + t.time.minute * 60 + t.time.second -
    offset
  nanosecond := t.time.nanosecond

def date? (t : Instant) : Option Date := Date.ofDayNumber? (t.second / 86400)

def addMilliseconds (t : Instant) (n : Nat) : Instant where
  second := t.second + (t.nanosecond / 1000000 + n) / 1000
  nanosecond := (t.nanosecond / 1000000 + n) % 1000 * 1000000 + t.nanosecond % 1000000

def zeroPadded (width n : Nat) : List Char :=
  let digits := Nat.toDigits 10 n
  List.replicate (width - digits.length) '0' ++ digits

/-- A year of four digits; one outside 0 to 9999 has a sign. -/
def yearText (year : Int) : List Char :=
  if year < 0 then '-' :: zeroPadded 4 year.natAbs
  else if 9999 < year then '+' :: zeroPadded 4 year.natAbs
  else zeroPadded 4 year.natAbs

def decimalsText (nanosecond : Nat) : List Char :=
  if nanosecond = 0 then []
  else if nanosecond % 1000000 = 0 then '.' :: zeroPadded 3 (nanosecond / 1000000)
  else if nanosecond % 1000 = 0 then '.' :: zeroPadded 6 (nanosecond / 1000)
  else '.' :: zeroPadded 9 nanosecond

def dateText (t : Instant) : List Char :=
  match t.date? with
  | some d => yearText d.year ++ '-' :: zeroPadded 2 d.month ++ '-' :: zeroPadded 2 d.day
  | none => []

def text (t : Instant) : String :=
  let inDay := (t.second % 86400).toNat
  let second := inDay % 60 + t.nanosecond / 1000000000
  String.ofList (t.dateText ++ 'T' :: zeroPadded 2 (inDay / 3600) ++ ':' ::
    zeroPadded 2 (inDay / 60 % 60) ++ ':' :: zeroPadded 2 second ++
    decimalsText (t.nanosecond % 1000000000) ++ ['Z'])

def scanMark (mark : Char) : Scan Unit := do
  Scan.skipBlank
  Scan.char mark

def skipColons : Scan Unit := fun text =>
  some ((), text.dropWhile fun c => c == ':' || Text.isBlank c)

def scanZone : Scan Int := fun text =>
  if Text.sameAsciiLetters (text.take 3) ['u', 't', 'c'] then some (0, text.drop 3)
  else (DateTime.scanOffset skipColons).run text

def scan : Scan (Option Instant) := do
  let year ← Date.scanYear
  scanMark '-'
  let month ← Date.scanPair
  scanMark '-'
  let day ← Date.scanPair
  discard (Scan.one DateTime.isDateEnd)
  let hour ← Date.scanPair
  scanMark ':'
  let minute ← Date.scanPair
  scanMark ':'
  let second ← Date.scanPair
  let nanosecond ← TimeOfDay.scanFraction
  Scan.skipBlank
  let offset ← scanZone
  Scan.skipBlank
  return (DateTime.ofNumbers? year month day hour minute second nanosecond).bind fun t =>
    let made := ofDateTime t offset
    if DateTime.isOffset offset && made.date?.isSome then some made else none

def ofText? (s : String) : Option Instant := (Scan.complete? scan s.toList).join

def ofJson? : Json → Option Instant
  | .string s => ofText? s
  | _ => none

def toJson (t : Instant) : Json := .string t.text

end Instant
end VirtualRecords
