import VirtualRecords.Json.Printer
import VirtualRecords.Number.Numeral
import VirtualRecords.Schema.Conformance

/-! Comparing the value of a field with the value that a query names. Numbers are compared
as binary64 numbers, and text is read as a number where the other side is one. Text
equals a boolean if it spells it. Values of unrelated types differ and have no order. -/

namespace VirtualRecords.Json

def numeric? : Json → Option Binary64
  | number n => some n.toBinary64
  | string s => (numberOfText? s.toList).map Number.toBinary64
  | _ => none

def order? (a b : Json) : Option Ordering :=
  match a, b with
  | number _, _ | _, number _ => do return compare (← a.numeric?) (← b.numeric?)
  | string s, string t => some (compare s t)
  | bool x, bool y => some (compare x y)
  | _, _ => none

def equals (a b : Json) : Bool :=
  match a, b with
  | number _, number _ | number _, string _ | string _, number _ => order? a b == some .eq
  | bool x, string s | string s, bool x => Text.boolean? s == some x
  | _, _ => a.same b

def scalarText? : Json → Option String
  | string s => some s
  | number n => some n.text
  | bool b => some (boolText b)
  | _ => none

end VirtualRecords.Json
