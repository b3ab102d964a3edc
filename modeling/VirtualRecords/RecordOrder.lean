import VirtualRecords.Condition.Operator
import VirtualRecords.Criteria.Path
import VirtualRecords.Record

/-! Orders of records. Without a request records stand in the order of creation, and those
made at one time in the order of their identifiers. An order by a field puts a missing
value first, then null, booleans, numbers, texts, lists and objects; lists among
themselves are equal, and so are objects. Equal records keep the order they had. -/

namespace VirtualRecords

namespace Record

def creationOrder (a b : Record) : Ordering :=
  (compare a.created b.created).then (compare a.id b.id)

def sortByCreation (records : List Record) : List Record :=
  records.mergeSort fun a b => (creationOrder a b).isLE

end Record

namespace Json

def typeRank : Json → Nat
  | null => 0
  | bool _ => 1
  | number _ => 2
  | string _ => 3
  | array _ => 4
  | object _ => 5

def sortOrder (a b : Json) : Ordering :=
  match a, b with
  | bool x, bool y => compare x y
  | number m, number n => m.order n
  | string s, string t => compare s t
  | _, _ => compare a.typeRank b.typeRank

/-- A value that is missing stands before every other. -/
def optionOrder : Option Json → Option Json → Ordering
  | none, none => .eq
  | none, some _ => .lt
  | some _, none => .gt
  | some a, some b => sortOrder a b

end Json

structure FieldOrder where
  path : FieldPath
  direction : Direction
deriving DecidableEq

namespace FieldOrder

def order (spec : FieldOrder) (a b : Record) : Ordering :=
  let ascending := Json.optionOrder (spec.path.find? a.payload) (spec.path.find? b.payload)
  match spec.direction with
  | .ascending => ascending
  | .descending => ascending.swap

def sort (spec : FieldOrder) (records : List Record) : List Record :=
  records.mergeSort fun a b => (spec.order a b).isLE

end FieldOrder
end VirtualRecords
