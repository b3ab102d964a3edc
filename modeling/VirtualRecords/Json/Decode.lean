import VirtualRecords.Json.Basic

/-! Reading typed structures out of JSON values. A member is required, or has a default
that stands in when it is missing, or is optional, when it may also be null. Members
that a structure does not name are passed over. A list of the members' values in order is
not read as a structure. -/

namespace VirtualRecords.Json

def toBool? : Json → Option Bool
  | bool b => some b
  | _ => none

def toUInt64? : Json → Option UInt64
  | number (.integer n) => n.toUInt64?
  | _ => none

def toInt32? : Json → Option Int32
  | number (.integer n) =>
    if -2147483648 ≤ n.val ∧ n.val < 2147483648 then some (Int32.ofInt n.val) else none
  | _ => none

def ofInt32 (n : Int32) : Json :=
  number (.integer {
    val := n.toInt
    lower := by have := n.le_toInt; omega
    upper := by have := n.toInt_lt; omega })

/-- The name by which a value makes a choice among things that have names: a string, or the
only member of an object, which then holds null. -/
def choice? : Json → Option String
  | string name => some name
  | object [(name, null)] => some name
  | _ => none

def listOf? {α : Type} (item : Json → Option α) : Json → Option (List α)
  | array items => items.mapM item
  | _ => none

namespace Members

variable {α : Type}

def required? (members : Members) (name : String) (read : Json → Option α) : Option α :=
  (members.get? name).bind read

def default? (members : Members) (name : String) (default : α) (read : Json → Option α) :
    Option α :=
  match members.get? name with
  | none => some default
  | some value => read value

def optional? (members : Members) (name : String) (read : Json → Option α) :
    Option (Option α) :=
  match members.get? name with
  | none | some .null => some none
  | some value => (read value).map some

def present (members : List (String × Option Json)) : List (String × Json) :=
  members.filterMap fun (name, value) => value.map (name, ·)

end Members

theorem toInt32?_ofInt32 (n : Int32) : toInt32? (ofInt32 n) = some n := by
  have := n.le_toInt
  have := n.toInt_lt
  simp only [toInt32?, ofInt32]
  rw [if_pos (by omega)]
  simp

@[simp] theorem toUInt64?_ofUInt64 (n : UInt64) : toUInt64? (ofUInt64 n) = some n := by
  simp [toUInt64?, ofUInt64]

end VirtualRecords.Json
