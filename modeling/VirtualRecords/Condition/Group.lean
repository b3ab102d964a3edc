import VirtualRecords.Condition.Operator
import VirtualRecords.Json.Decode

/-! Conditions: leaves that compare a field with a literal, and groups that join leaves and
further groups by one connective. The operator of a leaf is kept as it was named, so
that an unknown one is reported where the condition is used. -/

namespace VirtualRecords

structure Leaf where
  field : String
  operatorName : String
  value : Json

structure Group where
  connective : Connective
  leaves : List Leaf
  groups : List Group

namespace Leaf

def ofOperator (field : String) (op : Operator) (value : Json) : Leaf :=
  { field, operatorName := op.name, value }

def operator? (leaf : Leaf) : Option Operator := Operator.ofName? leaf.operatorName

def toJson (leaf : Leaf) : Json := .objectOf [
  ("field", .string leaf.field),
  ("operator", .string leaf.operatorName),
  ("value", leaf.value)]

def ofMembers? (members : Json.Members) : Option Leaf := do
  return {
    field := ← members.required? "field" Json.asString?
    operatorName := ← members.required? "operator" Json.asString?
    value := ← members.default? "value" .null some }

def ofJson? (value : Json) : Option Leaf := value.asObject?.bind ofMembers?

end Leaf

namespace Group

def empty : Group := ⟨.all, [], []⟩

def addLeaf (group : Group) (leaf : Leaf) : Group :=
  { group with leaves := group.leaves ++ [leaf] }

def addGroup (group : Group) (nested : Group) : Group :=
  { group with groups := group.groups ++ [nested] }

/-- Neither leaves nor groups, not even empty ones. -/
def isEmpty (group : Group) : Bool := group.leaves.isEmpty && group.groups.isEmpty

mutual

def leafCount : Group → Nat
  | ⟨_, leaves, groups⟩ => leaves.length + leafCounts groups

def leafCounts : List Group → Nat
  | [] => 0
  | group :: rest => leafCount group + leafCounts rest

end

mutual

def toJson : Group → Json
  | ⟨connective, leaves, groups⟩ => .objectOf [
      ("logicalOperator", connective.toJson),
      ("conditions", .array (leaves.map Leaf.toJson)),
      ("groups", .array (listToJson groups))]

def listToJson : List Group → List Json
  | [] => []
  | group :: rest => toJson group :: listToJson rest

end

mutual

def ofJson? : Json → Option Group
  | .object members => do
    let connective ← Json.Members.default? members "logicalOperator" .all Connective.ofJson?
    let leaves ← Json.Members.default? members "conditions" [] (Json.listOf? Leaf.ofJson?)
    let groups ← nestedIn? members
    return ⟨connective, leaves, groups⟩
  | _ => none

def nestedIn? : List (String × Json) → Option (List Group)
  | [] => some []
  | (name, value) :: rest => if name = "groups" then listOfJson? value else nestedIn? rest

def listOfJson? : Json → Option (List Group)
  | .array items => ofItems? items
  | _ => none

def ofItems? : List Json → Option (List Group)
  | [] => some []
  | item :: rest => do return (← ofJson? item) :: (← ofItems? rest)

end

end Group
end VirtualRecords
