import VirtualRecords.Identifier
import VirtualRecords.Json.Document
import VirtualRecords.Schema.Field
import VirtualRecords.Text.Blank

/-! Entities: named kinds of record, each with a list of fields. Fields are shown in the
order of their indices, those without an index last, and otherwise as declared. An
entity is sound if its name and its keys are not blank and no key is declared twice. -/

namespace VirtualRecords

structure Entity where
  id : Identifier
  name : String
  description : Option String
  fields : List Field

inductive EntityFault where
  | blankName
  | blankKey
  | repeatedKey (key : String)
deriving DecidableEq

namespace Entity

def shownBefore (a b : Field) : Bool :=
  match a.orderIndex, b.orderIndex with
  | some i, some j => i ≤ j
  | some _, none => true
  | none, some _ => false
  | none, none => true

def orderedFields (entity : Entity) : List Field := entity.fields.mergeSort shownBefore

def firstFieldFault? (seen : List String) : List Field → Option EntityFault
  | [] => none
  | field :: rest =>
    if Text.isBlankString field.key then some .blankKey
    else if field.key ∈ seen then some (.repeatedKey field.key)
    else firstFieldFault? (field.key :: seen) rest

def fault? (entity : Entity) : Option EntityFault :=
  if Text.isBlankString entity.name then some .blankName
  else firstFieldFault? [] entity.fields

def faultText (entity : Entity) : EntityFault → String
  | .blankName => "Entity name cannot be empty"
  | .blankKey => "Entity '" ++ entity.name ++ "' has a field with an empty key"
  | .repeatedKey key =>
    "Entity '" ++ entity.name ++ "' declares field '" ++ key ++ "' more than once"

def structure? (entity : Entity) : Option String := entity.fault?.map entity.faultText

def membersWith (field : Field → Json) (entity : Entity) : List (String × Json) :=
  Json.Members.present [
    ("id", some entity.id.toJson),
    ("name", some (.string entity.name)),
    ("description", entity.description.map .string),
    ("fields", some (.array (entity.fields.map field)))]

def toJson (entity : Entity) : Json := .objectOf (entity.membersWith Field.toJson)

def toFileJson (entity : Entity) : Json :=
  .object (entity.membersWith fun field => .object field.members)

def ofMembers? (members : Json.Members) : Option Entity := do
  return {
    id := ← members.required? "id" Identifier.ofJson?
    name := ← members.required? "name" Json.asString?
    description := ← members.optional? "description" Json.asString?
    fields := ← members.default? "fields" [] (Json.listOf? Field.ofJson?) }

def ofJson? (value : Json) : Option Entity := value.asObject?.bind ofMembers?

def outline : Json.Outline := .record [
  ("id", .value), ("name", .value), ("description", .value),
  ("fields", .list (.record [
    ("fieldKey", .value), ("fieldLabel", .value), ("fieldType", .value),
    ("required", .value), ("options", .value), ("orderIndex", .value)]))]

end Entity
end VirtualRecords
