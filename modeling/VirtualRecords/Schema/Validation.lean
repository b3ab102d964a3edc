import VirtualRecords.Schema.Conformance
import VirtualRecords.Schema.Error
import VirtualRecords.Schema.Field

/-! Judging payloads by fields. A required field must be present and not null; a value
that is present and not null must satisfy the type of its field. Every field is judged
on its own, in order, and at most one violation is reported for it. Members that no
field names are free, and options of an unexpected shape demand nothing. -/

namespace VirtualRecords

inductive Demand where
  | ofType (type : FieldType)
  | textOfType (type : FieldType)
  | oneOf (values : List String)
deriving DecidableEq

inductive Violation where
  | missing (key : String)
  | null (key : String)
  | unknownType (key : String)
  | unmet (key : String) (demand : Demand)
deriving DecidableEq

def FieldType.noun : FieldType → String
  | string | enum => "a string"
  | number => "a number"
  | integer => "an integer"
  | boolean => "a boolean"
  | date => "a valid date"
  | datetime => "a valid datetime"
  | email => "a valid email address"
  | phone => "a valid phone number"
  | url => "a valid URL"
  | object => "an object"
  | array => "an array"
  | reference => "a valid reference ID"

namespace Demand

/-- Dates, times and references that are not text at all are reported apart from text
that does not spell one. -/
def text : Demand → String
  | ofType type => type.noun
  | textOfType .date => "a valid date (YYYY-MM-DD)"
  | textOfType .datetime => "a valid datetime (ISO format)"
  | textOfType .reference => "a valid UUID"
  | textOfType type => type.noun
  | oneOf values => "one of: " ++ Text.join ", " values

end Demand

namespace Violation

def text : Violation → String
  | missing key => "Required field '" ++ key ++ "' is missing"
  | null key => "Required field '" ++ key ++ "' cannot be null"
  | unknownType key => "Unknown field type for field '" ++ key ++ "'"
  | unmet key demand => "Field '" ++ key ++ "' must be " ++ demand.text

end Violation

namespace Validation

def unmetByType? (type : FieldType) (value : Json) : Option Demand :=
  if type.conforms value then none
  else if value.asString?.isSome then some (.textOfType type)
  else some (.ofType type)

def stringList? (value : Json) : Option (List String) := Json.listOf? Json.asString? value

/-- The values that an enumeration allows; none where it allows every text. -/
def allowed? (field : Field) : Option (List String) := (field.option? "values").bind stringList?

/-- The type that the items of a list must have; none where any will do. -/
def itemType? (field : Field) : Option FieldType :=
  ((field.option? "itemType").bind Json.asString?).bind FieldType.ofName?

def itemKey (key : String) (index : Nat) : String := key ++ "[" ++ natText index ++ "]"

def firstBadItem? (key : String) (type : FieldType) (index : Nat) : List Json → Option Violation
  | [] => none
  | item :: rest =>
    match unmetByType? type item with
    | some demand => some (.unmet (itemKey key index) demand)
    | none => firstBadItem? key type (index + 1) rest

def optionViolation? (field : Field) : FieldType → Json → Option Violation
  | .enum, .string s => do
    let values ← allowed? field
    if s ∈ values then none else some (.unmet field.key (.oneOf values))
  | .array, .array items => do
    let type ← itemType? field
    firstBadItem? field.key type 0 items
  | _, _ => none

def valueViolation? (field : Field) (value : Json) : Option Violation :=
  match field.type? with
  | none => some (.unknownType field.key)
  | some type =>
    match unmetByType? type value with
    | some demand => some (.unmet field.key demand)
    | none => optionViolation? field type value

def fieldViolation? (payload : Json.Members) (field : Field) : Option Violation :=
  match payload.get? field.key with
  | none => if field.required then some (.missing field.key) else none
  | some .null => if field.required then some (.null field.key) else none
  | some value => valueViolation? field value

def violations (payload : Json.Members) (fields : List Field) : List Violation :=
  fields.filterMap (fieldViolation? payload)

def messages (payload : Json.Members) (fields : List Field) : List String :=
  (violations payload fields).map Violation.text

def isValid (payload : Json.Members) (fields : List Field) : Bool :=
  (violations payload fields).isEmpty

def asPayload (value : Json) : Except SchemaError Json.Members :=
  match value.asObject? with
  | some payload => .ok payload
  | none => .error (.malformedPayload value.typeName)

def judge (value : Json) (fields : List Field) : Except SchemaError (List String) :=
  (asPayload value).map fun payload => messages payload fields

end Validation
end VirtualRecords
