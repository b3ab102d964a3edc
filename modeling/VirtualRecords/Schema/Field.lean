import VirtualRecords.Json.Decode
import VirtualRecords.Schema.FieldType

/-! Fields: the declared attributes of an entity. The name of a field's type is kept
as it was given, so that a field of an unknown type can be read and then reported
where it is used. Options are whatever JSON was declared; null stands for none. -/

namespace VirtualRecords

structure Field where
  key : String
  label : Option String
  typeName : String
  required : Bool
  options : Json
  orderIndex : Option Int32

namespace Field

def ofTypeName (key typeName : String) : Field :=
  { key, label := none, typeName, required := false, options := .null, orderIndex := none }

def ofType (key : String) (type : FieldType) : Field := ofTypeName key type.name

def withOptions (field : Field) (options : Json) : Field := { field with options }

/-- Sets one option; options that are not an object give way to an empty one first. -/
def withOption (field : Field) (name : String) (value : Json) : Field :=
  field.withOptions (.object ((field.options.asObject?.getD []).insert name value))

def withLabel (field : Field) (label : String) : Field := { field with label := some label }

def withOrder (field : Field) (orderIndex : Int32) : Field :=
  { field with orderIndex := some orderIndex }

def asRequired (field : Field) : Field := { field with required := true }

def enumeration (key : String) (values : List String) : Field :=
  (ofType key .enum).withOption "values" (.array (values.map .string))

def arrayOf (key : String) (item : FieldType) : Field :=
  (ofType key .array).withOption "itemType" (.string item.name)

def type? (field : Field) : Option FieldType := FieldType.ofName? field.typeName

def option? (field : Field) (name : String) : Option Json := field.options.member? name

def members (field : Field) : List (String × Json) := Json.Members.present [
  ("fieldKey", some (.string field.key)),
  ("fieldLabel", field.label.map .string),
  ("fieldType", some (.string field.typeName)),
  ("required", some (.bool field.required)),
  ("options", if field.options.isNull then none else some field.options),
  ("orderIndex", field.orderIndex.map .ofInt32)]

def toJson (field : Field) : Json := .objectOf field.members

def ofMembers? (members : Json.Members) : Option Field := do
  return {
    key := ← members.required? "fieldKey" Json.asString?
    label := ← members.optional? "fieldLabel" Json.asString?
    typeName := ← members.required? "fieldType" Json.asString?
    required := ← members.default? "required" false Json.toBool?
    options := ← members.default? "options" .null some
    orderIndex := ← members.optional? "orderIndex" Json.toInt32? }

def ofJson? (value : Json) : Option Field := value.asObject?.bind ofMembers?

end Field
end VirtualRecords
