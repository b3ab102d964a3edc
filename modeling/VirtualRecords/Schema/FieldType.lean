import VirtualRecords.Json.Basic

/-! The types that a field may declare, and their names. Names are matched exactly. -/

namespace VirtualRecords

inductive FieldType where
  | string
  | number
  | integer
  | boolean
  | date
  | datetime
  | email
  | phone
  | url
  | enum
  | object
  | array
  | reference
deriving DecidableEq

namespace FieldType

def all : List FieldType :=
  [string, number, integer, boolean, date, datetime, email, phone, url, enum, object, array,
    reference]

def name : FieldType → String
  | string => "string"
  | number => "number"
  | integer => "integer"
  | boolean => "boolean"
  | date => "date"
  | datetime => "datetime"
  | email => "email"
  | phone => "phone"
  | url => "url"
  | enum => "enum"
  | object => "object"
  | array => "array"
  | reference => "reference"

def ofName? (text : String) : Option FieldType := all.find? (·.name == text)

def isStrict : FieldType → Bool
  | number | integer | boolean | date | datetime => true
  | _ => false

theorem name_of_ofName? {text : String} {t : FieldType} (h : ofName? text = some t) :
    t.name = text := by
  have := List.find?_some h
  simpa using this

@[simp] theorem ofName?_name (t : FieldType) : ofName? t.name = some t := by
  cases t <;> decide

end FieldType
end VirtualRecords
