import VirtualRecords.Calendar.DateTime
import VirtualRecords.Identifier
import VirtualRecords.Json.Printer
import VirtualRecords.Schema.FieldType
import VirtualRecords.Text.Pieces

/-! Which JSON values satisfy a field type, and the form a query's literal takes before
it is compared with a field of that type. Numeric and boolean text turn into a number
or a boolean, and numbers and booleans into text for a text field; a literal of any
other type is kept as it is if it satisfies the type, and has no form if not. -/

namespace VirtualRecords

namespace Text

def isMailChar (c : Char) : Bool :=
  c.isAlphanum || c == '+' || c == '_' || c == '.' || c == '-'

/-- A mail address: letters, digits and a few marks, an at sign, and something after it
on the same line. -/
def isMailAddress (text : List Char) : Bool :=
  match text.dropWhile isMailChar with
  | '@' :: domain => !(text.takeWhile isMailChar).isEmpty && !domain.isEmpty && !domain.contains '\n'
  | _ => false

def isAddressEnd (c : Char) : Bool := c.isAlphanum || "-+&@#/%=~_|".toList.contains c

def isAddressChar (c : Char) : Bool := isAddressEnd c || "?!:,.;".toList.contains c

def addressSchemes : List (List Char) :=
  ["http://".toList, "https://".toList, "ftp://".toList, "file://".toList]

def isAddressBody (text : List Char) : Bool :=
  text.all isAddressChar && text.getLast?.any isAddressEnd

def isWebAddress (text : List Char) : Bool :=
  addressSchemes.any fun scheme => (after? scheme text).any isAddressBody

def isPhoneChar (c : Char) : Bool := c.isDigit || c == '-' || isBlank c

def isPhoneBody (text : List Char) : Bool := !text.isEmpty && text.all isPhoneChar

/-- A telephone number: a plus sign or not, then digits, hyphens and white space. -/
def isPhoneNumber : List Char → Bool
  | [] => false
  | c :: rest => if c = '+' then isPhoneBody rest else isPhoneBody (c :: rest)

def boolean? (s : String) : Option Bool :=
  if equalsIgnoringCase s "true" then some true
  else if equalsIgnoringCase s "false" then some false
  else none

end Text

namespace Json

def isText (test : List Char → Bool) : Json → Bool
  | string s => test s.toList
  | _ => false

end Json

namespace FieldType

/-- Membership of an enumeration and the types of a list's items are further rules, which
depend on the field's options. -/
def conforms (type : FieldType) (value : Json) : Bool :=
  match type with
  | string => value.isText fun _ => true
  | enum => value.isText fun _ => true
  | number =>
    match value with
    | .number _ => true
    | .string s => (numberOfText? s.toList).isSome
    | _ => false
  | integer =>
    match value with
    | .number n => n.isSigned
    | .string s => (integerOfText? s.toList).isSome
    | _ => false
  | boolean =>
    match value with
    | .bool _ => true
    | .string s => (Text.boolean? s).isSome
    | _ => false
  | date => value.isText fun s => (Date.ofChars? s).isSome
  | datetime => value.isText fun s => (DateTime.ofChars? s).isSome
  | email => value.isText Text.isMailAddress
  | phone => value.isText Text.isPhoneNumber
  | url => value.isText Text.isWebAddress
  | object => value.asObject?.isSome
  | array => value.asArray?.isSome
  | reference => value.isText fun s => (Identifier.ofChars? s).isSome

def coerce? (type : FieldType) (value : Json) : Option Json :=
  match type with
  | string =>
    match value with
    | .string s => some (.string s)
    | .number n => some (.string n.text)
    | .bool b => some (.string (Json.boolText b))
    | _ => none
  | number =>
    match value with
    | .number n => some (.number n)
    | .string s => (numberOfText? s.toList).map .number
    | _ => none
  | integer =>
    match value with
    | .number n => if n.isSigned then some (.number n) else none
    | .string s => (integerOfText? s.toList).map fun i => .number (.integer i)
    | _ => none
  | boolean =>
    match value with
    | .bool b => some (.bool b)
    | .string s => (Text.boolean? s).map .bool
    | _ => none
  | other => if other.conforms value then some value else none

end FieldType
end VirtualRecords
