import VirtualRecords.Json.Token

/-! Reading JSON. The tokens of a text are taken one by one; the state says what may
stand next and keeps the lists and objects that are still open, the innermost first. -/

namespace VirtualRecords.Json

inductive Frame where
  | list (before : List Document)
  | member (before : List (Option String × Document)) (name : Option String)

/-- What may stand next: a value, a member's name, the colon after a name, or what may
follow a value. After an opening bracket the closing one may stand too. -/
inductive Reading where
  | value (frames : List Frame) (mayClose : Bool)
  | name (frames : List Frame) (before : List (Option String × Document)) (mayClose : Bool)
  | colon (frames : List Frame) (before : List (Option String × Document)) (name : Option String)
  | after (frames : List Frame) (read : Document)

namespace Reading

def step? : Reading → Token → Option Reading
  | value frames _, .scalar d => some (after frames d)
  | value frames _, .string s => some (after frames (.string s))
  | value frames _, .listOpen => some (value (.list [] :: frames) true)
  | value frames _, .objectOpen => some (name frames [] true)
  | value (.list [] :: frames) true, .listClose => some (after frames (.array []))
  | name frames before _, .string key => some (colon frames before key)
  | name frames [] true, .objectClose => some (after frames (.object []))
  | colon frames before key, .colon => some (value (.member before key :: frames) false)
  | after (.list before :: frames) d, .comma => some (value (.list (d :: before) :: frames) false)
  | after (.list before :: frames) d, .listClose =>
    some (after frames (.array (d :: before).reverse))
  | after (.member before key :: frames) d, .comma =>
    some (name frames ((key, d) :: before) false)
  | after (.member before key :: frames) d, .objectClose =>
    some (after frames (.object ((key, d) :: before).reverse))
  | _, _ => none

def result? : Reading → Option Document
  | after [] d => some d
  | _ => none

end Reading

def Document.ofText? (text : String) : Option Document := do
  let tokens ← Token.ofText? text.toList
  let last ← tokens.foldlM Reading.step? (.value [] false)
  last.result?

def ofText? (text : String) : Option Json := (Document.ofText? text).bind Document.value?

def ofTextBy? (outline : Outline) (text : String) : Option Json :=
  (Document.ofText? text).bind (Document.select? outline greatestDepth)

end VirtualRecords.Json
