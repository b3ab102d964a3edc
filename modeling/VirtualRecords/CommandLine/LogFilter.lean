import VirtualRecords.Number.Numeral
import VirtualRecords.Pattern.Reading
import VirtualRecords.Text.Bytes
import VirtualRecords.Text.Letter
import VirtualRecords.Text.Pieces

/-! Log filters: directives between commas. A directive is a level, or a target and perhaps a
span in brackets, behind which an equals sign and a level may stand. A span may have fields
in braces, and a field a value, which is a number or a pattern. -/

namespace VirtualRecords.LogFilter

def levelNames : List (List Char) :=
  ["off".toList, "error".toList, "warn".toList, "info".toList, "debug".toList, "trace".toList]

/-- Levels are named or numbered from zero to five; an empty one counts as well. -/
def isLevel (text : List Char) : Bool :=
  text.isEmpty || levelNames.any (Text.sameAsciiLetters text) ||
    (wordOfText? text).any (· ≤ 5)

def numberNames : List (List Char) := ["inf".toList, "infinity".toList, "nan".toList]

def isNumber (text : List Char) : Bool :=
  numberNames.any (Text.sameAsciiLetters (Numeral.splitSign text).2) ||
    (Numeral.ofText? text).any Numeral.hasDigits

def isField (text : List Char) : Bool :=
  match Text.pieces '=' text with
  | _ :: value :: _ => isNumber value || Pattern.isValid value
  | _ => true

/-- What is to be judged in a directive of the right form: the field of its span, given by the
text before it and its own, and the level behind the equals sign. -/
structure Outline where
  field? : Option (List Char × List Char)
  level? : Option (List Char)

def afterSpan? (field? : Option (List Char × List Char)) : List Char → Option Outline
  | [] => some ⟨field?, none⟩
  | '=' :: level => some ⟨field?, some level⟩
  | _ => none

def ofSpan? (before : List Char) : List Char → Option Outline
  | [] => none
  | ']' :: rest => afterSpan? none rest
  | '\x7b' :: rest =>
    let field := rest.takeWhile (· != '\x7d')
    match rest.dropWhile (· != '\x7d') with
    | '\x7d' :: ']' :: more =>
      if field.isEmpty then none else afterSpan? (some (('\x7b' :: before).reverse, field)) more
    | _ => none
  | c :: rest => ofSpan? (c :: before) rest

def ofTarget? (before : List Char) : List Char → Option Outline
  | [] => some ⟨none, none⟩
  | '=' :: level => some ⟨none, some level⟩
  | '[' :: rest => ofSpan? ('[' :: before) rest
  | c :: rest => ofTarget? (c :: before) rest

def isTargetStart (c : Char) : Bool := c == '-' || c == ':' || c == '_' || Text.isAlphanumeric c

def outline? : List Char → Option Outline
  | [] => none
  | c :: rest => if c = '[' ∨ isTargetStart c then ofTarget? [] (c :: rest) else none

/-- White space around a directive is passed over, but only its parts are then found so: a
level admits none, and a field is what stands at the same bytes of the text as given. -/
def isDirective (text : List Char) : Bool :=
  let body := Text.trim text
  match outline? body with
  | none => false
  | some outline =>
    let fieldText (before field : List Char) : List Char :=
      Text.betweenBytes (Text.byteSize before) (Text.byteSize before + Text.byteSize field) 0 text
    outline.level?.all (fun level => body == text && isLevel level) &&
      outline.field?.all fun (before, field) => isField (fieldText before field)

def isValid (filter : String) : Bool :=
  ((Text.pieces ',' filter.toList).filter (!·.isEmpty)).all isDirective

end VirtualRecords.LogFilter
