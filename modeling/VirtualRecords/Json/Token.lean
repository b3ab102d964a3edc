import VirtualRecords.Json.Document
import VirtualRecords.Text.Hex

/-! The tokens of JSON text. A text is cut one character at a time: between tokens,
inside a string, or inside a run of the characters that make up numbers and the three
names. What a finished string or run means is decided when it ends. -/

namespace VirtualRecords.Json

inductive Token where
  | listOpen
  | listClose
  | objectOpen
  | objectClose
  | comma
  | colon
  | string (s : Option String)
  | scalar (d : Document)

/-- Where in a text the cutting stands; characters read so far are held in reverse. -/
inductive Cutting where
  | between
  | inString (read : List Char) (escaped : Bool)
  | inRun (read : List Char)

namespace Token

def isSpace (c : Char) : Bool := c == ' ' || c == '\n' || c == '\t' || c == '\r'

def isRunChar (c : Char) : Bool := c.isAlphanum || c == '+' || c == '-' || c == '.'

def escapedChar? (c : Char) : Option Char :=
  match c with
  | '"' => some '"'
  | '\\' => some '\\'
  | '/' => some '/'
  | 'b' => some '\x08'
  | 'f' => some '\x0c'
  | 'n' => some '\n'
  | 'r' => some '\r'
  | 't' => some '\t'
  | _ => none

def codeUnits? : List Char → Option (List (Char ⊕ Nat))
  | [] => some []
  | '\\' :: 'u' :: a :: b :: c :: d :: rest => do
    return .inr (← Text.hexDigits? [a, b, c, d]) :: (← codeUnits? rest)
  | '\\' :: e :: rest => do return .inl (← escapedChar? e) :: (← codeUnits? rest)
  | c :: rest =>
    if c = '\\' ∨ c.toNat < 0x20 then none else (codeUnits? rest).map (.inl c :: ·)

def isHighHalf (n : Nat) : Bool := 0xD800 ≤ n && n < 0xDC00

def isLowHalf (n : Nat) : Bool := 0xDC00 ≤ n && n < 0xE000

def joinHalves? : List (Char ⊕ Nat) → Option (List Char)
  | [] => some []
  | .inl c :: rest => (joinHalves? rest).map (c :: ·)
  | .inr high :: .inr low :: rest =>
    if isHighHalf high then
      if isLowHalf low then
        (joinHalves? rest).map
          (Char.ofNat (0x10000 + (high - 0xD800) * 0x400 + (low - 0xDC00)) :: ·)
      else none
    else if isLowHalf high then none
    else (joinHalves? (.inr low :: rest)).map (Char.ofNat high :: ·)
  | .inr code :: rest =>
    if isHighHalf code || isLowHalf code then none
    else (joinHalves? rest).map (Char.ofNat code :: ·)

def ofString? (inside : List Char) : Option Token := do
  return .string ((joinHalves? (← codeUnits? inside)).map String.ofList)

def ofRun? (run : List Char) : Option Token :=
  if run = ['n', 'u', 'l', 'l'] then some (.scalar .null)
  else if run = ['t', 'r', 'u', 'e'] then some (.scalar (.bool true))
  else if run = ['f', 'a', 'l', 's', 'e'] then some (.scalar (.bool false))
  else do
    let numeral ← Numeral.ofText? run
    if numeral.isJson then some (.scalar (.number numeral.number?)) else none

def begin? (c : Char) : Option (List Token × Cutting) :=
  if isSpace c then some ([], .between)
  else if isRunChar c then some ([], .inRun [c])
  else
    match c with
    | '"' => some ([], .inString [] false)
    | '[' => some ([.listOpen], .between)
    | ']' => some ([.listClose], .between)
    | '\x7b' => some ([.objectOpen], .between)
    | '\x7d' => some ([.objectClose], .between)
    | ',' => some ([.comma], .between)
    | ':' => some ([.colon], .between)
    | _ => none

def step? (state : Cutting) (c : Char) : Option (List Token × Cutting) :=
  match state with
  | .between => begin? c
  | .inString read true => some ([], .inString (c :: read) false)
  | .inString read false =>
    if c = '"' then (ofString? read.reverse).map fun t => ([t], .between)
    else some ([], .inString (c :: read) (c == '\\'))
  | .inRun read =>
    if isRunChar c then some ([], .inRun (c :: read))
    else do
      let run ← ofRun? read.reverse
      let (tokens, next) ← begin? c
      return (run :: tokens, next)

def finish? : Cutting → Option (List Token)
  | .between => some []
  | .inString _ _ => none
  | .inRun read => (ofRun? read.reverse).map fun t => [t]

def ofText? (text : List Char) : Option (List Token) := do
  let (read, last) ← text.foldlM (fun (read, state) c => do
    let (tokens, next) ← step? state c
    return (tokens.reverse ++ read, next)) ([], Cutting.between)
  return read.reverse ++ (← finish? last)

end Token
end VirtualRecords.Json
