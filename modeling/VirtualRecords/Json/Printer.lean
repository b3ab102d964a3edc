import VirtualRecords.Json.Basic
import VirtualRecords.Number.Shortest

/-! Writing JSON. The compact form has no white space; the indented form gives each
item and member a line of its own, two more spaces deep than the bracket around it.
Members are written in the order in which they are listed. -/

namespace VirtualRecords.Json

def hexDigit (n : Nat) : Char := Nat.digitChar n

def escapeChar (c : Char) : List Char :=
  if c = '"' then ['\\', '"']
  else if c = '\\' then ['\\', '\\']
  else if c = '\n' then ['\\', 'n']
  else if c = '\r' then ['\\', 'r']
  else if c = '\t' then ['\\', 't']
  else if c = '\x08' then ['\\', 'b']
  else if c = '\x0c' then ['\\', 'f']
  else if c.toNat < 0x20 then
    ['\\', 'u', '0', '0', hexDigit (c.toNat / 16), hexDigit (c.toNat % 16)]
  else [c]

def quoted (s : String) : String :=
  String.ofList ('"' :: s.toList.flatMap escapeChar ++ ['"'])

def boolText (b : Bool) : String := if b then "true" else "false"

mutual

def text : Json → String
  | null => "null"
  | bool b => boolText b
  | number n => n.text
  | string s => quoted s
  | array items => "[" ++ itemsText items ++ "]"
  | object members => "\x7b" ++ membersText members ++ "\x7d"

def itemsText : List Json → String
  | [] => ""
  | [x] => text x
  | x :: y :: rest => text x ++ "," ++ itemsText (y :: rest)

def membersText : List (String × Json) → String
  | [] => ""
  | [(k, x)] => quoted k ++ ":" ++ text x
  | (k, x) :: m :: rest => quoted k ++ ":" ++ text x ++ "," ++ membersText (m :: rest)

end

def indent (depth : Nat) : String := String.ofList (List.replicate (2 * depth) ' ')

mutual

def prettyAt (depth : Nat) : Json → String
  | null => "null"
  | bool b => boolText b
  | number n => n.text
  | string s => quoted s
  | array [] => "[]"
  | array (x :: rest) => "[\n" ++ prettyItems (depth + 1) (x :: rest) ++ "\n" ++ indent depth ++ "]"
  | object [] => "\x7b\x7d"
  | object (m :: rest) =>
    "\x7b\n" ++ prettyMembers (depth + 1) (m :: rest) ++ "\n" ++ indent depth ++ "\x7d"

def prettyItems (depth : Nat) : List Json → String
  | [] => ""
  | [x] => indent depth ++ prettyAt depth x
  | x :: y :: rest => indent depth ++ prettyAt depth x ++ ",\n" ++ prettyItems depth (y :: rest)

def prettyMembers (depth : Nat) : List (String × Json) → String
  | [] => ""
  | [(k, x)] => indent depth ++ quoted k ++ ": " ++ prettyAt depth x
  | (k, x) :: m :: rest =>
    indent depth ++ quoted k ++ ": " ++ prettyAt depth x ++ ",\n" ++ prettyMembers depth (m :: rest)

end

def pretty (value : Json) : String := prettyAt 0 value

end VirtualRecords.Json
