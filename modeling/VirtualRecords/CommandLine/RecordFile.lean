import VirtualRecords.CommandLine.Error
import VirtualRecords.FileTree
import VirtualRecords.Json.Reader
import VirtualRecords.Number.Shortest
import VirtualRecords.Record
import VirtualRecords.Text.Shown

/-! Record files: the payloads of one entity as a list in a file. Each becomes a record, made
a millisecond after the one before it, so that the order of creation is that of the file. -/

namespace VirtualRecords.RecordFile

def path (dataFolder : String) (entity : Identifier) : String :=
  childPath (childPath dataFolder "records") (entity.text ++ ".json")

/-- Quotes of both kinds are escaped, and characters that cannot be shown as they are. -/
def escapeInPath (c : Char) : List Char :=
  match c with
  | '"' | '\'' | '\\' => ['\\', c]
  | '\n' => ['\\', 'n']
  | '\r' => ['\\', 'r']
  | '\t' => ['\\', 't']
  | '\x00' => ['\\', '0']
  | _ =>
    if Text.isShown c then [c]
    else ['\\', 'u', '\x7b'] ++ Nat.toDigits 16 c.toNat ++ ['\x7d']

def quotedPath (path : String) : String :=
  String.ofList ('"' :: path.toList.flatMap escapeInPath ++ ['"'])

def noObject (path : String) (place : Nat) : CommandError :=
  .data ("Record " ++ natText place ++ " in " ++ quotedPath path ++ " is not a JSON object")

def records (path : String) (entity : Identifier) (fresh : Nat → Identifier) (now : Instant) :
    (place : Nat) → List Json → Except CommandError (List Record)
  | _, [] => .ok []
  | place, .object payload :: rest => do
    let first := Record.make (fresh place) entity payload (now.addMilliseconds place)
    return first :: (← records path entity fresh now (place + 1) rest)
  | place, _ :: _ => .error (noObject path place)

def load (tree : FileTree) (dataFolder : String) (entity : Identifier)
    (fresh : Nat → Identifier) (now : Instant) : Except CommandError (List Record) :=
  let path := path dataFolder entity
  match tree.find path with
  | .error _ => .ok []
  | .ok _ =>
    match tree.read path with
    | .error failure =>
      .error (.data ("Failed to read " ++ quotedPath path ++ ": " ++ failure.text))
    | .ok text =>
      match (Json.ofText? text).bind Json.asArray? with
      | none => .error (.data ("Invalid record file " ++ quotedPath path ++ ": not a list"))
      | some payloads => records path entity fresh now 0 payloads

end VirtualRecords.RecordFile
