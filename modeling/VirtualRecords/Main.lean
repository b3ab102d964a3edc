import VirtualRecords.CommandLine.Run
import Std.Time.Zoned

/-! The program: it gathers the files that a command may look at, runs the command, and
prints what comes of it. -/

namespace VirtualRecords.Program

def wayTo (path : String) : List String :=
  let names := (Text.pieces '/' path.toList).map String.ofList
  (List.range names.length).map fun n => Text.join "/" (names.take (n + 1))

def putSeen (tree : FileTree) (path : String) : IO FileTree := do
  try
    if ← (← IO.FS.realPath path).isDir then return (tree.makeFolder path).toOption.getD tree
    else return (tree.put path (← IO.FS.readFile path)).toOption.getD tree
  catch _ => return tree

def namesIn (folder : String) : IO (List String) := do
  try
    let entries ← (← IO.FS.realPath folder).readDir
    return entries.toList.map (·.fileName)
  catch _ => return []

def putFolder (tree : FileTree) (folder : String) : IO FileTree := do
  let names ← namesIn folder
  (wayTo folder ++ names.map (childPath folder)).foldlM putSeen tree

def makeFolder (path : String) : IO Unit := do
  try IO.FS.createDirAll path
  catch _ => return ()

def gather (target : Target) : IO FileTree := do
  let tree ← (wayTo target.configPath).foldlM putSeen .empty
  match Config.load tree target.configPath with
  | .error _ => return tree
  | .ok found =>
    let definitions := (DefinitionFolder.ofDataFolder found.dataFolder).path
    let tree ← [definitions, childPath found.dataFolder "records"].foldlM putFolder tree
    makeFolder definitions
    return tree

def target? : Command → Option Target
  | .parse _ => none
  | .validate target _ | .explain target _ | .query target _ _ _ | .count target _ => some target

def treeFor (arguments : List String) : IO FileTree :=
  match (Command.read arguments).toOption.bind target? with
  | none => return .empty
  | some target => gather target

def inputFor (arguments : List String) : IO String :=
  match Command.read arguments with
  | .ok (.validate _ none) => do (← IO.getStdin).readToEnd
  | _ => return ""

def currentTime : IO Instant := do
  let now ← Std.Time.Timestamp.now
  let nanoseconds := now.toNanosecondsSinceUnixEpoch.val
  return ⟨nanoseconds / 1000000000, (nanoseconds % 1000000000).toNat⟩

def randomIdentifiers : IO (Nat → Identifier) := do
  let start ← IO.rand 0 (twoTo 122)
  return fun n => .ofFreeBits (start + n)

def usageText : String :=
  "Usage: " ++ Command.programName ++ " <validate|parse|explain|query|count> [options] [query]"

def run (arguments : List String) : IO UInt32 := do
  let around : Surroundings := {
    tree := ← treeFor arguments
    input := ← inputFor arguments
    fresh := ← randomIdentifiers
    now := ← currentTime }
  match runProgram around arguments with
  | .refused .usage => do IO.eprintln usageText; return 2
  | .refused .help => do IO.println usageText; return 0
  | .refused .version => do IO.println Command.versionText; return 0
  | .failed e => do IO.eprintln e.text; return 1
  | .answered envelope => do IO.println envelope.text; return 0

end VirtualRecords.Program

def main (arguments : List String) : IO UInt32 := VirtualRecords.Program.run arguments
