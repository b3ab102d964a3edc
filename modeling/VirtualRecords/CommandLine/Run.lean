import VirtualRecords.CommandLine.Command
import VirtualRecords.CommandLine.Config
import VirtualRecords.CommandLine.RecordFile
import VirtualRecords.Schema.Definitions
import VirtualRecords.Service.Envelope

/-! Running a command on a tree of files. Commands on data load the configuration, then the
entities, then find the entity that is meant, and only then look at payloads and records.
New identifiers and the time are given from outside. -/

namespace VirtualRecords

structure Surroundings where
  tree : FileTree
  input : String
  fresh : Nat → Identifier
  now : Instant

namespace Command

/-- The entity that is meant: the one with that identifier, or else the one of that name. -/
def entityOf (registry : Registry) (meant : String) : Except CommandError Identifier :=
  match (Identifier.ofText? meant).filter registry.holds, registry.named? meant with
  | some id, _ => .ok id
  | none, some entity => .ok entity.id
  | none, none => .error (.invalidArgument ("Unknown entity '" ++ meant ++ "'"))

structure Opened where
  config : Config
  registry : Registry
  entity : Identifier

def openTarget (around : Surroundings) (target : Target) : Except CommandError Opened := do
  let config ← Config.load around.tree target.configPath
  match (DefinitionFolder.ofDataFolder config.dataFolder).load around.tree .empty with
  | (_, _, some failure) => .error (.schema failure)
  | (_, registry, none) => return { config, registry, entity := ← entityOf registry target.entity }

def serviceOn (opened : Opened) (store : Store) : Service :=
  { registry := opened.registry, store, maxPageSize := opened.config.maxPageSize }

def serviceOnFile (around : Surroundings) (opened : Opened) : Except CommandError Service := do
  let records ←
    RecordFile.load around.tree opened.config.dataFolder opened.entity around.fresh around.now
  return serviceOn opened (.ofRecords records)

def payload (around : Surroundings) (payload? : Option String) : Except CommandError Json :=
  match payload? with
  | some text =>
    match Json.ofText? text with
    | some payload => .ok payload
    | none => .error (.invalidArgument "Invalid payload JSON: not a value")
  | none =>
    if Text.isBlankString around.input then .error (.invalidArgument "Empty input on stdin")
    else
      match Json.ofText? around.input with
      | some payload => .ok payload
      | none => .error (.json "not a value")

def verdict (violations : List String) : Json := .objectOf [
  ("valid", .bool violations.isEmpty),
  ("violations", .array (violations.map .string))]

def judge (registry : Registry) (entity : Identifier) (payload : Json) :
    Except SchemaError (List String) := do
  Validation.judge payload (← registry.fieldsOf entity)

def queryOn (opened : Opened) (text : String) (page size : UInt64) : Query :=
  ((Query.ofEntity opened.entity).withText text).withPage page size

def run (around : Surroundings) : Command → Except CommandError Envelope
  | .validate target payload? => do
    let opened ← openTarget around target
    let judged := judge opened.registry opened.entity (← payload around payload?)
    return .ofResult ((judged.map verdict).mapError .ofSchema)
  | .parse text => .ok (.success (QueryText.parse text).toJson)
  | .explain target text => do
    let opened ← openTarget around target
    let plan := (serviceOn opened .empty).prepare (queryOn opened text 0 opened.config.defaultPageSize)
    return .ofResult (plan.map fun plan =>
      .objectOf [("entityId", opened.entity.toJson), ("sql", .string plan.text)])
  | .query target text page size? => do
    let opened ← openTarget around target
    let service ← serviceOnFile around opened
    let size := size?.getD opened.config.defaultPageSize
    return .ofResult ((service.execute (queryOn opened text page size)).map Page.toJson)
  | .count target text => do
    let opened ← openTarget around target
    let service ← serviceOnFile around opened
    let total := service.count ((Query.ofEntity opened.entity).withText text)
    return .ofResult (total.map fun n => .objectOf [("count", .ofCount n)])

end Command

inductive Outcome where
  | refused (refusal : Refusal)
  | failed (error : CommandError)
  | answered (envelope : Envelope)

def runProgram (around : Surroundings) (arguments : List String) : Outcome :=
  match Command.read arguments with
  | .error refusal => .refused refusal
  | .ok command =>
    match command.run around with
    | .error e => .failed e
    | .ok envelope => .answered envelope

end VirtualRecords
