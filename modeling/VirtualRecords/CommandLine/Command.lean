import VirtualRecords.CommandLine.Arguments
import VirtualRecords.Number.Numeral

/-! Commands: what the arguments of the program ask for. The first argument names the
command, and the arguments after it are its own. -/

namespace VirtualRecords

structure Target where
  configPath : String
  entity : String
deriving DecidableEq

inductive Command where
  | validate (target : Target) (payload? : Option String)
  | parse (text : String)
  | explain (target : Target) (text : String)
  | query (target : Target) (text : String) (page : UInt64) (size? : Option UInt64)
  | count (target : Target) (text : String)
deriving DecidableEq

namespace Command

def programName : String := "modelhub"

def versionText : String := programName ++ " 0.1.0"

def defaultConfigPath : String := "./modelhub.json"

def configOption : OptionSpec := ⟨"config", none, fun value => !value.isEmpty⟩
def entityOption : OptionSpec := ⟨"entity", some 'e', fun _ => true⟩
def payloadOption : OptionSpec := ⟨"payload", none, fun _ => true⟩
def pageOption : OptionSpec := ⟨"page", none, fun value => (wordOfText? value.toList).isSome⟩
def sizeOption : OptionSpec := ⟨"size", none, fun value => (wordOfText? value.toList).isSome⟩

def target (given : Arguments) : Except Refusal Target :=
  match given.value? entityOption.name with
  | none => .error .usage
  | some entity =>
    .ok { configPath := (given.value? configOption.name).getD defaultConfigPath, entity }

def word? (given : Arguments) (option : OptionSpec) : Option UInt64 :=
  (given.value? option.name).bind fun value => wordOfText? value.toList

structure Kind where
  name : String
  spec : ArgumentSpec
  make : Arguments → Except Refusal Command

def kinds : List Kind := [
  { name := "validate"
    spec := ⟨[configOption, entityOption, payloadOption], false⟩
    make := fun given => do
      return .validate (← target given) (given.value? payloadOption.name) },
  { name := "parse"
    spec := ⟨[], true⟩
    make := fun given =>
      match given.text? with
      | none => .error .usage
      | some text => .ok (.parse text) },
  { name := "explain"
    spec := ⟨[configOption, entityOption], true⟩
    make := fun given => do return .explain (← target given) (given.text?.getD "") },
  { name := "query"
    spec := ⟨[configOption, entityOption, pageOption, sizeOption], true⟩
    make := fun given => do
      return .query (← target given) (given.text?.getD "") ((word? given pageOption).getD 0)
        (word? given sizeOption) },
  { name := "count"
    spec := ⟨[configOption, entityOption], true⟩
    make := fun given => do return .count (← target given) (given.text?.getD "") }]

def kind? (name : String) : Option Kind := kinds.find? (·.name == name)

def helpName : String := "help"

/-- Help is asked for by its name too, alone or with the name of one command. -/
def helpOn : List String → Refusal
  | [] => .help
  | [name] => if name = helpName ∨ (kind? name).isSome then .help else .usage
  | _ => .usage

def withoutKind (argument : String) (rest : List String) : Refusal :=
  if argument = helpName then helpOn rest
  else if argument = endOfOptions ∧ rest = [] then .help
  else ((ArgumentShape.ofArgument argument).request? true).getD .usage

def read : List String → Except Refusal Command
  | [] => .error .help
  | argument :: rest =>
    match kind? argument with
    | none => .error (withoutKind argument rest)
    | some kind => do kind.make (← Arguments.read kind.spec rest)

end Command
end VirtualRecords
