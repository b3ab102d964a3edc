/-! Arguments of a command: named options, each with a value and given at most once, and for
some commands one text. A value stands in the next argument, or in the same one behind
an equals sign; behind the one-letter name of an option it may follow at once. A value
in an argument of its own does not begin with a hyphen, unless it is one. After two
hyphens every argument is text. -/

namespace VirtualRecords

inductive Refusal where
  | usage
  | help
  | version
deriving DecidableEq

structure OptionSpec where
  name : String
  letter? : Option Char
  accepts : String → Bool

structure ArgumentSpec where
  options : List OptionSpec
  takesText : Bool

inductive ArgumentShape where
  | long (name : String) (attached? : Option String)
  | short (letter : Char) (attached? : Option String)
  | plain
deriving DecidableEq

namespace ArgumentShape

def valueAfterSign? : List Char → Option String
  | '=' :: value => some (String.ofList value)
  | _ => none

def valueAfterLetter? : List Char → Option String
  | [] => none
  | rest => some ((valueAfterSign? rest).getD (String.ofList rest))

def ofChars : List Char → ArgumentShape
  | '-' :: '-' :: rest =>
    .long (String.ofList (rest.takeWhile (· != '='))) (valueAfterSign? (rest.dropWhile (· != '=')))
  | '-' :: letter :: rest => .short letter (valueAfterLetter? rest)
  | _ => .plain

def ofArgument (argument : String) : ArgumentShape := ofChars argument.toList

def isPlain (shape : ArgumentShape) : Bool := shape = .plain

/-- Requests that are granted at once: help everywhere, and the version where it is known. -/
def request? (knowsVersion : Bool) : ArgumentShape → Option Refusal
  | long "help" none | short 'h' _ => some .help
  | long "version" none | short 'V' _ => if knowsVersion then some .version else none
  | _ => none

end ArgumentShape

def endOfOptions : String := "--"

structure Arguments where
  values : List (String × String)
  text? : Option String

namespace Arguments

def empty : Arguments := ⟨[], none⟩

def value? (given : Arguments) (name : String) : Option String := given.values.lookup name

def addText (spec : ArgumentSpec) (given : Arguments) (text : String) :
    Except Refusal Arguments :=
  if spec.takesText && given.text?.isNone then .ok { given with text? := some text }
  else .error .usage

def addValue (option : OptionSpec) (given : Arguments) (value : String) :
    Except Refusal Arguments :=
  if (given.value? option.name).isSome || !option.accepts value then .error .usage
  else .ok { given with values := (option.name, value) :: given.values }

def optionOf? (spec : ArgumentSpec) : ArgumentShape → Option (OptionSpec × Option String)
  | .long name attached? => (spec.options.find? (·.name == name)).map (·, attached?)
  | .short letter attached? => (spec.options.find? (·.letter? == some letter)).map (·, attached?)
  | .plain => none

def readFrom (spec : ArgumentSpec) (given : Arguments) : List String → Except Refusal Arguments
  | [] => .ok given
  | argument :: rest =>
    let shape := ArgumentShape.ofArgument argument
    if argument = endOfOptions then rest.foldlM (addText spec) given
    else if shape.isPlain then do
      readFrom spec (← given.addText spec argument) rest
    else
      match shape.request? false, optionOf? spec shape with
      | some refusal, _ => .error refusal
      | none, none => .error .usage
      | none, some (option, some value) => do readFrom spec (← given.addValue option value) rest
      | none, some (option, none) =>
        match rest with
        | [] => .error .usage
        | value :: more =>
          if (ArgumentShape.ofArgument value).isPlain then do
            readFrom spec (← given.addValue option value) more
          else .error .usage

def read (spec : ArgumentSpec) (arguments : List String) : Except Refusal Arguments :=
  readFrom spec .empty arguments

end Arguments
end VirtualRecords
