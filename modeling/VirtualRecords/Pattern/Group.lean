import VirtualRecords.Pattern.Mode
import VirtualRecords.Text.Word

/-! What may stand behind the opening bracket of a group: a name, settings for the group, or
settings for what follows in the group around it. -/

namespace VirtualRecords.Pattern

inductive GroupOpening where
  | group (mode : Mode)
  | named (name : List Char)
  | settings (mode : Mode)

def isNameStart (c : Char) : Bool := c == '_' || Text.isAlphabetic c

def isNameChar (c : Char) : Bool :=
  c == '_' || c == '.' || c == '[' || c == ']' || Text.isAlphanumeric c

def groupName? (text : List Char) : Option (List Char × List Char) :=
  match text.takeWhile (· != '>'), text.dropWhile (· != '>') with
  | c :: more, '>' :: rest =>
    if isNameStart c && more.all isNameChar then some (c :: more, rest) else none
  | _, _ => none

def settingLetters : List Char := ['i', 'm', 's', 'U', 'u', 'R', 'x', '-']

def areSettings (letters : List Char) : Bool :=
  letters.all settingLetters.contains && decide letters.Nodup && letters.getLast? != some '-'

/-- Letters before the hyphen turn settings on, those behind it turn them off. -/
def Mode.change (mode : Mode) (letters : List Char) : Mode :=
  let on := letters.takeWhile (· != '-')
  let off := letters.dropWhile (· != '-')
  { spaced := (mode.spaced || on.contains 'x') && !off.contains 'x'
    wide := (mode.wide || on.contains 'u') && !off.contains 'u' }

def settings? (mode : Mode) (text : List Char) : Option (GroupOpening × List Char) :=
  let isLetter (c : Char) : Bool := c != ':' && c != ')'
  let letters := text.takeWhile isLetter
  if areSettings letters then
    match text.dropWhile isLetter with
    | ':' :: rest => some (.group (mode.change letters), rest)
    | ')' :: rest => if letters.isEmpty then none else some (.settings (mode.change letters), rest)
    | _ => none
  else none

def groupOpening? (mode : Mode) (text : List Char) : Option (GroupOpening × List Char) :=
  match mode.skip text with
  | '?' :: 'P' :: '<' :: rest | '?' :: '<' :: rest => do
    let (name, after) ← groupName? rest
    return (.named name, after)
  | '?' :: rest => settings? mode rest
  | rest => some (.group mode, rest)

end VirtualRecords.Pattern
