import VirtualRecords.Pattern.CharacterSet
import VirtualRecords.Pattern.Group

/-! Reading patterns. A pattern is a row of branches, a branch a row of parts, and a part may
be a group that holds a pattern in turn. Groups that are still open are kept with the
innermost first; a closed one is kept as the depth to which it nests. -/

namespace VirtualRecords.Pattern

inductive Part where
  | settings
  | item (depth : Nat)

def Part.depth : Part → Nat
  | settings => 0
  | item depth => depth

/-- A group that is still open: the depths of the branches before the last one, the parts of
that one with the latest first, and the mode in which it is read. -/
structure OpenGroup where
  branches : List Nat
  parts : List Part
  mode : Mode

namespace OpenGroup

def ofMode (mode : Mode) : OpenGroup := ⟨[], [], mode⟩

def branchDepth (group : OpenGroup) : Nat := rowDepth (group.parts.map Part.depth)

def depth (group : OpenGroup) : Nat := rowDepth (group.branchDepth :: group.branches)

def add (group : OpenGroup) (depth : Nat) : OpenGroup :=
  { group with parts := .item depth :: group.parts }

def set (group : OpenGroup) (mode : Mode) : OpenGroup :=
  { group with parts := .settings :: group.parts, mode }

def branch (group : OpenGroup) : OpenGroup :=
  { group with branches := group.branchDepth :: group.branches, parts := [] }

def repeat? (group : OpenGroup) : Option OpenGroup :=
  match group.parts with
  | .item depth :: parts => some { group with parts := .item (depth + 1) :: parts }
  | _ => none

end OpenGroup

/-- The groups around the innermost open one, that one, and the names given to groups. The
pattern itself counts as the outermost group. -/
structure Reading where
  outer : List OpenGroup
  inner : OpenGroup
  names : List (List Char)

namespace Reading

def start : Reading := ⟨[], .ofMode .standard, []⟩

def openGroup? (reading : Reading) (text : List Char) : Option (Reading × List Char) := do
  let around := reading.inner :: reading.outer
  match ← groupOpening? reading.inner.mode text with
  | (.group mode, rest) => return ({ reading with outer := around, inner := .ofMode mode }, rest)
  | (.named name, rest) =>
    if reading.names.contains name then none
    else return (⟨around, .ofMode reading.inner.mode, name :: reading.names⟩, rest)
  | (.settings mode, rest) => return ({ reading with inner := reading.inner.set mode }, rest)

def closeGroup? (reading : Reading) : Option Reading :=
  match reading.outer with
  | [] => none
  | next :: outer => some { reading with outer, inner := next.add (reading.inner.depth + 1) }

/-- One thing further. A sign of repetition may be followed by a question mark, which asks for
as few repetitions as possible; an opening brace would be followed by a closing one. -/
def step? (reading : Reading) (text : List Char) : Option (Reading × List Char) :=
  let go (inner : OpenGroup) (rest : List Char) : Option (Reading × List Char) :=
    some ({ reading with inner }, rest)
  let group := reading.inner
  match text with
  | [] => none
  | '(' :: rest => reading.openGroup? rest
  | ')' :: rest => reading.closeGroup?.map (·, rest)
  | '|' :: rest => go group.branch rest
  | '[' :: rest => do
    let (depth, after) ← characterSet? group.mode rest
    go (group.add depth) after
  | '\x7b' :: _ => none
  | '.' :: rest => if group.mode.wide then go (group.add 0) rest else none
  | '\\' :: rest => do
    let (_, after) ← escape? group.mode rest
    go (group.add 0) after
  | c :: rest =>
    if c = '?' ∨ c = '*' ∨ c = '+' then do
      go (← group.repeat?) (if rest.head? = some '?' then rest.tail else rest)
    else go (group.add 0) rest

def depth? (reading : Reading) (text : List Char) : Option Nat :=
  let body := reading.inner.mode.skip text
  if body.isEmpty then
    if reading.outer.isEmpty then some reading.inner.depth else none
  else
    match reading.step? body with
    | none => none
    | some (next, rest) => if _shorter : rest.length < text.length then next.depth? rest else none
termination_by text.length

end Reading

def greatestDepth : Nat := 250

def isValid (text : List Char) : Bool := (Reading.start.depth? text).any (· ≤ greatestDepth)

end VirtualRecords.Pattern
