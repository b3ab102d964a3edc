import VirtualRecords.Pattern.Escape

/-! Sets of characters in square brackets. A set holds characters, ranges, classes and other
sets, and its operators divide it into operands. In a narrow pattern a set holds characters
of ASCII, and is not the complement of another. -/

namespace VirtualRecords.Pattern

/-- A set that is still open: how deep the operands before the last operator nest, and
how deep the items after it do, the latest first. -/
structure OpenSet where
  operands? : Option Nat
  items : List Nat

namespace OpenSet

def ofItems (items : List Nat) : OpenSet := ⟨none, items⟩

def add (set : OpenSet) (depth : Nat) : OpenSet := { set with items := depth :: set.items }

def depth (set : OpenSet) : Nat :=
  match set.operands? with
  | none => rowDepth set.items
  | some operands => max operands (rowDepth set.items) + 1

def operate (set : OpenSet) : OpenSet := ⟨some set.depth, []⟩

def leadingHyphens (mode : Mode) (text : List Char) : Nat × List Char :=
  match text with
  | '-' :: rest =>
    let (count, after) := leadingHyphens mode (mode.skip rest)
    (count + 1, after)
  | text => (0, text)
termination_by text.length
decreasing_by exact Nat.lt_succ_of_le (mode.skip_length_le rest)

/-- Reads on behind an opening bracket: a sign of complement, hyphens that stand for
themselves, and where there are none a closing bracket that does. -/
def begin? (mode : Mode) (text : List Char) : Option (OpenSet × List Char) :=
  let start (text : List Char) :=
    match leadingHyphens mode text with
    | (0, ']' :: rest) => (ofItems [0], mode.skip rest)
    | (count, rest) => (ofItems (List.replicate count 0), rest)
  match mode.skip text with
  | '^' :: rest => if mode.wide then some (start (mode.skip rest)) else none
  | text => some (start text)

end OpenSet

def classNames : List (List Char) := [
  "alnum".toList, "alpha".toList, "ascii".toList, "blank".toList, "cntrl".toList, "digit".toList,
  "graph".toList, "lower".toList, "print".toList, "punct".toList, "space".toList, "upper".toList,
  "word".toList, "xdigit".toList]

def namedClass? : List Char → Option (Bool × List Char)
  | ':' :: text =>
    let isComplement := text.head? == some '^'
    let body := if isComplement then text.tail else text
    match body.dropWhile (· != ':') with
    | ':' :: ']' :: rest =>
      if classNames.contains (body.takeWhile (· != ':')) then some (isComplement, rest) else none
    | _ => none
  | _ => none

def member? (mode : Mode) (text : List Char) : Option (Escape × List Char) := do
  let (found, rest) ← match text with
    | [] => none
    | '\\' :: rest => escape? mode rest
    | c :: rest => some (.literal c, rest)
  match found with
  | .literal c => if mode.wide ∨ c.toNat < 128 then some (found, rest) else none
  | .charClass => some (found, rest)
  | .place => none

/-- What follows one member, or the range between two. A hyphen before the closing bracket or
another hyphen makes no range. -/
def afterEntry? (mode : Mode) (text : List Char) : Option (List Char) := do
  let (first, rest) ← member? mode text
  match mode.skip rest with
  | '-' :: after =>
    if mode.next? after = some ']' ∨ mode.next? after = some '-' then some ('-' :: after)
    else
      match first, ← member? mode (mode.skip after) with
      | .literal lower, (.literal upper, rest) => if lower ≤ upper then some rest else none
      | _, _ => none
  | rest => some rest

structure SetReading where
  outer : List OpenSet
  inner : OpenSet

namespace SetReading

def step? (mode : Mode) (reading : SetReading) (text : List Char) :
    Option ((Nat ⊕ SetReading) × List Char) :=
  let go (inner : OpenSet) (rest : List Char) : Option ((Nat ⊕ SetReading) × List Char) :=
    some (.inr { reading with inner }, rest)
  match mode.skip text with
  | [] => none
  | '[' :: rest =>
    match namedClass? rest with
    | some (isComplement, after) =>
      if isComplement && !mode.wide then none else go (reading.inner.add 0) after
    | none => do
      let (inner, after) ← OpenSet.begin? mode rest
      return (.inr ⟨reading.inner :: reading.outer, inner⟩, after)
  | ']' :: rest =>
    let depth := reading.inner.depth + 1
    match reading.outer with
    | [] => some (.inl depth, rest)
    | next :: outer => some (.inr ⟨outer, next.add depth⟩, rest)
  | '&' :: '&' :: rest => go reading.inner.operate rest
  | '-' :: '-' :: rest => go reading.inner.operate rest
  | '~' :: '~' :: rest => go reading.inner.operate rest
  | text => do go (reading.inner.add 0) (← afterEntry? mode text)

def read? (mode : Mode) (reading : SetReading) (text : List Char) : Option (Nat × List Char) :=
  match reading.step? mode text with
  | none => none
  | some (.inl depth, rest) => some (depth, rest)
  | some (.inr reading, rest) =>
    if _shorter : rest.length < text.length then read? mode reading rest else none
termination_by text.length

end SetReading

def characterSet? (mode : Mode) (text : List Char) : Option (Nat × List Char) := do
  let (set, rest) ← OpenSet.begin? mode text
  SetReading.read? mode ⟨[], set⟩ rest

end VirtualRecords.Pattern
