import VirtualRecords.Condition.Operator
import VirtualRecords.QueryText.Blanks

/-! The two clauses of a query text, each found at its first occurrence anywhere in the
text. The conditions reach from the word `WHERE` to the words `ORDER BY` or to the end
of the text, and they do not run over a line feed after their first character has been
found. The order names a field and may name a direction. -/

namespace VirtualRecords.QueryText

open Text

def atOrderBy (text : List Char) : Bool := ((afterBlanks? text).bind afterOrderBy?).isSome

/-- The text up to `ORDER BY` or the end; none if a line feed comes first. -/
def upToOrder? : List Char → Option (List Char)
  | [] => some []
  | c :: rest =>
    if atOrderBy (c :: rest) then some []
    else if c = '\n' then none
    else (upToOrder? rest).map (c :: ·)

def conditions? : List Char → Option (List Char)
  | [] => none
  | c :: rest => if c = '\n' then none else (upToOrder? rest).map (c :: ·)

/-- The conditions after `WHERE`, given the white space behind that word in reverse and
the text after it. As much white space as possible is left out, but some must be. -/
def conditionsAfter? : (blanks rest : List Char) → Option (List Char)
  | [], _ => none
  | blank :: more, rest => (conditions? rest).or (conditionsAfter? more (blank :: rest))

def whereAt? (text : List Char) : Option (List Char) := do
  let after ← afterKeyword? whereWord text
  conditionsAfter? (after.takeWhile isBlank).reverse (skipBlank after)

def whereClause? : List Char → Option (List Char)
  | [] => none
  | c :: rest => (whereAt? (c :: rest)).or (whereClause? rest)

/-- The direction that a text begins with, after white space. A long s makes the word for
a direction, but not the word for the descending one. -/
def direction? (text : List Char) : Option Direction := do
  let word ← afterBlanks? text
  if (afterKeyword? ascendingWord word).isSome then some .ascending
  else if (afterKeyword? descendingWord word).isSome then
    some (if sameAsciiLetters (word.take 4) descendingWord then .descending else .ascending)
  else none

def orderAt? (text : List Char) : Option (List Char × Option Direction) := do
  let after ← afterOrderBy? text
  if leadingRun after = [] then none else some (leadingRun after, direction? (afterRun after))

def orderClause? : List Char → Option (List Char × Option Direction)
  | [] => none
  | c :: rest => (orderAt? (c :: rest)).or (orderClause? rest)

end VirtualRecords.QueryText
