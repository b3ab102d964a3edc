import VirtualRecords.Condition.Group
import VirtualRecords.QueryText.Blanks
import VirtualRecords.Text.Word

/-! One comparison of a query text: a field, an operator and a literal, with white space
between them where it is needed. The field is a run of characters other than white
space, and as much of the run as possible; it may end where an operator begins, even
inside the run. An operator is a run of `= < > !`, and as much of it as possible, or one
of three words, which must stand apart from other word characters. -/

namespace VirtualRecords.QueryText

open Text

/-- A literal is quoted, and then holds anything but a quote, or is a run of characters
other than white space. -/
inductive Literal where
  | quoted (text : List Char)
  | bare (text : List Char)
deriving DecidableEq

def Literal.toJson : Literal → Json
  | quoted text => .string (String.ofList text)
  | bare text => if sameAsciiLetters text nullWord then .null else .string (String.ofList text)

structure Comparison where
  field : List Char
  operator : List Char
  literal : Literal
deriving DecidableEq

def isSymbol (c : Char) : Bool := c == '=' || c == '<' || c == '>' || c == '!'

/-- The operator that a token stands for; a token of no meaning of its own is equality. -/
def operatorOf (token : List Char) : Operator :=
  if token = ['='] then .eq
  else if token = ['!', '='] ∨ token = ['<', '>'] then .neq
  else if token = ['>'] then .gt
  else if token = ['>', '='] then .gte
  else if token = ['<'] then .lt
  else if token = ['<', '='] then .lte
  else if sameAsciiLetters token likeWord then .contains
  else if sameAsciiLetters token inWord then .isIn
  else if sameAsciiLetters token isWord then .isNull
  else .eq

def Comparison.toLeaf (c : Comparison) : Leaf :=
  .ofOperator (String.ofList c.field) (operatorOf c.operator) c.literal.toJson

def literal? (text : List Char) : Option Literal :=
  match skipBlank text with
  | [] => none
  | c :: rest =>
    if c = '\'' ∧ '\'' ∈ rest then some (.quoted (rest.takeWhile (· != '\'')))
    else some (.bare (leadingRun (c :: rest)))

/-- A symbolic operator, given in reverse, and the literal after it. Symbols at the end of
the operator are given back to the literal for as long as there is none without them. -/
def symbolic? : (symbols rest : List Char) → Option (List Char × Literal)
  | [], _ => none
  | c :: symbols, rest =>
    match literal? rest with
    | some literal => some ((c :: symbols).reverse, literal)
    | none => symbolic? symbols (c :: rest)

/-- What follows one of the operator words, unless a word goes on there. -/
def afterWord? (word text : List Char) : Option (List Char) :=
  (afterKeyword? word text).filter fun rest => !startsWithWordChar rest

def worded? (text : List Char) : Option (List Char × Literal) :=
  [likeWord, inWord, isWord].findSome? fun word => do
    let rest ← afterWord? word text
    return (text.take word.length, ← literal? rest)

def mayStartWord (last : Char) (rest : List Char) : Bool :=
  match rest with
  | [] => false
  | c :: _ => isBlank c || !isWordChar last

def operand? (last : Char) (rest : List Char) : Option (List Char × Literal) :=
  let body := skipBlank rest
  let symbols := body.takeWhile isSymbol
  if symbols ≠ [] then symbolic? symbols.reverse (body.dropWhile isSymbol)
  else if mayStartWord last rest then worded? body
  else none

/-- A comparison with as long a field as possible; the field is given in reverse. -/
def comparisonWith? : (field rest : List Char) → Option Comparison
  | [], _ => none
  | c :: field, rest =>
    match operand? c rest with
    | some (operator, literal) => some { field := (c :: field).reverse, operator, literal }
    | none => comparisonWith? field (c :: rest)

/-- The first comparison of a text, whose field is part of the earliest possible run. -/
def comparison? (text : List Char) : Option Comparison :=
  if _h : skipBlank text = [] then none
  else
    (comparisonWith? (leadingRun (skipBlank text)).reverse (afterRun (skipBlank text))).or
      (comparison? (afterRun (skipBlank text)))
termination_by text.length
decreasing_by
  have whole := congrArg List.length (leadingRun_append_afterRun (skipBlank text))
  have := skipBlank_length_le text
  have := List.length_pos_iff.2 (leadingRun_skipBlank_ne_nil _h)
  simp only [List.length_append] at whole
  omega

end VirtualRecords.QueryText
