import VirtualRecords.Condition.Group
import VirtualRecords.Proofs.Text.Gap
import VirtualRecords.Proofs.Text.Keyword
import VirtualRecords.QueryText.Blanks

/-! Flat clauses as they are written, with one space between two tokens: comparisons of a field
with a quoted value, joined by connectives, and an order. Each token carries what keeps it
apart from the tokens around it. -/

namespace VirtualRecords.QueryText

open Text

def isNameChar (c : Char) : Bool :=
  !(isBlank c || ['=', '<', '>', '!', '\'', '(', ')'].contains c)

structure FieldName where
  text : List Char
  nonempty : text ≠ []
  plain : text.all isNameChar = true

def symbolTable : List (List Char × Operator) := [
  (['='], .eq), (['!', '='], .neq), (['<', '>'], .neq),
  (['>'], .gt), (['>', '='], .gte), (['<'], .lt), (['<', '='], .lte)]

def wordTable : List (List Char × Operator) :=
  [(likeWord, .contains), (inWord, .isIn), (isWord, .isNull)]

inductive OperatorToken where
  | symbol (text : List Char) (operator : Operator) (listed : (text, operator) ∈ symbolTable)
  | word (keyword : List Char) (operator : Operator) (listed : (keyword, operator) ∈ wordTable)
      (spelled : Spelled keyword)

def OperatorToken.text : OperatorToken → List Char
  | symbol text _ _ => text
  | word _ _ _ spelled => spelled.text

def OperatorToken.operator : OperatorToken → Operator
  | symbol _ operator _ => operator
  | word _ operator _ _ => operator

def inQuotes (value : List Char) : List Char := '\'' :: (value ++ ['\''])

def comparisonFront (field : FieldName) (token : OperatorToken) : List Char :=
  field.text ++ ' ' :: (token.text ++ [' '])

def comparisonText (field : FieldName) (token : OperatorToken) (value : List Char) : List Char :=
  field.text ++ ' ' :: (token.text ++ ' ' :: inQuotes value)

def comparisonLeaf (field : FieldName) (token : OperatorToken) (value : List Char) : Leaf :=
  .ofOperator (String.ofList field.text) token.operator (.string (String.ofList value))

def isValueChar (c : Char) : Bool := !(['\'', '(', ')', '\n'].contains c)

/-- A value, without its quotes. A word of it must not pass for a connective, nor the end of one
for the word before `BY`. -/
structure QuotedText where
  text : List Char
  plain : text.all isValueChar = true
  free : ∀ word ∈ words text, word.map Char.toLower ∉ [andWord, orWord] ∧
    ¬ orderWord <:+ word.map Char.toLower

structure Phrase where
  field : FieldName
  operator : OperatorToken
  value : QuotedText

namespace Phrase

variable (phrase : Phrase)

def text : List Char := comparisonText phrase.field phrase.operator phrase.value.text

def leaf : Leaf := comparisonLeaf phrase.field phrase.operator phrase.value.text

end Phrase

def connectiveWord : Connective → List Char
  | .all => andWord
  | .any => orWord

/-- `OR` if there are connectives and all of them are. -/
def commonConnective (connectives : List Connective) : Connective :=
  if connectives ≠ [] ∧ ∀ connective ∈ connectives, connective = .any then .any else .all

structure Link where
  connective : Connective
  word : Spelled (connectiveWord connective)
  phrase : Phrase

def Link.text (link : Link) : List Char := ' ' :: (link.word.text ++ ' ' :: link.phrase.text)

def directionWord : Direction → List Char
  | .ascending => ascendingWord
  | .descending => descendingWord

structure WrittenDirection where
  direction : Direction
  word : Spelled (directionWord direction)

structure OrderPhrase where
  first : Spelled orderWord
  second : Spelled byWord
  field : List Char
  nonempty : field ≠ []
  solid : Solid field
  written? : Option WrittenDirection

namespace OrderPhrase

variable (order : OrderPhrase)

def tail : List Char :=
  match order.written? with
  | none => []
  | some written => ' ' :: written.word.text

def text : List Char :=
  order.first.text ++ ' ' :: (order.second.text ++ ' ' :: (order.field ++ order.tail))

def directionTokens : List (List Char) :=
  (order.written?.map fun written => written.word.text).toList

def laterTokens : List (List Char) := order.second.text :: order.field :: order.directionTokens

def direction : Direction := (order.written?.map WrittenDirection.direction).getD .ascending

end OrderPhrase

def orderSuffix : Option OrderPhrase → List Char
  | none => []
  | some order => ' ' :: order.text

def orderTokens : Option OrderPhrase → List (List Char)
  | none => []
  | some order => order.first.text :: order.laterTokens

def clauseText (head : Spelled whereWord) (conditions : List Char) (order? : Option OrderPhrase) :
    List Char :=
  head.text ++ ' ' :: (conditions ++ orderSuffix order?)

structure FlatClause where
  head : Spelled whereWord
  first : Phrase
  links : List Link
  order? : Option OrderPhrase

namespace FlatClause

variable (clause : FlatClause)

def conditions : List Char := clause.first.text ++ clause.links.flatMap Link.text

def text : List Char := clauseText clause.head clause.conditions clause.order?

def phrases : List Phrase := clause.first :: clause.links.map Link.phrase

def leaves : List Leaf := clause.phrases.map Phrase.leaf

def connective : Connective := commonConnective (clause.links.map Link.connective)

end FlatClause

variable {keyword : List Char} {operator : Operator}

theorem FieldName.solid (field : FieldName) : Solid field.text := by
  intro c member
  have plain := List.all_eq_true.1 field.plain c member
  rw [isNameChar, Bool.not_eq_true', Bool.or_eq_false_iff] at plain
  exact plain.1

theorem ne_nil_of_listed (listed : (keyword, operator) ∈ wordTable) : keyword ≠ [] := by
  have each : ∀ entry ∈ wordTable, entry.1 ≠ [] := by decide
  exact each _ listed

theorem isLower_of_listed (listed : (keyword, operator) ∈ wordTable) :
    keyword.all Char.isLower = true := by
  have each : ∀ entry ∈ wordTable, entry.1.all Char.isLower = true := by decide
  exact each _ listed

theorem connectiveWord_ne_nil (connective : Connective) : connectiveWord connective ≠ [] := by
  cases connective <;> decide

theorem isLower_connectiveWord (connective : Connective) :
    (connectiveWord connective).all Char.isLower = true := by
  cases connective <;> decide

theorem directionWord_ne_nil (direction : Direction) : directionWord direction ≠ [] := by
  cases direction <;> decide

theorem isLower_directionWord (direction : Direction) :
    (directionWord direction).all Char.isLower = true := by
  cases direction <;> decide

theorem OperatorToken.text_ne_nil (token : OperatorToken) : token.text ≠ [] := by
  cases token with
  | symbol text operator listed =>
    have each : ∀ entry ∈ symbolTable, entry.1 ≠ [] := by decide
    exact each _ listed
  | word keyword operator listed spelled => exact spelled.ne_nil (ne_nil_of_listed listed)

theorem OperatorToken.solid (token : OperatorToken) : Solid token.text := by
  cases token with
  | symbol text operator listed =>
    have each : ∀ entry ∈ symbolTable, Solid entry.1 := by decide
    exact each _ listed
  | word keyword operator listed spelled => exact spelled.solid (isLower_of_listed listed)

def isInline (c : Char) : Bool := !(['\n', '(', ')'].contains c)

theorem all_isInline {kind : Char → Bool} {text : List Char}
    (apart : ['\n', '(', ')'].any kind = false) (whole : text.all kind = true) :
    text.all isInline = true := by
  refine List.all_eq_true.2 fun c member => ?_
  have here := List.all_eq_true.1 whole c member
  rw [isInline, Bool.not_eq_true', List.contains_eq_mem, decide_eq_false_iff_not]
  exact fun special => List.any_eq_false.1 apart c special here

theorem not_mem_of_isInline {text : List Char} {c : Char} (inline : text.all isInline = true)
    (apart : isInline c = false) : c ∉ text := by
  intro member
  rw [List.all_eq_true.1 inline c member] at apart
  contradiction

theorem isInline_spelled (small : keyword.all Char.isLower = true) (spelled : Spelled keyword) :
    spelled.text.all isInline = true := by
  have letters : spelled.text.all (·.toLower.isLower) = true :=
    List.all_eq_true.2 fun _ member => spelled.isLower_toLower small member
  exact all_isInline (by decide) letters

theorem FieldName.inline (field : FieldName) : field.text.all isInline = true :=
  all_isInline (by decide) field.plain

theorem QuotedText.noQuote (value : QuotedText) : '\'' ∉ value.text := by
  intro member
  have plain := List.all_eq_true.1 value.plain '\'' member
  contradiction

theorem QuotedText.inline (value : QuotedText) : value.text.all isInline = true :=
  all_isInline (by decide) value.plain

theorem OperatorToken.inline (token : OperatorToken) : token.text.all isInline = true := by
  cases token with
  | symbol text operator listed =>
    have each : ∀ entry ∈ symbolTable, entry.1.all isInline = true := by decide
    exact each _ listed
  | word keyword operator listed spelled =>
    exact isInline_spelled (isLower_of_listed listed) spelled

theorem inline_comparisonFront (field : FieldName) (token : OperatorToken) :
    (comparisonFront field token).all isInline = true := by
  simp only [comparisonFront, List.all_append, List.all_cons, field.inline, token.inline]
  rfl

theorem Phrase.inline (phrase : Phrase) : phrase.text.all isInline = true := by
  simp only [text, comparisonText, inQuotes, List.all_append, List.all_cons, phrase.field.inline,
    phrase.operator.inline, phrase.value.inline]
  rfl

theorem Link.inline (link : Link) : link.text.all isInline = true := by
  have word := isInline_spelled (isLower_connectiveWord link.connective) link.word
  simp only [text, List.all_append, List.all_cons, word, link.phrase.inline]
  rfl

theorem FlatClause.inline (clause : FlatClause) : clause.conditions.all isInline = true := by
  have links : (clause.links.flatMap Link.text).all isInline = true := by
    rw [List.all_flatMap, List.all_eq_true]
    exact fun link _ => link.inline
  rw [conditions, List.all_append, clause.first.inline, links, Bool.and_self]

section Comparison

variable (field : FieldName) (token : OperatorToken) (value : List Char)

theorem comparisonText_ne_nil : comparisonText field token value ≠ [] := by
  simp [comparisonText]

theorem startsSolid_comparisonText : StartsSolid (comparisonText field token value) :=
  field.solid.startsSolid.append field.nonempty _

theorem comparisonText_eq : comparisonText field token value =
    comparisonFront field token ++ ['\''] ++ (value ++ ['\'']) := by
  simp [comparisonText, comparisonFront, inQuotes]

theorem endsSolid_comparisonText : EndsSolid (comparisonText field token value) := by
  rw [comparisonText_eq, ← List.append_assoc]
  exact endsSolid_concat (by decide) _

end Comparison

namespace Phrase

variable (phrase : Phrase)

theorem text_ne_nil : phrase.text ≠ [] := comparisonText_ne_nil _ _ _

theorem startsSolid : StartsSolid phrase.text := startsSolid_comparisonText _ _ _

theorem endsSolid : EndsSolid phrase.text := endsSolid_comparisonText _ _ _

end Phrase

namespace OrderPhrase

variable (order : OrderPhrase)

theorem text_ne_nil : order.text ≠ [] := by
  simp [text]

theorem text_eq_behind :
    order.text = order.first.text ++ behind (fun _ => .space) order.laterTokens := by
  rw [text, tail, laterTokens, directionTokens]
  cases order.written? <;> simp [behind, Gap.space]

theorem solid_of_mem_directionTokens {token : List Char} (member : token ∈ order.directionTokens) :
    token ≠ [] ∧ Solid token := by
  rw [directionTokens, Option.mem_toList, Option.map_eq_some_iff] at member
  obtain ⟨written, _, rfl⟩ := member
  exact ⟨written.word.ne_nil (directionWord_ne_nil written.direction),
    written.word.solid (isLower_directionWord written.direction)⟩

theorem endsSolid_tail : EndsSolid order.tail := by
  rw [tail]
  split
  · rintro c ⟨⟩
  · next written _ =>
    have solid := written.word.solid (isLower_directionWord written.direction)
    have nonempty := written.word.ne_nil (directionWord_ne_nil written.direction)
    exact solid.endsSolid.after nonempty [' ']

theorem endsSolid : EndsSolid order.text := by
  have last : EndsSolid (order.field ++ order.tail) :=
    order.solid.endsSolid.append order.endsSolid_tail
  have nonempty : order.field ++ order.tail ≠ [] := by simp [order.nonempty]
  have second := last.after nonempty (order.second.text ++ [' '])
  have first := second.after (by simp) (order.first.text ++ [' '])
  simpa [text] using first

end OrderPhrase

section Clause

variable (head : Spelled whereWord) (order? : Option OrderPhrase) {conditions : List Char}

theorem orderSuffix_eq_behind :
    orderSuffix order? = behind (fun _ => .space) (orderTokens order?) := by
  cases order? with
  | none => rfl
  | some order =>
    rw [orderSuffix, order.text_eq_behind]
    rfl

theorem solid_of_mem_orderTokens {token : List Char} (member : token ∈ orderTokens order?) :
    token ≠ [] ∧ Solid token := by
  cases order? with
  | none => contradiction
  | some order =>
    rw [orderTokens, OrderPhrase.laterTokens, List.mem_cons, List.mem_cons, List.mem_cons] at member
    rcases member with rfl | rfl | rfl | written
    · exact ⟨order.first.ne_nil (by decide), order.first.solid (by decide)⟩
    · exact ⟨order.second.ne_nil (by decide), order.second.solid (by decide)⟩
    · exact ⟨order.nonempty, order.solid⟩
    · exact order.solid_of_mem_directionTokens written

theorem endsSolid_orderSuffix : EndsSolid (orderSuffix order?) := by
  cases order? with
  | none => rintro c ⟨⟩
  | some order => exact order.endsSolid.after order.text_ne_nil [' ']

theorem startsSolid_clauseText (conditions : List Char) :
    StartsSolid (clauseText head conditions order?) :=
  (head.solid (by decide)).startsSolid.append (head.ne_nil (by decide)) _

theorem endsSolid_clauseText (nonempty : conditions ≠ []) (ends : EndsSolid conditions) :
    EndsSolid (clauseText head conditions order?) := by
  have rest := ends.append (endsSolid_orderSuffix order?)
  have whole := rest.after (by simp [nonempty]) (head.text ++ [' '])
  simpa [clauseText] using whole

end Clause

theorem Link.endsSolid (link : Link) : EndsSolid link.text := by
  have whole :=
    link.phrase.endsSolid.after link.phrase.text_ne_nil (' ' :: (link.word.text ++ [' ']))
  simpa [text] using whole

namespace FlatClause

variable (clause : FlatClause)

theorem conditions_ne_nil : clause.conditions ≠ [] := by
  simp [conditions, clause.first.text_ne_nil]

theorem startsSolid_conditions : StartsSolid clause.conditions :=
  clause.first.startsSolid.append clause.first.text_ne_nil _

theorem endsSolid_conditions : EndsSolid clause.conditions :=
  clause.first.endsSolid.append (endsSolid_flatMap Link.endsSolid clause.links)

end FlatClause
end VirtualRecords.QueryText
