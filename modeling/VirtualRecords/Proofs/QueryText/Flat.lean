import VirtualRecords.Proofs.QueryText.Clause
import VirtualRecords.Proofs.QueryText.Comparison
import VirtualRecords.Proofs.QueryText.Connectives
import VirtualRecords.QueryText.Reading

/-! Flat clauses are read as they are written. The quotes around each value keep the searches
apart: within a value the words decide, and before a value they are the word that leads to the
phrase, the field and the operator. -/

namespace VirtualRecords.QueryText

open Text

variable {lead : List Char}

theorem OperatorToken.not_reserved (token : OperatorToken) :
    token.text.map Char.toLower ∉ [andWord, orWord, byWord] := by
  cases token with
  | symbol text operator listed =>
    have each : ∀ entry ∈ symbolTable, entry.1.map Char.toLower ∉ [andWord, orWord, byWord] := by
      decide
    exact each _ listed
  | word keyword operator listed spelled =>
    have each : ∀ entry ∈ wordTable, entry.1 ∉ [andWord, orWord, byWord] := by decide
    rw [text, spelled.same]
    exact each _ listed

theorem OperatorToken.words_spaced (token : OperatorToken) :
    words (' ' :: (token.text ++ [' '])) = [token.text] := by
  rw [words_cons_blank (by decide), words_append_blank (by decide), words_nil, List.append_nil,
    words_of_solid token.text_ne_nil token.solid]

theorem words_comparisonFront (field : FieldName) (token : OperatorToken) :
    words (comparisonFront field token) = [field.text, token.text] := by
  have first := words_of_solid field.nonempty field.solid
  have blank : isBlank ' ' = true := by decide
  rw [comparisonFront, words_append_blank blank, first, ← words_cons_blank blank,
    token.words_spaced, List.singleton_append]

theorem QuotedText.orderFree (value : QuotedText) : OrderFree value.text := by
  refine List.Pairwise.isChain (List.pairwise_of_forall_mem_list fun word member next _ ends => ?_)
  exact absurd ends (value.free word member).2

/-- The field may be `BY`, but the word that leads to the phrase does not end in `ORDER`; and the
field may end in `ORDER`, but no operator is `BY`. -/
theorem orderFree_front (field : FieldName) (token : OperatorToken) (solid : Solid lead)
    (nonempty : lead ≠ []) (apart : ¬ orderWord <:+ lead.map Char.toLower) :
    OrderFree (lead ++ ' ' :: comparisonFront field token) := by
  rw [OrderFree, words_append_blank (by decide), words_of_solid nonempty solid,
    words_comparisonFront]
  refine List.isChain_cons_cons.2 ⟨fun ends => absurd ends apart, List.isChain_pair.2 fun _ => ?_⟩
  intro same
  exact token.not_reserved (by simp [same])

theorem absent_afterOrderBy?_comparisonText (field : FieldName) (token : OperatorToken)
    {value : List Char} (free : Nowhere afterOrderBy? value) (solid : Solid lead)
    (nonempty : lead ≠ []) (apart : ¬ orderWord <:+ lead.map Char.toLower) (rest : List Char) :
    Absent afterOrderBy? (lead ++ ' ' :: comparisonText field token value) rest := by
  have split : lead ++ ' ' :: comparisonText field token value =
      (lead ++ ' ' :: comparisonFront field token) ++ ['\''] ++ (value ++ ['\'']) := by
    simp [comparisonText_eq]
  have fenced : Fenced '\'' afterOrderBy? :=
    (stopsAt_afterOrderBy? (by decide) (by decide)).fenced
  have frontFree := orderFree_front field token solid nonempty apart
  rw [split]
  exact absent_append.2 ⟨fenced.absent frontFree.nowhere _, fenced.absent free rest⟩

theorem absent_phrase (phrase : Phrase) (solid : Solid lead) (nonempty : lead ≠ [])
    (apart : ¬ orderWord <:+ lead.map Char.toLower) (rest : List Char) :
    Absent afterOrderBy? (lead ++ ' ' :: phrase.text) rest :=
  absent_afterOrderBy?_comparisonText phrase.field phrase.operator phrase.value.orderFree.nowhere
    solid nonempty apart rest

theorem not_orderWord_connective {connective : Connective}
    (word : Spelled (connectiveWord connective)) :
    ¬ orderWord <:+ word.text.map Char.toLower := by
  rw [word.same]
  cases connective <;> decide

theorem absent_link (link : Link) (rest : List Char) : Absent afterOrderBy? link.text rest := by
  have small := isLower_connectiveWord link.connective
  have nonempty := link.word.ne_nil (connectiveWord_ne_nil link.connective)
  exact absent_cons.2 ⟨rfl, absent_phrase link.phrase (link.word.solid small) nonempty
    (not_orderWord_connective link.word) rest⟩

theorem not_orderWord_where (head : Spelled whereWord) :
    ¬ orderWord <:+ head.text.map Char.toLower := by
  rw [head.same]
  decide

namespace FlatClause

variable (clause : FlatClause)

theorem legible : Legible clause.conditions where
  nonempty := clause.conditions_ne_nil
  starts := clause.startsSolid_conditions
  ends := clause.endsSolid_conditions
  oneLine := not_mem_of_isInline clause.inline (by decide)
  unordered head rest := by
    have first := absent_phrase clause.first (head.solid (by decide)) (head.ne_nil (by decide))
      (not_orderWord_where head) (clause.links.flatMap Link.text ++ rest)
    have whole := absent_append.2 ⟨first, absent_flatMap absent_link clause.links rest⟩
    simpa [conditions] using whole

end FlatClause

/-- The field may be any word, since no white space stands before it. -/
theorem absent_connectiveAt?_comparisonText (field : FieldName) (token : OperatorToken)
    {value : List Char} (free : Nowhere connectiveAt? value) (rest : List Char) :
    Absent connectiveAt? (comparisonText field token value) rest := by
  have split : comparisonText field token value =
      field.text ++ ((' ' :: (token.text ++ [' '])) ++ ['\''] ++ (value ++ ['\''])) := by
    simp [comparisonText_eq, comparisonFront]
  have operatorFree : ConnectiveFree (' ' :: (token.text ++ [' '])) := by
    intro word member
    rw [token.words_spaced, List.mem_singleton] at member
    rw [member]
    exact fun reserved => token.not_reserved (List.mem_append_left [byWord] reserved)
  have fenced := fenced_connectiveAt?
  rw [split]
  refine absent_append.2 ⟨absent_of_solid field.solid _, absent_append.2 ⟨?_, ?_⟩⟩
  · exact fenced.absent operatorFree.nowhere _
  · exact fenced.absent free rest

theorem Phrase.unbroken (phrase : Phrase) : Unbroken phrase.text where
  nonempty := phrase.text_ne_nil
  starts := phrase.startsSolid
  absent := by
    have valueFree : ConnectiveFree phrase.value.text :=
      fun word member => (phrase.value.free word member).1
    exact absent_connectiveAt?_comparisonText phrase.field phrase.operator valueFree.nowhere

theorem cut_conditions (clause : FlatClause) :
    cut clause.conditions =
      (clause.first.text, clause.links.map fun link => (link.connective, link.phrase.text)) :=
  cut_joined Link.connective Link.word (fun link => link.phrase.text)
    (fun link => link.phrase.unbroken) clause.first.unbroken clause.links

theorem parts_conditions (clause : FlatClause) :
    parts clause.conditions = clause.phrases.map Phrase.text := by
  rw [parts, cut_conditions, FlatClause.phrases]
  simp

theorem connectiveOf_eq (text : List Char) :
    connectiveOf text = commonConnective ((cut text).2.map Prod.fst) := by
  rw [connectiveOf, commonConnective]
  simp only [List.all_eq_true, decide_eq_true_eq]

theorem connectiveOf_conditions (clause : FlatClause) :
    connectiveOf clause.conditions = clause.connective := by
  rw [connectiveOf_eq, cut_conditions, FlatClause.connective, List.map_map]
  rfl

theorem isPlaceholder_of_quote {part : List Char} (starts : StartsSolid part)
    (ends : EndsSolid part) (quoted : '\'' ∈ part) : isPlaceholder part = false := by
  rw [isPlaceholder, trim_of_solid starts ends, sameAsciiLetters, beq_eq_false_iff_ne]
  intro same
  have quote : '\'' ∈ part.map Char.toLower := List.mem_map.2 ⟨'\'', quoted, rfl⟩
  rw [same] at quote
  revert quote
  decide

theorem isPlaceholder_comparisonText (field : FieldName) (token : OperatorToken)
    (value : List Char) : isPlaceholder (comparisonText field token value) = false :=
  isPlaceholder_of_quote (startsSolid_comparisonText field token value)
    (endsSolid_comparisonText field token value) (by simp [comparisonText, inQuotes])

def leafOf? (part : List Char) : Option Leaf :=
  if isPlaceholder part then none else (comparison? part).map Comparison.toLeaf

theorem leavesOf_eq_filterMap (text : List Char) :
    leavesOf text = (parts text).filterMap leafOf? := by
  rw [leavesOf, List.filterMap_filter]
  congr 1
  funext part
  cases kept : isPlaceholder part <;> simp [leafOf?, kept]

theorem leafOf?_phrase (phrase : Phrase) : leafOf? phrase.text = some phrase.leaf := by
  have kept : isPlaceholder phrase.text = false := isPlaceholder_comparisonText _ _ _
  rw [leafOf?, kept, if_neg Bool.false_ne_true, toLeaf_comparison]

theorem leavesOf_conditions (clause : FlatClause) : leavesOf clause.conditions = clause.leaves := by
  rw [leavesOf_eq_filterMap, parts_conditions, FlatClause.leaves, List.filterMap_map]
  simp [leafOf?_phrase]

theorem extract_of_eq_none {text : List Char} (plain : firstBracket? text = none) :
    extract text = ([], text) := by
  rw [extract]
  split
  · rfl
  · next found => rw [plain] at found; contradiction

theorem extract_of_eq_some {text inner : List Char} (found : firstBracket? text = some inner) :
    extract text =
      (inner :: (extract (replaceAll (bracketed inner) placeholder text)).1,
        (extract (replaceAll (bracketed inner) placeholder text)).2) := by
  conv => lhs; rw [extract]
  split
  · next fails => rw [fails] at found; contradiction
  · next other here =>
    rw [found] at here
    cases here
    rfl

theorem extract_eq {text : List Char} (plain : '(' ∉ text) : extract text = ([], text) := by
  refine extract_of_eq_none (Option.eq_none_iff_forall_ne_some.2 fun inner found => ?_)
  exact plain ((firstBracket?_isInfix found).subset List.mem_cons_self)

theorem readConditions_conditions (clause : FlatClause) :
    readConditions clause.conditions .empty = ⟨clause.connective, clause.leaves, []⟩ := by
  have plain : '(' ∉ clause.conditions := not_mem_of_isInline clause.inline (by decide)
  rw [readConditions, extract_eq plain]
  simp only [List.foldl_nil, readFlat, connectiveOf_conditions, leavesOf_conditions]
  rfl

theorem Legible.parse_clauseText {conditions : List Char} (legible : Legible conditions)
    (head : Spelled whereWord) (order? : Option OrderPhrase) :
    let reading := parse (String.ofList (clauseText head conditions order?))
    reading.root = readConditions conditions .empty ∧
      reading.order?.map Prod.fst = order?.map (fun order => String.ofList order.field) ∧
      reading.direction? = order?.map OrderPhrase.direction := by
  intro reading
  have read : reading = ⟨readConditions conditions .empty, order?.map fun order =>
      (String.ofList order.field, order.written?.map WrittenDirection.direction)⟩ := by
    change QueryText.read _ _ = _
    rw [QueryText.read, String.toList_ofList, legible.trim_clauseText,
      legible.whereClause?_clauseText, legible.orderClause?_clauseText, Option.map_map]
    rfl
  rw [read, Reading.direction?, Option.map_map, Option.map_map]
  exact ⟨rfl, rfl, rfl⟩

/-- A flat clause is read back from its text: its comparisons in their order and nothing nested,
one connective for all of them, and the order with its direction, ascending if none is written. -/
theorem parse_text (clause : FlatClause) :
    let reading := parse (String.ofList clause.text)
    reading.root = ⟨clause.connective, clause.leaves, []⟩ ∧
      reading.order?.map Prod.fst = clause.order?.map (fun order => String.ofList order.field) ∧
      reading.direction? = clause.order?.map OrderPhrase.direction := by
  intro reading
  rw [← readConditions_conditions]
  exact clause.legible.parse_clauseText clause.head clause.order?

def sampleClause : FlatClause where
  head := ⟨['w', 'h', 'e', 'r', 'e'], rfl⟩
  first := {
    field := ⟨['A', 'N', 'D'], by decide, by decide⟩
    operator := .word likeWord .contains (by decide) ⟨['L', 'i', 'k', 'e'], rfl⟩
    value := ⟨['a', ' ', 'b'], by decide, by decide⟩ }
  links := [{
    connective := .any
    word := ⟨['O', 'r'], rfl⟩
    phrase := {
      field := ⟨['n'], by decide, by decide⟩
      operator := .symbol ['>', '='] .gte (by decide)
      value := ⟨['3'], by decide, by decide⟩ } }]
  order? := some {
    first := ⟨['O', 'r', 'd', 'e', 'r'], rfl⟩
    second := ⟨['B', 'Y'], rfl⟩
    field := ['s']
    nonempty := by decide
    solid := by decide
    written? := some ⟨.descending, ⟨['D', 'e', 's', 'c'], rfl⟩⟩ }

theorem parse_text_sampleClause :
    let reading := parse "where AND Like 'a b' Or n >= '3' Order BY s Desc"
    reading.root = ⟨.any, [.ofOperator "AND" .contains (.string "a b"),
        .ofOperator "n" .gte (.string "3")], []⟩ ∧
      reading.order?.map Prod.fst = some "s" ∧ reading.direction? = some .descending :=
  parse_text sampleClause

end VirtualRecords.QueryText
