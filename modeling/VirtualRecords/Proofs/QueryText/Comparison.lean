import VirtualRecords.Proofs.QueryText.Written
import VirtualRecords.Proofs.Text.Gap
import VirtualRecords.QueryText.Comparison

/-! Reading a phrase. The field is the first run of the phrase, since the operator stands behind
white space and finds its literal; the literal is all that stands between the quotes. Whatever
text a comparison is found in, its literal is read from that text at some place. -/

namespace VirtualRecords.QueryText

open Text

variable {keyword rest : List Char} {operator : Operator}

theorem symbol_of_listed {symbols : List Char} (listed : (symbols, operator) ∈ symbolTable) :
    symbols ≠ [] ∧ symbols.all isSymbol = true ∧ operatorOf symbols = operator := by
  have each : ∀ entry ∈ symbolTable, entry.1 ≠ [] ∧ entry.1.all isSymbol = true ∧
      operatorOf entry.1 = entry.2 := by decide
  exact each _ listed

theorem takeWhile_quote {value : List Char} (noQuote : '\'' ∉ value) (rest : List Char) :
    (value ++ '\'' :: rest).takeWhile (· != '\'') = value := by
  have others : ∀ c ∈ value, (c != '\'') = true := by
    intro c member
    rw [bne_iff_ne]
    rintro rfl
    exact noQuote member
  rw [List.takeWhile_append_of_pos others]
  simp

theorem literal?_gap (gap : Gap) (rest : List Char) :
    literal? (gap.text ++ rest) = literal? rest := by
  rw [literal?, gap.skipBlank_append, literal?]

theorem literal?_inQuotes {value : List Char} (noQuote : '\'' ∉ value) :
    literal? (inQuotes value) = some (.quoted value) := by
  have inside := takeWhile_quote noQuote []
  rw [literal?, inQuotes, skipBlank_of_startsSolid (startsSolid_cons (by decide) _)]
  simp [inside]

theorem isWordChar_of_isBlank {c : Char} (blank : isBlank c = true) : isWordChar c = false := by
  have each : ∀ n ∈ [9, 10, 11, 12, 13, 0x20, 0x85, 0xA0, 0x1680, 0x2000, 0x2001, 0x2002, 0x2003,
      0x2004, 0x2005, 0x2006, 0x2007, 0x2008, 0x2009, 0x200A, 0x2028, 0x2029, 0x202F, 0x205F,
      0x3000], isWordChar (Char.ofNat n) = false := by decide +kernel
  rw [← Char.ofNat_toNat c]
  apply each
  simp only [isBlank, Bool.or_eq_true, Bool.and_eq_true, decide_eq_true_eq, beq_iff_eq] at blank
  simp only [List.mem_cons, List.not_mem_nil, or_false]
  omega

theorem startsWithWordChar_gap (gap : Gap) (rest : List Char) :
    startsWithWordChar (gap.text ++ rest) = false := by
  obtain ⟨c, more, split, blank⟩ := gap.exists_cons
  rw [split, List.cons_append, startsWithWordChar, isWordChar_of_isBlank blank]

theorem afterWord?_spelled (listed : (keyword, operator) ∈ wordTable) (spelled : Spelled keyword)
    (gap : Gap) (rest : List Char) :
    afterWord? keyword (spelled.text ++ (gap.text ++ rest)) = some (gap.text ++ rest) := by
  rw [afterWord?, afterKeyword?_append (spelled.folded (isLower_of_listed listed))]
  simp [startsWithWordChar_gap gap rest]

theorem afterWord?_spelled_eq_none {other : List Char} (listed : (keyword, operator) ∈ wordTable)
    (spelled : Spelled keyword) (apart : ¬ other <+: keyword) (small : other.all Char.isLower = true)
    (gap : Gap) (rest : List Char) :
    afterWord? other (spelled.text ++ (gap.text ++ rest)) = none := by
  obtain ⟨c, more, split, blank⟩ := gap.exists_cons
  have stop : foldLetter c ∉ other := fun member => by
    have solid := solid_of_isLower small (foldLetter c) member
    rw [foldLetter_of_isBlank blank, blank] at solid
    contradiction
  rw [afterWord?, split, List.cons_append, stopsAt_afterKeyword? stop, afterKeyword?_eq,
    spelled.folded (isLower_of_listed listed), if_neg apart]
  rfl

theorem worded?_spelled (listed : (keyword, operator) ∈ wordTable) (spelled : Spelled keyword)
    (gap : Gap) {literal : Literal} (read : literal? rest = some literal) :
    worded? (spelled.text ++ (gap.text ++ rest)) = some (spelled.text, literal) := by
  have found := afterWord?_spelled listed spelled gap rest
  have behindGap : literal? (gap.text ++ rest) = some literal := by rw [literal?_gap, read]
  have taken : (spelled.text ++ (gap.text ++ rest)).take keyword.length = spelled.text := by
    rw [← spelled.length_text, List.take_left]
  have others (other : List Char) (apart : ¬ other <+: keyword)
      (small : other.all Char.isLower = true) :=
    afterWord?_spelled_eq_none listed spelled apart small gap rest
  simp only [wordTable, List.mem_cons, Prod.mk.injEq, List.not_mem_nil, or_false] at listed
  rw [worded?]
  rcases listed with ⟨rfl, _⟩ | ⟨rfl, _⟩ | ⟨rfl, _⟩
  · simp [List.findSome?, found, behindGap, taken]
  · have notLike := others likeWord (by decide) (by decide)
    simp [List.findSome?, found, behindGap, taken, notLike]
  · have notLike := others likeWord (by decide) (by decide)
    have notIn := others inWord (by decide) (by decide)
    simp [List.findSome?, found, behindGap, taken, notLike, notIn]

theorem symbolic?_reverse {symbols : List Char} (nonempty : symbols ≠ []) {literal : Literal}
    (read : literal? rest = some literal) :
    symbolic? symbols.reverse rest = some (symbols, literal) := by
  obtain ⟨c, more, reversed⟩ := List.exists_cons_of_ne_nil (List.reverse_ne_nil_iff.2 nonempty)
  rw [reversed, symbolic?, read, ← reversed, List.reverse_reverse]

theorem operatorOf_spelled (listed : (keyword, operator) ∈ wordTable) (spelled : Spelled keyword) :
    operatorOf spelled.text = operator := by
  have notSymbol (symbols : List Char)
      (apart : ∀ entry ∈ wordTable, symbols.map Char.toLower ≠ entry.1) :
      spelled.text ≠ symbols := by
    rintro rfl
    exact apart _ listed spelled.same
  have same (word : List Char) :
      sameAsciiLetters spelled.text word = (keyword == word.map Char.toLower) := by
    rw [sameAsciiLetters, spelled.same]
  simp only [operatorOf, notSymbol ['='] (by decide), notSymbol ['!', '='] (by decide),
    notSymbol ['<', '>'] (by decide), notSymbol ['>'] (by decide), notSymbol ['>', '='] (by decide),
    notSymbol ['<'] (by decide), notSymbol ['<', '='] (by decide), or_self, if_false, same]
  simp only [wordTable, List.mem_cons, Prod.mk.injEq, List.not_mem_nil, or_false] at listed
  rcases listed with ⟨rfl, rfl⟩ | ⟨rfl, rfl⟩ | ⟨rfl, rfl⟩ <;> rfl

theorem isSymbol_of_isLower {c : Char} (letter : c.toLower.isLower = true) :
    isSymbol c = false := by
  by_contra symbol
  simp only [isSymbol, Bool.not_eq_false, Bool.or_eq_true, beq_iff_eq] at symbol
  rcases symbol with ((rfl | rfl) | rfl) | rfl <;> revert letter <;> decide

theorem takeWhile_isSymbol_spelled (listed : (keyword, operator) ∈ wordTable)
    (spelled : Spelled keyword) : (spelled.text ++ rest).takeWhile isSymbol = [] := by
  obtain ⟨c, more, spelling⟩ :=
    List.exists_cons_of_ne_nil (spelled.ne_nil (ne_nil_of_listed listed))
  have letter : c.toLower.isLower = true :=
    spelled.isLower_toLower (isLower_of_listed listed) (spelling ▸ List.mem_cons_self)
  rw [spelling, List.cons_append,
    List.takeWhile_cons_of_neg (by simp [isSymbol_of_isLower letter])]

theorem operatorOf_text (token : OperatorToken) : operatorOf token.text = token.operator := by
  cases token with
  | symbol symbols operator listed => exact (symbol_of_listed listed).2.2
  | word keyword operator listed spelled => exact operatorOf_spelled listed spelled

theorem isSymbol_of_isBlank {c : Char} (blank : isBlank c = true) : isSymbol c = false := by
  by_contra symbol
  simp only [isSymbol, Bool.not_eq_false, Bool.or_eq_true, beq_iff_eq] at symbol
  rcases symbol with ((rfl | rfl) | rfl) | rfl <;> revert blank <;> decide

theorem operand?_token (token : OperatorToken) (before after : Gap) {literal : Literal}
    (last : Char) (read : literal? rest = some literal) :
    operand? last (before.text ++ (token.text ++ (after.text ++ rest))) =
      some (token.text, literal) := by
  have starts : StartsSolid (token.text ++ (after.text ++ rest)) :=
    token.solid.startsSolid.append token.text_ne_nil _
  rw [operand?, before.skipBlank_append, skipBlank_of_startsSolid starts]
  cases token with
  | symbol symbols operator listed =>
    obtain ⟨nonempty, symbolic, _⟩ := symbol_of_listed listed
    have behindGap : literal? (after.text ++ rest) = some literal := by rw [literal?_gap, read]
    obtain ⟨c, more, split, blank⟩ := after.exists_cons
    rw [split, List.cons_append] at behindGap
    rw [List.all_eq_true] at symbolic
    rw [OperatorToken.text, List.takeWhile_append_of_pos symbolic,
      List.dropWhile_append_of_pos symbolic, split, List.cons_append]
    simp [isSymbol_of_isBlank blank, nonempty, symbolic?_reverse nonempty behindGap]
  | word keyword operator listed spelled =>
    obtain ⟨c, more, split, blank⟩ := before.exists_cons
    have mayStart :
        mayStartWord last (before.text ++ (spelled.text ++ (after.text ++ rest))) = true := by
      rw [split, List.cons_append, mayStartWord, blank, Bool.true_or]
    rw [OperatorToken.text, takeWhile_isSymbol_spelled listed spelled]
    simp [mayStart, worded?_spelled listed spelled after read]

theorem comparisonWith?_reverse {field token : List Char} (nonempty : field ≠ [])
    {literal : Literal} (read : ∀ last, operand? last rest = some (token, literal)) :
    comparisonWith? field.reverse rest = some ⟨field, token, literal⟩ := by
  obtain ⟨c, more, reversed⟩ := List.exists_cons_of_ne_nil (List.reverse_ne_nil_iff.2 nonempty)
  rw [reversed, comparisonWith?, read, ← reversed, List.reverse_reverse]

theorem comparison?_nil : comparison? [] = none := by
  unfold comparison?
  rfl

theorem comparison?_gap (gap : Gap) (rest : List Char) :
    comparison? (gap.text ++ rest) = comparison? rest := by
  conv => lhs; unfold comparison?
  conv => rhs; unfold comparison?
  rw [gap.skipBlank_append]

theorem comparison?_append {run : List Char} (nonempty : run ≠ []) (solid : Solid run)
    (stop : ∀ c ∈ rest.head?, isBlank c = true) :
    comparison? (run ++ rest) = (comparisonWith? run.reverse rest).or (comparison? rest) := by
  obtain ⟨first, behindRun⟩ := leadingRun_append solid stop
  conv => lhs; unfold comparison?
  rw [skipBlank_of_startsSolid (solid.startsSolid.append nonempty rest),
    dif_neg (by simp [nonempty]), first, behindRun]

theorem comparison?_spelled (field : FieldName) (token : OperatorToken) (before after : Gap)
    {value : List Char} (noQuote : '\'' ∉ value) :
    comparison? (field.text ++ (before.text ++ (token.text ++ (after.text ++ inQuotes value)))) =
      some ⟨field.text, token.text, .quoted value⟩ := by
  have read (last : Char) := operand?_token token before after last (literal?_inQuotes noQuote)
  rw [comparison?_append field.nonempty field.solid (before.startsBlank _),
    comparisonWith?_reverse field.nonempty read, Option.some_or]

theorem comparison?_comparisonText (field : FieldName) (token : OperatorToken) {value : List Char}
    (noQuote : '\'' ∉ value) :
    comparison? (comparisonText field token value) =
      some ⟨field.text, token.text, .quoted value⟩ :=
  comparison?_spelled field token .space .space noQuote

theorem toLeaf_comparisonText (field : FieldName) (token : OperatorToken) {value : List Char}
    (noQuote : '\'' ∉ value) :
    (comparison? (comparisonText field token value)).map Comparison.toLeaf =
      some (comparisonLeaf field token value) := by
  rw [comparison?_comparisonText field token noQuote, Option.map_some, Comparison.toLeaf,
    operatorOf_text]
  rfl

theorem toLeaf_comparison (phrase : Phrase) :
    (comparison? phrase.text).map Comparison.toLeaf = some phrase.leaf :=
  toLeaf_comparisonText phrase.field phrase.operator phrase.value.noQuote

variable {text token : List Char} {literal : Literal}

def Literal.ReadIn (literal : Literal) (text : List Char) : Prop :=
  ∃ source, source <:+ text ∧ literal? source = some literal

theorem Literal.ReadIn.of_suffix (readIn : literal.ReadIn rest) (suffix : rest <:+ text) :
    literal.ReadIn text := by
  obtain ⟨source, inside, read⟩ := readIn
  exact ⟨source, inside.trans suffix, read⟩

theorem readIn_of_symbolic? {symbols : List Char}
    (found : symbolic? symbols rest = some (token, literal)) :
    literal.ReadIn (symbols.reverse ++ rest) := by
  induction symbols generalizing rest with
  | nil => contradiction
  | cons c symbols ih =>
    rw [symbolic?] at found
    split at found
    · next read =>
      cases found
      exact ⟨rest, List.suffix_append _ _, read⟩
    · simpa using ih found

theorem readIn_of_worded? (found : worded? text = some (token, literal)) : literal.ReadIn text := by
  obtain ⟨word, _, found⟩ := List.exists_of_findSome?_eq_some found
  simp only [Option.bind_eq_bind, Option.bind_eq_some_iff, Option.pure_def, Option.some.injEq,
    Prod.mk.injEq] at found
  obtain ⟨source, after, _, read, _, rfl⟩ := found
  have keyword := (Option.filter_eq_some_iff.1 after).1
  exact ⟨source, suffix_of_afterKeyword? keyword, read⟩

theorem readIn_of_operand? {last : Char} (found : operand? last text = some (token, literal)) :
    literal.ReadIn text := by
  have body : skipBlank text <:+ text := List.dropWhile_suffix isBlank
  rw [operand?] at found
  split at found
  · have readIn := readIn_of_symbolic? found
    rw [List.reverse_reverse, List.takeWhile_append_dropWhile] at readIn
    exact readIn.of_suffix body
  · split at found
    · exact (readIn_of_worded? found).of_suffix body
    · contradiction

theorem readIn_of_comparisonWith? {field : List Char} {comparison : Comparison}
    (found : comparisonWith? field rest = some comparison) :
    comparison.literal.ReadIn (field.reverse ++ rest) := by
  induction field generalizing rest with
  | nil => contradiction
  | cons c field ih =>
    rw [comparisonWith?] at found
    split at found
    · next read =>
      cases found
      exact (readIn_of_operand? read).of_suffix (List.suffix_append _ _)
    · simpa using ih found

theorem readIn_of_comparison? {comparison : Comparison}
    (found : comparison? text = some comparison) : comparison.literal.ReadIn text := by
  fun_induction comparison? text with
  | case1 => contradiction
  | case2 text nonempty ih =>
    have body : skipBlank text <:+ text := List.dropWhile_suffix isBlank
    have behind : afterRun (skipBlank text) <:+ skipBlank text := List.dropWhile_suffix _
    rcases Option.or_eq_some_iff.1 found with here | ⟨_, later⟩
    · have readIn := readIn_of_comparisonWith? here
      rw [List.reverse_reverse, leadingRun_append_afterRun] at readIn
      exact readIn.of_suffix body
    · exact (ih later).of_suffix (behind.trans body)

/-- A literal that is text stands between quotes, unless it is free of white space. -/
theorem stands_of_literal? {value : List Char} (found : literal? text = some literal)
    (isText : literal.toJson = .string (String.ofList value)) :
    inQuotes value <:+: text ∨ Solid value ∧ value <:+: text := by
  have body : skipBlank text <:+ text := List.dropWhile_suffix isBlank
  rw [literal?] at found
  split at found
  · contradiction
  · next c rest split =>
    rw [split] at body
    split at found
    · next quotes =>
      obtain ⟨rfl, closing⟩ := quotes
      obtain ⟨inside, more, rfl, noQuote⟩ := List.eq_append_cons_of_mem closing
      cases found
      rw [takeWhile_quote noQuote, Literal.toJson, Json.string.injEq, String.ofList_inj] at isText
      subst isText
      have ahead : inQuotes inside <+: '\'' :: (inside ++ '\'' :: more) :=
        ⟨more, by simp [inQuotes]⟩
      exact .inl (ahead.isInfix.trans body.isInfix)
    · cases found
      have run : leadingRun (c :: rest) <+: c :: rest := List.takeWhile_prefix _
      have solid : Solid (leadingRun (c :: rest)) := solid_leadingRun _
      rw [Literal.toJson] at isText
      split at isText
      · contradiction
      · rw [Json.string.injEq, String.ofList_inj] at isText
        subst isText
        exact .inr ⟨solid, run.isInfix.trans body.isInfix⟩

end VirtualRecords.QueryText
