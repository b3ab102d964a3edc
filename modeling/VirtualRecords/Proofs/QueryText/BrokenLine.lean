import VirtualRecords.Proofs.QueryText.Accepted
import VirtualRecords.Proofs.QueryText.Spaced

/-! Conditions that run over the end of a line. They are not read behind the word `WHERE` at the
head of the clause. A later token may end in that word, and then the conditions behind it are read,
but these lack a field at least. So the clause is never read as it is meant, and the gaps in which
a line feed does harm are exactly those between the tokens of the conditions. -/

namespace VirtualRecords.QueryText

open Text

variable {token rest conditions : List Char} {tokens : List (List Char)}

theorem whereClause?_skipGap (gap : Gap) (rest : List Char) :
    whereClause? (gap.text ++ rest) = whereClause? rest := by
  have blank := gap.blank
  generalize gap.text = text at blank ⊢
  induction text with
  | nil => rfl
  | cons c text ih =>
    rw [List.all_cons, Bool.and_eq_true] at blank
    have apart : foldLetter c ≠ 'w' := by
      rw [foldLetter_of_isBlank blank.1]
      rintro rfl
      exact absurd blank.1 (by decide)
    have fails : whereAt? (c :: (text ++ rest)) = none := by
      simp [whereAt?, whereWord, afterKeyword?, apart]
    rw [List.cons_append, whereClause?, fails, Option.none_or, ih blank.2]

theorem exists_of_whereAt?_eq_some {text : List Char} (found : whereAt? text = some conditions) :
    ∃ head : Spelled whereWord, ∃ after, text = head.text ++ after ∧
      ∀ c ∈ after.head?, isBlank c = true := by
  obtain ⟨after, keyword, behindWord⟩ := Option.bind_eq_some_iff.1 found
  obtain ⟨word, folded, rfl⟩ := exists_of_afterKeyword?_eq_some keyword
  refine ⟨⟨word, map_toLower_of_map_foldLetter folded (by decide) (by decide)⟩, after, rfl, ?_⟩
  cases after with
  | nil => contradiction
  | cons c after =>
    rintro _ ⟨⟩
    by_contra solid
    rw [List.takeWhile_cons_of_neg solid] at behindWord
    contradiction

theorem whereClause?_token (solid : Solid token) (stop : ∀ c ∈ rest.head?, isBlank c = true)
    (found : whereClause? (token ++ rest) = some conditions) :
    (∃ head : Spelled whereWord, head.text <:+ token ∧
      whereAt? (head.text ++ rest) = some conditions) ∨ whereClause? rest = some conditions := by
  induction token with
  | nil => exact .inr found
  | cons c token ih =>
    rw [List.cons_append, whereClause?, Option.or_eq_some_iff] at found
    rcases found with here | ⟨_, later⟩
    · left
      obtain ⟨head, after, split, blank⟩ := exists_of_whereAt?_eq_some here
      obtain ⟨run, behindRun⟩ := leadingRun_append solid stop
      obtain ⟨word, behindWord⟩ := leadingRun_append (head.solid (by decide)) blank
      rw [List.cons_append, split, word] at run
      rw [List.cons_append, split, behindWord] at behindRun
      exact ⟨head, run ▸ List.suffix_refl _, by rw [← behindRun, ← split, here]⟩
    · rcases ih (fun d member => solid d (List.mem_cons_of_mem c member)) later with
        ⟨head, suffix, read⟩ | further
      · exact .inl ⟨head, suffix.trans (List.suffix_cons c token), read⟩
      · exact .inr further

theorem whereClause?_behind_cons {gaps : ℕ → Gap} (solid : Solid token)
    (found : whereClause? (behind gaps (token :: tokens)) = some conditions) :
    (∃ head : Spelled whereWord, head.text <:+ token ∧
      whereAt? (head.text ++ behind (fun i => gaps (i + 1)) tokens) = some conditions) ∨
    whereClause? (behind (fun i => gaps (i + 1)) tokens) = some conditions := by
  rw [behind, whereClause?_skipGap] at found
  exact whereClause?_token solid (behind_startsBlank _ tokens) found

theorem whereClause?_behind_skip {gaps : ℕ → Gap} (solid : Solid token)
    (apart : ¬ whereWord <:+ token.map Char.toLower)
    (found : whereClause? (behind gaps (token :: tokens)) = some conditions) :
    whereClause? (behind (fun i => gaps (i + 1)) tokens) = some conditions := by
  rcases whereClause?_behind_cons solid found with ⟨head, suffix, _⟩ | later
  · exact absurd (head.suffix_map suffix) apart
  · exact later

theorem prefix_of_comparisonWith?_reverse {comparison : Comparison}
    (found : comparisonWith? token.reverse rest = some comparison) :
    comparison.field ≠ [] ∧ comparison.field <+: token :=
  have ⟨nonempty, suffix⟩ := field_of_comparisonWith? found
  ⟨nonempty, List.reverse_suffix.1 suffix⟩

theorem exists_token_of_comparison? {comparison : Comparison} (nonempty : token ≠ [])
    (solid : Solid token) (whole : ∀ later ∈ tokens, later ≠ [] ∧ Solid later) {gaps : ℕ → Gap}
    (found : comparison? (token ++ behind gaps tokens) = some comparison) :
    ∃ later ∈ token :: tokens, comparison.field ≠ [] ∧ comparison.field <+: later := by
  induction tokens generalizing token gaps with
  | nil =>
    rw [comparison?_append nonempty solid (behind_startsBlank gaps _), behind, comparison?_nil,
      Option.or_none] at found
    exact ⟨token, List.mem_cons_self, prefix_of_comparisonWith?_reverse found⟩
  | cons next tokens ih =>
    obtain ⟨⟨nextNonempty, nextSolid⟩, later⟩ := List.forall_mem_cons.1 whole
    rw [comparison?_append nonempty solid (behind_startsBlank gaps _),
      Option.or_eq_some_iff] at found
    rcases found with here | ⟨_, further⟩
    · exact ⟨token, List.mem_cons_self, prefix_of_comparisonWith?_reverse here⟩
    · rw [behind, comparison?_gap] at further
      obtain ⟨later, member, begins⟩ := ih nextNonempty nextSolid later further
      exact ⟨later, List.mem_cons_of_mem token member, begins⟩

theorem length_operator_le (token : OperatorToken) : token.text.length ≤ 4 := by
  cases token with
  | symbol text operator listed =>
    have each : ∀ entry ∈ symbolTable, entry.1.length ≤ 4 := by decide
    exact each _ listed
  | word keyword operator listed spelled =>
    have each : ∀ entry ∈ wordTable, entry.1.length ≤ 4 := by decide
    rw [OperatorToken.text, spelled.length_text]
    exact each _ listed

/-- Without its field a phrase may still hold a comparison, but one of another field: an operator
is shorter than the word `WHERE`, and a field has no quotes. -/
theorem leafOf?_laterTokens_ne (phrase : SolidPhrase) (gaps : ℕ → Gap)
    (ends : whereWord <:+ phrase.field.text.map Char.toLower) :
    leafOf? (phrase.operator.text ++ behind gaps [inQuotes phrase.value]) ≠ some phrase.leaf := by
  intro same
  obtain ⟨comparison, found, leaf⟩ : ∃ comparison, comparison?
      (phrase.operator.text ++ behind gaps [inQuotes phrase.value]) = some comparison ∧
      comparison.toLeaf = phrase.leaf := by
    rw [leafOf?] at same
    split at same
    · contradiction
    · exact Option.map_eq_some_iff.1 same
  have field : comparison.field = phrase.field.text := by
    have fields := congrArg Leaf.field leaf
    exact String.ofList_inj.1 fields
  have long : 5 ≤ phrase.field.text.length := by simpa [whereWord] using ends.length_le
  have whole : ∀ later ∈ [inQuotes phrase.value], later ≠ [] ∧ Solid later :=
    fun later member => phrase.solid_of_mem_laterTokens (List.mem_cons_of_mem _ member)
  obtain ⟨token, member, nonempty, begins⟩ := exists_token_of_comparison?
    phrase.operator.text_ne_nil phrase.operator.solid whole found
  rw [field] at nonempty begins
  rcases List.mem_pair.1 member with rfl | rfl
  · have short := begins.length_le.trans (length_operator_le phrase.operator)
    omega
  · obtain ⟨c, more, split⟩ := List.exists_cons_of_ne_nil nonempty
    rw [split, inQuotes, List.cons_prefix_cons] at begins
    have plain := List.all_eq_true.1 phrase.field.plain c (split ▸ List.mem_cons_self)
    rw [begins.1] at plain
    contradiction

theorem comparisonWith?_eq_none {field rest : List Char}
    (fails : ∀ last later, later <:+ field.reverse ++ rest → operand? last later = none) :
    comparisonWith? field rest = none := by
  induction field generalizing rest with
  | nil => rfl
  | cons c field ih =>
    rw [List.reverse_cons, List.append_assoc] at fails
    rw [comparisonWith?, fails c rest ((List.suffix_cons c rest).trans (List.suffix_append _ _))]
    exact ih fails

theorem worded?_eq_none {text : List Char}
    (apart : ∀ word ∈ [likeWord, inWord, isWord], ¬ word <+: text.map foldLetter) :
    worded? text = none := by
  rw [worded?, List.findSome?_eq_none_iff]
  intro word member
  rw [afterWord?, afterKeyword?_eq, if_neg (apart word member)]
  rfl

theorem comparison?_direction {direction : Direction} (word : Spelled (directionWord direction)) :
    comparison? word.text = none := by
  have small := isLower_directionWord direction
  have alone : comparison? (word.text ++ []) = _ :=
    comparison?_append (word.ne_nil (directionWord_ne_nil direction)) (word.solid small)
      (by rintro c ⟨⟩)
  rw [List.append_nil, comparison?_nil, Option.or_none] at alone
  rw [alone]
  refine comparisonWith?_eq_none fun last later suffix => ?_
  rw [List.reverse_reverse, List.append_nil] at suffix
  have letters : ∀ c ∈ later, c.toLower.isLower = true :=
    fun c member => word.isLower_toLower small (suffix.subset member)
  have noSymbol : later.takeWhile isSymbol = [] := by
    cases later with
    | nil => rfl
    | cons c later =>
      rw [List.takeWhile_cons_of_neg]
      simp [isSymbol_of_isLower (letters c List.mem_cons_self)]
  have solid : Solid later := fun c member => word.solid small c (suffix.subset member)
  have each : ∀ direction, ∀ later ∈ (directionWord direction).tails,
      ∀ word ∈ [likeWord, inWord, isWord], ¬ word <+: later := by
    intro direction
    cases direction <;> decide
  have noWord : worded? later = none := by
    refine worded?_eq_none (each direction _ ((List.mem_tails _ _).2 ?_))
    rw [← word.folded small]
    exact suffix.map foldLetter
  rw [operand?, skipBlank_of_startsSolid solid.startsSolid, noSymbol, noWord]
  simp

theorem not_whereWord_inQuotes (value : List Char) :
    ¬ whereWord <:+ (inQuotes value).map Char.toLower :=
  not_suffix_inQuotes (by decide) (by decide) value

theorem not_whereWord_spelled {keyword : List Char} (word : Spelled keyword)
    (apart : ¬ whereWord <:+ keyword) : ¬ whereWord <:+ word.text.map Char.toLower := by
  rwa [word.same]

theorem not_whereWord_operator (token : OperatorToken) :
    ¬ whereWord <:+ token.text.map Char.toLower := by
  intro suffix
  have short := suffix.length_le.trans (List.length_map _ ▸ length_operator_le token)
  simp [whereWord] at short

theorem readConditions_direction {direction : Direction}
    (word : Spelled (directionWord direction)) :
    (readConditions word.text .empty).leaves = [] := by
  have small := isLower_directionWord direction
  have unbroken := Unbroken.of_solid (word.solid small)
    (word.ne_nil (directionWord_ne_nil direction))
  have plain : '(' ∉ word.text := not_mem_of_isInline (isInline_spelled small word) (by decide)
  have read := readConditions_behind unbroken plain (fun _ => .space) []
  rw [List.flatMap_nil, behind, List.append_nil] at read
  rw [read, leafOf?, comparison?_direction]
  simp

theorem whereAt?_direction (head : Spelled whereWord) (gap : Gap) {direction : Direction}
    (word : Spelled (directionWord direction)) :
    whereAt? (head.text ++ (gap.text ++ word.text)) = some word.text := by
  have small := isLower_directionWord direction
  have nonempty := word.ne_nil (directionWord_ne_nil direction)
  have solid := word.solid small
  have nowhere : Nowhere afterOrderBy? word.text := by
    refine OrderFree.nowhere ?_
    rw [OrderFree, words_of_solid nonempty solid]
    exact List.isChain_singleton _
  have absent : Absent afterOrderBy? word.text [] := by
    intro later suffix _
    rw [List.append_nil, nowhere later suffix]
  have oneLine : '\n' ∉ word.text := not_mem_of_isInline (isInline_spelled small word) (by decide)
  have read := upToOrder?_append absent solid.endsSolid oneLine
  rw [List.append_nil] at read
  rw [whereAt?_spelled head gap solid.startsSolid nonempty (nowhere _ (List.suffix_refl _)), read,
    upToOrder?, Option.map_some, List.append_nil]

theorem whereAt?_alone (head : Spelled whereWord) : whereAt? head.text = none := by
  have read := afterKeyword?_append (head.folded (by decide)) []
  rw [List.append_nil] at read
  rw [whereAt?, read]
  rfl

theorem leaves_order (order? : Option OrderPhrase) (gaps : ℕ → Gap)
    (found : whereClause? (behind gaps (orderTokens order?)) = some conditions) :
    (readConditions conditions .empty).leaves = [] := by
  cases order? with
  | none => contradiction
  | some order =>
    have second := whereClause?_behind_skip (order.first.solid (by decide))
      (not_whereWord_spelled order.first (by decide)) found
    have field := whereClause?_behind_skip (order.second.solid (by decide))
      (not_whereWord_spelled order.second (by decide)) second
    have last := whereClause?_behind_cons order.solid field
    rw [OrderPhrase.directionTokens] at last
    cases written : order.written? with
    | none =>
      simp only [written, Option.map_none, Option.toList_none, behind, List.append_nil,
        whereAt?_alone] at last
      obtain ⟨_, _, fails⟩ | fails := last
      all_goals contradiction
    | some direction =>
      simp only [written, Option.map_some, Option.toList_some] at last
      rcases last with ⟨head, _, behindField⟩ | further
      · rw [behind, behind, List.append_nil, whereAt?_direction head _ direction.word] at behindField
        cases behindField
        exact readConditions_direction direction.word
      · have small := isLower_directionWord direction.direction
        have apart : ¬ whereWord <:+ directionWord direction.direction := by
          cases direction.direction <;> decide
        have fails := whereClause?_behind_skip (direction.word.solid small)
          (not_whereWord_spelled direction.word apart) further
        contradiction

theorem leaves_phrase (phrase : SolidPhrase) (links : List SolidLink) (order? : Option OrderPhrase)
    (gaps : ℕ → Gap)
    (found : whereClause? (behind gaps
      (phrase.tokens ++ links.flatMap SolidLink.tokens ++ orderTokens order?)) = some conditions) :
    (∃ gaps, whereWord <:+ phrase.field.text.map Char.toLower ∧
      (readConditions conditions .empty).leaves =
        (leafOf? (phrase.operator.text ++ behind gaps [inQuotes phrase.value])).toList ++
          links.map SolidLink.leaf) ∨
    whereClause? (behind (fun i => gaps (i + 3))
      (links.flatMap SolidLink.tokens ++ orderTokens order?)) = some conditions := by
  rcases whereClause?_behind_cons phrase.field.solid found with ⟨head, suffix, here⟩ | later
  · left
    have orderless : Orderless (phrase.operator.text ::
        ([inQuotes phrase.value] ++ links.flatMap SolidLink.tokens)) :=
      (orderless_links phrase links).tail
    have read := (orderless.whereAt?_behind (fun i => gaps (i + 1)) head order?).symm.trans here
    split at read
    · contradiction
    · cases read
      refine ⟨fun i => gaps (i + 2), head.suffix_map suffix, ?_⟩
      have within : [phrase.operator.text, inQuotes phrase.value] <:+: phrase.tokens :=
        (List.suffix_cons _ _).isInfix
      rw [behind_append, ← List.append_assoc,
        readConditions_behind (phrase.unbroken_operator _) (phrase.not_mem_behind within _)]
  · right
    have second := whereClause?_behind_skip phrase.operator.solid
      (not_whereWord_operator phrase.operator) later
    exact whereClause?_behind_skip phrase.solid_inQuotes (not_whereWord_inQuotes phrase.value)
      second

/-- Behind a phrase no more leaves are read than there are links: the link whose field ends in the
word gives one leaf at most, and the links before it give none. -/
theorem leaves_links (links : List SolidLink) (order? : Option OrderPhrase) (gaps : ℕ → Gap)
    (found : whereClause? (behind gaps
      (links.flatMap SolidLink.tokens ++ orderTokens order?)) = some conditions) :
    (readConditions conditions .empty).leaves.length ≤ links.length := by
  induction links generalizing gaps with
  | nil => rw [leaves_order order? gaps found, List.length_nil, List.length_nil]
  | cons link links ih =>
    have small := isLower_connectiveWord link.connective
    have apart : ¬ whereWord <:+ connectiveWord link.connective := by
      cases link.connective <;> decide
    rw [List.flatMap_cons, SolidLink.tokens, List.cons_append, List.cons_append] at found
    have behindWord := whereClause?_behind_skip (link.word.solid small)
      (not_whereWord_spelled link.word apart) found
    rcases leaves_phrase link.phrase links order? _ behindWord with ⟨_, _, leaves⟩ | later
    · have one (leaf? : Option Leaf) : leaf?.toList.length ≤ 1 := by cases leaf? <;> simp
      rw [leaves, List.length_append, List.length_map, List.length_cons, Nat.add_comm]
      exact Nat.add_le_add_left (one _) _
    · exact (ih _ later).trans (Nat.le_succ _)

namespace SolidClause

variable (clause : SolidClause)

theorem leaves_ne (gaps : ℕ → Gap)
    (found : whereClause? (behind gaps (clause.conditionTokens ++ orderTokens clause.order?)) =
      some conditions) :
    (readConditions conditions .empty).leaves ≠ clause.leaves := by
  intro same
  -- Behind the first field the number of leaves may be right, but the first one is another leaf.
  rcases leaves_phrase clause.first clause.links clause.order? gaps found with
    ⟨_, ends, leaves⟩ | later
  · have alone : _ = [clause.first.leaf] := List.append_cancel_right (leaves.symm.trans same)
    exact leafOf?_laterTokens_ne clause.first _ ends (Option.toList_eq_singleton_iff.1 alone)
  · have fewer := leaves_links clause.links clause.order? _ later
    rw [same, SolidClause.leaves, List.length_cons, List.length_map] at fewer
    omega

/-- A clause is read as it is meant exactly if no line feed stands between two tokens of its
conditions. -/
theorem parse_text_eq_reading_iff (gaps : ℕ → Gap) :
    parse (String.ofList (clause.text gaps)) = clause.reading ↔ clause.OneLine gaps := by
  refine ⟨fun same => ?_, clause.parse_text_of_oneLine⟩
  rw [oneLine_iff]
  intro broken
  have leaves := congrArg (fun reading => reading.root.leaves) same
  simp only [parse, read, String.toList_ofList, clause.trim_text] at leaves
  cases found : whereClause? (clause.text gaps) with
  | none =>
    rw [found] at leaves
    exact absurd leaves.symm (List.cons_ne_nil _ _)
  | some conditions =>
    rw [found] at leaves
    rcases whereClause?_token (clause.head.solid (by decide)) (behind_startsBlank gaps _) found with
      ⟨head, _, here⟩ | later
    · rw [clause.whereAt?_text, if_pos broken] at here
      contradiction
    · exact clause.leaves_ne gaps later leaves

/-- Two texts of a clause that differ in nothing but the white space between tokens, one of them
with its conditions on one line, are read the same exactly if the other has them on one line. -/
theorem parse_respaced {first : ℕ → Gap} (oneLine : clause.OneLine first) (second : ℕ → Gap) :
    parse (String.ofList (clause.text second)) = parse (String.ofList (clause.text first)) ↔
      clause.OneLine second := by
  rw [clause.parse_text_of_oneLine oneLine, clause.parse_text_eq_reading_iff]

end SolidClause

def sampleSolidClause : SolidClause where
  head := sampleClause.head
  first := {
    field := ⟨['u'], by decide, by decide⟩
    operator := .symbol ['<', '='] .lte (by decide)
    value := ['1']
    plain := by decide }
  links := [{
    connective := .all
    word := ⟨['a', 'n', 'd'], rfl⟩
    phrase := {
      field := ⟨['v'], by decide, by decide⟩
      operator := .word inWord .isIn (by decide) ⟨['i', 'N'], rfl⟩
      value := ['a', 'n', 'd']
      plain := by decide } }]
  order? := sampleClause.order?

def lineFeed : Gap := ⟨['\n'], by decide, by decide⟩

def sampleGaps (i : ℕ) : Gap :=
  if i = 0 ∨ 7 ≤ i then lineFeed else ⟨['\t'], by decide, by decide⟩

theorem parse_respaced_tabs :
    parse "where\nu\t<=\t'1'\tand\tv\tiN\t'and'\nOrder\nBY\ns\nDesc" =
        parse "where u <= '1' and v iN 'and' Order BY s Desc" ∧
      parse "where\nu\n<=\n'1'\nand\nv\niN\n'and'\nOrder\nBY\ns\nDesc" ≠
        parse "where u <= '1' and v iN 'and' Order BY s Desc" := by
  have spaces := sampleSolidClause.oneLine_space
  have tabs : sampleSolidClause.OneLine sampleGaps := by
    intro i positive small
    have inside : i < 7 := small
    rw [sampleGaps, if_neg (by omega)]
    decide
  have broken : ¬ sampleSolidClause.OneLine fun _ => lineFeed :=
    fun oneLine => oneLine 1 (by decide) (by decide) (by decide)
  exact ⟨(SolidClause.parse_respaced _ spaces sampleGaps).2 tabs,
    mt (SolidClause.parse_respaced _ spaces fun _ => lineFeed).1 broken⟩

/-- A line feed between two tokens of the conditions makes the whole filter disappear. -/
theorem root_brokenLine :
    (parse "WHERE a\n= '1'").root = .empty ∧
      (parse "WHERE a = '1'").root.leaves = [.ofOperator "a" .eq (.string "1")] := by
  constructor
  · have found : whereClause? (trim "WHERE a\n= '1'".toList) = none := by decide +kernel
    rw [parse, read, found]
  · let phrase : SolidPhrase :=
      ⟨⟨['a'], by decide, by decide⟩, .symbol ['='] .eq (by decide), ['1'], by decide⟩
    let clause : SolidClause := ⟨⟨['W', 'H', 'E', 'R', 'E'], rfl⟩, phrase, [], none⟩
    have spelled : "WHERE a = '1'" = String.ofList (clause.text fun _ => .space) := rfl
    rw [spelled, clause.parse_text_of_oneLine clause.oneLine_space]
    rfl

end VirtualRecords.QueryText
