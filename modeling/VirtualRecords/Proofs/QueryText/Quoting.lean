import VirtualRecords.Proofs.QueryText.Fragments

/-! When a quoted value is read as it stands. Only the search for a comparison knows of quotes. Line
feeds, brackets, connectives and the words `ORDER BY` are looked for in the text as it is, before
the comparison is, so each of them counts in a value as well. Nothing else does: a value without
them is read as one literal, and a value with one of them never is. -/

namespace VirtualRecords.QueryText

open Text

/-- None of the searches that come before the comparison find anything in the value. -/
structure Inert (value : List Char) : Prop where
  oneLine : '\n' ∉ value
  unbracketed : Nowhere bracketAt? value
  unjoined : Nowhere connectiveAt? value
  unordered : Nowhere afterOrderBy? value

theorem inert_iff {value : List Char} :
    Inert value ↔ '\n' ∉ value ∧ Nowhere bracketAt? value ∧ Nowhere connectiveAt? value ∧
      Nowhere afterOrderBy? value :=
  ⟨fun inert => ⟨inert.oneLine, inert.unbracketed, inert.unjoined, inert.unordered⟩,
    fun ⟨oneLine, unbracketed, unjoined, unordered⟩ =>
      ⟨oneLine, unbracketed, unjoined, unordered⟩⟩

instance (value : List Char) : Decidable (Inert value) := decidable_of_iff' _ inert_iff

def whereText (head : Spelled whereWord) (field : FieldName) (token : OperatorToken)
    (value : List Char) : List Char :=
  head.text ++ ' ' :: comparisonText field token value

section

variable (head : Spelled whereWord) (field : FieldName) (token : OperatorToken)
  {value text conditions part : List Char} {leaf : Leaf}

theorem trim_whereText (value : List Char) :
    trim (whereText head field token value) = whereText head field token value := by
  have starts : StartsSolid (whereText head field token value) :=
    (head.solid (by decide)).startsSolid.append (head.ne_nil (by decide)) _
  have ends : EndsSolid (whereText head field token value) := by
    have whole := (endsSolid_comparisonText field token value).after
      (comparisonText_ne_nil field token value) (head.text ++ [' '])
    simpa [whereText] using whole
  exact trim_of_solid starts ends

theorem firstBracket?_comparisonText_eq_none_iff (value : List Char) :
    firstBracket? (comparisonText field token value) = none ↔ Nowhere bracketAt? value := by
  have opens := not_mem_of_isInline (inline_comparisonFront field token) (c := '(') (by decide)
  have plain : '(' ∉ comparisonFront field token ++ ['\''] := by simp [opens]
  rw [comparisonText_eq, firstBracket?_append plain, firstBracket?_eq_none_iff]
  exact nowhere_concat rfl (bracketAt?_concat (by decide)) value

theorem count_comparisonText (value : List Char) :
    (comparisonText field token value).count '(' = value.count '(' := by
  have opens := not_mem_of_isInline (inline_comparisonFront field token) (c := '(') (by decide)
  simp [comparisonText_eq, List.count_eq_zero.2 opens]

theorem absent_whereText (unordered : Nowhere afterOrderBy? value) :
    Absent afterOrderBy? (whereText head field token value) [] := by
  refine absent_afterOrderBy?_comparisonText field token unordered (head.solid (by decide))
    (head.ne_nil (by decide)) ?_ []
  rw [head.same]
  decide

theorem orderClause?_whereText (unordered : Nowhere afterOrderBy? value) :
    orderClause? (whereText head field token value) = none := by
  have whole := orderClause?_append (absent_whereText head field token unordered)
  rwa [List.append_nil] at whole

theorem whereClause?_whereText (oneLine : '\n' ∉ value) (unordered : Nowhere afterOrderBy? value) :
    whereClause? (whereText head field token value) = some (comparisonText field token value) := by
  have absent := absent_whereText head field token unordered
  have front := not_mem_of_isInline (inline_comparisonFront field token) (c := '\n') (by decide)
  have whole := whereClause?_spelled head (startsSolid_comparisonText field token value)
    (comparisonText_ne_nil field token value) (endsSolid_comparisonText field token value)
    (by simp [comparisonText_eq, oneLine, front])
    (absent_cons.1 (absent_append.1 absent).2).2 rfl
  rwa [List.append_nil] at whole

theorem readConditions_comparisonText (noQuote : '\'' ∉ value)
    (unbracketed : Nowhere bracketAt? value) (unjoined : Nowhere connectiveAt? value) :
    readConditions (comparisonText field token value) .empty =
      ⟨.all, [comparisonLeaf field token value], []⟩ := by
  have plain := (firstBracket?_comparisonText_eq_none_iff field token value).2 unbracketed
  have uncut : cut (comparisonText field token value) = (comparisonText field token value, []) := by
    have whole := cut_append (absent_connectiveAt?_comparisonText field token unjoined [])
    rwa [List.append_nil, cut_nil, List.append_nil] at whole
  have leaves :
      leavesOf (comparisonText field token value) = [comparisonLeaf field token value] := by
    simp [leavesOf, parts, uncut, isPlaceholder_comparisonText,
      toLeaf_comparisonText field token noQuote]
  have connective : connectiveOf (comparisonText field token value) = .all := by
    simp [connectiveOf, uncut]
  rw [readConditions, extract_of_eq_none plain]
  simp only [List.foldl_nil, readFlat, connective, leaves]
  rfl

theorem unordered_of_orderClause?
    (noOrder : orderClause? (whereText head field token value) = none) :
    Nowhere afterOrderBy? value := by
  intro later suffix
  by_contra found
  obtain ⟨left, found⟩ := Option.ne_none_iff_exists'.1 found
  have behind : later ++ ['\''] <:+ whereText head field token value := by
    obtain ⟨earlier, rfl⟩ := suffix
    exact ⟨head.text ++ ' ' :: (comparisonFront field token ++ '\'' :: earlier),
      by simp [whereText, comparisonText_eq]⟩
  have stops : StopsAt '\'' afterOrderBy? := stopsAt_afterOrderBy? (by decide) (by decide)
  have whole := stops later []
  rw [found] at whole
  exact orderAt?_ne_none whole (by simp) ((orderClause?_eq_none_iff _).1 noOrder _ behind)

theorem oneLine_of_leaf (clause : whereClause? text = some conditions)
    (member : leaf ∈ (readConditions conditions .empty).leaves)
    (isText : leaf.value = .string (String.ofList value)) : '\n' ∉ value := by
  obtain ⟨fragment, isFragment, stands⟩ := exists_fragment_of_mem_leaves member
  have kept := not_mem_fragment (by decide) (whereClause?_oneLine clause) isFragment
  exact fun feed => kept ((infix_of_mem_leavesOf stands isText).subset feed)

theorem unbracketed_of_leaf (member : comparisonLeaf field token value ∈
      (readConditions (comparisonText field token value) .empty).leaves) :
    Nowhere bracketAt? value := by
  obtain ⟨fragment, isFragment, stands⟩ := exists_fragment_of_mem_leaves member
  rw [← firstBracket?_comparisonText_eq_none_iff field token]
  by_contra found
  obtain ⟨inner, found⟩ := Option.ne_none_iff_exists'.1 found
  have fewer := count_fragments_lt found isFragment
  have whole := (infix_of_mem_leavesOf stands rfl).sublist.count_le '('
  rw [count_comparisonText] at fewer
  omega

/-- The quote behind the value ends the search for a connective there. -/
theorem unjoined_of_part (member : part ∈ parts text)
    (stands : inQuotes value <:+: part ∨ Solid value ∧ value <:+: part) :
    Nowhere connectiveAt? value := by
  rintro later ⟨earlier, rfl⟩
  rcases stands with ⟨before, behind, rfl⟩ | ⟨solid, _⟩
  · obtain ⟨_, after, _, absent⟩ := standsUncut_of_mem_parts member
    have suffix : later ++ '\'' :: behind <:+ before ++ inQuotes (earlier ++ later) ++ behind :=
      ⟨before ++ '\'' :: earlier, by simp [inQuotes]⟩
    have fails := absent _ suffix (by simp)
    rw [List.append_assoc, List.cons_append] at fails
    exact (fenced_connectiveAt? later (behind ++ after)).1 fails
  · exact connectiveAt?_of_startsSolid
      (Solid.startsSolid fun c member => solid c (List.mem_append_right earlier member))

theorem unjoined_of_leaf (unbracketed : Nowhere bracketAt? value)
    (member : comparisonLeaf field token value ∈
      (readConditions (comparisonText field token value) .empty).leaves) :
    Nowhere connectiveAt? value := by
  have plain := (firstBracket?_comparisonText_eq_none_iff field token value).2 unbracketed
  obtain ⟨fragment, isFragment, stands⟩ := exists_fragment_of_mem_leaves member
  rw [fragments_of_eq_none plain, List.mem_singleton] at isFragment
  subst isFragment
  obtain ⟨part, isPart, stands⟩ := stands_of_mem_leavesOf stands rfl
  exact unjoined_of_part isPart stands

/-- A value without a quote is read as it stands, with nothing beside it, exactly if it is inert. -/
theorem parse_whereText_iff (noQuote : '\'' ∉ value) :
    parse (String.ofList (whereText head field token value)) =
        { root := ⟨.all, [comparisonLeaf field token value], []⟩, order? := none } ↔
      Inert value := by
  rw [parse, read, String.toList_ofList, trim_whereText]
  constructor
  · intro reading
    obtain ⟨root, order⟩ := Reading.mk.inj reading
    have unordered := unordered_of_orderClause? head field token (Option.map_eq_none_iff.1 order)
    cases clause : whereClause? (whereText head field token value) with
    | none =>
      rw [clause] at root
      cases root
    | some conditions =>
      simp only [clause] at root
      have leaf : comparisonLeaf field token value ∈ (readConditions conditions .empty).leaves := by
        rw [root]
        exact List.mem_singleton_self _
      have oneLine := oneLine_of_leaf clause leaf rfl
      rw [whereClause?_whereText head field token oneLine unordered, Option.some.injEq] at clause
      subst clause
      have unbracketed := unbracketed_of_leaf field token leaf
      exact ⟨oneLine, unbracketed, unjoined_of_leaf field token unbracketed leaf, unordered⟩
  · rintro ⟨oneLine, unbracketed, unjoined, unordered⟩
    rw [whereClause?_whereText head field token oneLine unordered,
      orderClause?_whereText head field token unordered]
    simp only [readConditions_comparisonText field token noQuote unbracketed unjoined]
    rfl

end

def whereHead : Spelled whereWord := ⟨['W', 'H', 'E', 'R', 'E'], rfl⟩

def nameField : FieldName := ⟨['n', 'a', 'm', 'e'], by decide, by decide⟩

def equalsToken : OperatorToken := .symbol ['='] .eq (by decide)

theorem parse_whereText_unclosed :
    '\'' ∉ "AND (order".toList ∧ parse "WHERE name = 'AND (order'" =
      { root := ⟨.all, [.ofOperator "name" .eq (.string "AND (order")], []⟩, order? := none } :=
  have noQuote : '\'' ∉ "AND (order".toList := by decide
  have inert : Inert "AND (order".toList := by decide +kernel
  ⟨noQuote, (parse_whereText_iff whereHead nameField equalsToken noQuote).2 inert⟩

/-- A connective between two words of a value cuts it off, with the quote before it. -/
theorem root_parse_cut :
    let root := (parse "WHERE name = 'Tom AND Jerry'").root
    root = ⟨.all, [.ofOperator "name" .eq (.string "'Tom")], []⟩ ∧
      root ≠ ⟨.all, [.ofOperator "name" .eq (.string "Tom AND Jerry")], []⟩ := by
  intro root
  have clause : whereClause? (trim "WHERE name = 'Tom AND Jerry'".toList) =
      some "name = 'Tom AND Jerry'".toList := by decide +kernel
  have extracted : extract "name = 'Tom AND Jerry'".toList =
      ([], "name = 'Tom AND Jerry'".toList) := by decide +kernel
  have joined : connectiveOf "name = 'Tom AND Jerry'".toList = .all := by decide +kernel
  have compared : comparisonsOf "name = 'Tom AND Jerry'".toList =
      [⟨"name".toList, ['='], .bare "'Tom".toList⟩] := by decide +kernel
  have whole : root = ⟨.all, [.ofOperator "name" .eq (.string "'Tom")], []⟩ := by
    simp only [root, parse, read, clause]
    rw [readConditions_empty, extracted, leavesOf_eq_map, joined, compared]
    rfl
  refine ⟨whole, fun other => ?_⟩
  rw [whole] at other
  simp [Leaf.ofOperator] at other

end VirtualRecords.QueryText
