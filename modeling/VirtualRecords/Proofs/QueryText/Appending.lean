import VirtualRecords.Proofs.QueryText.Merging

/-! What reading its text changes in a query, and what it leaves. Conditions are only ever added to
those in the root, and a root that has none gets those that the text has by itself. The order
changes where the text names a field for it, at the first place where it does, and the direction
where one is named right behind that field; the rest of the query is never touched, and text of
white space only touches nothing. -/

namespace VirtualRecords

namespace QueryText

open Text

variable {text field rest : List Char} {root : Group} {direction : Direction}

inductive OrderHead : List Char → List Char → List Char → Prop where
  | intro (first : Spelled orderWord) (between : Gap) (second : Spelled byWord) (after : Gap)
      {field rest : List Char} : field ≠ [] → Solid field →
      (∀ c ∈ rest.head?, isBlank c = true) →
      OrderHead (first.text ++ (between.text ++ (second.text ++ (after.text ++ (field ++ rest)))))
        field rest

/-- The first order in the text names the field, and the rest of the text stands behind it. -/
inductive FirstOrder : List Char → List Char → List Char → Prop where
  | here {text field rest : List Char} : OrderHead text field rest → FirstOrder text field rest
  | later {c : Char} {text field rest : List Char} :
      (∀ other behind, ¬ OrderHead (c :: text) other behind) → FirstOrder text field rest →
      FirstOrder (c :: text) field rest

/-- Behind white space the text goes on with the word for a direction, whatever follows. The word
with a long s is no word for the descending one. -/
inductive NamesDirection : List Char → Direction → Prop where
  | intro (gap : Gap) {word : List Char} (rest : List Char) {written : Direction} :
      word.map foldLetter = directionWord written →
      NamesDirection (gap.text ++ (word ++ rest))
        (if word.map Char.toLower = descendingWord then .descending else .ascending)

theorem orderAt?_eq_some_iff {direction? : Option Direction} :
    orderAt? text = some (field, direction?) ↔
      ∃ rest, OrderHead text field rest ∧ QueryText.direction? rest = direction? := by
  constructor
  · intro found
    obtain ⟨after, phrase, read⟩ := Option.bind_eq_some_iff.1 found
    obtain ⟨first, between, second, gap, rfl, -⟩ := exists_of_afterOrderBy? phrase
    split at read
    · cases read
    · next nonempty =>
      obtain ⟨rfl, rfl⟩ := Prod.mk.inj (Option.some.inj read)
      refine ⟨afterRun after, ?_, rfl⟩
      have head := OrderHead.intro first between second gap nonempty (solid_leadingRun after)
        (afterRun_startsBlank after)
      rwa [leadingRun_append_afterRun] at head
  · rintro ⟨rest, ⟨first, between, second, after, nonempty, solid, stop⟩, rfl⟩
    have phrase := afterOrderBy?_spelled first second between after
      (solid.startsSolid.append nonempty rest)
    obtain ⟨run, behind⟩ := leadingRun_append solid stop
    rw [orderAt?, phrase, Option.bind_eq_bind, Option.bind_some, run, behind, if_neg nonempty]

theorem orderAt?_eq_none_iff :
    orderAt? text = none ↔ ∀ field rest, ¬ OrderHead text field rest := by
  rw [Option.eq_none_iff_forall_ne_some]
  simp only [Prod.forall, ne_eq, orderAt?_eq_some_iff, not_exists, not_and]
  exact ⟨fun none field rest head => none field _ rest head rfl,
    fun none field _ rest head => absurd head (none field rest)⟩

theorem orderClause?_eq_some_iff {direction? : Option Direction} :
    orderClause? text = some (field, direction?) ↔
      ∃ rest, FirstOrder text field rest ∧ QueryText.direction? rest = direction? := by
  constructor
  · intro found
    induction text with
    | nil => cases found
    | cons c text ih =>
      obtain here | ⟨none, later⟩ := Option.or_eq_some_iff.1 found
      · obtain ⟨rest, head, same⟩ := orderAt?_eq_some_iff.1 here
        exact ⟨rest, .here head, same⟩
      · obtain ⟨rest, first, same⟩ := ih later
        exact ⟨rest, .later (orderAt?_eq_none_iff.1 none) first, same⟩
  · rintro ⟨rest, first, rfl⟩
    induction first with
    | @here text _ _ head =>
      have found := orderAt?_eq_some_iff.2 ⟨_, head, rfl⟩
      cases text with
      | nil => cases found
      | cons c text => rw [orderClause?, found, Option.some_or]
    | later none _ ih => rw [orderClause?, orderAt?_eq_none_iff.2 none, Option.none_or, ih]

theorem exists_word_of_direction? (found : direction? text = some direction) :
    ∃ (gap : Gap) (word rest : List Char) (written : Direction),
      text = gap.text ++ (word ++ rest) ∧ word.map foldLetter = directionWord written := by
  obtain ⟨behind, blanks, read⟩ := Option.bind_eq_some_iff.1 found
  obtain ⟨gap, rfl, -⟩ := exists_gap_of_afterBlanks? blanks
  split at read
  · next ascends =>
    obtain ⟨rest, named⟩ := Option.isSome_iff_exists.1 ascends
    obtain ⟨word, folded, rfl⟩ := exists_of_afterKeyword?_eq_some named
    exact ⟨gap, word, rest, .ascending, rfl, folded⟩
  · split at read
    · next descends =>
      obtain ⟨rest, named⟩ := Option.isSome_iff_exists.1 descends
      obtain ⟨word, folded, rfl⟩ := exists_of_afterKeyword?_eq_some named
      exact ⟨gap, word, rest, .descending, rfl, folded⟩
    · cases read

theorem direction?_word (gap : Gap) {word : List Char} (rest : List Char) {written : Direction}
    (folded : word.map foldLetter = directionWord written) :
    direction? (gap.text ++ (word ++ rest)) =
      some (if word.map Char.toLower = descendingWord then .descending else .ascending) := by
  have small := isLower_directionWord written
  have solid : Solid word := Solid.of_map_foldLetter (folded ▸ solid_of_isLower small)
  have nonempty : word ≠ [] := by
    rintro rfl
    exact directionWord_ne_nil written folded.symm
  have length : word.length = (directionWord written).length := by
    rw [← folded, List.length_map]
  rw [direction?, afterBlanks?_gap gap (solid.startsSolid.append nonempty rest),
    Option.bind_eq_bind, Option.bind_some]
  cases written with
  | ascending =>
    have other : word.map Char.toLower ≠ descendingWord := fun same => by
      have long := congrArg List.length same
      rw [List.length_map, length] at long
      cases long
    have named : afterKeyword? ascendingWord (word ++ rest) = some rest :=
      afterKeyword?_append folded rest
    rw [named, if_neg other, Option.isSome_some, if_pos rfl]
  | descending =>
    have apart : ¬ ascendingWord <+: (word ++ rest).map foldLetter := by
      rw [List.map_append, folded]
      simp [directionWord, ascendingWord, descendingWord]
    have whole : (word ++ rest).take 4 = word := List.take_left' length
    have same : sameAsciiLetters word descendingWord = true ↔
        word.map Char.toLower = descendingWord := beq_iff_eq
    have named : afterKeyword? descendingWord (word ++ rest) = some rest :=
      afterKeyword?_append folded rest
    rw [afterKeyword?_eq, if_neg apart, named, whole, Option.isSome_none,
      if_neg Bool.false_ne_true, Option.isSome_some, if_pos rfl]
    simp only [same]

theorem direction?_eq_some_iff :
    direction? text = some direction ↔ NamesDirection text direction := by
  constructor
  · intro found
    obtain ⟨gap, word, rest, written, rfl, folded⟩ := exists_word_of_direction? found
    rw [direction?_word gap rest folded] at found
    cases found
    exact .intro gap rest folded
  · rintro ⟨gap, rest, folded⟩
    exact direction?_word gap rest folded

theorem prefix_read (filled : root.isEmpty = false) (text : String) :
    root.leaves <+: (read text root).root.leaves ∧
      root.groups <+: (read text root).root.groups := by
  rw [read]
  cases whereClause? (trim text.toList) with
  | none => exact ⟨List.prefix_rfl, List.prefix_rfl⟩
  | some conditions =>
    dsimp only
    rw [readConditions_of_filled filled]
    exact ⟨List.prefix_append _ _, List.prefix_append _ _⟩

end QueryText

namespace Query

open QueryText

variable {query : Query} {text : String} {field rest : List Char} {direction : Direction}

def OrdersBy (query : Query) (field rest : List Char) : Prop :=
  ∃ text, query.text = some text ∧ FirstOrder (Text.trim text.toList) field rest

structure ReadsInto (query read : Query) : Prop where
  entity : read.entity = query.entity
  text : read.text = query.text
  flat : read.flat = query.flat
  connective : read.connective = query.connective
  page : read.page = query.page
  size : read.size = query.size
  leaves : query.root.isEmpty = false → query.root.leaves <+: read.root.leaves
  groups : query.root.isEmpty = false → query.root.groups <+: read.root.groups
  parsed : ∀ text, query.text = some text → query.root = .empty → read.root = (parse text).root
  ordered : ∀ field rest, query.OrdersBy field rest → read.sortField = some (String.ofList field)
  unordered : (∀ field rest, ¬ query.OrdersBy field rest) → read.sortField = query.sortField
  directed : ∀ field rest direction, query.OrdersBy field rest → NamesDirection rest direction →
    read.direction = direction
  undirected : (∀ field rest direction, query.OrdersBy field rest →
    ¬ NamesDirection rest direction) → read.direction = query.direction
  blank : (∀ text, query.text = some text → Text.isBlankString text = true) → read = query

def textOrder? (query : Query) : Option (List Char × Option Direction) :=
  query.text.bind fun text => orderClause? (Text.trim text.toList)

theorem textOrder?_eq_some_iff {direction? : Option Direction} :
    query.textOrder? = some (field, direction?) ↔
      ∃ rest, query.OrdersBy field rest ∧ QueryText.direction? rest = direction? := by
  simp only [textOrder?, Option.bind_eq_some_iff, orderClause?_eq_some_iff, OrdersBy]
  exact ⟨fun ⟨text, given, rest, first, named⟩ => ⟨rest, ⟨text, given, first⟩, named⟩,
    fun ⟨rest, ⟨text, given, first⟩, named⟩ => ⟨text, given, rest, first, named⟩⟩

theorem trim_of_unread (blank : query.textToRead? = none) (given : query.text = some text) :
    Text.trim text.toList = [] := by
  have whole : Text.isBlankString text = true := by simpa [textToRead?, given] using blank
  rw [Text.trim, (Text.skipBlank_eq_nil_iff text.toList).2 whole]
  rfl

theorem text_of_textToRead? (written : query.textToRead? = some text) : query.text = some text :=
  (Option.filter_eq_some_iff.1 written).1

theorem textOrder?_of_blank (blank : query.textToRead? = none) : query.textOrder? = none := by
  rw [textOrder?, Option.bind_eq_none_iff]
  intro text given
  rw [trim_of_unread blank given]
  rfl

theorem applyText_order (query : Query) :
    query.applyText.sortField =
        (query.textOrder?.map fun order => String.ofList order.1).or query.sortField ∧
      query.applyText.direction = (query.textOrder?.bind Prod.snd).getD query.direction := by
  cases written : query.textToRead? with
  | none =>
    rw [applyText_of_blank written, textOrder?_of_blank written]
    exact ⟨rfl, rfl⟩
  | some text =>
    have order : query.textOrder? = orderClause? (Text.trim text.toList) := by
      rw [textOrder?, text_of_textToRead? written, Option.bind_some]
    rw [applyText, written, order]
    dsimp only [QueryText.read]
    cases orderClause? (Text.trim text.toList) with
    | none => exact ⟨rfl, rfl⟩
    | some order => exact ⟨rfl, rfl⟩

theorem applyText_root_of_empty (given : query.text = some text) (vacant : query.root = .empty) :
    query.applyText.root = (parse text).root := by
  cases written : query.textToRead? with
  | none =>
    rw [applyText_of_blank written, vacant, parse, QueryText.read, trim_of_unread written given]
    rfl
  | some other =>
    obtain rfl : text = other := Option.some.inj (given.symm.trans (text_of_textToRead? written))
    rw [applyText_root_of_text written, vacant, parse]

theorem prefix_applyText (filled : query.root.isEmpty = false) :
    query.root.leaves <+: query.applyText.root.leaves ∧
      query.root.groups <+: query.applyText.root.groups := by
  cases written : query.textToRead? with
  | none =>
    rw [applyText_of_blank written]
    exact ⟨List.prefix_rfl, List.prefix_rfl⟩
  | some text =>
    rw [applyText_root_of_text written]
    exact prefix_read filled text

/-- Reading the text of a query adds to the conditions of its root, changes its order where the text
names one, and leaves everything else. -/
theorem applyText_appends (query : Query) : query.ReadsInto query.applyText := by
  obtain ⟨root, sortField, direction, same⟩ := query.exists_applyText
  obtain ⟨sorts, directs⟩ := query.applyText_order
  refine {
    entity := by rw [same]
    text := by rw [same]
    flat := by rw [same]
    connective := by rw [same]
    page := by rw [same]
    size := by rw [same]
    leaves := fun filled => (prefix_applyText filled).1
    groups := fun filled => (prefix_applyText filled).2
    parsed := fun text given vacant => applyText_root_of_empty given vacant
    ordered := fun field rest orders => ?_
    unordered := fun none => ?_
    directed := fun field rest direction orders named => ?_
    undirected := fun none => ?_
    blank := fun blank => applyText_of_blank ?_ }
  · have order := textOrder?_eq_some_iff.2 ⟨rest, orders, rfl⟩
    rw [sorts, order]
    rfl
  · cases order : query.textOrder? with
    | none => rw [sorts, order]; rfl
    | some found =>
      obtain ⟨rest, orders, -⟩ := textOrder?_eq_some_iff.1 order
      exact absurd orders (none _ rest)
  · have order := textOrder?_eq_some_iff.2 ⟨rest, orders, direction?_eq_some_iff.2 named⟩
    rw [directs, order]
    rfl
  · cases order : query.textOrder?.bind Prod.snd with
    | none => rw [directs, order]; rfl
    | some direction =>
      obtain ⟨⟨field, _⟩, found, rfl⟩ := Option.bind_eq_some_iff.1 order
      obtain ⟨rest, orders, named⟩ := textOrder?_eq_some_iff.1 found
      exact absurd (direction?_eq_some_iff.1 named) (none field rest direction orders)
  · rw [textToRead?, Option.filter_eq_none_iff]
    intro text given
    simp [blank text given]

theorem applyText_appends_ordered :
    let query := leadsWith "WHERE age = '18' order by  age DESC"
    ∃ rest, query.OrdersBy "age".toList rest ∧ NamesDirection rest .descending ∧
      query.applyText.sortField = some "age" ∧ query.applyText.direction = .descending ∧
      query.root.leaves <+: query.applyText.root.leaves := by
  intro query
  have found : query.textOrder? = some ("age".toList, some .descending) := by decide +kernel
  obtain ⟨rest, orders, written⟩ := textOrder?_eq_some_iff.1 found
  have named := direction?_eq_some_iff.1 written
  have read := query.applyText_appends
  have sorted : query.applyText.sortField = some (String.ofList "age".toList) :=
    read.ordered "age".toList rest orders
  rw [String.ofList_toList] at sorted
  exact ⟨rest, orders, named, sorted, read.directed _ rest _ orders named, read.leaves rfl⟩

end Query
end VirtualRecords
