import VirtualRecords.Proofs.Criteria.Leaves
import VirtualRecords.Proofs.Text.Words

/-! Lists written as text. A list of texts in quotes and in brackets is read item by item: the
brackets come off, commas part the items, white space around an item is dropped, and then its two
quotes. The quotes keep everything inside them, so that an item may be empty or blank and may hold
quotes and brackets of its own; only a comma would part it. -/

namespace VirtualRecords.Compiler

def quotedItem (item : String) : String := "'" ++ item ++ "'"

def listText (items : List String) : String :=
  "(" ++ Text.join ", " (items.map quotedItem) ++ ")"

theorem stripped_between (opening closing : Char) (inner : List Char) :
    stripped opening closing (opening :: (inner ++ [closing])) = inner := by
  rw [stripped, Text.within?_eq_some_iff.2 rfl, Option.getD_some]

theorem toList_quotedItem (item : String) :
    (quotedItem item).toList = '\'' :: (item.toList ++ ['\'']) := by
  simp [quotedItem]

theorem trim_quotedItem (item : String) :
    Text.trim (quotedItem item).toList = (quotedItem item).toList := by
  rw [toList_quotedItem]
  exact Text.trim_of_solid (Text.startsSolid_cons rfl _)
    (Text.endsSolid_concat rfl ('\'' :: item.toList))

theorem trim_space (text : List Char) : Text.trim (' ' :: text) = Text.trim text := by
  rw [Text.trim, Text.skipBlank_cons rfl, Text.trim]

theorem toList_join_quoted (item : String) (rest : List String) :
    (Text.join ", " ((item :: rest).map quotedItem)).toList =
      (quotedItem item).toList ++
        (rest.map fun next => ' ' :: (quotedItem next).toList).flatMap (',' :: ·) := by
  rw [List.map_cons, Text.toList_join_cons, List.flatMap_map, List.flatMap_map]
  rfl

theorem comma_not_mem_quotedItem {item : String} (plain : ',' ∉ item.toList) :
    ',' ∉ (quotedItem item).toList := by
  simpa [toList_quotedItem] using plain

theorem trim_pieces_join {items : List String} (nonempty : items ≠ [])
    (plain : ∀ item ∈ items, ',' ∉ item.toList) :
    (Text.pieces ',' (Text.join ", " (items.map quotedItem)).toList).map Text.trim =
      items.map fun item => (quotedItem item).toList := by
  obtain ⟨item, rest, rfl⟩ := List.exists_cons_of_ne_nil nonempty
  have parted : ∀ piece ∈ (quotedItem item).toList ::
      rest.map (fun next => ' ' :: (quotedItem next).toList), ',' ∉ piece := by
    obtain ⟨here, later⟩ := List.forall_mem_cons.1 plain
    refine List.forall_mem_cons.2 ⟨comma_not_mem_quotedItem here, List.forall_mem_map.2 ?_⟩
    intro next member
    exact List.not_mem_cons_of_ne_of_not_mem (by decide)
      (comma_not_mem_quotedItem (later next member))
  rw [toList_join_quoted, Text.pieces_append_flatMap parted, List.map_cons, List.map_map,
    List.map_cons, trim_quotedItem]
  refine congrArg _ (List.map_congr_left fun next _ => ?_)
  exact (trim_space _).trans (trim_quotedItem next)

theorem listItems_listText {items : List String} (plain : ∀ item ∈ items, ',' ∉ item.toList) :
    listItems (listText items).toList = items.map .string := by
  have bracketed : (listText items).toList =
      '(' :: ((Text.join ", " (items.map quotedItem)).toList ++ [')']) := by
    simp [listText]
  have trimmed : Text.trim (listText items).toList = (listText items).toList := by
    rw [bracketed]
    exact Text.trim_of_solid (Text.startsSolid_cons rfl _) (Text.endsSolid_concat rfl ('(' :: _))
  rw [listItems, trimmed, bracketed, stripped_between]
  by_cases none : items = []
  · rw [none]
    rfl
  · have kept : ∀ text ∈ items.map fun item => (quotedItem item).toList,
        (!text.isEmpty) = true := by
      refine List.forall_mem_map.2 fun item _ => ?_
      rw [toList_quotedItem]
      rfl
    rw [trim_pieces_join none plain, List.filter_eq_self.2 kept, List.map_map]
    refine List.map_congr_left fun item _ => ?_
    change Json.string (String.ofList (stripped '\'' '\'' (quotedItem item).toList)) = .string item
    rw [toList_quotedItem, stripped_between, String.ofList_toList]

theorem items?_listText {items : List String} (plain : ∀ item ∈ items, ',' ∉ item.toList) :
    items? (.string (listText items)) = items? (.array (items.map .string)) :=
  congrArg some (listItems_listText plain)

variable {compiler : Compiler} {op : Operator}

theorem leaf_congr_of_items {field name : String} {value other : Json}
    (named : Operator.ofName? name = some op) (lists : op = .isIn ∨ op = .notIn)
    (same : items? value = items? other) :
    compiler.leaf ⟨field, name, value⟩ = compiler.leaf ⟨field, name, other⟩ := by
  have listed : compiler.list ⟨field, name, value⟩ op = compiler.list ⟨field, name, other⟩ op := by
    rw [list, list, same]
  have tested : compiler.test ⟨field, name, value⟩ op = compiler.test ⟨field, name, other⟩ op := by
    obtain rfl | rfl := lists
    · rw [test, test, listed]
    · rw [test, test, listed]
  simp only [Compiler.leaf, Leaf.operator?, named, tested]

/-- A list operator makes the same criteria of a list and of its text, or fails with the same
error, whatever types are declared. -/
theorem leaf_listText (compiler : Compiler) (field : String) {name : String}
    (named : Operator.ofName? name = some op) (lists : op = .isIn ∨ op = .notIn)
    {items : List String} (plain : ∀ item ∈ items, ',' ∉ item.toList) :
    compiler.leaf ⟨field, name, .string (listText items)⟩ =
      compiler.leaf ⟨field, name, .array (items.map .string)⟩ :=
  leaf_congr_of_items named lists (items?_listText plain)

/-- Items that are empty, blank at their ends, or end in a quote or a bracket. -/
theorem leaf_listText_quotes :
    let items := ["", " b ", "o'clock'", "(x)"]
    (Operator.ofName? "NOTIN" = some .notIn ∧ ∀ item ∈ items, ',' ∉ item.toList) ∧
      listText items = "('', ' b ', 'o'clock'', '(x)')" ∧
      untyped.leaf ⟨"tag", "NOTIN", .string "('', ' b ', 'o'clock'', '(x)')"⟩ =
        .ok (.field (.ofField "tag") (.notIn (items.map .string))) := by
  intro items
  have named : Operator.ofName? "NOTIN" = some .notIn := by decide
  have plain : ∀ item ∈ items, ',' ∉ item.toList := by decide
  have listed : untyped.leaf ⟨"tag", "NOTIN", .array (items.map .string)⟩ =
      .ok (.field (.ofField "tag") (.notIn (items.map .string))) :=
    leaf_eq_ok (by decide) named rfl
  have alike := leaf_listText untyped "tag" named (.inr rfl) plain
  exact ⟨⟨named, plain⟩, by decide, alike.trans listed⟩

end VirtualRecords.Compiler
