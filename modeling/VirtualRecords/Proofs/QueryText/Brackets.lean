import VirtualRecords.Proofs.Condition.Truth
import VirtualRecords.Proofs.QueryText.Flat

/-! What becomes of bracketed texts. While the root is empty a bracketed text takes its place, and
afterwards each makes a group inside it, whether it can be read or not. So the texts before the
first that holds a comparison leave nothing behind, that one gives its leaves to the root, and one
behind it that holds no comparison is a group without members, which holds of everything. -/

namespace VirtualRecords.QueryText

open Text

variable {text : List Char} {root : Group}

def comparisonsOf (text : List Char) : List Comparison :=
  ((parts text).filter fun part => !isPlaceholder part).filterMap comparison?

theorem leavesOf_eq_map (text : List Char) :
    leavesOf text = (comparisonsOf text).map Comparison.toLeaf := by
  rw [leavesOf, comparisonsOf, List.map_filterMap]

def bracketGroup (inner : List Char) : Group := ⟨connectiveOf inner, leavesOf inner, []⟩

theorem isEmpty_bracketGroup (inner : List Char) :
    (bracketGroup inner).isEmpty = (leavesOf inner).isEmpty := by
  simp [Group.isEmpty, bracketGroup]

theorem leafCount_bracketGroup (inner : List Char) :
    (bracketGroup inner).leafCount = (leavesOf inner).length := by
  simp [bracketGroup, Group.leafCount, Group.leafCounts]

theorem addBracket_of_vacant (vacant : root.isEmpty = true) (inner : List Char) :
    addBracket root inner = bracketGroup inner := by
  rw [addBracket, vacant]
  rfl

theorem addBracket_of_filled (filled : root.isEmpty = false) (inner : List Char) :
    addBracket root inner = root.addGroup (bracketGroup inner) := by
  rw [addBracket, filled]
  rfl

theorem isEmpty_addGroup (root group : Group) : (root.addGroup group).isEmpty = false := by
  simp [Group.isEmpty, Group.addGroup]

theorem foldl_addBracket_of_filled (filled : root.isEmpty = false) (inners : List (List Char)) :
    inners.foldl addBracket root =
      { root with groups := root.groups ++ inners.map bracketGroup } := by
  induction inners generalizing root with
  | nil =>
    obtain ⟨connective, leaves, groups⟩ := root
    simp
  | cons inner inners ih =>
    rw [List.foldl_cons, addBracket_of_filled filled, ih (isEmpty_addGroup root _)]
    simp [Group.addGroup]

/-- The bracketed texts from the first one on that holds a comparison. -/
def fromReadable (inners : List (List Char)) : List (List Char) :=
  inners.dropWhile fun inner => (leavesOf inner).isEmpty

theorem fromReadable_cons (inner : List Char) (inners : List (List Char)) :
    fromReadable (inner :: inners) =
      if leavesOf inner = [] then fromReadable inners else inner :: inners := by
  simp [fromReadable, List.dropWhile_cons]

theorem exists_foldl_addBracket (vacant : root.isEmpty = true) (inners : List (List Char)) :
    ∃ connective, inners.foldl addBracket root =
      ⟨connective, ((fromReadable inners).head?.map leavesOf).getD [],
        (fromReadable inners).tail.map bracketGroup⟩ := by
  induction inners generalizing root with
  | nil =>
    obtain ⟨connective, leaves, groups⟩ := root
    obtain ⟨rfl, rfl⟩ : leaves = [] ∧ groups = [] := by simpa [Group.isEmpty] using vacant
    exact ⟨connective, rfl⟩
  | cons inner inners ih =>
    rw [List.foldl_cons, addBracket_of_vacant vacant, fromReadable_cons]
    by_cases unreadable : leavesOf inner = []
    · rw [if_pos unreadable]
      exact ih (by simp [isEmpty_bracketGroup, unreadable])
    · have filled : (bracketGroup inner).isEmpty = false := by
        simp [isEmpty_bracketGroup, unreadable]
      rw [if_neg unreadable, foldl_addBracket_of_filled filled]
      exact ⟨connectiveOf inner, rfl⟩

theorem readConditions_eq (text : List Char) (root : Group) :
    readConditions text root =
      readFlat (extract text).2 ((extract text).1.foldl addBracket root) := rfl

theorem readConditions_empty (text : List Char) :
    readConditions text .empty =
      ⟨connectiveOf (extract text).2,
        ((fromReadable (extract text).1).head?.map leavesOf).getD [] ++ leavesOf (extract text).2,
        (fromReadable (extract text).1).tail.map bracketGroup⟩ := by
  have vacant : Group.empty.isEmpty = true := rfl
  obtain ⟨connective, folded⟩ := exists_foldl_addBracket vacant (extract text).1
  rw [readConditions_eq, folded]
  rfl

theorem readConditions_of_filled (filled : root.isEmpty = false) (text : List Char) :
    readConditions text root =
      ⟨connectiveOf (extract text).2, root.leaves ++ leavesOf (extract text).2,
        root.groups ++ (extract text).1.map bracketGroup⟩ := by
  rw [readConditions_eq, foldl_addBracket_of_filled filled]
  rfl

/-- The bracketed texts of a query text that make groups of their own. -/
def nestedTexts (text : String) : List (List Char) :=
  match whereClause? (trim text.toList) with
  | none => []
  | some conditions => (fromReadable (extract conditions).1).tail

theorem groups_parse (text : String) :
    (parse text).root.groups = (nestedTexts text).map bracketGroup := by
  rw [parse, read, nestedTexts]
  cases whereClause? (trim text.toList) with
  | none => rfl
  | some conditions => simp only [readConditions_empty]

theorem leavesOf_ne_nil_iff :
    leavesOf text ≠ [] ↔
      ∃ part ∈ parts text, isPlaceholder part = false ∧ (comparison? part).isSome := by
  simp [leavesOf, Option.isSome_iff_exists, Option.eq_none_iff_forall_ne_some]

/-- Every group inside the root has a leaf exactly if each bracketed text behind the first one that
holds a comparison has a part with a comparison in it. -/
theorem nested_leafCount_pos_iff (text : String) :
    (∀ group ∈ (parse text).root.groups, 0 < group.leafCount) ↔
      ∀ inner ∈ nestedTexts text,
        ∃ part ∈ parts inner, isPlaceholder part = false ∧ (comparison? part).isSome := by
  simp only [groups_parse, List.forall_mem_map, leafCount_bracketGroup, List.length_pos_iff,
    leavesOf_ne_nil_iff]

/-- A list of values in brackets that stands behind others makes the root hold of everything. -/
theorem unreadable_nested_holds :
    let root := (parse "WHERE (a = '1') OR city IN ('Berlin', 'Paris')").root
    root.connective = .any ∧ root.groups = [.empty] ∧
      ∀ compiler record, root.Holds compiler record := by
  intro root
  have joined : root.connective = .any := by decide +kernel
  have nested : root.groups = [.empty] := by
    have texts : nestedTexts "WHERE (a = '1') OR city IN ('Berlin', 'Paris')" =
        ["'Berlin', 'Paris'".toList] := by decide +kernel
    have unread : comparisonsOf "'Berlin', 'Paris'".toList = [] := by decide +kernel
    have connective : connectiveOf "'Berlin', 'Paris'".toList = .all := by decide +kernel
    rw [groups_parse, texts, List.map_singleton, bracketGroup, leavesOf_eq_map, unread, connective]
    rfl
  refine ⟨joined, nested, fun compiler record => ?_⟩
  obtain ⟨connective, leaves, groups⟩ := root
  subst joined nested
  exact .anyGroup (List.mem_singleton_self _) (.empty .all)

end VirtualRecords.QueryText
