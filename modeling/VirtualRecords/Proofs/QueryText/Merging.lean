import VirtualRecords.Proofs.QueryText.Brackets
import VirtualRecords.Proofs.Service.Plans

/-! Text that is read into conditions which are there already. Everything there stays a member of
the root and what is read is added to it, but the connective of the text takes the place of the
root's own. So all that was there must still hold, unless the text joins its conditions by `OR`
alone: then any of its conditions will do instead. -/

namespace VirtualRecords

namespace QueryText

open Text

variable {root : Group} {compiler : Compiler} {record : Record}

/-- The conditions of a text, its brackets taken out, are joined by `OR` and by nothing else. -/
def JoinedByOr (text : String) : Prop :=
  ∃ conditions, whereClause? (trim text.toList) = some conditions ∧
    connectiveOf (extract conditions).2 = .any

theorem isEmpty_readConditions (filled : root.isEmpty = false) (text : List Char) :
    (readConditions text root).isEmpty = false := by
  rw [readConditions_of_filled filled]
  simp_all [Group.isEmpty]

theorem isEmpty_read (filled : root.isEmpty = false) (text : String) :
    (read text root).root.isEmpty = false := by
  rw [read]
  cases whereClause? (trim text.toList) with
  | none => exact filled
  | some conditions => exact isEmpty_readConditions filled conditions

theorem holds_of_all {leaves : List Leaf} {groups : List Group} (filled : root.isEmpty = false)
    (holds : Group.Holds compiler record ⟨.all, root.leaves ++ leaves, root.groups ++ groups⟩) :
    root.Holds compiler record := by
  obtain ⟨connective, own, nested⟩ := root
  obtain ⟨leavesHold, groupsHold⟩ := Group.holds_all_iff.1 holds
  have ownHold : ∀ leaf ∈ own, leaf.Holds compiler record :=
    fun leaf member => leavesHold leaf (List.mem_append_left leaves member)
  have nestedHold : ∀ group ∈ nested, group.Holds compiler record :=
    fun group member => groupsHold group (List.mem_append_left groups member)
  cases connective with
  | all => exact .all ownHold nestedHold
  | any =>
    cases own with
    | cons leaf own => exact .anyLeaf List.mem_cons_self (ownHold leaf List.mem_cons_self)
    | nil =>
      cases nested with
      | cons group nested => exact .anyGroup List.mem_cons_self (nestedHold group List.mem_cons_self)
      | nil => cases filled

theorem holds_of_read {text : String} (filled : root.isEmpty = false) (strict : ¬ JoinedByOr text)
    (holds : (read text root).root.Holds compiler record) : root.Holds compiler record := by
  rw [read] at holds
  cases clause : whereClause? (trim text.toList) with
  | none => simpa only [clause] using holds
  | some conditions =>
    have all : connectiveOf (extract conditions).2 = .all := by
      cases connective : connectiveOf (extract conditions).2 with
      | all => rfl
      | any => exact absurd ⟨conditions, clause, connective⟩ strict
    simp only [clause, readConditions_of_filled filled, all] at holds
    exact holds_of_all filled holds

end QueryText

namespace Query

open QueryText

variable {query : Query} {compiler : Compiler} {text : String}

theorem applyText_of_blank (blank : query.textToRead? = none) : query.applyText = query := by
  rw [applyText, blank]

theorem applyText_root_of_text (written : query.textToRead? = some text) :
    query.applyText.root = (read text query.root).root := by
  rw [applyText, written]
  dsimp only
  split <;> rfl

theorem criteria_applyText {conditions : List Char} (filled : query.root.isEmpty = false)
    (written : query.textToRead? = some text)
    (clause : whereClause? (Text.trim text.toList) = some conditions) :
    query.applyText.criteria compiler =
      compiler.compile ⟨connectiveOf (extract conditions).2,
        query.root.leaves ++ leavesOf (extract conditions).2,
        query.root.groups ++ (extract conditions).1.map bracketGroup⟩ query.entity := by
  have root : query.applyText.root = readConditions conditions query.root := by
    rw [applyText_root_of_text written, QueryText.read]
    simp only [clause]
  rw [criteria, conditions_of_filled (by rw [root]; exact isEmpty_readConditions filled conditions),
    root, readConditions_of_filled filled, applyText_entity]

variable {before after : Criteria} {record : Record}

theorem criteria_holds_iff (filled : query.root.isEmpty = false)
    (made : query.criteria compiler = .ok before) :
    before.holds record = true ↔
      record.entity = query.entity ∧ query.root.Holds compiler record := by
  rw [criteria, conditions_of_filled filled] at made
  exact Compiler.compile_holds_iff made record

/-- Text that does not join its conditions by `OR` alone can only narrow the conditions that a query
has: what matches with the text matches without it. -/
theorem applyText_narrows (filled : query.root.isEmpty = false)
    (strict : ∀ text, query.text = some text → ¬ JoinedByOr text)
    (made : query.criteria compiler = .ok before)
    (remade : query.applyText.criteria compiler = .ok after)
    (matched : after.holds record = true) : before.holds record = true := by
  cases written : query.textToRead? with
  | none =>
    rw [applyText_of_blank written, made] at remade
    cases remade
    exact matched
  | some text =>
    have root := applyText_root_of_text written
    have filledAfter : query.applyText.root.isEmpty = false := by
      rw [root]
      exact isEmpty_read filled text
    have given : query.text = some text := (Option.filter_eq_some_iff.1 written).1
    obtain ⟨own, holds⟩ := (criteria_holds_iff filledAfter remade).1 matched
    rw [applyText_entity] at own
    rw [root] at holds
    exact (criteria_holds_iff filled made).2
      ⟨own, holds_of_read filled (strict text given) holds⟩

def leadsWith (text : String) : Query :=
  ((ofEntity ⟨7⟩).withRoot ⟨.all, [.ofOperator "kind" .eq (.string "lead")], []⟩).withText text

theorem applyText_narrows_brackets :
    let query := leadsWith "WHERE (a = '1' OR b = '2')"
    let record : Record := .make ⟨1⟩ ⟨7⟩ [("b", .string "2"), ("kind", .string "lead")] ⟨0, 0⟩
    query.root.isEmpty = false ∧
      (∀ text, query.text = some text → ¬ JoinedByOr text) ∧
      ∃ before after, query.criteria .untyped = .ok before ∧
        query.applyText.criteria .untyped = .ok after ∧
        after.holds record = true ∧ before.holds record = true := by
  intro query record
  have clause : whereClause? (Text.trim "WHERE (a = '1' OR b = '2')".toList) =
      some "(a = '1' OR b = '2')".toList := by decide +kernel
  have extracted : extract "(a = '1' OR b = '2')".toList =
      (["a = '1' OR b = '2'".toList], placeholder) := by decide +kernel
  have joined : connectiveOf placeholder = .all := by decide +kernel
  have nestedJoined : connectiveOf "a = '1' OR b = '2'".toList = .any := by decide +kernel
  have compared : comparisonsOf placeholder = [] := by decide +kernel
  have nestedCompared : comparisonsOf "a = '1' OR b = '2'".toList =
      [⟨['a'], ['='], .quoted ['1']⟩, ⟨['b'], ['='], .quoted ['2']⟩] := by decide +kernel
  have remade : query.applyText.criteria .untyped = .ok (.and [.entity ⟨7⟩, .and [
      .field ⟨["kind"]⟩ (.compare .eq (.string "lead")), .or [
        .field ⟨["a"]⟩ (.compare .eq (.string "1")),
        .field ⟨["b"]⟩ (.compare .eq (.string "2"))]]]) := by
    rw [criteria_applyText rfl rfl clause, extracted, leavesOf_eq_map, joined, compared,
      List.map_singleton, bracketGroup, leavesOf_eq_map, nestedJoined, nestedCompared]
    rfl
  have strict : ∀ text, query.text = some text → ¬ JoinedByOr text := by
    rintro _ given ⟨conditions, found, alone⟩
    cases given
    rw [clause] at found
    cases found
    rw [extracted, joined] at alone
    cases alone
  exact ⟨rfl, strict, _, _, rfl, remade, rfl, applyText_narrows rfl strict rfl remade rfl⟩

/-- Text that joins its conditions by `OR` alone brings back what the query had left out. -/
theorem applyText_relaxes_or :
    let query := leadsWith "WHERE a = '1' OR b = '2'"
    let record : Record := .make ⟨1⟩ ⟨7⟩ [("a", .string "1")] ⟨0, 0⟩
    query.root.isEmpty = false ∧
      ∃ before after, query.criteria .untyped = .ok before ∧
        query.applyText.criteria .untyped = .ok after ∧
        after.holds record = true ∧ before.holds record = false := by
  intro query record
  have clause : whereClause? (Text.trim "WHERE a = '1' OR b = '2'".toList) =
      some "a = '1' OR b = '2'".toList := by decide +kernel
  have extracted : extract "a = '1' OR b = '2'".toList = ([], "a = '1' OR b = '2'".toList) := by
    decide +kernel
  have joined : connectiveOf "a = '1' OR b = '2'".toList = .any := by decide +kernel
  have compared : comparisonsOf "a = '1' OR b = '2'".toList =
      [⟨['a'], ['='], .quoted ['1']⟩, ⟨['b'], ['='], .quoted ['2']⟩] := by decide +kernel
  have remade : query.applyText.criteria .untyped = .ok (.and [.entity ⟨7⟩, .or [
      .field ⟨["kind"]⟩ (.compare .eq (.string "lead")),
      .field ⟨["a"]⟩ (.compare .eq (.string "1")),
      .field ⟨["b"]⟩ (.compare .eq (.string "2"))]]) := by
    rw [criteria_applyText rfl rfl clause, extracted, leavesOf_eq_map, joined, compared]
    rfl
  exact ⟨rfl, _, _, rfl, remade, rfl, rfl⟩

end Query
end VirtualRecords
