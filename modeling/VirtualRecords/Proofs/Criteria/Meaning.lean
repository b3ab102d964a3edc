import VirtualRecords.Criteria.Holds
import VirtualRecords.Proofs.Criteria.Literal
import VirtualRecords.Proofs.Text.LikeScan

/-! Making criteria out of conditions keeps what the conditions say. Each operator turns into
a test of the same meaning, a leaf into a test of the value under its field, and a group
into a conjunction or a disjunction of the criteria of its members. -/

namespace VirtualRecords

namespace Test

theorem holds_isNull_iff {found : Option Json} :
    Test.isNull.holds found = true ↔ ¬ ∃ value, found = some value ∧ value.isNull = false := by
  cases found with
  | none => simp [holds, isNullTest]
  | some value => cases value <;> simp [holds, isNullTest, holdsOf, Json.isNull]

theorem holds_iff {test : Test} {found : Option Json} (other : test.isNullTest = false) :
    test.holds found = true ↔
      ∃ value, found = some value ∧ value.isNull = false ∧ test.holdsOf value = true := by
  cases found with
  | none => simp [holds, other]
  | some value => cases value <;> simp [holds, other, Json.isNull]

theorem holdsOf_like_iff {pattern : String} {value : Json} :
    (Test.like pattern).holdsOf value = true ↔ value.TextHas (Text.Fits pattern.toList) := by
  simp [holdsOf, Json.TextHas, Option.any_eq_true, Text.isLike_iff_fits]

end Test

namespace Relation

theorem holds_gt_iff {a b : Json} : gt.holds a b = true ↔ a.order? b = some .gt := by
  simp [holds]

theorem holds_lt_iff {a b : Json} : lt.holds a b = true ↔ a.order? b = some .lt := by
  simp [holds]

theorem holds_gte_iff {a b : Json} :
    gte.holds a b = true ↔ a.order? b = some .gt ∨ a.order? b = some .eq := by
  rw [holds]
  cases a.order? b with
  | none => simp
  | some order => cases order <;> simp

theorem holds_lte_iff {a b : Json} :
    lte.holds a b = true ↔ a.order? b = some .lt ∨ a.order? b = some .eq := by
  rw [holds]
  cases a.order? b with
  | none => simp
  | some order => cases order <;> simp

end Relation

theorem Json.textHas_congr {first second : List Char → Prop}
    (same : ∀ text, first text ↔ second text) (value : Json) : value.TextHas first ↔ value.TextHas second :=
  exists_congr fun _ => and_congr_right fun _ => same _

namespace Criteria

variable {record : Record} {name : String}

theorem holds_field_isNull_iff :
    (field (.ofField name) .isNull).holds record = true ↔ ¬ ∃ value, record.Shows name value := by
  rw [holds, Test.holds_isNull_iff]
  simp only [Record.shows_iff]

theorem holds_field_iff {test : Test} (other : test.isNullTest = false) :
    (field (.ofField name) test).holds record = true ↔
      ∃ value, record.Shows name value ∧ test.holdsOf value = true := by
  rw [holds, Test.holds_iff other]
  simp only [Record.shows_iff, and_assoc]

theorem holds_like_iff {pattern : String} {demand : List Char → Prop}
    (same : ∀ text, Text.Fits pattern.toList text ↔ demand text) :
    (field (.ofField name) (.like pattern)).holds record = true ↔
      ∃ value, record.Shows name value ∧ value.TextHas demand := by
  rw [holds_field_iff rfl]
  refine exists_congr fun value => and_congr_right fun _ => ?_
  rw [Test.holdsOf_like_iff, Json.textHas_congr same]

end Criteria

namespace Compiler

variable {compiler : Compiler} {record : Record} {leaf : Leaf} {op : Operator} {test : Test}

theorem compare_holds_iff {relation : Relation}
    (made : (do return .compare relation (← compiler.required leaf op)) = Except.ok test) :
    (Criteria.field (.ofField leaf.field) test).holds record = true ↔
      ∃ value, record.Shows leaf.field value ∧
        relation.holds value (compiler.form leaf.field leaf.value) = true := by
  obtain ⟨value, literal, made⟩ := Outcome.bind_eq_ok.1 made
  obtain rfl := eq_form_of_required literal
  cases made
  exact Criteria.holds_field_iff rfl

theorem contains_holds_iff {element : Json} :
    (Criteria.field (.ofField leaf.field) (.contains element)).holds record = true ↔
      ∃ items, record.Shows leaf.field (.array items) ∧
        ∃ item ∈ items, item.equals element = true := by
  rw [Criteria.holds_field_iff rfl]
  constructor
  · rintro ⟨value, shown, held⟩
    cases value with
    | array items => exact ⟨items, shown, List.any_eq_true.1 held⟩
    | _ => cases held
  · rintro ⟨items, shown, held⟩
    exact ⟨.array items, shown, List.any_eq_true.2 held⟩

theorem containment_holds_iff (made : containment leaf op = .ok test) :
    (Criteria.field (.ofField leaf.field) test).holds record = true ↔
      Operator.contains.Holds (compiler.form leaf.field) leaf.value (record.Shows leaf.field) := by
  unfold containment at made
  cases known : leaf.value with
  | null => rw [known] at made; cases made
  | string s =>
    rw [known] at made
    cases made
    refine Criteria.holds_like_iff fun text => ?_
    rw [Text.fitsInside_iff, String.toList_append, String.toList_append]
    rfl
  | _ => rw [known] at made; cases made; exact contains_holds_iff

/-- The test that is made for an operator has the operator's meaning. -/
theorem test_holds_iff (made : compiler.test leaf op = .ok test) :
    (Criteria.field (.ofField leaf.field) test).holds record = true ↔
      op.Holds (compiler.form leaf.field) leaf.value (record.Shows leaf.field) := by
  cases op with
  | eq =>
    obtain ⟨value, literal, made⟩ := Outcome.bind_eq_ok.1 made
    obtain rfl := eq_form_of_coerce literal
    cases made
    rw [equality, isNull_form, Operator.Holds]
    split
    · exact Criteria.holds_field_isNull_iff
    · exact Criteria.holds_field_iff rfl
  | neq =>
    obtain ⟨value, literal, made⟩ := Outcome.bind_eq_ok.1 made
    obtain rfl := eq_form_of_coerce literal
    cases made
    rw [inequality, isNull_form, Operator.Holds]
    split
    · rw [Criteria.holds_field_iff rfl]
      simp [Test.holdsOf]
    · rw [Criteria.holds_field_iff rfl]
      simp [Test.holdsOf, Relation.holds]
  | gt => simp only [compare_holds_iff made, Operator.Holds, Relation.holds_gt_iff]
  | gte => simp only [compare_holds_iff made, Operator.Holds, Relation.holds_gte_iff]
  | lt => simp only [compare_holds_iff made, Operator.Holds, Relation.holds_lt_iff]
  | lte => simp only [compare_holds_iff made, Operator.Holds, Relation.holds_lte_iff]
  | contains => exact containment_holds_iff made
  | startsWith =>
    obtain ⟨text, accepted, made⟩ := Outcome.bind_eq_ok.1 made
    cases made
    refine Criteria.holds_like_iff fun value => ?_
    rw [Text.fitsAtStart_iff, String.toList_append, patternText_toList accepted]
    rfl
  | endsWith =>
    obtain ⟨text, accepted, made⟩ := Outcome.bind_eq_ok.1 made
    cases made
    refine Criteria.holds_like_iff fun value => ?_
    rw [Text.fitsAtEnd_iff, String.toList_append, patternText_toList accepted]
    rfl
  | isIn =>
    obtain ⟨values, accepted, made⟩ := Outcome.bind_eq_ok.1 made
    obtain ⟨items, read, rfl⟩ := eq_forms_of_list accepted
    cases made
    rw [Criteria.holds_field_iff rfl]
    simp [Test.holdsOf, Operator.Holds, read]
  | notIn =>
    obtain ⟨values, accepted, made⟩ := Outcome.bind_eq_ok.1 made
    obtain ⟨items, read, rfl⟩ := eq_forms_of_list accepted
    cases made
    rw [Criteria.holds_field_iff rfl]
    simp [Test.holdsOf, Operator.Holds, read]
  | isNull => cases made; exact Criteria.holds_field_isNull_iff
  | isNotNull =>
    cases made
    rw [Criteria.holds_field_iff rfl]
    simp [Test.holdsOf, Operator.Holds]

theorem leaf_holds_iff {made : Criteria} (accepted : compiler.leaf leaf = .ok made) :
    made.holds record = true ↔ leaf.Holds compiler record := by
  unfold Compiler.leaf at accepted
  split at accepted
  · cases accepted
  · split at accepted
    · cases accepted
    · next op known =>
      obtain ⟨test, tested, same⟩ := Outcome.bind_eq_ok.1 accepted
      obtain rfl := Outcome.pure_eq_ok.1 same
      rw [test_holds_iff tested]
      simp [Leaf.Holds, known]

theorem leaves_hold_iff {leaves : List Leaf} {made : List Criteria}
    (accepted : leaves.mapM compiler.leaf = .ok made) :
    List.Forall₂ (fun leaf part => part.holds record = true ↔ leaf.Holds compiler record)
      leaves made :=
  (Outcome.mapM_forall₂ accepted).imp fun _ _ => leaf_holds_iff

theorem join_holds_iff {connective : Connective} {leaves : List Leaf} {groups : List Group}
    {own nested : List Criteria} (some : (leaves.isEmpty && groups.isEmpty) = false)
    (ofLeaves : List.Forall₂
      (fun leaf part => part.holds record = true ↔ leaf.Holds compiler record) leaves own)
    (ofGroups : List.Forall₂
      (fun group part => part.holds record = true ↔ group.Holds compiler record) groups nested) :
    (Criteria.join connective (own ++ nested)).holds record = true ↔
      Group.Holds compiler record ⟨connective, leaves, groups⟩ := by
  cases connective with
  | all =>
    rw [Criteria.join, Criteria.holds, Criteria.holdAll_eq_all, List.all_append, Bool.and_eq_true,
      Outcome.forall₂_all_iff ofLeaves, Outcome.forall₂_all_iff ofGroups, Group.holds_all_iff]
  | any =>
    -- A disjunction of nothing is false, so the group must not be the one that always holds.
    have filled : ¬ (leaves = [] ∧ groups = []) := by
      rintro ⟨rfl, rfl⟩
      cases some
    rw [Criteria.join, Criteria.holds, Criteria.holdsAny_eq_any, List.any_append, Bool.or_eq_true,
      Outcome.forall₂_any_iff ofLeaves, Outcome.forall₂_any_iff ofGroups, Group.holds_any_iff,
      or_iff_right filled]

mutual

theorem group_holds_iff {group : Group} {made : Criteria}
    (accepted : compiler.group group = .ok made) :
    made.holds record = true ↔ group.Holds compiler record := by
  obtain ⟨connective, leaves, groups⟩ := group
  unfold Compiler.group at accepted
  split at accepted
  · next none =>
    obtain ⟨rfl, rfl⟩ : leaves = [] ∧ groups = [] := by simpa using none
    cases accepted
    exact iff_of_true rfl (.empty connective)
  · next filled =>
    obtain ⟨own, ofLeaves, accepted⟩ := Outcome.bind_eq_ok.1 accepted
    obtain ⟨nested, ofGroups, same⟩ := Outcome.bind_eq_ok.1 accepted
    obtain rfl := Outcome.pure_eq_ok.1 same
    exact join_holds_iff (Bool.eq_false_iff.2 filled) (leaves_hold_iff ofLeaves)
      (groups_hold_iff ofGroups)

theorem groups_hold_iff {groups : List Group} {made : List Criteria}
    (accepted : compiler.groups groups = .ok made) :
    List.Forall₂ (fun group part => part.holds record = true ↔ group.Holds compiler record)
      groups made := by
  cases groups with
  | nil =>
    cases accepted
    exact .nil
  | cons first rest =>
    obtain ⟨head, ofFirst, accepted⟩ := Outcome.bind_eq_ok.1 accepted
    obtain ⟨tail, ofRest, same⟩ := Outcome.bind_eq_ok.1 accepted
    obtain rfl := Outcome.pure_eq_ok.1 same
    exact .cons (group_holds_iff ofFirst) (groups_hold_iff ofRest)

end

theorem exists_of_compile {group : Group} {entity : Identifier} {criteria : Criteria}
    (accepted : compiler.compile group entity = .ok criteria) :
    ∃ own, compiler.group group = .ok own ∧ criteria = .and [.entity entity, own] := by
  obtain ⟨own, made, same⟩ := Outcome.bind_eq_ok.1 accepted
  exact ⟨own, made, (Outcome.pure_eq_ok.1 same).symm⟩

/-- Criteria hold of exactly the records of the entity of which the group holds. -/
theorem compile_holds_iff {group : Group} {entity : Identifier} {criteria : Criteria}
    (accepted : compiler.compile group entity = .ok criteria) (record : Record) :
    criteria.holds record = true ↔ record.entity = entity ∧ group.Holds compiler record := by
  obtain ⟨own, made, rfl⟩ := exists_of_compile accepted
  simp only [Criteria.holds, Criteria.holdAll, Bool.and_true, Bool.and_eq_true, beq_iff_eq]
  rw [group_holds_iff made]

def grownOrUnowned : Group where
  connective := .any
  leaves := [.ofOperator "age" .gte (.string "18")]
  groups := [
    ⟨.all, [.ofOperator "flags" .contains (.bool true), .ofOperator "owner.name" .eq .null], []⟩]

theorem compile_holds_iff_grownOrUnowned :
    let compiler : Compiler := ⟨[("age", .integer)]⟩
    let entity : Identifier := ⟨7⟩
    let criteria : Criteria := .and [.entity entity, .or [
      .field ⟨["age"]⟩ (.compare .gte (.number (.integer ⟨18, by decide, by decide⟩))),
      .and [.field ⟨["flags"]⟩ (.contains (.bool true)), .field ⟨["owner", "name"]⟩ .isNull]]]
    let record : Record := .make ⟨1⟩ entity [("flags", .array [.bool true])] ⟨0, 0⟩
    compiler.compile grownOrUnowned entity = .ok criteria ∧ criteria.holds record = true ∧
      (criteria.holds record = true ↔
        record.entity = entity ∧ grownOrUnowned.Holds compiler record) :=
  ⟨rfl, rfl, compile_holds_iff rfl _⟩

end Compiler
end VirtualRecords
