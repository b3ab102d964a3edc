import Mathlib.Data.List.Nodup
import VirtualRecords.Criteria.Holds
import VirtualRecords.Proofs.Criteria.Leaves
import VirtualRecords.Proofs.Criteria.Literal

/-! Conditions of a single leaf, and what they answer for one record. A key that is declared once
has the type that is declared for it. A leaf whose literal has a form asks the value that is found
under its field, and the answer for the record is the answer of that value. -/

namespace VirtualRecords

namespace Compiler

variable {compiler : Compiler} {fields : List Field} {field : Field} {type : FieldType}
  {key : String} {value made : Json} {record : Record} {op : Operator} {test : Test}

theorem lookup_of_mem {entries : List (String × FieldType)}
    (distinct : (entries.map Prod.fst).Nodup) (member : (key, type) ∈ entries) :
    entries.lookup key = some type := by
  obtain ⟨before, after, rfl⟩ := List.append_of_mem member
  refine List.lookup_eq_some_iff.2 ⟨before, after, rfl, fun entry earlier => ?_⟩
  rw [List.map_append, List.nodup_append] at distinct
  rw [bne_iff_ne]
  rintro rfl
  exact distinct.2.2 _ (List.mem_map_of_mem earlier) _ List.mem_cons_self rfl

theorem type?_ofFields (distinct : (fields.map Field.key).Nodup) (declared : field ∈ fields)
    (known : field.type? = some type) : (ofFields fields).type? field.key = some type := by
  have entry : (field.key, type) ∈ fields.filterMap fun field => field.type?.map (field.key, ·) :=
    List.mem_filterMap.2 ⟨field, declared, by simp [known]⟩
  refine lookup_of_mem ?_ (List.mem_reverse.2 entry)
  simp only [ofFields]
  rw [List.map_reverse, List.nodup_reverse, List.nodup_iff_pairwise_ne, List.pairwise_map,
    List.pairwise_filterMap]
  rw [List.nodup_iff_pairwise_ne, List.pairwise_map] at distinct
  refine distinct.imp fun apart first isFirst second isSecond => ?_
  obtain ⟨_, -, rfl⟩ := Option.map_eq_some_iff.1 isFirst
  obtain ⟨_, -, rfl⟩ := Option.map_eq_some_iff.1 isSecond
  exact apart

/-- Conditions of this leaf alone can be made into criteria of the record's entity, and the record
does or does not satisfy them. -/
def Answers (compiler : Compiler) (leaf : Leaf) (record : Record) (answer : Bool) : Prop :=
  ∃ criteria, compiler.compile (Group.empty.addLeaf leaf) record.entity = .ok criteria ∧
    criteria.holds record = answer

theorem coerce_eq_ok (known : compiler.type? key = some type) (notNull : value.isNull = false)
    (formed : type.coerce? value = some made) : compiler.coerce key value = .ok made := by
  rw [coerce, notNull, if_neg Bool.false_ne_true, known]
  simp only [coerceTo, formed]

theorem answers_of_holds (named : Text.isBlankString key = false) {literal : Json}
    (tested : compiler.test (.ofOperator key op literal) op = .ok test) (record : Record) :
    compiler.Answers (.ofOperator key op literal) record
      (test.holds ((FieldPath.ofField key).find? record.payload)) := by
  have leaf : compiler.leaf (.ofOperator key op literal) = .ok (.field (.ofField key) test) :=
    leaf_eq_ok named (Operator.ofName?_name op) tested
  refine ⟨.and [.entity record.entity, .and [.field (.ofField key) test]], ?_, ?_⟩
  · simp [compile, Group.addLeaf, Group.empty, group, groups, leaf, Criteria.join, bind, pure,
      Except.bind, Except.pure]
  · simp [Criteria.holds, Criteria.holdAll]

theorem answers_of_test (named : Text.isBlankString key = false)
    (found : (FieldPath.ofField key).find? record.payload = some value)
    (notNull : value.isNull = false) {literal : Json}
    (tested : compiler.test (.ofOperator key op literal) op = .ok test) :
    compiler.Answers (.ofOperator key op literal) record (test.holdsOf value) := by
  have answer := answers_of_holds named tested record
  rwa [found, Test.holds_of_filled notNull] at answer

end Compiler

def Relation.operator : Relation → Operator
  | .eq => .eq
  | .neq => .neq
  | .gt => .gt
  | .gte => .gte
  | .lt => .lt
  | .lte => .lte

namespace Compiler

section Forms

variable {compiler : Compiler} {key : String} {literal made value : Json} {record : Record}

theorem test_of_relation (accepted : compiler.coerce key literal = .ok made)
    (filled : made.isNull = false) (relation : Relation) :
    compiler.test (.ofOperator key relation.operator literal) relation.operator =
      .ok (.compare relation made) := by
  have read (op : Operator) : compiler.literal (.ofOperator key op literal) = .ok made := accepted
  have required (op : Operator) : compiler.required (.ofOperator key op literal) op = .ok made :=
    Outcome.bind_eq_ok.2 ⟨made, read op, by rw [filled, if_neg Bool.false_ne_true]⟩
  cases relation with
  | eq => exact Outcome.bind_pure_eq_ok.2 ⟨made, read .eq, by simp [equality, filled]⟩
  | neq => exact Outcome.bind_pure_eq_ok.2 ⟨made, read .neq, by simp [inequality, filled]⟩
  | gt | gte | lt | lte => exact Outcome.bind_pure_eq_ok.2 ⟨made, required _, rfl⟩

theorem tests_of_list (accepted : compiler.coerce key literal = .ok made) :
    compiler.test (.ofOperator key .isIn (.array [literal])) .isIn = .ok (.isIn [made]) ∧
      compiler.test (.ofOperator key .notIn (.array [literal])) .notIn = .ok (.notIn [made]) := by
  have list (op : Operator) :
      compiler.list (.ofOperator key op (.array [literal])) op = .ok [made] := by
    have items : items? (Leaf.ofOperator key op (.array [literal])).value = some [literal] := rfl
    rw [Compiler.list, items]
    simp only [List.mapM_cons, List.mapM_nil, Leaf.ofOperator, accepted]
    rfl
  exact ⟨Outcome.bind_pure_eq_ok.2 ⟨[made], list .isIn, rfl⟩,
    Outcome.bind_pure_eq_ok.2 ⟨[made], list .notIn, rfl⟩⟩

theorem answers_of_relation (named : Text.isBlankString key = false)
    (found : (FieldPath.ofField key).find? record.payload = some value)
    (notNull : value.isNull = false) (accepted : compiler.coerce key literal = .ok made)
    (filled : made.isNull = false) (relation : Relation) :
    compiler.Answers (.ofOperator key relation.operator literal) record
      (relation.holds value made) :=
  answers_of_test named found notNull (test_of_relation accepted filled relation)

/-- A condition holds of what equals the form of its literal, and its opposite does not. -/
theorem answers_of_form (named : Text.isBlankString key = false)
    (found : (FieldPath.ofField key).find? record.payload = some value)
    (notNull : value.isNull = false) (accepted : compiler.coerce key literal = .ok made)
    (filled : made.isNull = false) (same : value.equals made = true) :
    compiler.Answers (.ofOperator key .eq literal) record true ∧
      compiler.Answers (.ofOperator key .isIn (.array [literal])) record true ∧
      compiler.Answers (.ofOperator key .neq literal) record false ∧
      compiler.Answers (.ofOperator key .notIn (.array [literal])) record false := by
  obtain ⟨isIn, notIn⟩ := tests_of_list accepted
  have first := answers_of_relation named found notNull accepted filled .eq
  have second := answers_of_test named found notNull isIn
  have third := answers_of_relation named found notNull accepted filled .neq
  have fourth := answers_of_test named found notNull notIn
  simp only [Test.holdsOf, Relation.holds, same, List.any_cons, List.any_nil, Bool.or_false,
    Bool.not_true] at first second third fourth
  exact ⟨first, second, third, fourth⟩

end Forms

end Compiler

end VirtualRecords
