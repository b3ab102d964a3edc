import VirtualRecords.Criteria.Compiler
import VirtualRecords.Proofs.Outcome

/-! Errors of whole conditions. The leaves of a group and of the groups inside it are judged one
after another, and the criteria of the group fail with the error of the first leaf that fails; so
it is the leaves alone that decide whether criteria can be made. Most operators have no use for
null, and where no types are declared that is all that can be wrong with a text or a null. -/

namespace VirtualRecords

namespace Group

mutual

/-- The leaves at every depth in the order in which they are judged. -/
def everyLeaf : Group → List Leaf
  | ⟨_, leaves, groups⟩ => leaves ++ everyLeafOf groups

def everyLeafOf : List Group → List Leaf
  | [] => []
  | group :: rest => everyLeaf group ++ everyLeafOf rest

end

theorem everyLeafOf_eq_flatMap (groups : List Group) :
    everyLeafOf groups = groups.flatMap everyLeaf := by
  induction groups with
  | nil => rfl
  | cons group rest ih => rw [everyLeafOf, List.flatMap_cons, ih]

theorem mem_everyLeaf {group : Group} {leaf : Leaf} :
    leaf ∈ group.everyLeaf ↔
      leaf ∈ group.leaves ∨ ∃ nested ∈ group.groups, leaf ∈ nested.everyLeaf := by
  obtain ⟨connective, leaves, groups⟩ := group
  rw [everyLeaf, everyLeafOf_eq_flatMap, List.mem_append, List.mem_flatMap]

end Group

namespace Compiler

variable {compiler : Compiler}

mutual

/-- A group fails with the error of the first leaf that does. -/
theorem group_eq_error_iff {e : QueryError} (group : Group) :
    compiler.group group = .error e ↔ group.everyLeaf.mapM compiler.leaf = .error e := by
  obtain ⟨connective, leaves, groups⟩ := group
  rw [Group.everyLeaf, Outcome.mapM_append_eq_error, ← groups_eq_error_iff groups]
  unfold Compiler.group
  split
  · next none =>
    obtain ⟨rfl, rfl⟩ : leaves = [] ∧ groups = [] := by simpa using none
    simp [Compiler.groups]
  · rw [Outcome.bind_eq_error]
    simp only [Outcome.bind_pure_eq_error, exists_and_right]

theorem groups_eq_error_iff {e : QueryError} (groups : List Group) :
    compiler.groups groups = .error e ↔
      (Group.everyLeafOf groups).mapM compiler.leaf = .error e := by
  cases groups with
  | nil => simp [Compiler.groups, Group.everyLeafOf]
  | cons first rest =>
    rw [Group.everyLeafOf, Outcome.mapM_append_eq_error, ← groups_eq_error_iff rest,
      Compiler.groups, Outcome.bind_eq_error, group_eq_error_iff first, Outcome.exists_eq_ok_iff]
    simp only [Outcome.bind_pure_eq_error, exists_and_right, Outcome.exists_eq_ok_iff, Ne,
      group_eq_error_iff first]

end

theorem compile_eq_error_iff {e : QueryError} {group : Group} {entity : Identifier} :
    compiler.compile group entity = .error e ↔
      group.everyLeaf.mapM compiler.leaf = .error e := by
  rw [compile, Outcome.bind_pure_eq_error, group_eq_error_iff]

theorem exists_compile_eq_error_iff {group : Group} {entity : Identifier} :
    (∃ e, compiler.compile group entity = .error e) ↔
      ∃ leaf ∈ group.everyLeaf, ∃ e, compiler.leaf leaf = .error e := by
  simp only [compile_eq_error_iff, Outcome.exists_mapM_eq_error_iff]

theorem exists_leaf_of_compile_eq_error {e : QueryError} {group : Group} {entity : Identifier}
    (failed : compiler.compile group entity = .error e) :
    ∃ leaf ∈ group.everyLeaf, compiler.leaf leaf = .error e :=
  Outcome.exists_of_mapM_eq_error (compile_eq_error_iff.1 failed)

variable {leaf : Leaf} {op : Operator} {e : QueryError}

theorem leaf_eq_error_iff (named : Text.isBlankString leaf.field = false)
    (known : leaf.operator? = some op) :
    compiler.leaf leaf = .error e ↔ compiler.test leaf op = .error e := by
  rw [Compiler.leaf, named, known, if_neg Bool.false_ne_true]
  exact Outcome.bind_pure_eq_error

theorem leaf_eq_ok {test : Test} (named : Text.isBlankString leaf.field = false)
    (known : leaf.operator? = some op) (tested : compiler.test leaf op = .ok test) :
    compiler.leaf leaf = .ok (.field (.ofField leaf.field) test) := by
  rw [Compiler.leaf, named, known, if_neg Bool.false_ne_true]
  exact Outcome.bind_pure_eq_ok.2 ⟨test, tested, rfl⟩

def nullFault? (leaf : Leaf) : Operator → Option QueryError
  | .eq | .neq | .isNull | .isNotNull => none
  | .isIn => some (.invalidList leaf.field Operator.isIn.name)
  | .notIn => some (.invalidList leaf.field Operator.notIn.name)
  | op => some (missing leaf op)

theorem ne_of_nullFault? (fault : nullFault? leaf op = some e) :
    e ≠ .emptyField ∧ (∀ name, e ≠ .unknownOperator name) ∧
      ∀ field expected found, e ≠ .invalidLiteral field expected found := by
  cases op <;> simp [nullFault?, missing] at fault <;> subst fault <;> simp

theorem test_eq_error_iff_of_null (null : leaf.value = .null) :
    compiler.test leaf op = .error e ↔ nullFault? leaf op = some e := by
  cases op <;>
    simp [test, nullFault?, null, literal, coerce, required, list, items?, patternText,
      containment, Json.isNull, Outcome.bind_eq_error]

theorem coerce_untyped (field : String) (value : Json) :
    untyped.coerce field value = .ok value := by
  cases value <;> rfl

theorem mapM_coerce_untyped (field : String) (values : List Json) :
    values.mapM (untyped.coerce field) = .ok values := by
  induction values with
  | nil => rfl
  | cons value values ih =>
    rw [List.mapM_cons, coerce_untyped, ih]
    rfl

theorem test_untyped_ne_error_of_string {s : String} (text : leaf.value = .string s) :
    untyped.test leaf op ≠ .error e := by
  cases op <;>
    simp [test, text, literal, coerce_untyped, required, list, items?, patternText,
      containment, Json.isNull, Outcome.bind_eq_error, mapM_coerce_untyped]

end Compiler
end VirtualRecords
