import VirtualRecords.Proofs.Criteria.FirstFault
import VirtualRecords.Proofs.Criteria.Meaning

/-! Membership beside equality. A list of literals is walked item by item and one literal is read
by itself, but each item takes the form that it would take alone, so the walk stops where the first
comparison would. A value that equals the form of some item satisfies one of the comparisons, and
one that equals none satisfies all of their opposites, of which there must be one: a missing value
satisfies no comparison, but all of no comparisons hold of it. -/

namespace VirtualRecords

namespace Compiler

/-- Two attempts at criteria that nothing tells apart: both fail with one error, or both give
criteria, and those hold of the same records. -/
inductive Alike : Except QueryError Criteria → Except QueryError Criteria → Prop where
  | failing (e : QueryError) : Alike (.error e) (.error e)
  | holding {first second : Criteria} :
      (∀ record, first.holds record = second.holds record) → Alike (.ok first) (.ok second)

variable {compiler : Compiler} {field : String} {literal : Json} {literals : List Json}
  {record : Record} {leaf : Leaf} {e : QueryError}

theorem alike_compile {first second : Group} (entity : Identifier)
    (fails : ∀ e, first.everyLeaf.mapM compiler.leaf = .error e ↔
      second.everyLeaf.mapM compiler.leaf = .error e)
    (agree : ∀ record, first.Holds compiler record ↔ second.Holds compiler record) :
    Alike (compiler.compile first entity) (compiler.compile second entity) := by
  have failing (e : QueryError) : compiler.compile first entity = .error e ↔
      compiler.compile second entity = .error e := by
    rw [compile_eq_error_iff, compile_eq_error_iff, fails e]
  cases left : compiler.compile first entity with
  | error e =>
    rw [(failing e).1 left]
    exact .failing e
  | ok own =>
    cases right : compiler.compile second entity with
    | error e =>
      rw [(failing e).2 right] at left
      cases left
    | ok other =>
      obtain ⟨_, firstMade, rfl⟩ := exists_of_compile left
      obtain ⟨_, secondMade, rfl⟩ := exists_of_compile right
      refine .holding fun record => ?_
      have same := Bool.eq_iff_iff.2 <|
        (group_holds_iff firstMade).trans ((agree record).trans (group_holds_iff secondMade).symm)
      simp only [Criteria.holds, Criteria.holdAll, same]

theorem leaf_ofOperator_eq_error_iff {op : Operator} {value : Json}
    (named : Text.isBlankString field = false) :
    compiler.leaf (.ofOperator field op value) = .error e ↔
      compiler.test (.ofOperator field op value) op = .error e :=
  leaf_eq_error_iff named (Operator.ofName?_name op)

theorem leaf_list_eq_error_iff {op : Operator} (lists : op = .isIn ∨ op = .notIn)
    (named : Text.isBlankString field = false) :
    compiler.leaf (.ofOperator field op (.array literals)) = .error e ↔
      literals.mapM (compiler.coerce field) = .error e := by
  rw [leaf_ofOperator_eq_error_iff named]
  rcases lists with rfl | rfl <;> exact Outcome.bind_pure_eq_error

theorem leaf_literal_eq_error_iff {op : Operator} (compares : op = .eq ∨ op = .neq)
    (named : Text.isBlankString field = false) :
    compiler.leaf (.ofOperator field op literal) = .error e ↔
      compiler.coerce field literal = .error e := by
  rw [leaf_ofOperator_eq_error_iff named]
  rcases compares with rfl | rfl <;> exact Outcome.bind_pure_eq_error

/-- The first item that cannot take the shape of the field's type is the literal of the first
comparison that fails, and a blank field is reported before any of them. -/
theorem mapM_leaf_eq_error_iff {listed single : Operator}
    (lists : listed = .isIn ∨ listed = .notIn) (compares : single = .eq ∨ single = .neq)
    (nonempty : literals ≠ []) (e : QueryError) :
    [Leaf.ofOperator field listed (.array literals)].mapM compiler.leaf = .error e ↔
      (literals.map (Leaf.ofOperator field single)).mapM compiler.leaf = .error e := by
  cases blank : Text.isBlankString field with
  | true =>
    have refused (op : Operator) (value : Json) :
        compiler.leaf (.ofOperator field op value) = .error .emptyField := by
      rw [Compiler.leaf, Leaf.ofOperator, if_pos blank]
    obtain ⟨first, more, rfl⟩ := List.exists_cons_of_ne_nil nonempty
    simp [refused, bind, Except.bind]
  | false =>
    rw [List.mapM_map, Outcome.mapM_singleton_eq_error, leaf_list_eq_error_iff lists blank]
    exact (Outcome.mapM_eq_error_congr (fun _ _ _ => leaf_literal_eq_error_iff compares blank) e).symm

theorem holds_single (connective : Connective) :
    Group.Holds compiler record ⟨connective, [leaf], []⟩ ↔ leaf.Holds compiler record := by
  cases connective with
  | all => simp [Group.holds_all_iff]
  | any => simp [Group.holds_any_iff]

theorem leaf_holds_ofOperator {op : Operator} {value : Json} :
    (Leaf.ofOperator field op value).Holds compiler record ↔
      op.Holds (compiler.form field) value (record.Shows field) := by
  simp [Leaf.Holds, Leaf.operator?, Leaf.ofOperator]

theorem eq_holds_iff (filled : literal.isNull = false) :
    (Leaf.ofOperator field .eq literal).Holds compiler record ↔
      ∃ value, record.Shows field value ∧
        value.equals (compiler.form field literal) = true := by
  simp [leaf_holds_ofOperator, Operator.Holds, filled]

theorem neq_holds_iff (filled : literal.isNull = false) :
    (Leaf.ofOperator field .neq literal).Holds compiler record ↔
      ∃ value, record.Shows field value ∧
        value.equals (compiler.form field literal) = false := by
  simp [leaf_holds_ofOperator, Operator.Holds, filled]

theorem isIn_holds_iff (nonempty : literals ≠ [])
    (filled : ∀ literal ∈ literals, literal.isNull = false) :
    (Leaf.ofOperator field .isIn (.array literals)).Holds compiler record ↔
      Group.Holds compiler record ⟨.any, literals.map (Leaf.ofOperator field .eq), []⟩ := by
  rw [Group.holds_any_iff, leaf_holds_ofOperator]
  simp only [List.map_eq_nil_iff, nonempty, false_and, List.not_mem_nil, exists_false, or_false,
    false_or, List.mem_map, exists_exists_and_eq_and]
  constructor
  · rintro ⟨value, items, shown, read, literal, member, equal⟩
    cases read
    exact ⟨literal, member, (eq_holds_iff (filled literal member)).2 ⟨value, shown, equal⟩⟩
  · rintro ⟨literal, member, holds⟩
    obtain ⟨value, shown, equal⟩ := (eq_holds_iff (filled literal member)).1 holds
    exact ⟨value, literals, shown, rfl, literal, member, equal⟩

theorem notIn_holds_iff (nonempty : literals ≠ [])
    (filled : ∀ literal ∈ literals, literal.isNull = false) :
    (Leaf.ofOperator field .notIn (.array literals)).Holds compiler record ↔
      Group.Holds compiler record ⟨.all, literals.map (Leaf.ofOperator field .neq), []⟩ := by
  rw [Group.holds_all_iff, leaf_holds_ofOperator]
  simp only [List.not_mem_nil, false_implies, implies_true, and_true, List.forall_mem_map]
  constructor
  · rintro ⟨value, items, shown, read, apart⟩ literal member
    cases read
    exact (neq_holds_iff (filled literal member)).2 ⟨value, shown, apart literal member⟩
  · intro each
    obtain ⟨first, more, rfl⟩ := List.exists_cons_of_ne_nil nonempty
    have holds := each first List.mem_cons_self
    obtain ⟨value, shown, -⟩ := (neq_holds_iff (filled first List.mem_cons_self)).1 holds
    refine ⟨value, first :: more, shown, rfl, fun literal member => ?_⟩
    obtain ⟨other, alsoShown, apart⟩ := (neq_holds_iff (filled literal member)).1 (each literal member)
    rw [Record.shows_iff] at shown alsoShown
    obtain rfl := Option.some.inj (shown.1.symm.trans alsoShown.1)
    exact apart

/-- To be in a list of literals is to equal one of them, and not to be in it is to differ from all
of them, in what holds and in what fails. -/
theorem membership_expanded (compiler : Compiler) (field : String) (literals : List Json)
    (nonempty : literals ≠ []) (filled : ∀ literal ∈ literals, literal.isNull = false)
    (connective : Connective) (entity : Identifier) :
    Alike
        (compiler.compile ⟨connective, [.ofOperator field .isIn (.array literals)], []⟩ entity)
        (compiler.compile ⟨.any, literals.map (.ofOperator field .eq), []⟩ entity) ∧
      Alike
        (compiler.compile ⟨connective, [.ofOperator field .notIn (.array literals)], []⟩ entity)
        (compiler.compile ⟨.all, literals.map (.ofOperator field .neq), []⟩ entity) := by
  have flat (connective : Connective) (leaves : List Leaf) :
      (Group.mk connective leaves []).everyLeaf = leaves := List.append_nil leaves
  constructor
  · refine alike_compile entity (fun e => ?_) fun record => ?_
    · rw [flat, flat]
      exact mapM_leaf_eq_error_iff (.inl rfl) (.inl rfl) nonempty e
    · rw [holds_single, isIn_holds_iff nonempty filled]
  · refine alike_compile entity (fun e => ?_) fun record => ?_
    · rw [flat, flat]
      exact mapM_leaf_eq_error_iff (.inr rfl) (.inr rfl) nonempty e
    · rw [holds_single, notIn_holds_iff nonempty filled]

theorem membership_expanded_ages :
    let compiler : Compiler := ⟨[("age", .integer)]⟩
    let literals : List Json := [.string "18", .number (.integer ⟨21, by decide, by decide⟩)]
    (literals ≠ [] ∧ ∀ literal ∈ literals, literal.isNull = false) ∧
      Alike (compiler.compile ⟨.all, [.ofOperator "age" .isIn (.array literals)], []⟩ ⟨7⟩)
        (compiler.compile ⟨.any, literals.map (.ofOperator "age" .eq), []⟩ ⟨7⟩) ∧
      Alike (compiler.compile ⟨.all, [.ofOperator "age" .notIn (.array literals)], []⟩ ⟨7⟩)
        (compiler.compile ⟨.all, literals.map (.ofOperator "age" .neq), []⟩ ⟨7⟩) := by
  intro compiler literals
  have nonempty : literals ≠ [] := List.cons_ne_nil _ _
  have filled : ∀ literal ∈ literals, literal.isNull = false := by decide
  exact ⟨⟨nonempty, filled⟩, membership_expanded compiler "age" literals nonempty filled .all ⟨7⟩⟩

end Compiler
end VirtualRecords
