import VirtualRecords.Proofs.Criteria.FirstFault
import VirtualRecords.Proofs.Criteria.Meaning

/-! The two places for conditions in a query: the tree under its root, and a flat list. The flat
list is looked at only if the root has no members; then all of it must hold, whatever connective
the query names. A group inside the root is a member even if there is no leaf in it. Such a tree
asks nothing of a record, and the flat list is passed over all the same. -/

namespace VirtualRecords

namespace Group

mutual

theorem leafCount_eq_length (group : Group) : group.leafCount = group.everyLeaf.length := by
  obtain ⟨connective, leaves, groups⟩ := group
  rw [leafCount, everyLeaf, List.length_append, leafCounts_eq_length groups]

theorem leafCounts_eq_length (groups : List Group) :
    leafCounts groups = (everyLeafOf groups).length := by
  cases groups with
  | nil => rfl
  | cons first rest =>
    rw [leafCounts, everyLeafOf, List.length_append, leafCount_eq_length first,
      leafCounts_eq_length rest]

end

theorem everyLeaf_eq_nil_iff {group : Group} : group.everyLeaf = [] ↔ group.leafCount = 0 := by
  rw [leafCount_eq_length, List.length_eq_zero_iff]

theorem isEmpty_iff {group : Group} :
    group.isEmpty = true ↔ group.leafCount = 0 ∧ group.groups = [] := by
  obtain ⟨connective, leaves, groups⟩ := group
  cases groups with
  | nil => simp [isEmpty, leafCount, leafCounts]
  | cons first rest => simp [isEmpty]

theorem isEmpty_eq_false_iff {group : Group} :
    group.isEmpty = false ↔ 0 < group.leafCount ∨ group.groups ≠ [] := by
  rw [Bool.eq_false_iff, Ne, isEmpty_iff, not_and_or, Nat.pos_iff_ne_zero]

variable {compiler : Compiler} {record : Record}

mutual

theorem holds_of_leafless {group : Group} (leafless : group.everyLeaf = []) :
    group.Holds compiler record := by
  obtain ⟨connective, leaves, groups⟩ := group
  rw [everyLeaf, List.append_eq_nil_iff] at leafless
  obtain ⟨rfl, inner⟩ := leafless
  have each := holds_of_leaflessList inner
  cases connective with
  | all => exact .all (fun leaf member => nomatch member) each
  | any =>
    cases groups with
    | nil => exact .empty .any
    | cons first rest => exact .anyGroup List.mem_cons_self (each first List.mem_cons_self)

theorem holds_of_leaflessList {groups : List Group} (leafless : everyLeafOf groups = []) :
    ∀ group ∈ groups, group.Holds compiler record := by
  cases groups with
  | nil => exact fun group member => nomatch member
  | cons first rest =>
    rw [everyLeafOf, List.append_eq_nil_iff] at leafless
    exact List.forall_mem_cons.2
      ⟨holds_of_leafless leafless.1, holds_of_leaflessList leafless.2⟩

end

end Group

namespace Compiler

/-- What comes of leaves that must all hold: the fault of the first one that has any, or criteria
that hold of the entity's records that satisfy every leaf. -/
inductive AsksAll (compiler : Compiler) (entity : Identifier) (leaves : List Leaf) :
    Except QueryError Criteria → Prop where
  | fault {before after : List Leaf} {leaf : Leaf} {e : QueryError} :
      leaves = before ++ leaf :: after → (∀ earlier ∈ before, compiler.Sound earlier) →
      compiler.Faulty leaf e → AsksAll compiler entity leaves (.error e)
  | criteria {made : Criteria} : (∀ leaf ∈ leaves, compiler.Sound leaf) →
      (∀ record, made.holds record = true ↔
        record.entity = entity ∧ ∀ leaf ∈ leaves, leaf.Holds compiler record) →
      AsksAll compiler entity leaves (.ok made)

theorem asksAll_compile (compiler : Compiler) (group : Group) (entity : Identifier)
    (meaning : ∀ record, group.Holds compiler record ↔
      ∀ leaf ∈ group.everyLeaf, leaf.Holds compiler record) :
    compiler.AsksAll entity group.everyLeaf (compiler.compile group entity) := by
  cases outcome : compiler.compile group entity with
  | error e =>
    obtain ⟨before, leaf, after, parted, passed, failed⟩ :=
      Outcome.mapM_eq_error_iff.1 (compile_eq_error_iff.1 outcome)
    exact .fault parted (fun earlier member => sound_iff.2 (passed earlier member))
      (leaf_eq_error_iff_faulty.1 failed)
  | ok made =>
    have sound : ∀ leaf ∈ group.everyLeaf, compiler.Sound leaf := by
      intro leaf member e faulty
      have failing : ∃ e, compiler.compile group entity = .error e :=
        exists_compile_eq_error_iff.2 ⟨leaf, member, e, leaf_eq_error_iff_faulty.2 faulty⟩
      obtain ⟨e, failed⟩ := failing
      rw [outcome] at failed
      cases failed
    obtain ⟨own, accepted, rfl⟩ := exists_of_compile outcome
    refine .criteria sound fun record => ?_
    rw [← meaning, ← group_holds_iff accepted]
    simp only [Criteria.holds, Criteria.holdAll, Bool.and_true, Bool.and_eq_true, beq_iff_eq]

theorem AsksAll.exists_of_nil {compiler : Compiler} {entity : Identifier}
    {outcome : Except QueryError Criteria} (asked : compiler.AsksAll entity [] outcome) :
    ∃ made, outcome = .ok made ∧ ∀ record, made.holds record = true ↔ record.entity = entity := by
  cases asked with
  | fault parted => exact absurd parted.symm (List.append_ne_nil_of_right_ne_nil _ nofun)
  | criteria _ holds => exact ⟨_, rfl, fun record => (holds record).trans (and_iff_left nofun)⟩

end Compiler

namespace Query

theorem asksAll_of_leafless {query : Query} (compiler : Compiler)
    (leafless : query.conditions.leafCount = 0) :
    compiler.AsksAll query.entity [] (query.criteria compiler) := by
  have none : query.conditions.everyLeaf = [] := Group.everyLeaf_eq_nil_iff.2 leafless
  have asked := compiler.asksAll_compile query.conditions query.entity fun record =>
    iff_of_true (Group.holds_of_leafless none) (by simp [none])
  rw [none] at asked
  exact asked

/-- The flat conditions of a query are those that count if its root holds neither a leaf nor a
group: all of them, in their order, whatever connective the query names. Otherwise they do not
matter, also if there is no leaf in the groups of the root and so nothing is asked for but the
entity. -/
theorem flat_conditions_apply (query : Query) (compiler : Compiler) :
    (query.root.leafCount = 0 → query.root.groups = [] → query.flat ≠ [] →
      compiler.AsksAll query.entity query.flat (query.criteria compiler)) ∧
    (0 < query.root.leafCount ∨ query.root.groups ≠ [] → ∀ flat,
      { query with flat }.criteria compiler = query.criteria compiler) ∧
    (query.root.leafCount = 0 → query.root.groups ≠ [] →
      compiler.AsksAll query.entity [] (query.criteria compiler)) := by
  refine ⟨fun leafless groupless some => ?_, fun some flat => ?_, fun leafless some => ?_⟩
  · have vacant : query.root.isEmpty = true := Group.isEmpty_iff.2 ⟨leafless, groupless⟩
    have listed : (Group.mk .all query.flat []).everyLeaf = query.flat := List.append_nil _
    have asked := compiler.asksAll_compile ⟨.all, query.flat, []⟩ query.entity fun record => by
      simp [Group.holds_all_iff, listed]
    rw [listed] at asked
    rw [criteria, conditions_of_vacant vacant some]
    exact asked
  · have filled : query.root.isEmpty = false := Group.isEmpty_eq_false_iff.2 some
    have other : ({ query with flat } : Query).conditions = query.root :=
      conditions_of_filled filled
    rw [criteria, criteria, other, conditions_of_filled filled]
  · have own : query.conditions = query.root :=
      conditions_of_filled (Group.isEmpty_eq_false_iff.2 (.inr some))
    exact asksAll_of_leafless compiler (by rw [own]; exact leafless)

theorem flat_conditions_apply_adults :
    let adult : Leaf := ⟨"age", "gte", .string "18"⟩
    let compiler : Compiler := ⟨[("age", .integer)]⟩
    let query (root : Group) : Query :=
      { Query.ofEntity ⟨7⟩ with
        root, flat := [adult, ⟨"age", "between", .null⟩], connective := .any }
    let vacant := query ⟨.any, [], []⟩
    let filled := query ⟨.all, [], [⟨.any, [adult], []⟩]⟩
    let branched := query ⟨.any, [], [.empty]⟩
    ((vacant.root.leafCount = 0 ∧ vacant.root.groups = [] ∧ vacant.flat ≠ []) ∧
      0 < filled.root.leafCount ∧ branched.root.leafCount = 0 ∧ branched.root.groups ≠ []) ∧
    compiler.AsksAll ⟨7⟩ vacant.flat (vacant.criteria compiler) ∧
    { filled with flat := [] }.criteria compiler = filled.criteria compiler ∧
    compiler.AsksAll ⟨7⟩ [] (branched.criteria compiler) := by
  intro adult compiler query vacant filled branched
  have some : vacant.flat ≠ [] := nofun
  have held : 0 < filled.root.leafCount := by decide
  have inner : branched.root.groups ≠ [] := nofun
  exact ⟨⟨⟨rfl, rfl, some⟩, held, rfl, inner⟩,
    (flat_conditions_apply vacant compiler).1 rfl rfl some,
    (flat_conditions_apply filled compiler).2.1 (.inl held) [],
    (flat_conditions_apply branched compiler).2.2 rfl inner⟩

/-- An empty group in the root: it holds no leaf, and still the flat conditions do not count. -/
theorem flat_passedOver :
    let leaf : Leaf := ⟨"a", "eq", .string "1"⟩
    let query : Query := { Query.ofEntity ⟨7⟩ with root := ⟨.all, [], [.empty]⟩, flat := [leaf] }
    let record : Record := .make ⟨1⟩ ⟨7⟩ [] ⟨0, 0⟩
    (query.root.leafCount = 0 ∧ query.flat ≠ []) ∧ Compiler.untyped.Sound leaf ∧
      (∃ criteria, query.criteria .untyped = .ok criteria ∧ criteria.holds record = true) ∧
      ¬ leaf.Holds .untyped record := by
  intro leaf query record
  have made : Compiler.untyped.leaf leaf =
      .ok (.field (.ofField "a") (.compare .eq (.string "1"))) :=
    Compiler.leaf_eq_ok (by decide) (Operator.ofName?_name .eq) rfl
  refine ⟨⟨rfl, nofun⟩, Compiler.sound_iff.2 ⟨_, made⟩, ⟨_, rfl, rfl⟩, fun holds => ?_⟩
  exact absurd ((Compiler.leaf_holds_iff made).2 holds) (by decide)

end Query
end VirtualRecords
