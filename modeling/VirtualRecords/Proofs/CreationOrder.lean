import Mathlib.Data.List.Nodup
import VirtualRecords.Plan

/-! The order of creation. It is a total order in which only records with one identifier are
equal, so the members of a list with distinct identifiers decide their sorted list, and
what a plan makes of records does not depend on the places the records had. -/

namespace VirtualRecords

instance : Std.TransOrd Instant :=
  inferInstanceAs
    (Std.TransCmp (compareLex (compareOn Instant.second) (compareOn Instant.nanosecond)))

instance : Std.TransOrd Identifier :=
  inferInstanceAs (Std.TransCmp (compareOn fun id : Identifier => id.bits.toNat))

instance : Std.LawfulEqOrd Identifier where
  eq_of_compare {a b} same := by
    have numbers : a.bits.toNat = b.bits.toNat := Nat.compare_eq_eq.1 same
    cases a
    cases b
    rw [Identifier.mk.injEq]
    exact BitVec.eq_of_toNat_eq numbers

namespace Record

instance : Std.TransCmp creationOrder :=
  inferInstanceAs (Std.TransCmp (compareLex (compareOn Record.created) (compareOn Record.id)))

theorem creationOrder_total (a b : Record) :
    ((creationOrder a b).isLE || (creationOrder b a).isLE) = true := by
  have swapped : creationOrder b a = (creationOrder a b).swap := Std.OrientedCmp.eq_swap
  rw [swapped]
  cases creationOrder a b <;> rfl

theorem id_eq_of_creationOrder {a b : Record} (forth : (creationOrder a b).isLE = true)
    (back : (creationOrder b a).isLE = true) : a.id = b.id := by
  have same : creationOrder a b = .eq := Std.OrientedCmp.isLE_antisymm forth back
  rw [creationOrder, Ordering.then_eq_eq] at same
  exact Std.LawfulEqOrd.eq_of_compare same.2

variable {records left right : List Record}

theorem sortByCreation_perm (records : List Record) : (sortByCreation records).Perm records :=
  List.mergeSort_perm records _

theorem sortByCreation_pairwise (records : List Record) :
    (sortByCreation records).Pairwise fun a b => (creationOrder a b).isLE = true :=
  List.pairwise_mergeSort (fun _ _ _ => Std.TransCmp.isLE_trans) creationOrder_total records

theorem sortByCreation_congr (same : left.Perm right) (distinct : (left.map Record.id).Nodup) :
    sortByCreation left = sortByCreation right := by
  have permuted : (sortByCreation left).Perm (sortByCreation right) :=
    (sortByCreation_perm left).trans (same.trans (sortByCreation_perm right).symm)
  refine List.Perm.eq_of_pairwise ?_ (sortByCreation_pairwise left)
    (sortByCreation_pairwise right) permuted
  intro a b inLeft inRight forth back
  have aLeft : a ∈ left := (sortByCreation_perm left).mem_iff.1 inLeft
  have bLeft : b ∈ left := same.mem_iff.2 ((sortByCreation_perm right).mem_iff.1 inRight)
  exact List.inj_on_of_nodup_map distinct aLeft bLeft (id_eq_of_creationOrder forth back)

theorem sortByCreation_eq_of_ascending
    (ascending : right.Pairwise fun a b => compare a.created b.created = .lt)
    (same : left.Perm right) (distinct : (left.map Record.id).Nodup) :
    sortByCreation left = right := by
  have inOrder : right.Pairwise fun a b => (creationOrder a b).isLE = true :=
    ascending.imp fun earlier => by rw [creationOrder, earlier]; rfl
  rw [sortByCreation_congr same distinct]
  exact List.mergeSort_of_pairwise inOrder

theorem nodup_of_ids (distinct : (records.map Record.id).Nodup) : records.Nodup :=
  distinct.of_map _

theorem perm_of_mem_iff (leftDistinct : (left.map Record.id).Nodup)
    (rightDistinct : (right.map Record.id).Nodup)
    (same : ∀ record, record ∈ left ↔ record ∈ right) :
    left.Perm right :=
  (List.perm_ext_iff_of_nodup (nodup_of_ids leftDistinct) (nodup_of_ids rightDistinct)).2 same

end Record

namespace FieldOrder

theorem sort_perm (order : FieldOrder) (records : List Record) :
    (order.sort records).Perm records :=
  List.mergeSort_perm records _

end FieldOrder

namespace Plan

theorem result_perm (plan : Plan) (records : List Record) :
    (plan.result records).Perm (plan.criteria.select records) := by
  have inOrder := Record.sortByCreation_perm (plan.criteria.select records)
  unfold result
  split
  · exact inOrder
  · next order _ => exact (order.sort_perm _).trans inOrder

theorem result_of_unordered {plan : Plan} (unordered : plan.order? = none)
    (records : List Record) :
    plan.result records = Record.sortByCreation (plan.criteria.select records) := by
  rw [result, unordered]

theorem result_congr {plan : Plan} {left right : List Record}
    (same : (plan.criteria.select left).Perm (plan.criteria.select right))
    (distinct : ((plan.criteria.select left).map Record.id).Nodup) :
    plan.result left = plan.result right := by
  rw [result, result, Record.sortByCreation_congr same distinct]

/-- A plan gives one page, and criteria one count, whatever places the records have. -/
theorem run_eq_of_perm {left right : List Record} (plan : Plan) (same : left.Perm right)
    (distinct : (left.map Record.id).Nodup) :
    plan.run left = plan.run right ∧
      ∀ criteria : Criteria, criteria.count left = criteria.count right := by
  have selected : (plan.criteria.select left).Perm (plan.criteria.select right) :=
    same.filter _
  have apart : ((plan.criteria.select left).map Record.id).Nodup :=
    distinct.sublist (List.filter_sublist.map _)
  constructor
  · rw [run, run, result_congr selected apart]
  · intro criteria
    exact (same.filter _).length_eq

theorem run_eq_of_perm_ties :
    let record (id : BitVec 128) (value : Json) : Record :=
      .make ⟨id⟩ ⟨7⟩ [("k", value)] ⟨0, 0⟩
    let a := record 3 (.array [])
    let b := record 1 (.array [.null])
    let c := record 2 (.array [])
    let plan : Plan := ⟨.all, some ⟨⟨["k"]⟩, .descending⟩, ⟨0, 2⟩⟩
    ([a, b, c].Perm [c, a, b] ∧ ([a, b, c].map Record.id).Nodup) ∧
      plan.run [a, b, c] = plan.run [c, a, b] ∧
        ∀ criteria : Criteria, criteria.count [a, b, c] = criteria.count [c, a, b] := by
  intro record a b c plan
  have same : ([a, b] ++ [c]).Perm ([c] ++ [a, b]) := List.perm_append_comm
  have distinct : ([a, b, c].map Record.id).Nodup := by decide
  exact ⟨⟨same, distinct⟩, run_eq_of_perm plan same distinct⟩

end Plan
end VirtualRecords
