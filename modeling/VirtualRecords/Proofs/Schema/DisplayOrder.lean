import VirtualRecords.Proofs.Schema.Judgement
import VirtualRecords.Proofs.StableSort

/-! The order in which fields are displayed. It is told by the indices alone: fields with an index
come first, from the least index on, and the declaration settles the rest. These demands leave one
order for every declaration, so displaying in order what stands in order changes nothing; and they
neither drop a field nor add one, so a payload is judged by the same fields either way. -/

namespace VirtualRecords

namespace Entity

variable {a b c : Field} {declared shown : List Field} {entity : Entity}

/-- The shown fields are the declared ones. Those with an index come before those without, lesser
indices before greater ones, and fields that have the same index, or none, stand as declared. -/
structure DisplayOrder (declared shown : List Field) : Prop where
  members : shown.Perm declared
  indexedFirst : shown.Pairwise fun a b => b.orderIndex.isSome → a.orderIndex.isSome
  ascending : shown.Pairwise fun a b =>
    ∀ i ∈ a.orderIndex, ∀ j ∈ b.orderIndex, i.toInt ≤ j.toInt
  asDeclared (index : Option Int32) :
    (shown.filter fun field => field.orderIndex = index) =
      declared.filter fun field => field.orderIndex = index

theorem shownBefore_iff : shownBefore a b = true ↔
    (b.orderIndex.isSome → a.orderIndex.isSome) ∧
      ∀ i ∈ a.orderIndex, ∀ j ∈ b.orderIndex, i.toInt ≤ j.toInt := by
  rw [shownBefore]
  cases a.orderIndex with
  | none => cases b.orderIndex <;> simp
  | some i =>
    cases b.orderIndex with
    | none => simp
    | some j => simp [Int32.le_iff_toInt_le]

theorem shownBefore_trans (a b c : Field) (first : shownBefore a b = true)
    (second : shownBefore b c = true) : shownBefore a c = true := by
  rw [shownBefore_iff] at first second ⊢
  refine ⟨fun held => first.1 (second.1 held), fun i inA j inC => ?_⟩
  obtain ⟨k, inB⟩ := Option.isSome_iff_exists.1 (second.1 (Option.isSome_of_mem inC))
  exact Int.le_trans (first.2 i inA k inB) (second.2 k inB j inC)

theorem shownBefore_total (a b : Field) : (shownBefore a b || shownBefore b a) = true := by
  rw [shownBefore, shownBefore]
  cases a.orderIndex with
  | none => cases b.orderIndex <;> rfl
  | some i =>
    cases b.orderIndex with
    | none => rfl
    | some j => simpa using Int32.le_total i j

theorem orderIndex_eq_of_shownBefore (a b : Field) (forth : shownBefore a b = true)
    (back : shownBefore b a = true) : a.orderIndex = b.orderIndex := by
  rw [shownBefore] at forth back
  cases first : a.orderIndex with
  | none =>
    cases second : b.orderIndex with
    | none => rfl
    | some j =>
      rw [first, second] at forth
      cases forth
  | some i =>
    cases second : b.orderIndex with
    | none =>
      rw [first, second] at back
      cases back
    | some j =>
      rw [first, second, decide_eq_true_iff] at forth back
      rw [Int32.le_antisymm forth back]

theorem pairwise_shownBefore_iff : (shown.Pairwise fun a b => shownBefore a b = true) ↔
    (shown.Pairwise fun a b => b.orderIndex.isSome → a.orderIndex.isSome) ∧
      shown.Pairwise fun a b => ∀ i ∈ a.orderIndex, ∀ j ∈ b.orderIndex, i.toInt ≤ j.toInt := by
  simp only [shownBefore_iff, List.pairwise_and_iff]

theorem displayOrder_orderedFields (entity : Entity) :
    DisplayOrder entity.fields entity.orderedFields := by
  have sorted := List.pairwise_mergeSort shownBefore_trans shownBefore_total entity.fields
  obtain ⟨indexedFirst, ascending⟩ := pairwise_shownBefore_iff.1 sorted
  refine ⟨entity.orderedFields_perm, indexedFirst, ascending, fun index => ?_⟩
  refine filter_mergeSort shownBefore_trans shownBefore_total (fun a b inA inB => ?_) entity.fields
  have same : a.orderIndex = b.orderIndex :=
    (of_decide_eq_true inA).trans (of_decide_eq_true inB).symm
  have either := shownBefore_total a b
  rw [shownBefore, shownBefore, same, Bool.or_self] at either
  rw [shownBefore, same, either]

theorem DisplayOrder.eq_orderedFields (order : DisplayOrder entity.fields shown) :
    shown = entity.orderedFields := by
  have shownOrder := displayOrder_orderedFields entity
  refine eq_of_filter_eq orderIndex_eq_of_shownBefore
    (pairwise_shownBefore_iff.2 ⟨order.indexedFirst, order.ascending⟩)
    (pairwise_shownBefore_iff.2 ⟨shownOrder.indexedFirst, shownOrder.ascending⟩) fun index => ?_
  rw [order.asDeclared, shownOrder.asDeclared]

theorem DisplayOrder.self (order : DisplayOrder declared shown) : DisplayOrder shown shown :=
  ⟨.refl shown, order.indexedFirst, order.ascending, fun _ => rfl⟩

/-- The shown fields are the one list in display order. Showing them in order again changes nothing,
and a payload has no violations against them exactly if it has none against the declared ones. -/
theorem orderedFields_iff (entity : Entity) :
    (∀ shown, DisplayOrder entity.fields shown ↔ shown = entity.orderedFields) ∧
      { entity with fields := entity.orderedFields }.orderedFields = entity.orderedFields ∧
        ∀ payload, Validation.messages payload entity.orderedFields = [] ↔
          Validation.messages payload entity.fields = [] := by
  have order := displayOrder_orderedFields entity
  let again : Entity := { entity with fields := entity.orderedFields }
  have orderToo : DisplayOrder again.fields entity.orderedFields := order.self
  refine ⟨fun shown => ⟨DisplayOrder.eq_orderedFields, ?_⟩, ?_, fun payload => ?_⟩
  · rintro rfl
    exact order
  · exact orderToo.eq_orderedFields.symm
  · exact Validation.messages_eq_nil_of_perm order.members

example :
    let field (key : String) : Field := .ofType key .string
    let entity : Entity := ⟨⟨0⟩, "contact", none, [field "c", (field "b").withOrder 2,
      (field "a").withOrder (-1), field "d", (field "e").withOrder 2]⟩
    entity.orderedFields.map Field.key = ["a", "b", "e", "c", "d"] := by cbv

end Entity
end VirtualRecords
