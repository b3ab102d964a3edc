import VirtualRecords.Proofs.Criteria.Canonical
import VirtualRecords.Proofs.Criteria.Meaning

/-! The laws of comparing. Equality and order are decided apart from each other, each by the types
of the two values, and agree where both speak: values that can be ordered are less, equal or
greater, and never two of these. Values that cannot be ordered are in no order at all, though text
may still equal a boolean. A value that is missing or null satisfies the test for null alone. -/

namespace VirtualRecords

namespace Json

/-- Two texts, two booleans, or a number beside a number or a text that spells one. -/
inductive Comparable : Json → Json → Prop where
  | strings (s t : String) : Comparable (string s) (string t)
  | bools (x y : Bool) : Comparable (bool x) (bool y)
  | numbers (m n : Number) : Comparable (number m) (number n)
  | numberText (m : Number) {s : String} : (numberOfText? s.toList).isSome = true →
      Comparable (number m) (string s)
  | textNumber {s : String} (n : Number) : (numberOfText? s.toList).isSome = true →
      Comparable (string s) (number n)

theorem numeric?_isSome_iff {s : String} :
    (string s).numeric?.isSome = true ↔ (numberOfText? s.toList).isSome = true := by
  rw [numeric?, Option.isSome_map]

theorem order?_of_number (m : Number) (b : Json) :
    (number m).order? b = b.numeric?.map fun y => compare m.toBinary64 y := by
  rw [Option.map_eq_bind]
  rfl

variable {a b : Json}

theorem order?_isSome_iff : (a.order? b).isSome = true ↔ Comparable a b := by
  constructor
  · intro ordered
    cases a with
    | number m =>
      rw [order?_of_number, Option.isSome_map] at ordered
      cases b with
      | number n => exact .numbers m n
      | string s => exact .numberText m (numeric?_isSome_iff.1 ordered)
      | _ => cases ordered
    | string s =>
      cases b with
      | number n =>
        rw [order?_number, Option.isSome_map] at ordered
        exact .textNumber n (numeric?_isSome_iff.1 ordered)
      | string t => exact .strings s t
      | _ => cases ordered
    | bool x =>
      cases b with
      | bool y => exact .bools x y
      | _ => cases ordered
    | _ => cases b <;> cases ordered
  · intro comparable
    cases comparable with
    | strings | bools | numbers => rfl
    | numberText m spelled =>
      rw [order?_of_number, Option.isSome_map]
      exact numeric?_isSome_iff.2 spelled
    | textNumber n spelled =>
      rw [order?_number, Option.isSome_map]
      exact numeric?_isSome_iff.2 spelled

theorem equals_iff_order? (comparable : Comparable a b) :
    a.equals b = true ↔ a.order? b = some .eq := by
  cases comparable with
  | strings s t =>
    have apart : (string s).order? (string t) = some (compare s t) := rfl
    rw [apart, Option.some.injEq, Std.LawfulEqOrd.compare_eq_iff_eq]
    exact beq_iff_eq
  | bools x y =>
    have apart : (bool x).order? (bool y) = some (compare x y) := rfl
    rw [apart, Option.some.injEq, Std.LawfulEqOrd.compare_eq_iff_eq]
    exact beq_iff_eq
  | numbers | numberText | textNumber => exact beq_iff_eq

end Json

namespace Relation

variable {a b : Json}

theorem holds_neq_iff : neq.holds a b = true ↔ ¬ eq.holds a b = true := by
  simp [holds]

def ofOrdering : Ordering → Relation
  | .lt => lt
  | .eq => eq
  | .gt => gt

theorem mem_orders_iff {relation : Relation} :
    relation ∈ [lt, eq, gt] ↔ ∃ order, relation = ofOrdering order := by
  constructor
  · intro listed
    cases relation with
    | lt => exact ⟨.lt, rfl⟩
    | eq => exact ⟨.eq, rfl⟩
    | gt => exact ⟨.gt, rfl⟩
    | _ => simp at listed
  · rintro ⟨order, rfl⟩
    cases order <;> simp [ofOrdering]

theorem holds_ofOrdering_iff (comparable : Json.Comparable a b) (order : Ordering) :
    (ofOrdering order).holds a b = true ↔ a.order? b = some order := by
  cases order with
  | lt => exact holds_lt_iff
  | eq => exact Json.equals_iff_order? comparable
  | gt => exact holds_gt_iff

theorem existsUnique_of_comparable (comparable : Json.Comparable a b) :
    ∃! relation : Relation, relation ∈ [lt, eq, gt] ∧ relation.holds a b = true := by
  obtain ⟨order, known⟩ := Option.isSome_iff_exists.1 (Json.order?_isSome_iff.2 comparable)
  refine ⟨ofOrdering order, ⟨mem_orders_iff.2 ⟨order, rfl⟩, ?_⟩, ?_⟩
  · exact (holds_ofOrdering_iff comparable order).2 known
  · rintro relation ⟨listed, held⟩
    obtain ⟨other, rfl⟩ := mem_orders_iff.1 listed
    rw [holds_ofOrdering_iff comparable, known, Option.some.injEq] at held
    rw [held]

theorem not_holds_of_incomparable (incomparable : ¬ Json.Comparable a b) {relation : Relation}
    (orders : relation ∈ [lt, lte, gt, gte]) : ¬ relation.holds a b = true := by
  have none : a.order? b = none := by
    rw [← Option.not_isSome_iff_eq_none, Json.order?_isSome_iff]
    exact incomparable
  cases relation with
  | lt | lte | gt | gte => simp [holds, none]
  | _ => simp at orders

end Relation

namespace Test

/-- What the tests of a value say, side by side, when it is compared with a literal. -/
structure Coherent (passes : Test → Prop) (value literal : Json) : Prop where
  filled : ¬ passes .isNull ∧ passes .isNotNull
  unequal : passes (.compare .neq literal) ↔ ¬ passes (.compare .eq literal)
  ordered : Json.Comparable value literal →
    (∃! relation : Relation,
      relation ∈ [.lt, .eq, .gt] ∧ passes (.compare relation literal)) ∧
      (passes (.compare .gte literal) ↔
        passes (.compare .gt literal) ∨ passes (.compare .eq literal)) ∧
      (passes (.compare .lte literal) ↔
        passes (.compare .lt literal) ∨ passes (.compare .eq literal))
  unordered : ¬ Json.Comparable value literal →
    ∀ relation ∈ [.lt, .lte, .gt, .gte], ¬ passes (.compare relation literal)

theorem isNullTest_iff {test : Test} : test.isNullTest = true ↔ test = .isNull := by
  cases test <;> simp [isNullTest]

theorem coherent_holdsOf (value literal : Json) :
    Coherent (fun test => test.holdsOf value = true) value literal where
  filled := ⟨Bool.false_ne_true, rfl⟩
  unequal := Relation.holds_neq_iff
  ordered comparable := by
    have equal := Relation.holds_ofOrdering_iff comparable .eq
    refine ⟨Relation.existsUnique_of_comparable comparable, ?_, ?_⟩
    · exact Relation.holds_gte_iff.trans (or_congr Relation.holds_gt_iff.symm equal.symm)
    · exact Relation.holds_lte_iff.trans (or_congr Relation.holds_lt_iff.symm equal.symm)
  unordered incomparable _ orders := Relation.not_holds_of_incomparable incomparable orders

end Test

namespace Criteria

/-- At every path of every payload: a value that is missing or null passes the test for null and no
other test, and any other value is compared with a literal coherently. -/
theorem field_trichotomy (record : Record) (path : FieldPath) (literal : Json) :
    ((path.find? record.payload).all (·.isNull) = true →
      ∀ test, (field path test).holds record = true ↔ test = .isNull) ∧
    ∀ value, path.find? record.payload = some value → value.isNull = false →
      Test.Coherent (fun test => (field path test).holds record = true) value literal := by
  constructor
  · intro empty test
    rw [holds, ← Test.isNullTest_iff]
    cases found : path.find? record.payload with
    | none => rfl
    | some value =>
      rw [found, Option.all_some, Json.isNull_iff] at empty
      rw [empty]
      rfl
  · intro value found filled
    have tested (test : Test) : (field path test).holds record = test.holdsOf value := by
      rw [holds, found, Test.holds_of_filled filled]
    simp only [tested]
    exact Test.coherent_holdsOf value literal

end Criteria
end VirtualRecords
