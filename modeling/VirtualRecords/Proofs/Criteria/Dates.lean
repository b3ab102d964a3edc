import VirtualRecords.Proofs.Calendar.Layout
import VirtualRecords.Proofs.Criteria.Answers
import VirtualRecords.Proofs.Criteria.Meaning

/-! Dates in conditions. Dates are compared as they are written, and one date can be written in
several ways, so a condition asks for the text and not for the day. What it says of the days holds
among texts of one layout, as the form of four digits, two and two is: there an equal date is an
equal text, and an earlier date is a lesser text unless different years stand behind a minus
sign. -/

namespace VirtualRecords

namespace Date

variable {s t : String} {d e : Date}

theorem text_eq_iff (first : ofText? s = some d) (second : ofText? t = some e) :
    s = t ↔ d = e ∧ Text.SameLayout s.toList t.toList := by
  constructor
  · rintro rfl
    refine ⟨Option.some.inj (first.symm.trans second), ?_⟩
    exact List.forall₂_same.2 fun c _ => .inl rfl
  · rintro ⟨day, same⟩
    exact String.toList_inj.1 ((eq_iff_of_sameLayout same first second).2 day)

theorem order_eq_swap (a b : Date) : a.order b = (b.order a).swap := by
  rw [order, order, Ordering.swap_then, Ordering.swap_then, Int.compare_swap, Nat.compare_swap,
    Nat.compare_swap]

theorem text_lt_iff (same : Text.SameLayout s.toList t.toList)
    (years : BehindMinus s.toList → d.year = e.year) (first : ofText? s = some d)
    (second : ofText? t = some e) : (s < t ↔ d.Before e) ∧ (t < s ↔ e.Before d) := by
  have texts : compare s t = d.order e :=
    (Text.compare_toList s t).trans (compare_eq_order same years first second)
  have textsBack : compare t s = e.order d := by
    rw [Std.OrientedOrd.eq_swap, texts, ← order_eq_swap]
  rw [← order_eq_lt_iff, ← order_eq_lt_iff, ← texts, ← textsBack]
  exact ⟨compareOfLessAndEq_eq_lt.symm, compareOfLessAndEq_eq_lt.symm⟩

end Date

namespace Compiler

variable {compiler : Compiler} {key : String} {record : Record} {s t : String} {e : Date}

theorem answers_of_date (declared : compiler.type? key = some .date)
    (named : Text.isBlankString key = false)
    (held : (FieldPath.ofField key).find? record.payload = some (.string s))
    (read : Date.ofText? t = some e) (relation : Relation) :
    compiler.Answers (.ofOperator key relation.operator (.string t)) record
      (relation.holds (.string s) (.string t)) := by
  have conforming : FieldType.date.conforms (.string t) = true := Option.isSome_of_eq_some read
  have formed := FieldType.coerce?_of_kept (by decide) conforming
  exact answers_of_relation named held rfl (coerce_eq_ok declared rfl formed) rfl relation

end Compiler

namespace Relation

variable (s t : String)

theorem holds_eq_text : eq.holds (.string s) (.string t) = decide (s = t) := rfl

theorem holds_lt_text : lt.holds (.string s) (.string t) = decide (s < t) := by
  rw [Bool.eq_iff_iff, decide_eq_true_iff, holds_lt_iff]
  exact Option.some_inj.trans compareOfLessAndEq_eq_lt

theorem holds_gt_text : gt.holds (.string s) (.string t) = decide (t < s) := by
  rw [Bool.eq_iff_iff, decide_eq_true_iff, holds_gt_iff]
  refine Option.some_inj.trans ?_
  rw [Std.OrientedOrd.eq_swap, Ordering.swap_eq_gt]
  exact compareOfLessAndEq_eq_lt

end Relation

/-- Conditions on a field of dates. The date that is asked for is found where it is written alike;
less and greater are so by the texts, and by the dates where these are written in one layout and
no minus sign stands before different years. -/
theorem dates_compared {compiler : Compiler} {key : String}
    (declared : compiler.type? key = some .date) (named : Text.isBlankString key = false)
    (record : Record) {s t : String} {d e : Date}
    (held : (FieldPath.ofField key).find? record.payload = some (.string s))
    (first : Date.ofText? s = some d) (second : Date.ofText? t = some e) :
    compiler.Answers (.ofOperator key .eq (.string t)) record
        (decide (d = e ∧ Text.SameLayout s.toList t.toList)) ∧
      compiler.Answers (.ofOperator key .lt (.string t)) record (decide (s < t)) ∧
      compiler.Answers (.ofOperator key .gt (.string t)) record (decide (t < s)) ∧
      (Text.SameLayout s.toList t.toList → (Date.BehindMinus s.toList → d.year = e.year) →
        (s < t ↔ d.Before e) ∧ (t < s ↔ e.Before d)) := by
  have answers := Compiler.answers_of_date declared named held second
  refine ⟨?_, ?_, ?_, fun same years => Date.text_lt_iff same years first second⟩
  · have answer := answers .eq
    rwa [Relation.holds_eq_text, decide_eq_decide.2 (Date.text_eq_iff first second)] at answer
  · have answer := answers .lt
    rwa [Relation.holds_lt_text] at answer
  · have answer := answers .gt
    rwa [Relation.holds_gt_text] at answer

theorem dates_compared_newYear :
    let compiler : Compiler := ⟨[("d", .date)]⟩
    let record : Record := .make ⟨1⟩ ⟨7⟩ [("d", .string "2023-12-31")] ⟨0, 0⟩
    let d : Date := ⟨2023, 12, 31, by decide, by decide, by decide⟩
    let e : Date := ⟨2024, 1, 1, by decide, by decide, by decide⟩
    ((compiler.type? "d" = some .date ∧ Text.isBlankString "d" = false) ∧
      (FieldPath.ofField "d").find? record.payload = some (.string "2023-12-31") ∧
      Date.ofText? "2023-12-31" = some d ∧ Date.ofText? "2024-01-01" = some e ∧
      Text.SameLayout "2023-12-31".toList "2024-01-01".toList ∧
      (Date.BehindMinus "2023-12-31".toList → d.year = e.year)) ∧
    d.Before e ∧
    compiler.Answers (.ofOperator "d" .eq (.string "2024-01-01")) record false ∧
    compiler.Answers (.ofOperator "d" .lt (.string "2024-01-01")) record true ∧
    compiler.Answers (.ofOperator "d" .gt (.string "2024-01-01")) record false := by
  intro compiler record d e
  have declared : compiler.type? "d" = some .date := rfl
  have named : Text.isBlankString "d" = false := by decide
  have held : (FieldPath.ofField "d").find? record.payload = some (.string "2023-12-31") :=
    FieldPath.find?_ofField (by decide) record.payload
  have first : Date.ofText? "2023-12-31" = some d := by decide +kernel
  have second : Date.ofText? "2024-01-01" = some e := by decide +kernel
  have same : Text.SameLayout "2023-12-31".toList "2024-01-01".toList := by decide +kernel
  have years : Date.BehindMinus "2023-12-31".toList → d.year = e.year := by decide +kernel
  have apart : d ≠ e := by decide
  have before : d.Before e := by decide
  have notBehind : ¬ e.Before d := by decide
  obtain ⟨equal, less, greater, days⟩ := dates_compared declared named record held first second
  obtain ⟨lessIff, greaterIff⟩ := days same years
  rw [decide_eq_false fun both => apart both.1] at equal
  rw [decide_eq_true (lessIff.2 before)] at less
  rw [decide_eq_false (mt greaterIff.1 notBehind)] at greater
  exact ⟨⟨⟨declared, named⟩, held, first, second, same, years⟩, before, equal, less, greater⟩

/-- One date that is written in two ways is not found. -/
theorem Compiler.answers_shortDate :
    let compiler : Compiler := ⟨[("d", .date)]⟩
    let record : Record := .make ⟨1⟩ ⟨7⟩ [("d", .string "2024-1-5")] ⟨0, 0⟩
    let day : Date := ⟨2024, 1, 5, by decide, by decide, by decide⟩
    compiler.type? "d" = some .date ∧
      (FieldPath.ofField "d").find? record.payload = some (.string "2024-1-5") ∧
      Date.ofText? "2024-1-5" = some day ∧ Date.ofText? "2024-01-05" = some day ∧
      compiler.Answers (.ofOperator "d" .eq (.string "2024-01-05")) record false := by
  intro compiler record day
  have declared : compiler.type? "d" = some .date := rfl
  have held : (FieldPath.ofField "d").find? record.payload = some (.string "2024-1-5") :=
    FieldPath.find?_ofField (by decide) record.payload
  have first : Date.ofText? "2024-1-5" = some day := by decide +kernel
  have second : Date.ofText? "2024-01-05" = some day := by decide +kernel
  have answer := Compiler.answers_of_date declared (by decide) held second .eq
  exact ⟨declared, held, first, second, answer⟩

end VirtualRecords
