import Mathlib.Data.List.Forall2
import Mathlib.Data.String.Basic
import VirtualRecords.Number.Numeral

/-! The layout of a text: what is left of it when its digits are not told apart. Two texts of one
layout are equally long and have digits at the same places, so numbers of equally many digits stand
in them one above the other, and the order of the texts is that of the first such numbers that
differ. -/

namespace VirtualRecords.Text

def Alike (c d : Char) : Prop := c = d ∨ c.isDigit = true ∧ d.isDigit = true

def SameLayout (s t : List Char) : Prop := List.Forall₂ Alike s t

instance (c d : Char) : Decidable (Alike c d) :=
  inferInstanceAs (Decidable (c = d ∨ c.isDigit = true ∧ d.isDigit = true))

instance (s t : List Char) : Decidable (SameLayout s t) :=
  inferInstanceAs (Decidable (List.Forall₂ Alike s t))

theorem toNat_of_isDigit {c : Char} (digit : c.isDigit = true) : 48 ≤ c.toNat ∧ c.toNat ≤ 57 := by
  simp only [Char.isDigit, Bool.and_eq_true, decide_eq_true_eq] at digit
  exact digit

theorem isBlank_of_isDigit {c : Char} (digit : c.isDigit = true) : isBlank c = false := by
  have range := toNat_of_isDigit digit
  simp only [isBlank, Bool.or_eq_false_iff, Bool.and_eq_false_iff, decide_eq_false_iff_not,
    beq_eq_false_iff_ne]
  omega

namespace Alike

variable {c d : Char}

theorem isDigit_eq (alike : Alike c d) : c.isDigit = d.isDigit := by
  rcases alike with rfl | ⟨first, second⟩
  · rfl
  · rw [first, second]

theorem eq_of_not_isDigit (alike : Alike c d) (other : c.isDigit = false) : c = d := by
  rcases alike with same | ⟨digit, -⟩
  · exact same
  · rw [other] at digit
    cases digit

theorem eq_of_isBlank (alike : Alike c d) (blank : isBlank c = true) : c = d := by
  refine alike.eq_of_not_isDigit (Bool.eq_false_iff.2 fun digit => ?_)
  rw [isBlank_of_isDigit digit] at blank
  cases blank

theorem isBlank_eq (alike : Alike c d) : isBlank c = isBlank d := by
  rcases alike with rfl | ⟨first, second⟩
  · rfl
  · rw [isBlank_of_isDigit first, isBlank_of_isDigit second]

end Alike

theorem compare_char_eq_lt_iff {c d : Char} : compare c d = .lt ↔ c < d :=
  compareOfLessAndEq_eq_lt

theorem compare_eq_lt_iff {s t : List Char} : compare s t = .lt ↔ s < t := by
  induction s generalizing t with
  | nil => cases t <;> simp
  | cons c s ih =>
    cases t with
    | nil => simp
    | cons d t =>
      rw [List.compare_cons_cons, Ordering.then_eq_lt, List.cons_lt_cons_iff, ih,
        Std.LawfulEqOrd.compare_eq_iff_eq, compare_char_eq_lt_iff]

theorem compare_toList (s t : String) : compare s t = compare s.toList t.toList := by
  have before {s t : String} (less : compare s.toList t.toList = .lt) : compare s t = .lt :=
    compareOfLessAndEq_eq_lt.2 (String.lt_iff.2 (compare_eq_lt_iff.1 less))
  cases order : compare s.toList t.toList with
  | lt => exact before order
  | eq =>
    rw [Std.LawfulEqOrd.compare_eq_iff_eq, ← String.toList_inj]
    exact Std.LawfulEqOrd.eq_of_compare order
  | gt =>
    rw [Std.OrientedOrd.eq_swap] at order ⊢
    rw [before (Ordering.swap_eq_gt.1 order)]
    rfl

theorem compare_append {xs ys : List Char} (lengths : xs.length = ys.length) (s t : List Char) :
    compare (xs ++ s) (ys ++ t) = (compare xs ys).then (compare s t) := by
  induction xs generalizing ys with
  | nil =>
    obtain rfl := List.length_eq_zero_iff.1 lengths.symm
    rfl
  | cons x xs ih =>
    cases ys with
    | nil => cases lengths
    | cons y ys =>
      rw [List.cons_append, List.cons_append, List.compare_cons_cons, List.compare_cons_cons,
        ih (Nat.succ.inj lengths), Ordering.then_assoc]

/-- In front of numbers that differ, one digit more at the end decides nothing. -/
theorem compare_next {m n a b : Nat} (first : a < 10) (second : b < 10) :
    compare (10 * m + a) (10 * n + b) = (compare m n).then (compare a b) := by
  rcases Nat.lt_trichotomy m n with less | rfl | greater
  · rw [Nat.compare_eq_lt.2 less, Nat.compare_eq_lt.2 (by omega)]
    rfl
  · have shifted : StrictMono (10 * m + ·) := fun _ _ less => Nat.add_lt_add_left less _
    have same : compare m m = .eq := Std.ReflOrd.compare_self
    rw [same, ← cmp_eq_compare, ← cmp_eq_compare, shifted.cmp_map_eq]
    rfl
  · rw [Nat.compare_eq_gt.2 greater, Nat.compare_eq_gt.2 (by omega)]
    rfl

theorem digitValue_lt {c : Char} (digit : c.isDigit = true) : Numeral.digitValue c < 10 := by
  have := toNat_of_isDigit digit
  have zero : '0'.toNat = 48 := rfl
  rw [Numeral.digitValue, zero]
  omega

theorem strictMonoOn_digitValue : StrictMonoOn Numeral.digitValue {c | c.isDigit = true} := by
  intro c first d _ before
  have zero : '0'.toNat = 48 := rfl
  have lower := (toNat_of_isDigit first).1
  have numbers : c.toNat < d.toNat := before
  rw [Numeral.digitValue, Numeral.digitValue, zero]
  omega

theorem compare_digitValue {c d : Char} (first : c.isDigit = true) (second : d.isDigit = true) :
    compare (Numeral.digitValue c) (Numeral.digitValue d) = compare c d := by
  rw [← cmp_eq_compare, ← cmp_eq_compare]
  exact strictMonoOn_digitValue.cmp_map_eq first second

def DigitsAbove (xs ys : List Char) : Prop :=
  List.Forall₂ (fun c d => c.isDigit = true ∧ d.isDigit = true) xs ys

theorem DigitsAbove.compare_foldl {xs ys : List Char} (digits : DigitsAbove xs ys) (m n : Nat) :
    compare (xs.foldl (fun n c => 10 * n + Numeral.digitValue c) m)
        (ys.foldl (fun n c => 10 * n + Numeral.digitValue c) n) =
      (compare m n).then (compare xs ys) := by
  induction digits generalizing m n with
  | nil => simp
  | cons both _ ih =>
    obtain ⟨first, second⟩ := both
    rw [List.foldl_cons, List.foldl_cons, ih,
      compare_next (digitValue_lt first) (digitValue_lt second), compare_digitValue first second,
      List.compare_cons_cons, Ordering.then_assoc]

theorem DigitsAbove.compare_digitsValue {xs ys : List Char} (digits : DigitsAbove xs ys) :
    compare (Numeral.digitsValue xs) (Numeral.digitsValue ys) = compare xs ys :=
  (digits.compare_foldl 0 0).trans rfl

theorem DigitsAbove.take {xs ys : List Char} (digits : DigitsAbove xs ys) (n : Nat) :
    DigitsAbove (xs.take n) (ys.take n) :=
  List.forall₂_take n digits

namespace SameLayout

variable {s t : List Char}

theorem drop (same : SameLayout s t) (n : Nat) : SameLayout (s.drop n) (t.drop n) :=
  List.forall₂_drop n same

theorem skipBlank (same : SameLayout s t) :
    SameLayout (Text.skipBlank s) (Text.skipBlank t) ∧
      compare s t = compare (Text.skipBlank s) (Text.skipBlank t) := by
  induction same with
  | nil => exact ⟨.nil, rfl⟩
  | @cons c d s t alike same ih =>
    have alikeBlank := alike.isBlank_eq
    cases blank : isBlank c with
    | true =>
      obtain rfl := alike.eq_of_isBlank blank
      have skipped (rest : List Char) : Text.skipBlank (c :: rest) = Text.skipBlank rest :=
        List.dropWhile_cons_of_pos blank
      rw [skipped, skipped, List.compare_cons_cons, Std.ReflOrd.compare_self]
      exact ih
    | false =>
      have kept {e : Char} (other : isBlank e = false) (rest : List Char) :
          Text.skipBlank (e :: rest) = e :: rest :=
        List.dropWhile_cons_of_neg (by rw [other]; exact Bool.false_ne_true)
      rw [kept blank, kept (alikeBlank.symm.trans blank)]
      exact ⟨.cons alike same, rfl⟩

theorem takeWhile_isDigit (same : SameLayout s t) :
    DigitsAbove (s.takeWhile Char.isDigit) (t.takeWhile Char.isDigit) := by
  induction same with
  | nil => exact .nil
  | @cons c d s t alike _ ih =>
    have alikeDigit := alike.isDigit_eq
    cases digit : c.isDigit with
    | true =>
      have digitToo := alikeDigit.symm.trans digit
      rw [List.takeWhile_cons_of_pos digit, List.takeWhile_cons_of_pos digitToo]
      exact .cons ⟨digit, digitToo⟩ ih
    | false =>
      have otherToo := alikeDigit.symm.trans digit
      simp only [List.takeWhile_cons, digit, otherToo]
      exact .nil

end SameLayout

end VirtualRecords.Text
