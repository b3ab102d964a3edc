import VirtualRecords.Calendar.Date
import VirtualRecords.Proofs.Text.Layout

/-! Dates written in one layout. Two such texts are read in step: at each step as much is taken from
the one as from the other, and the order of the texts is that of what was taken, then of what is
left. So the order of the texts is that of the dates, year before month before day; only behind a
minus sign the years stand the other way round. -/

namespace VirtualRecords

namespace Scan

variable {α β : Type} {scan : Scan α} {next : α → Scan β} {text rest : List Char}

theorem bind_eq_some {b : β} :
    (scan >>= next).run text = some (b, rest) ↔
      ∃ a left, scan.run text = some (a, left) ∧ (next a).run left = some (b, rest) := by
  rw [StateT.run_bind]
  exact Option.bind_eq_some_iff.trans Prod.exists

theorem pure_eq_some {a b : α} :
    (pure a : Scan α).run text = some (b, rest) ↔ a = b ∧ text = rest := by
  rw [StateT.run_pure]
  simp [pure]

theorem char_eq_some {c : Char} {u : Unit} :
    (char c).run text = some (u, rest) ↔ text = c :: rest := by
  cases text with
  | nil => exact iff_of_false nofun nofun
  | cons d text =>
    have taken : (char c).run (d :: text) =
        (if (d == c) = true then some (d, text) else none).bind fun taken =>
          some ((), taken.2) := rfl
    rw [taken, List.cons.injEq, ← beq_iff_eq (a := d)]
    cases d == c with
    | true => simp
    | false => simp

theorem cases_of_optional {c : Char} {present : Bool}
    (taken : (optional c).run text = some (present, rest)) :
    present = true ∧ text = c :: rest ∨ present = false ∧ text = rest := by
  cases text with
  | nil => cases taken; exact .inr ⟨rfl, rfl⟩
  | cons d text =>
    by_cases same : d = c
    · subst same
      have step := (if_pos rfl).symm.trans taken
      cases step
      exact .inl ⟨rfl, rfl⟩
    · have step := (if_neg same).symm.trans taken
      cases step
      exact .inr ⟨rfl, rfl⟩

theorem eq_append_of_number {least most n : Nat}
    (taken : (number least most).run text = some (n, rest)) :
    text = (text.takeWhile Char.isDigit).take most ++ rest ∧
      n = Numeral.digitsValue ((text.takeWhile Char.isDigit).take most) ∧
      least ≤ ((text.takeWhile Char.isDigit).take most).length := by
  obtain ⟨run, left, found, made⟩ := bind_eq_some.1 taken
  obtain ⟨rfl, rfl⟩ := pure_eq_some.1 made
  obtain ⟨enough, same⟩ := Option.ite_none_right_eq_some.1 found
  cases same
  have front : (text.takeWhile Char.isDigit).take most <+: text :=
    (List.take_prefix _ _).trans (List.takeWhile_prefix _)
  exact ⟨(List.prefix_iff_eq_append.1 front).symm, rfl, enough⟩

theorem exists_of_number {least most n : Nat} (needed : 0 < least)
    (taken : (number least most).run text = some (n, rest)) :
    ∃ c more, text = c :: more ∧ c.isDigit = true := by
  obtain ⟨-, -, enough⟩ := eq_append_of_number taken
  cases text with
  | nil =>
    rw [List.takeWhile_nil, List.take_nil] at enough
    exact absurd enough (Nat.not_le.2 needed)
  | cons c more =>
    refine ⟨c, more, rfl, ?_⟩
    by_contra other
    rw [List.takeWhile_cons_of_neg other, List.take_nil] at enough
    exact absurd enough (Nat.not_le.2 needed)

theorem eq_append_of_allDigits {run : List Char}
    (taken : allDigits.run text = some (run, rest)) :
    text = text.takeWhile Char.isDigit ++ rest ∧ run = text.takeWhile Char.isDigit := by
  obtain ⟨-, same⟩ := Option.ite_none_left_eq_some.1 taken
  cases same
  exact ⟨List.takeWhile_append_dropWhile.symm, rfl⟩

end Scan

namespace Text

/-- Texts of one layout from which as much was taken: they stand in the order of what was taken and
then of what is left, which is of one layout again. -/
structure InStep (s t : List Char) (taken : Ordering) (s' t' : List Char) : Prop where
  layout : SameLayout s' t'
  order_eq : compare s t = taken.then (compare s' t')

variable {s t s' t' s'' t'' : List Char}

theorem InStep.trans {first second : Ordering} (front : InStep s t first s' t')
    (back : InStep s' t' second s'' t'') : InStep s t (first.then second) s'' t'' where
  layout := back.layout
  order_eq := by rw [front.order_eq, back.order_eq, Ordering.then_assoc]

theorem inStep_skipBlank (same : SameLayout s t) : InStep s t .eq (skipBlank s) (skipBlank t) :=
  ⟨same.skipBlank.1, same.skipBlank.2⟩

theorem inStep_cons {c : Char} (same : SameLayout (c :: s) (c :: t)) :
    InStep (c :: s) (c :: t) .eq s t where
  layout := (List.forall₂_cons.1 same).2
  order_eq := by rw [List.compare_cons_cons, Std.ReflOrd.compare_self]

theorem inStep_char {c : Char} {u v : Unit} (same : SameLayout s t)
    (first : (Scan.char c).run s = some (u, s')) (second : (Scan.char c).run t = some (v, t')) :
    InStep s t .eq s' t' := by
  obtain rfl := Scan.char_eq_some.1 first
  obtain rfl := Scan.char_eq_some.1 second
  exact inStep_cons same

theorem inStep_digits {xs ys : List Char} (digits : DigitsAbove xs ys)
    (same : SameLayout (xs ++ s) (ys ++ t)) :
    InStep (xs ++ s) (ys ++ t) (compare (Numeral.digitsValue xs) (Numeral.digitsValue ys)) s t where
  layout := by
    have left := same.drop xs.length
    rwa [List.drop_left, digits.length_eq, List.drop_left] at left
  order_eq := by rw [compare_append digits.length_eq, digits.compare_digitsValue]

theorem inStep_number {least most m n : Nat} (same : SameLayout s t)
    (first : (Scan.number least most).run s = some (m, s'))
    (second : (Scan.number least most).run t = some (n, t')) :
    InStep s t (compare m n) s' t' := by
  obtain ⟨whole, rfl, -⟩ := Scan.eq_append_of_number first
  obtain ⟨wholeToo, rfl, -⟩ := Scan.eq_append_of_number second
  have digits := same.takeWhile_isDigit.take most
  rw [whole, wholeToo] at same
  have step := inStep_digits digits same
  rwa [← whole, ← wholeToo] at step

theorem inStep_allDigits {xs ys : List Char} (same : SameLayout s t)
    (first : Scan.allDigits.run s = some (xs, s')) (second : Scan.allDigits.run t = some (ys, t')) :
    InStep s t (compare (Numeral.digitsValue xs) (Numeral.digitsValue ys)) s' t' := by
  obtain ⟨whole, rfl⟩ := Scan.eq_append_of_allDigits first
  obtain ⟨wholeToo, rfl⟩ := Scan.eq_append_of_allDigits second
  have digits := same.takeWhile_isDigit
  rw [whole, wholeToo] at same
  have step := inStep_digits digits same
  rwa [← whole, ← wholeToo] at step

end Text

namespace Date

open Text

variable {s t s' t' : List Char} {d e : Date}

theorem inStep_scanPair {m n : Nat} (same : SameLayout s t)
    (first : scanPair.run s = some (m, s')) (second : scanPair.run t = some (n, t')) :
    InStep s t (compare m n) s' t' := by
  obtain ⟨_, s₁, skipped, first⟩ := Scan.bind_eq_some.1 first
  obtain ⟨_, t₁, skippedToo, second⟩ := Scan.bind_eq_some.1 second
  cases skipped
  cases skippedToo
  have front := inStep_skipBlank same
  exact front.trans (inStep_number front.layout first second)

inductive YearRead : List Char → Int → List Char → Prop where
  | minus {text rest run : List Char} : Scan.allDigits.run text = some (run, rest) →
      YearRead ('-' :: text) (-(Numeral.digitsValue run : Int)) rest
  | plus {text rest run : List Char} : Scan.allDigits.run text = some (run, rest) →
      YearRead ('+' :: text) (Numeral.digitsValue run) rest
  | plain {c : Char} {text rest : List Char} {n : Nat} : c.isDigit = true →
      (Scan.number 1 4).run (c :: text) = some (n, rest) → YearRead (c :: text) n rest

theorem yearRead_of_scanYear {text rest : List Char} {year : Int}
    (read : scanYear.run text = some (year, rest)) : YearRead (skipBlank text) year rest := by
  obtain ⟨_, left, skipped, read⟩ := Scan.bind_eq_some.1 read
  cases skipped
  obtain ⟨negative, left, sign, read⟩ := Scan.bind_eq_some.1 read
  rcases Scan.cases_of_optional sign with ⟨rfl, whole⟩ | ⟨rfl, rfl⟩
  · obtain ⟨run, left, digits, made⟩ := Scan.bind_eq_some.1 read
    obtain ⟨rfl, rfl⟩ := Scan.pure_eq_some.1 made
    rw [whole]
    exact .minus digits
  · obtain ⟨positive, left, sign, read⟩ := Scan.bind_eq_some.1 read
    rcases Scan.cases_of_optional sign with ⟨rfl, whole⟩ | ⟨rfl, rfl⟩
    · obtain ⟨run, left, digits, made⟩ := Scan.bind_eq_some.1 read
      obtain ⟨rfl, rfl⟩ := Scan.pure_eq_some.1 made
      rw [whole]
      exact .plus digits
    · obtain ⟨n, left, digits, made⟩ := Scan.bind_eq_some.1 read
      obtain ⟨rfl, rfl⟩ := Scan.pure_eq_some.1 made
      obtain ⟨c, more, body, digit⟩ := Scan.exists_of_number Nat.one_pos digits
      rw [body] at digits ⊢
      exact .plain digit digits

theorem compare_natCast (m n : Nat) : compare (m : Int) n = compare m n := by
  have cast : StrictMono (Nat.cast : Nat → Int) := fun _ _ => Int.ofNat_lt.2
  rw [← cmp_eq_compare, ← cmp_eq_compare, cast.cmp_map_eq]

theorem compare_neg (m n : Int) : compare (-m) (-n) = compare n m := by
  have turned : StrictAnti (Neg.neg : Int → Int) := fun _ _ => Int.neg_lt_neg
  rw [← cmp_eq_compare, ← cmp_eq_compare, turned.cmp_map_eq]

/-- Years behind a plus sign or none stand in their order, and behind a minus sign in the opposite
one. -/
theorem YearRead.inStep {y z : Int} (same : SameLayout s t) (first : YearRead s y s')
    (second : YearRead t z t') :
    InStep s t (if s.head? = some '-' then compare z y else compare y z) s' t' := by
  have heads {c d : Char} {s t : List Char} (same : SameLayout (c :: s) (d :: t)) : Alike c d :=
    (List.forall₂_cons.1 same).1
  -- A sign stands above a sign, and the same one, since signs are no digits.
  cases first with
  | minus digits =>
    cases second with
    | minus digitsToo =>
      have front := inStep_cons same
      have step := front.trans (inStep_allDigits front.layout digits digitsToo)
      rw [List.head?_cons, if_pos rfl, compare_neg, compare_natCast]
      exact step
    | plus => exact absurd (heads same) (by decide)
    | plain digit => cases (heads same).isDigit_eq.trans digit
  | plus digits =>
    cases second with
    | plus digitsToo =>
      have front := inStep_cons same
      have step := front.trans (inStep_allDigits front.layout digits digitsToo)
      rw [List.head?_cons, if_neg (by decide), compare_natCast]
      exact step
    | minus => exact absurd (heads same) (by decide)
    | plain digit => cases (heads same).isDigit_eq.trans digit
  | @plain c _ _ _ digit digits =>
    cases second with
    | plain _ digitsToo =>
      have unsigned : ¬ (some c = some '-') := by
        rintro ⟨⟩
        cases digit
      rw [List.head?_cons, if_neg unsigned, compare_natCast]
      exact inStep_number same digits digitsToo
    | minus | plus => cases digit.symm.trans (heads same).isDigit_eq

def BehindMinus (text : List Char) : Prop := (skipBlank text).head? = some '-'

instance (text : List Char) : Decidable (BehindMinus text) :=
  inferInstanceAs (Decidable ((skipBlank text).head? = some '-'))

theorem inStep_scanYear {y z : Int} (same : SameLayout s t)
    (first : scanYear.run s = some (y, s')) (second : scanYear.run t = some (z, t')) :
    InStep s t (if BehindMinus s then compare z y else compare y z) s' t' := by
  have front := inStep_skipBlank same
  exact front.trans
    ((yearRead_of_scanYear first).inStep front.layout (yearRead_of_scanYear second))

theorem ofNumbers?_eq_some {year : Int} {month day : Nat} {date : Date}
    (made : ofNumbers? year month day = some date) :
    date.year = year ∧ date.month = month ∧ date.day = day := by
  unfold ofNumbers? at made
  split at made
  · cases made
    exact ⟨rfl, rfl, rfl⟩
  · cases made

theorem exists_of_ofChars? {text : List Char} {date : Date} (read : ofChars? text = some date) :
    ∃ s₁ s₂ s₃ s₄, scanYear.run text = some (date.year, s₁) ∧
      (Scan.char '-').run s₁ = some ((), s₂) ∧ scanPair.run s₂ = some (date.month, s₃) ∧
      (Scan.char '-').run s₃ = some ((), s₄) ∧ scanPair.run s₄ = some (date.day, []) := by
  obtain ⟨⟨year, month, day⟩, complete, made⟩ := Option.bind_eq_some_iff.1 read
  obtain ⟨rfl, rfl, rfl⟩ := ofNumbers?_eq_some made
  have numbers : scanNumbers.run text = some ((date.year, date.month, date.day), []) := by
    unfold Scan.complete? at complete
    split at complete
    · next whole =>
      cases complete
      exact whole
    · cases complete
  obtain ⟨_, s₁, first, numbers⟩ := Scan.bind_eq_some.1 numbers
  obtain ⟨_, s₂, second, numbers⟩ := Scan.bind_eq_some.1 numbers
  obtain ⟨_, s₃, third, numbers⟩ := Scan.bind_eq_some.1 numbers
  obtain ⟨_, s₄, fourth, numbers⟩ := Scan.bind_eq_some.1 numbers
  obtain ⟨_, s₅, fifth, numbers⟩ := Scan.bind_eq_some.1 numbers
  obtain ⟨same, rfl⟩ := Scan.pure_eq_some.1 numbers
  cases same
  exact ⟨s₁, s₂, s₃, s₄, first, second, third, fourth, fifth⟩

/-- Texts of dates in one layout stand in the order of the dates, but for years behind a minus
sign. -/
theorem compare_of_sameLayout (same : SameLayout s t) (first : ofChars? s = some d)
    (second : ofChars? t = some e) :
    compare s t = (if BehindMinus s then compare e.year d.year else compare d.year e.year).then
      ((compare d.month e.month).then (compare d.day e.day)) := by
  obtain ⟨s₁, s₂, s₃, s₄, year, dash, month, dashToo, day⟩ := exists_of_ofChars? first
  obtain ⟨t₁, t₂, t₃, t₄, year', dash', month', dashToo', day'⟩ := exists_of_ofChars? second
  have front := inStep_scanYear same year year'
  have front := front.trans (inStep_char front.layout dash dash')
  have front := front.trans (inStep_scanPair front.layout month month')
  have front := front.trans (inStep_char front.layout dashToo dashToo')
  have front := front.trans (inStep_scanPair front.layout day day')
  rw [front.order_eq]
  simp [Ordering.then_assoc]

def Before (a b : Date) : Prop :=
  a.year < b.year ∨ a.year = b.year ∧ (a.month < b.month ∨ a.month = b.month ∧ a.day < b.day)

instance (a b : Date) : Decidable (a.Before b) :=
  inferInstanceAs (Decidable (_ ∨ _ ∧ (_ ∨ _ ∧ _)))

theorem order_eq_lt_iff {a b : Date} : a.order b = .lt ↔ a.Before b := by
  rw [order, Ordering.then_eq_lt, Ordering.then_eq_lt, Int.compare_eq_lt, Int.compare_eq_eq,
    Nat.compare_eq_lt, Nat.compare_eq_eq, Nat.compare_eq_lt]
  rfl

theorem eq_iff_of_sameLayout (same : SameLayout s t) (first : ofChars? s = some d)
    (second : ofChars? t = some e) : s = t ↔ d = e := by
  constructor
  · rintro rfl
    exact Option.some.inj (first.symm.trans second)
  · rintro rfl
    have texts := compare_of_sameLayout same first second
    rw [ite_self, Int.compare_eq_eq.2 rfl, Nat.compare_eq_eq.2 rfl,
      Nat.compare_eq_eq.2 rfl] at texts
    exact Std.LawfulEqOrd.eq_of_compare texts

theorem compare_eq_order (same : SameLayout s t) (years : BehindMinus s → d.year = e.year)
    (first : ofChars? s = some d) (second : ofChars? t = some e) : compare s t = d.order e := by
  rw [compare_of_sameLayout same first second]
  split
  · next minus => rw [order, years minus]
  · rfl

end Date

end VirtualRecords
