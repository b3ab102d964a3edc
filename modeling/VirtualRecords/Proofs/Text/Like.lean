import Mathlib.Data.List.Basic

/-! The texts that a pattern stands for, said without the scan that decides it. A pattern is
read character by character: a percent sign stands for any run of characters, an underscore
for any one of them, and every other character for itself. -/

namespace VirtualRecords.Text

/-- The texts that a pattern stands for. -/
inductive Fits : (pattern text : List Char) → Prop where
  | nil : Fits [] []
  | run {pattern rest text : List Char} (skipped : List Char) :
      text = skipped ++ rest → Fits pattern rest → Fits ('%' :: pattern) text
  | one {pattern rest : List Char} (c : Char) :
      Fits pattern rest → Fits ('_' :: pattern) (c :: rest)
  | same {pattern rest : List Char} {c : Char} :
      c ≠ '%' → c ≠ '_' → Fits pattern rest → Fits (c :: pattern) (c :: rest)

theorem Fits.percent_iff {pattern text : List Char} :
    Fits ('%' :: pattern) text ↔ ∃ skipped rest, text = skipped ++ rest ∧ Fits pattern rest := by
  constructor
  · intro fitting
    cases fitting with
    | run skipped whole inner => exact ⟨skipped, _, whole, inner⟩
    | same percent => exact absurd rfl percent
  · rintro ⟨skipped, rest, whole, inner⟩
    exact .run skipped whole inner

theorem Fits.cons_percent_iff {c : Char} {pattern text : List Char} :
    Fits ('%' :: pattern) (c :: text) ↔ Fits pattern (c :: text) ∨ Fits ('%' :: pattern) text := by
  simp only [Fits.percent_iff]
  constructor
  · rintro ⟨skipped, rest, whole, inner⟩
    cases skipped with
    | nil => exact .inl (whole ▸ inner)
    | cons d skipped =>
      rw [List.cons_append, List.cons.injEq] at whole
      exact .inr ⟨skipped, rest, whole.2, inner⟩
  · rintro (inner | ⟨skipped, rest, rfl, inner⟩)
    · exact ⟨[], c :: text, rfl, inner⟩
    · exact ⟨c :: skipped, rest, rfl, inner⟩

theorem Fits.nil_percent_iff {pattern : List Char} :
    Fits ('%' :: pattern) [] ↔ Fits pattern [] := by
  rw [Fits.percent_iff]
  constructor
  · rintro ⟨skipped, rest, whole, inner⟩
    obtain ⟨-, rfl⟩ := List.append_eq_nil_iff.1 whole.symm
    exact inner
  · exact fun inner => ⟨[], [], rfl, inner⟩

theorem Fits.percent_iff_tail {pattern text : List Char} :
    Fits ('%' :: pattern) text ↔ Fits pattern text ∨ Fits ('%' :: pattern) text.tail := by
  cases text with
  | nil => simp [Fits.nil_percent_iff]
  | cons c text => exact Fits.cons_percent_iff

theorem Fits.not_nil_cons {p : Char} {pattern : List Char} (h : p ≠ '%') :
    ¬ Fits (p :: pattern) [] := by
  intro fitting
  cases fitting
  exact h rfl

theorem Fits.cons_cons_iff {p c : Char} {pattern text : List Char} (h : p ≠ '%') :
    Fits (p :: pattern) (c :: text) ↔ (p = '_' ∨ p = c) ∧ Fits pattern text := by
  constructor
  · intro fitting
    cases fitting with
    | run => exact absurd rfl h
    | one _ inner => exact ⟨.inl rfl, inner⟩
    | same _ _ inner => exact ⟨.inr rfl, inner⟩
  · rintro ⟨same, inner⟩
    by_cases underscore : p = '_'
    · exact underscore ▸ .one c inner
    · obtain rfl := same.resolve_left underscore
      exact .same h underscore inner

theorem Fits.percent (text : List Char) : Fits ['%'] text :=
  .run text (List.append_nil text).symm .nil

theorem Fits.append_iff {first second text : List Char} :
    Fits (first ++ second) text ↔
      ∃ left right, text = left ++ right ∧ Fits first left ∧ Fits second right := by
  constructor
  · intro whole
    induction first generalizing text with
    | nil => exact ⟨[], text, rfl, .nil, whole⟩
    | cons p first ih =>
      rw [List.cons_append] at whole
      by_cases percent : p = '%'
      · subst percent
        obtain ⟨skipped, rest, rfl, inner⟩ := Fits.percent_iff.1 whole
        obtain ⟨left, right, rfl, fitting, last⟩ := ih inner
        exact ⟨skipped ++ left, right, (List.append_assoc _ _ _).symm,
          .run skipped rfl fitting, last⟩
      · cases text with
        | nil => exact absurd whole (Fits.not_nil_cons percent)
        | cons c text =>
          obtain ⟨same, inner⟩ := (Fits.cons_cons_iff percent).1 whole
          obtain ⟨left, right, rfl, fitting, last⟩ := ih inner
          exact ⟨c :: left, right, rfl, (Fits.cons_cons_iff percent).2 ⟨same, fitting⟩, last⟩
  · rintro ⟨left, right, rfl, fitting, last⟩
    induction fitting with
    | nil => exact last
    | run skipped whole _ ih => exact .run skipped (by rw [whole, List.append_assoc]) ih
    | one c _ ih => exact .one c ih
    | same percent underscore _ ih => exact .same percent underscore ih

theorem Fits.length_eq {pattern text : List Char} (fitting : Fits pattern text)
    (noPercent : '%' ∉ pattern) : text.length = pattern.length := by
  induction fitting with
  | nil => rfl
  | run => exact absurd List.mem_cons_self noPercent
  | one c _ ih => simp [ih (List.not_mem_of_not_mem_cons noPercent)]
  | same _ _ _ ih => simp [ih (List.not_mem_of_not_mem_cons noPercent)]

theorem Fits.nil_iff {pattern : List Char} :
    Fits pattern [] ↔ pattern.all (· == '%') = true := by
  induction pattern with
  | nil => simp [Fits.nil]
  | cons p pattern ih =>
    by_cases percent : p = '%'
    · simp [percent, Fits.nil_percent_iff, ih]
    · simp [percent, Fits.not_nil_cons percent]

def FitsInside (pattern text : List Char) : Prop :=
  ∃ before part after, text = before ++ part ++ after ∧ Fits pattern part

def FitsAtStart (pattern text : List Char) : Prop :=
  ∃ part after, text = part ++ after ∧ Fits pattern part

def FitsAtEnd (pattern text : List Char) : Prop :=
  ∃ before part, text = before ++ part ∧ Fits pattern part

theorem fitsAtStart_iff {pattern text : List Char} :
    FitsAtStart pattern text ↔ Fits (pattern ++ ['%']) text := by
  rw [Fits.append_iff]
  constructor
  · rintro ⟨part, after, whole, fitting⟩
    exact ⟨part, after, whole, fitting, .percent after⟩
  · rintro ⟨part, after, whole, fitting, -⟩
    exact ⟨part, after, whole, fitting⟩

theorem fitsAtEnd_iff {pattern text : List Char} :
    FitsAtEnd pattern text ↔ Fits ('%' :: pattern) text :=
  Fits.percent_iff.symm

theorem fitsInside_iff {pattern text : List Char} :
    FitsInside pattern text ↔ Fits ('%' :: (pattern ++ ['%'])) text := by
  rw [Fits.percent_iff]
  constructor
  · rintro ⟨before, part, after, whole, fitting⟩
    exact ⟨before, part ++ after, by rw [whole, List.append_assoc],
      fitsAtStart_iff.1 ⟨part, after, rfl, fitting⟩⟩
  · rintro ⟨before, rest, whole, inner⟩
    obtain ⟨part, after, rfl, fitting⟩ := fitsAtStart_iff.2 inner
    exact ⟨before, part, after, by rw [whole, List.append_assoc], fitting⟩

end VirtualRecords.Text
