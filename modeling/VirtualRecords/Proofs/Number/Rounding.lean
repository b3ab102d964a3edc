import VirtualRecords.Number.Basic

/-! Rounding to binary64 numbers. A greater quotient is never rounded to a lesser number, because
the powers of two, where the gap between numbers changes, are numbers of the format themselves;
and a number of the format is rounded to itself. Integers are therefore compared through their
nearest numbers rightly, or not told apart at all, and within fifty-three bits they are always
told apart. -/

namespace VirtualRecords

theorem roundHalfEven_mono {a b : Nat} (den : Nat) (le : a ≤ b) :
    roundHalfEven a den ≤ roundHalfEven b den := by
  have quotients : a / den ≤ b / den := Nat.div_le_div_right le
  rcases Nat.lt_or_eq_of_le quotients with lower | same
  · calc roundHalfEven a den ≤ a / den + 1 := roundHalfEven_le a den
      _ ≤ b / den := lower
      _ ≤ roundHalfEven b den := by unfold roundHalfEven; split <;> omega
  · have rests : a % den ≤ b % den := by
      have first := Nat.div_add_mod a den
      have second := Nat.div_add_mod b den
      rw [same] at first
      omega
    unfold roundHalfEven
    rw [same]
    split <;> split <;> omega

theorem roundHalfEven_mul {den : Nat} (positive : 0 < den) (quotient : Nat) :
    roundHalfEven (quotient * den) den = quotient := by
  simp [roundHalfEven, Nat.mul_mod_left, Nat.mul_div_cancel quotient positive, positive]

namespace Binary64

variable {num den bound : Nat}

/-- Rounding keeps to the side of each multiple of the gap that it rounds with. -/
theorem le_roundMagnitude (positive : 0 < den) (onGrid : gap (num / den) ∣ bound)
    (below : bound * den ≤ num) : bound ≤ roundMagnitude num den := by
  obtain ⟨quotient, rfl⟩ := onGrid
  have step : 0 < den * gap (num / den) := Nat.mul_pos positive (twoTo_pos _)
  have whole : quotient * (den * gap (num / den)) ≤ num :=
    Nat.le_trans (Nat.le_of_eq (by ac_rfl)) below
  have rounded := roundHalfEven_mono (den * gap (num / den)) whole
  rw [roundHalfEven_mul step] at rounded
  rw [roundMagnitude, Nat.mul_comm]
  exact Nat.mul_le_mul_right _ rounded

theorem roundMagnitude_le_of_le (positive : 0 < den) (onGrid : gap (num / den) ∣ bound)
    (above : num ≤ bound * den) : roundMagnitude num den ≤ bound := by
  obtain ⟨quotient, rfl⟩ := onGrid
  have step : 0 < den * gap (num / den) := Nat.mul_pos positive (twoTo_pos _)
  have whole : num ≤ quotient * (den * gap (num / den)) :=
    Nat.le_trans above (Nat.le_of_eq (by ac_rfl))
  have rounded := roundHalfEven_mono (den * gap (num / den)) whole
  rw [roundHalfEven_mul step] at rounded
  rw [roundMagnitude, Nat.mul_comm (gap (num / den))]
  exact Nat.mul_le_mul_right _ rounded

theorem roundMagnitude_of_aligned {magnitude : Nat} (aligned : gap magnitude ∣ magnitude) :
    roundMagnitude magnitude 1 = magnitude := by
  have onGrid : gap (magnitude / 1) ∣ magnitude := by rwa [Nat.div_one]
  have one := Nat.mul_one magnitude
  exact Nat.le_antisymm (roundMagnitude_le_of_le Nat.one_pos onGrid (Nat.le_of_eq one.symm))
    (le_roundMagnitude Nat.one_pos onGrid (Nat.le_of_eq one))

theorem gap_dvd_twoTo {magnitude exponent : Nat} (high : magnitude.log2 ≤ exponent) :
    gap magnitude ∣ twoTo exponent :=
  twoTo_dvd (Nat.le_trans (Nat.sub_le _ _) high)

theorem twoTo_log2_le_roundMagnitude (positive : 0 < den) (some : num / den ≠ 0) :
    twoTo (num / den).log2 ≤ roundMagnitude num den := by
  apply le_roundMagnitude positive (gap_dvd_twoTo (Nat.le_refl _))
  exact (Nat.le_div_iff_mul_le positive).1 (twoTo_log2_le some)

theorem roundMagnitude_le_twoTo (positive : 0 < den) :
    roundMagnitude num den ≤ twoTo ((num / den).log2 + 1) := by
  apply roundMagnitude_le_of_le positive (gap_dvd_twoTo (Nat.le_succ _))
  exact Nat.le_of_lt ((Nat.div_lt_iff_lt_mul positive).1 (lt_twoTo_log2_succ _))

theorem log2_mono {a b : Nat} (le : a ≤ b) : a.log2 ≤ b.log2 := by
  rcases Nat.eq_zero_or_pos a with rfl | positive
  · rw [Nat.log2_zero]
    exact Nat.zero_le _
  · exact (Nat.le_log2 (by omega)).2 (Nat.le_trans (twoTo_log2_le (by omega)) le)

theorem roundMagnitude_mono {a b : Nat} (positive : 0 < den) (le : a ≤ b) :
    roundMagnitude a den ≤ roundMagnitude b den := by
  have quotients : a / den ≤ b / den := Nat.div_le_div_right le
  rcases Nat.lt_or_eq_of_le (log2_mono quotients) with lower | same
  · have some : b / den ≠ 0 := by
      intro zero
      rw [zero, Nat.log2_zero] at lower
      exact Nat.not_lt_zero _ lower
    calc roundMagnitude a den ≤ twoTo ((a / den).log2 + 1) := roundMagnitude_le_twoTo positive
      _ ≤ twoTo (b / den).log2 := twoTo_le lower
      _ ≤ roundMagnitude b den := twoTo_log2_le_roundMagnitude positive some
  · have gaps : gap (a / den) = gap (b / den) := by rw [gap, gap, same]
    rw [roundMagnitude, roundMagnitude, gaps]
    exact Nat.mul_le_mul_right _ (roundHalfEven_mono _ le)

section Integers

variable {m n : Int} (hm : m.natAbs ≤ 18446744073709551616) (hn : n.natAbs ≤ 18446744073709551616)

theorem units_ofInt (n : Int) (hn : n.natAbs ≤ 18446744073709551616) :
    (ofInt n hn).units =
      if n < 0 then -(roundMagnitude (n.natAbs * scale) 1 : Int)
      else roundMagnitude (n.natAbs * scale) 1 := by
  simp [units, ofInt]

theorem units_ofInt_mono (le : m ≤ n) : (ofInt m hm).units ≤ (ofInt n hn).units := by
  rw [units_ofInt, units_ofInt]
  by_cases negative : n < 0
  · have magnitudes : n.natAbs * scale ≤ m.natAbs * scale := Nat.mul_le_mul_right _ (by omega)
    have rounded := roundMagnitude_mono Nat.one_pos magnitudes
    rw [if_pos negative, if_pos (by omega)]
    omega
  · rw [if_neg negative]
    split
    · omega
    · have magnitudes : m.natAbs * scale ≤ n.natAbs * scale := Nat.mul_le_mul_right _ (by omega)
      have rounded := roundMagnitude_mono Nat.one_pos magnitudes
      omega

theorem units_ofInt_of_small (small : n.natAbs ≤ twoTo 53) : (ofInt n hn).units = n * scale := by
  have exact : roundMagnitude (n.natAbs * scale) 1 = n.natAbs * scale :=
    roundMagnitude_of_aligned (gap_dvd_mul_twoTo small unitExponent)
  rw [units_ofInt, exact, Int.natCast_mul]
  split
  · next negative =>
    rw [Int.ofNat_natAbs_of_nonpos (Int.le_of_lt negative), Int.neg_mul, Int.neg_neg]
  · next positive => rw [Int.natAbs_of_nonneg (Int.not_lt.1 positive)]

end Integers

end Binary64

namespace Integer

variable {m n : Integer}

/-- The integers are rounded to the same binary64 number. -/
def SameNearest (m n : Integer) : Prop := m.toBinary64.units = n.toBinary64.units

instance (m n : Integer) : Decidable (m.SameNearest n) :=
  inferInstanceAs (Decidable (m.toBinary64.units = n.toBinary64.units))

theorem units_toBinary64_mono (le : m.val ≤ n.val) : m.toBinary64.units ≤ n.toBinary64.units :=
  Binary64.units_ofInt_mono m.natAbs_le n.natAbs_le le

theorem units_toBinary64_lt_iff :
    m.toBinary64.units < n.toBinary64.units ↔ m.val < n.val ∧ ¬ m.SameNearest n := by
  constructor
  · intro lower
    refine ⟨Int.not_le.1 fun notLess => ?_, Int.ne_of_lt lower⟩
    exact absurd (units_toBinary64_mono notLess) (Int.not_le.2 lower)
  · rintro ⟨less, apart⟩
    exact Int.lt_iff_le_and_ne.2 ⟨units_toBinary64_mono (Int.le_of_lt less), apart⟩

theorem sameNearest_iff_of_small (first : m.val.natAbs ≤ twoTo 53)
    (second : n.val.natAbs ≤ twoTo 53) : m.SameNearest n ↔ m.val = n.val := by
  have scaled : (Binary64.scale : Int) ≠ 0 :=
    Int.natCast_ne_zero.2 (Nat.ne_of_gt Binary64.scale_pos)
  rw [SameNearest, toBinary64, toBinary64, Binary64.units_ofInt_of_small _ first,
    Binary64.units_ofInt_of_small _ second]
  exact Int.mul_eq_mul_right_iff scaled

end Integer
end VirtualRecords
