import VirtualRecords.Number.Power

/-! Finite binary64 numbers, exactly. A magnitude is a number of units, the unit
being the least positive number of the format, `2 ^ -1074`; every finite number of
the format is a whole number of units, and order, equality and rounding are
questions about natural numbers. Zero has a sign, which is seen in print only. -/

namespace VirtualRecords

/-- The nearest whole number to a quotient; a half goes to the even neighbour. -/
def roundHalfEven (num den : Nat) : Nat :=
  if 2 * (num % den) < den ∨ (2 * (num % den) = den ∧ num / den % 2 = 0) then num / den
  else num / den + 1

theorem roundHalfEven_le (num den : Nat) : roundHalfEven num den ≤ num / den + 1 := by
  unfold roundHalfEven; split <;> omega

namespace Binary64

/-- The distance from a magnitude to the next one above it, in units. -/
def gap (magnitude : Nat) : Nat := twoTo (magnitude.log2 - 52)

def roundMagnitude (num den : Nat) : Nat :=
  roundHalfEven num (den * gap (num / den)) * gap (num / den)

def unitExponent : Nat := 1074

def topExponent : Nat := 1024

def scale : Nat := twoTo unitExponent

def limit : Nat := twoTo topExponent * scale

end Binary64

structure Binary64 where
  negative : Bool
  magnitude : Nat
  aligned : Binary64.gap magnitude ∣ magnitude
  bounded : magnitude < Binary64.limit
deriving DecidableEq

namespace Binary64

theorem gap_dvd_mul_twoTo {m : Nat} (h : m ≤ twoTo 53) (k : Nat) :
    gap (m * twoTo k) ∣ m * twoTo k := by
  rcases Nat.lt_or_eq_of_le h with small | rfl
  · have below : m * twoTo k < twoTo (53 + k) := by
      rw [twoTo_add]
      exact Nat.mul_lt_mul_of_pos_right small (twoTo_pos k)
    have high : (m * twoTo k).log2 - 52 ≤ k := by
      rcases Nat.eq_zero_or_pos (m * twoTo k) with zero | pos
      · rw [zero]; simp [Nat.log2_zero]
      · have := log2_lt_of_lt_twoTo (by omega) below
        omega
    exact Nat.dvd_trans (twoTo_dvd high) (Nat.dvd_mul_left _ _)
  · rw [← twoTo_add, gap, log2_twoTo]
    exact twoTo_dvd (by omega)

theorem gap_le (n : Nat) : gap n ≤ n + 1 := by
  rcases Nat.eq_zero_or_pos n with rfl | pos
  · simp [gap, Nat.log2_zero, twoTo]
  · have : twoTo n.log2 ≤ n := twoTo_log2_le (by omega)
    have : twoTo (n.log2 - 52) ≤ twoTo n.log2 := twoTo_le (by omega)
    unfold gap
    omega

theorem div_gap_lt (n : Nat) : n / gap n < twoTo 53 := by
  have pos : 0 < gap n := twoTo_pos _
  rw [Nat.div_lt_iff_lt_mul pos]
  have below := lt_twoTo_log2_succ n
  have : twoTo (n.log2 + 1) ≤ twoTo 53 * gap n := by
    rw [gap, ← twoTo_add]
    exact twoTo_le (by omega)
  omega

theorem gap_dvd_roundMagnitude (num den : Nat) :
    gap (roundMagnitude num den) ∣ roundMagnitude num den := by
  have small := div_gap_lt (num / den)
  have close := roundHalfEven_le num (den * gap (num / den))
  rw [← Nat.div_div_eq_div_mul] at close
  exact gap_dvd_mul_twoTo (by omega) _

theorem roundMagnitude_le (num den : Nat) : roundMagnitude num den ≤ 2 * (num / den) + 1 := by
  have close := roundHalfEven_le num (den * gap (num / den))
  rw [← Nat.div_div_eq_div_mul] at close
  have near := gap_le (num / den)
  have whole := Nat.div_mul_le_self (num / den) (gap (num / den))
  calc roundMagnitude num den
      ≤ (num / den / gap (num / den) + 1) * gap (num / den) := Nat.mul_le_mul_right _ close
    _ ≤ 2 * (num / den) + 1 := by rw [Nat.add_mul]; omega

def units (x : Binary64) : Int := if x.negative then -x.magnitude else x.magnitude

theorem scale_pos : 0 < scale := twoTo_pos _

theorem scale_mul_le_limit : 73786976294838206464 * scale ≤ limit :=
  Nat.mul_le_mul_right _ (twoTo_le (m := 66) (by decide))

theorem limit_pos : 0 < limit := by
  have := scale_pos
  have := scale_mul_le_limit
  omega

def zero (negative : Bool) : Binary64 where
  negative
  magnitude := 0
  aligned := Nat.dvd_zero _
  bounded := limit_pos

def ofUnits? (negative : Bool) (num den : Nat) : Option Binary64 :=
  if bounded : roundMagnitude num den < limit then
    some { negative, magnitude := roundMagnitude num den,
           aligned := gap_dvd_roundMagnitude num den, bounded }
  else none

def ofRatio? (negative : Bool) (num den : Nat) : Option Binary64 :=
  ofUnits? negative (num * scale) den

def mul? (x y : Binary64) : Option Binary64 :=
  ofUnits? (x.negative != y.negative) (x.magnitude * y.magnitude) scale

def div? (x y : Binary64) : Option Binary64 :=
  ofUnits? (x.negative != y.negative) (x.magnitude * scale) y.magnitude

theorem roundMagnitude_mul_scale_lt {n : Nat} (h : n ≤ 18446744073709551616) :
    roundMagnitude (n * scale) 1 < limit := by
  have close := roundMagnitude_le (n * scale) 1
  have most : n * scale ≤ 18446744073709551616 * scale := Nat.mul_le_mul_right _ h
  have far := scale_mul_le_limit
  have := scale_pos
  omega

def ofInt (n : Int) (h : n.natAbs ≤ 18446744073709551616) : Binary64 where
  negative := n < 0
  magnitude := roundMagnitude (n.natAbs * scale) 1
  aligned := gap_dvd_roundMagnitude _ _
  bounded := roundMagnitude_mul_scale_lt h

instance : Ord Binary64 := ⟨fun x y => compare x.units y.units⟩

/-- Equality of values: the two zeros are equal. -/
def sameValue (x y : Binary64) : Bool := x.units == y.units

theorem compare_eq (x y : Binary64) : compare x y = compare x.units y.units := rfl

end Binary64
end VirtualRecords
