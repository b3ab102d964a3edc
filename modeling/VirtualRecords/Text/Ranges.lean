/-! Tables of characters. A table lists ranges of code points, each by its first and its
last, in ascending order, so that a search may end at the first range that lies beyond
the character. Tables start above ASCII, whose classes are spelled out where they are used. -/

namespace VirtualRecords.Text

/-- Whether the ranges lie after `bound`, none of them empty, with a gap between neighbours. -/
def ascendAfter (bound : Nat) : List (Nat × Nat) → Bool
  | [] => true
  | (first, last) :: rest => bound < first && first ≤ last && ascendAfter (last + 1) rest

structure Table where
  ranges : List (Nat × Nat)
  ascend : ascendAfter 127 ranges = true := by decide +kernel

namespace Table

instance : Membership Char Table where
  mem table c := ∃ range ∈ table.ranges, range.1 ≤ c.toNat ∧ c.toNat ≤ range.2

def search (code : Nat) : List (Nat × Nat) → Bool
  | [] => false
  | (first, last) :: rest => first ≤ code && (code ≤ last || search code rest)

variable {ranges : List (Nat × Nat)} {bound code : Nat}

theorem search_eq_false_of_le (ascend : ascendAfter bound ranges = true) (below : code ≤ bound) :
    search code ranges = false := by
  cases ranges with
  | nil => rfl
  | cons range rest =>
    simp only [ascendAfter, Bool.and_eq_true, decide_eq_true_eq] at ascend
    have : ¬ range.1 ≤ code := by omega
    simp [search, this]

/-- Ending the search early loses no character of a table in order. -/
theorem search_iff (ascend : ascendAfter bound ranges = true) :
    search code ranges = true ↔ ∃ range ∈ ranges, range.1 ≤ code ∧ code ≤ range.2 := by
  induction ranges generalizing bound with
  | nil => simp [search]
  | cons range rest ih =>
    simp only [ascendAfter, Bool.and_eq_true, decide_eq_true_eq] at ascend
    have later := ih ascend.2
    simp only [search, Bool.and_eq_true, Bool.or_eq_true, decide_eq_true_eq, List.mem_cons,
      exists_eq_or_imp, ← later]
    constructor
    · rintro ⟨start, inside | beyond⟩
      · exact .inl ⟨start, inside⟩
      · exact .inr beyond
    · rintro (inside | beyond)
      · exact ⟨inside.1, .inl inside.2⟩
      · refine ⟨?_, .inr beyond⟩
        refine Nat.le_of_not_lt fun before => ?_
        have := search_eq_false_of_le ascend.2 (by omega : code ≤ range.2 + 1)
        simp [this] at beyond

instance (c : Char) (table : Table) : Decidable (c ∈ table) :=
  decidable_of_iff (search c.toNat table.ranges = true) (search_iff table.ascend)

end Table
end VirtualRecords.Text
