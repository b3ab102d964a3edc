/-! Powers of two and of ten. -/

namespace VirtualRecords

def twoTo (n : Nat) : Nat := Nat.pow 2 n

def tenTo (n : Nat) : Nat := Nat.pow 10 n

theorem twoTo_pos (n : Nat) : 0 < twoTo n := Nat.two_pow_pos n

theorem twoTo_add (m n : Nat) : twoTo (m + n) = twoTo m * twoTo n := Nat.pow_add 2 m n

theorem twoTo_le {m n : Nat} (h : m ≤ n) : twoTo m ≤ twoTo n :=
  Nat.pow_le_pow_right (by decide) h

theorem twoTo_dvd {m n : Nat} (h : m ≤ n) : twoTo m ∣ twoTo n := Nat.pow_dvd_pow 2 h

theorem log2_twoTo (n : Nat) : (twoTo n).log2 = n := Nat.log2_two_pow

theorem twoTo_log2_le {n : Nat} (h : n ≠ 0) : twoTo n.log2 ≤ n := Nat.log2_self_le h

theorem lt_twoTo_log2_succ (n : Nat) : n < twoTo (n.log2 + 1) := Nat.lt_log2_self

theorem log2_lt_of_lt_twoTo {n k : Nat} (h : n ≠ 0) (below : n < twoTo k) : n.log2 < k :=
  (Nat.log2_lt h).2 below

end VirtualRecords
