import VirtualRecords.Number.Binary64

/-! The numbers of JSON documents. An integer is what a signed or an unsigned
64-bit word holds; every other number is a finite binary64 number. Numbers are
compared through their binary64 values, while equality inside lists and objects
keeps integers and real numbers apart. -/

namespace VirtualRecords

structure Integer where
  val : Int
  lower : -9223372036854775808 ≤ val := by decide
  upper : val < 18446744073709551616 := by decide
deriving DecidableEq

inductive Number where
  | integer (n : Integer)
  | real (x : Binary64)
deriving DecidableEq

namespace Integer

def ofInt? (n : Int) : Option Integer :=
  if range : -9223372036854775808 ≤ n ∧ n < 18446744073709551616 then some ⟨n, range.1, range.2⟩ else none

def isSigned (n : Integer) : Bool := n.val < 9223372036854775808

theorem natAbs_le (n : Integer) : n.val.natAbs ≤ 18446744073709551616 := by
  have := n.lower
  have := n.upper
  omega

def toBinary64 (n : Integer) : Binary64 := Binary64.ofInt n.val n.natAbs_le

def ofUInt64 (n : UInt64) : Integer where
  val := n.toNat
  lower := by omega
  upper := by have := n.toNat_lt; omega

def ofCount (n : Nat) : Integer where
  val := min n 18446744073709551615
  lower := by omega
  upper := by omega

def toUInt64? (n : Integer) : Option UInt64 :=
  if 0 ≤ n.val then some (UInt64.ofNat n.val.toNat) else none

@[simp] theorem toUInt64?_ofUInt64 (n : UInt64) : (ofUInt64 n).toUInt64? = some n := by
  simp [toUInt64?, ofUInt64]

end Integer

namespace Number

def toBinary64 : Number → Binary64
  | integer n => n.toBinary64
  | real x => x

def isInteger : Number → Bool
  | integer _ => true
  | real _ => false

def isSigned : Number → Bool
  | integer n => n.isSigned
  | real _ => false

/-- Equality that keeps integers and real numbers apart. -/
def same : Number → Number → Bool
  | integer m, integer n => m.val == n.val
  | real x, real y => x.sameValue y
  | _, _ => false

def order (a b : Number) : Ordering := compare a.toBinary64 b.toBinary64

end Number
end VirtualRecords
