import Mathlib.Data.List.Basic
import VirtualRecords.Page

/-! The pages of one list. Each holds what its place in the list leaves for it, also where the
offset stops at the greatest word, and all of them in turn are the list again. -/

namespace VirtualRecords

namespace Window

theorem take_mul {α : Type} (xs : List α) (size count : Nat) :
    xs.take (count * size) =
      (List.range count).flatMap fun place => (xs.drop (place * size)).take size := by
  induction count with
  | zero => simp
  | succ count ih =>
    rw [Nat.succ_mul, List.take_add, ih]
    rw [List.range_succ, List.flatMap_append, List.flatMap_singleton]

variable {records : List Record} {window : Window}

theorem cut_length (counted : records.length ≤ greatestOffset) :
    (window.cut records).length =
      min window.limit (records.length - window.page.toNat * window.size.toNat) := by
  have stopped : records.length - window.offset =
      records.length - window.page.toNat * window.size.toNat := by
    unfold offset
    omega
  rw [cut, List.length_take, List.length_drop, stopped]

theorem offset_ofNat {place : Nat} {size : UInt64} (positive : 0 < size.toNat)
    (reached : place * size.toNat ≤ greatestOffset) :
    (Window.mk (.ofNat place) size).offset = place * size.toNat := by
  have small : place < UInt64.size := by
    have below : place ≤ place * size.toNat := Nat.le_mul_of_pos_right place positive
    have word : greatestOffset < UInt64.size := by decide
    omega
  rw [offset, UInt64.toNat_ofNat_of_lt' small]
  exact Nat.min_eq_left reached

end Window

namespace Page

variable {records : List Record} {size : UInt64}

theorem lt_totalPages_iff (page : Page) (positive : 0 < page.window.limit) {place : Nat} :
    place < page.totalPages ↔ place * page.window.limit < page.total := by
  rw [totalPages, ← Nat.succ_le_iff, Nat.le_div_iff_mul_le positive, Nat.succ_mul]
  omega

theorem total_le_mul_totalPages (page : Page) (positive : 0 < page.window.limit) :
    page.total ≤ page.totalPages * page.window.limit := by
  by_contra short
  have past : page.totalPages < page.totalPages := (lt_totalPages_iff page positive).2 (by omega)
  omega

def whole (pages : UInt64 → Page) : List Record :=
  (List.range (pages 0).totalPages).flatMap fun place => (pages (.ofNat place)).records

theorem whole_ofRecords (positive : 0 < size.toNat)
    (counted : records.length ≤ Window.greatestOffset) :
    whole (fun number => ofRecords records ⟨number, size⟩) = records := by
  let first := ofRecords records ⟨0, size⟩
  have cuts : ∀ place ∈ List.range first.totalPages,
      (ofRecords records ⟨.ofNat place, size⟩).records =
        (records.drop (place * size.toNat)).take size.toNat := by
    intro place inRange
    have within : place * size.toNat < records.length :=
      (lt_totalPages_iff first positive).1 (List.mem_range.1 inRange)
    have offset := Window.offset_ofNat positive (Nat.le_trans (Nat.le_of_lt within) counted)
    rw [ofRecords, Window.cut, offset]
    rfl
  have enough : records.length ≤ first.totalPages * size.toNat :=
    total_le_mul_totalPages first positive
  calc
    whole (fun number => ofRecords records ⟨number, size⟩)
    _ = (List.range first.totalPages).flatMap fun place =>
          (records.drop (place * size.toNat)).take size.toNat := List.flatMap_congr cuts
    _ = records.take (first.totalPages * size.toNat) := (Window.take_mul records size.toNat _).symm
    _ = records := List.take_of_length_le enough

/-- Pages of one size share out the records that are meant: every page knows how many there are,
is full unless the records run out, and each record stands on one page once. -/
structure Partition (size : Nat) (Meant : Record → Prop) (pages : UInt64 → Page) : Prop where
  total (number : UInt64) : (pages number).total = (whole pages).length
  length (number : UInt64) : (pages number).records.length =
    if number.toNat * size < (pages number).total then
      min size ((pages number).total - number.toNat * size)
    else 0
  nodup : (whole pages).Nodup
  mem_iff (record : Record) : record ∈ whole pages ↔ Meant record

theorem partition_ofRecords {Meant : Record → Prop} (positive : 0 < size.toNat)
    (counted : records.length ≤ Window.greatestOffset) (nodup : records.Nodup)
    (meant : ∀ record, record ∈ records ↔ Meant record) :
    Partition size.toNat Meant fun number => ofRecords records ⟨number, size⟩ where
  total number := by
    rw [whole_ofRecords positive counted]
    rfl
  length number := by
    have held : (Window.cut ⟨number, size⟩ records).length =
        min size.toNat (records.length - number.toNat * size.toNat) := Window.cut_length counted
    have total : (ofRecords records ⟨number, size⟩).total = records.length := rfl
    rw [total]
    split
    · exact held
    · next past =>
      have nothing : records.length - number.toNat * size.toNat = 0 := by omega
      rw [nothing, Nat.min_zero] at held
      exact held
  nodup := by
    rw [whole_ofRecords positive counted]
    exact nodup
  mem_iff record := by
    rw [whole_ofRecords positive counted]
    exact meant record

end Page
end VirtualRecords
