import Mathlib.Data.List.Basic
import VirtualRecords.Identifier

/-! Identifiers and their text. The digits of a number are read back as that number, whatever
zeros stand before them, and the hyphens between groups of digits can be taken out again since
none of them is a digit; so an identifier is read back from its own text. -/

namespace VirtualRecords

namespace Text

variable {digits : List Char} {n : Nat}

theorem hexValue?_digitChar (small : n < 16) : hexValue? n.digitChar = some n := by
  revert n
  decide

theorem hexDigits?_concat (digits : List Char) (c : Char) :
    hexDigits? (digits ++ [c]) =
      (hexDigits? digits).bind fun n => (hexValue? c).map (16 * n + ·) := by
  rw [hexDigits?, List.foldlM_append, Option.bind_eq_bind]
  simp only [List.foldlM_cons, List.foldlM_nil, bind_pure]
  rfl

theorem hexDigits?_toDigits (n : Nat) : hexDigits? (Nat.toDigits 16 n) = some n := by
  induction n using Nat.strongRecOn with
  | ind n ih =>
    rw [Nat.toDigits_eq_if (by decide)]
    split
    · next small =>
      rw [← List.nil_append [n.digitChar], hexDigits?_concat, hexValue?_digitChar small]
      simp [hexDigits?]
    · rw [hexDigits?_concat, ih (n / 16) (by omega), hexValue?_digitChar (by omega)]
      simp only [Option.bind_some, Option.map_some, Nat.div_add_mod]

theorem hexDigits?_zeros (k : Nat) (digits : List Char) :
    hexDigits? (List.replicate k '0' ++ digits) = hexDigits? digits := by
  induction k with
  | zero => rfl
  | succ k ih => exact ih

theorem isSome_hexValue?_of_foldlM {start : Nat}
    (read : digits.foldlM (fun n c => (hexValue? c).map (16 * n + ·)) start = some n) :
    ∀ c ∈ digits, (hexValue? c).isSome := by
  induction digits generalizing start with
  | nil => exact List.forall_mem_nil _
  | cons c digits ih =>
    rw [List.foldlM_cons, Option.bind_eq_bind, Option.bind_eq_some_iff] at read
    obtain ⟨next, first, later⟩ := read
    obtain ⟨value, known, -⟩ := Option.map_eq_some_iff.1 first
    exact List.forall_mem_cons.2 ⟨Option.isSome_of_eq_some known, ih later⟩

theorem hyphen_not_mem_of_hexDigits? (read : hexDigits? digits = some n) : '-' ∉ digits :=
  fun member => absurd (isSome_hexValue?_of_foldlM read '-' member) (by decide)

end Text

namespace Identifier

theorem filter_hyphenate (lengths : List Nat) (digits : List Char) :
    (hyphenate lengths digits).filter (· != '-') = digits.filter (· != '-') := by
  fun_induction hyphenate lengths digits with
  | case1 => rfl
  | case2 => rfl
  | case3 n m more digits ih =>
    rw [List.filter_append, List.filter_cons_of_neg (by decide), ih, ← List.filter_append,
      List.take_append_drop]

theorem length_hyphenate (lengths : List Nat) (digits : List Char) :
    (hyphenate lengths digits).length = digits.length + (lengths.length - 1) := by
  fun_induction hyphenate lengths digits with
  | case1 => rfl
  | case2 => rfl
  | case3 n m more digits ih =>
    have whole := congrArg List.length (List.take_append_drop n digits)
    rw [List.length_append] at whole ⊢
    simp only [List.length_cons] at ih ⊢
    omega

variable (id : Identifier)

theorem length_hexText : id.hexText.length = 32 := by
  have fits : (Nat.toDigits 16 id.bits.toNat).length ≤ 32 :=
    (Nat.length_toDigits_le_iff (by decide) (by decide)).2 id.bits.isLt
  rw [hexText, List.length_append, List.length_replicate, Nat.sub_add_cancel fits]

theorem hexDigits?_hexText : Text.hexDigits? id.hexText = some id.bits.toNat := by
  rw [hexText, Text.hexDigits?_zeros, Text.hexDigits?_toDigits]

theorem ofHyphenated?_hexText : ofHyphenated? (hyphenate groupLengths id.hexText) = some id := by
  have plain : id.hexText.filter (· != '-') = id.hexText := by
    refine List.filter_eq_self.2 fun c member => bne_iff_ne.2 ?_
    exact ne_of_mem_of_not_mem member (Text.hyphen_not_mem_of_hexDigits? id.hexDigits?_hexText)
  rw [ofHyphenated?, filter_hyphenate, plain, if_pos rfl, ofHex?, if_pos id.length_hexText,
    id.hexDigits?_hexText, Option.map_some, BitVec.ofNat_toNat, BitVec.setWidth_eq]

@[simp] theorem ofText?_text : ofText? id.text = some id := by
  have length : (hyphenate groupLengths id.hexText).length = 36 := by
    rw [length_hyphenate, length_hexText]
    rfl
  rw [ofText?, text, String.toList_ofList]
  unfold ofChars?
  rw [if_neg (by rw [length]; decide), if_pos length, ofHyphenated?_hexText]

@[simp] theorem ofJson?_toJson : ofJson? id.toJson = some id := id.ofText?_text

end Identifier
end VirtualRecords
