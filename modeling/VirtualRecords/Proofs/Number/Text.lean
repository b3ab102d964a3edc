import Mathlib.Data.List.Basic
import VirtualRecords.Number.Shortest

/-! The characters that numbers are written with: digits, a sign, a point and the mark of an
exponent. No other character comes into a number's text. -/

namespace VirtualRecords

def isNumberChar (c : Char) : Bool := c.isDigit || c == '-' || c == '+' || c == '.' || c == 'e'

def IsNumberText (text : List Char) : Prop := ∀ c ∈ text, isNumberChar c = true

namespace IsNumberText

variable {text rest : List Char} {c : Char}

theorem nil : IsNumberText [] := nofun

theorem cons (first : isNumberChar c = true) (later : IsNumberText rest) :
    IsNumberText (c :: rest) :=
  List.forall_mem_cons.2 ⟨first, later⟩

theorem append (first : IsNumberText text) (later : IsNumberText rest) :
    IsNumberText (text ++ rest) :=
  List.forall_mem_append.2 ⟨first, later⟩

theorem sublist (whole : IsNumberText text) (part : rest.Sublist text) : IsNumberText rest :=
  fun c member => whole c (part.subset member)

theorem toDigits (n : Nat) : IsNumberText (Nat.toDigits 10 n) := by
  intro c member
  have digit := Nat.isDigit_of_mem_toDigits (by decide) (by decide) member
  rw [isNumberChar, digit]
  rfl

theorem zeros (n : Nat) : IsNumberText (List.replicate n '0') := by
  intro c member
  rw [List.eq_of_mem_replicate member]
  rfl

theorem not_mem_of_not_isNumberChar (whole : IsNumberText text) (other : isNumberChar c = false) :
    c ∉ text := by
  intro member
  rw [whole c member] at other
  cases other

end IsNumberText

namespace Binary64

variable {d : Digits}

theorem isNumberText_shortest (magnitude : Nat) : IsNumberText (shortest magnitude).digits := by
  have stripped : (shortest magnitude).digits.Sublist (Nat.toDigits 10 _) :=
    List.reverse_sublist.1 (by
      rw [shortest, List.reverse_reverse]
      exact List.dropWhile_sublist _)
  exact (IsNumberText.toDigits _).sublist stripped

theorem isNumberText_plainText (digits : IsNumberText d.digits) : IsNumberText (plainText d) := by
  unfold plainText
  dsimp only
  split
  · exact .append (.cons rfl (.cons rfl (.zeros _))) digits
  · have padded := digits.append (.zeros (d.point + 1 - d.digits.length).toNat)
    exact (padded.sublist (List.take_sublist _ _)).append
      (.cons rfl (padded.sublist (List.drop_sublist _ _)))

theorem isNumberText_scientificText (digits : IsNumberText d.digits) :
    IsNumberText (scientificText d) := by
  have sign : isNumberChar (if d.point - 1 < 0 then '-' else '+') = true := by
    split
    · rfl
    · rfl
  have tail : IsNumberText ('e' :: (if d.point - 1 < 0 then '-' else '+') ::
      Nat.toDigits 10 (d.point - 1).natAbs) := .cons rfl (.cons sign (.toDigits _))
  unfold scientificText
  dsimp only
  split
  · exact tail
  · next c only =>
    rw [only] at digits
    exact .cons (digits c List.mem_cons_self) tail
  · next c more _ whole =>
    rw [whole] at digits
    have later : IsNumberText more := digits.sublist (List.sublist_cons_self c more)
    exact .cons (digits c List.mem_cons_self) (.cons rfl (later.append tail))

theorem isNumberText_magnitudeText (magnitude : Nat) : IsNumberText (magnitudeText magnitude) := by
  have digits := isNumberText_shortest magnitude
  unfold magnitudeText
  dsimp only
  split
  · exact .cons rfl (.cons rfl (.cons rfl .nil))
  · split
    · exact isNumberText_plainText digits
    · exact isNumberText_scientificText digits

theorem isNumberText_text (x : Binary64) : IsNumberText x.text.toList := by
  have digits := isNumberText_magnitudeText x.magnitude
  rw [text, String.toList_ofList]
  split
  · exact .cons rfl digits
  · exact digits

end Binary64

theorem isNumberText_natText (n : Nat) : IsNumberText (natText n).toList := by
  rw [natText, String.toList_ofList]
  exact .toDigits n

theorem isNumberText_intText (n : Int) : IsNumberText (intText n).toList := by
  rw [intText, String.toList_ofList]
  split
  · exact .cons rfl (.toDigits _)
  · exact .toDigits _

theorem Number.isNumberText_text (n : Number) : IsNumberText n.text.toList := by
  cases n with
  | integer n => exact isNumberText_intText n.val
  | real x => exact x.isNumberText_text

end VirtualRecords
