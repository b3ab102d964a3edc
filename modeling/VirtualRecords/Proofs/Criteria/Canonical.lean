import VirtualRecords.Criteria.Holds
import VirtualRecords.Proofs.Criteria.Literal

/-! Values and the form of them that is compared. A value equals itself, and one that conforms to a
type has a form in that type and equals it: a number or a boolean that is spelled in text is the
one that the text is read as, and every other value is its own form. So a condition that names
the very value of a field finds it. -/

namespace VirtualRecords

theorem Binary64.compare_self (x : Binary64) : compare x x = .eq := by
  rw [compare_eq, Int.compare_eq_eq]

theorem Number.same_self (n : Number) : n.same n = true := by
  cases n <;> simp [same, Binary64.sameValue]

namespace Json

mutual

theorem same_self (value : Json) : value.same value = true := by
  cases value with
  | null => rfl
  | bool b => simp [same]
  | number n => rw [same, n.same_self]
  | string s => simp [same]
  | array items => rw [same, sameItems_self items]
  | object members => rw [same, sameMembers_self members]

theorem sameItems_self (items : List Json) : sameItems items items = true := by
  cases items with
  | nil => rfl
  | cons item items => rw [sameItems, same_self item, sameItems_self items, Bool.and_self]

theorem sameMembers_self (members : List (String × Json)) :
    sameMembers members members = true := by
  match members with
  | [] => rfl
  | (name, value) :: members =>
    rw [sameMembers, same_self value, sameMembers_self members, beq_self_eq_true]
    rfl

end

theorem order?_number (value : Json) (n : Number) :
    value.order? (.number n) = value.numeric?.map fun x => compare x n.toBinary64 := by
  cases value with
  | string s =>
    have spelled : (string s).order? (.number n) =
        (string s).numeric?.bind fun x => some (compare x n.toBinary64) := rfl
    rw [spelled, Option.map_eq_bind]
    rfl
  | _ => rfl

theorem equals_number {value : Json} {n : Number} (read : value.numeric? = some n.toBinary64) :
    value.equals (.number n) = true := by
  have alike : value.order? (.number n) = some .eq := by
    rw [order?_number, read, Option.map_some, Binary64.compare_self]
  cases value with
  | number m => rw [equals, alike]; rfl
  | string s => rw [equals, alike]; rfl
  | _ => cases read

theorem equals_self (value : Json) : value.equals value = true := by
  cases value with
  | number n => exact equals_number rfl
  | _ => exact same_self _

end Json

theorem numberOfText?_of_integerOfText? {text : List Char} {i : Integer}
    (read : integerOfText? text = some i) : numberOfText? text = some (.integer i) := by
  rw [integerOfText?] at read
  simp only [numberOfText?, read]

/-- A value that conforms to a type has a form in it, and equals that form. -/
theorem FieldType.exists_coerce?_equals {type : FieldType} {value : Json}
    (conforming : type.conforms value = true) :
    ∃ made, type.coerce? value = some made ∧ value.equals made = true := by
  obtain ⟨made, forms⟩ := exists_forms_of_conforms conforming
  refine ⟨made, coerce?_eq_some_iff.2 forms, ?_⟩
  cases forms with
  | kept | number | integer | boolean => exact Json.equals_self _
  | readNumber read => exact Json.equals_number (by simp [Json.numeric?, read])
  | readInteger read =>
    have spelled := numberOfText?_of_integerOfText? read
    exact Json.equals_number (by simp [Json.numeric?, spelled])
  | readBoolean read => simp [Json.equals, read]
  | shownNumber | shownBoolean => cases conforming

end VirtualRecords
