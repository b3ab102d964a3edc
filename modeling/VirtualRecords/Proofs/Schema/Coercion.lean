import VirtualRecords.Schema.Conformance

/-! Coercion beside conformance. Each goes by cases of its own, but a value has a form in a type
exactly if it conforms to the type; only text takes more, since a number and a boolean have a text
each. A form conforms to the type that it was made for and is its own form, so nothing changes when
it is made again, and for a type of a strict shape it is one of a few kinds of value. -/

namespace VirtualRecords

theorem isSigned_of_integerOfText? {text : List Char} {i : Integer}
    (read : integerOfText? text = some i) : i.isSigned = true := by
  obtain ⟨n, -, kept⟩ := Option.bind_eq_some_iff.1 read
  split at kept
  · exact (Option.filter_eq_some_iff.1 kept).2
  · cases kept

namespace FieldType

/-- The form of a value in a type. Numbers and booleans are read from text where they are declared
and shown as text where text is; every other value that conforms is kept. -/
inductive Forms : FieldType → Json → Json → Prop where
  | kept {type : FieldType} {value : Json} : type ∉ [.number, .integer, .boolean] →
      type.conforms value = true → Forms type value value
  | number (n : Number) : Forms .number (.number n) (.number n)
  | integer {n : Number} : n.isSigned = true → Forms .integer (.number n) (.number n)
  | boolean (b : Bool) : Forms .boolean (.bool b) (.bool b)
  | readNumber {s : String} {n : Number} : numberOfText? s.toList = some n →
      Forms .number (.string s) (.number n)
  | readInteger {s : String} {i : Integer} : integerOfText? s.toList = some i →
      Forms .integer (.string s) (.number (.integer i))
  | readBoolean {s : String} {b : Bool} : Text.boolean? s = some b →
      Forms .boolean (.string s) (.bool b)
  | shownNumber (n : Number) : Forms .string (.number n) (.string n.text)
  | shownBoolean (b : Bool) : Forms .string (.bool b) (.string (Json.boolText b))

variable {type : FieldType} {value made : Json}

theorem forms_of_coerce? (coerced : type.coerce? value = some made) : type.Forms value made := by
  have kept {other : FieldType} (free : other ∉ [.number, .integer, .boolean])
      (same : (if other.conforms value then some value else none) = some made) :
      other.Forms value made := by
    obtain ⟨conforming, ⟨⟩⟩ := Option.ite_none_right_eq_some.1 same
    exact .kept free conforming
  cases type with
  | string =>
    cases value with
    | string s => cases coerced; exact .kept (by decide) rfl
    | number n => cases coerced; exact .shownNumber n
    | bool b => cases coerced; exact .shownBoolean b
    | _ => cases coerced
  | number =>
    cases value with
    | number n => cases coerced; exact .number n
    | string s =>
      obtain ⟨n, read, rfl⟩ := Option.map_eq_some_iff.1 coerced
      exact .readNumber read
    | _ => cases coerced
  | integer =>
    cases value with
    | number n =>
      obtain ⟨signed, ⟨⟩⟩ := Option.ite_none_right_eq_some.1 coerced
      exact .integer signed
    | string s =>
      obtain ⟨i, read, rfl⟩ := Option.map_eq_some_iff.1 coerced
      exact .readInteger read
    | _ => cases coerced
  | boolean =>
    cases value with
    | bool b => cases coerced; exact .boolean b
    | string s =>
      obtain ⟨b, read, rfl⟩ := Option.map_eq_some_iff.1 coerced
      exact .readBoolean read
    | _ => cases coerced
  | _ => exact kept (by decide) coerced

theorem coerce?_of_kept (free : type ∉ [.number, .integer, .boolean])
    (conforming : type.conforms value = true) : type.coerce? value = some value := by
  cases type with
  | string =>
    cases value with
    | string s => rfl
    | _ => cases conforming
  | number | integer | boolean => exact absurd (by decide) free
  | _ => exact if_pos conforming

theorem coerce?_eq_some_iff : type.coerce? value = some made ↔ type.Forms value made := by
  refine ⟨forms_of_coerce?, fun forms => ?_⟩
  cases forms with
  | kept free conforming => exact coerce?_of_kept free conforming
  | integer signed => exact if_pos signed
  | readNumber read => simp [coerce?, read]
  | readInteger read => simp [coerce?, read]
  | readBoolean read => simp [coerce?, read]
  | _ => rfl

theorem exists_forms_of_conforms (conforming : type.conforms value = true) :
    ∃ made, type.Forms value made := by
  cases type with
  | number =>
    cases value with
    | number n => exact ⟨_, .number n⟩
    | string s =>
      obtain ⟨n, read⟩ := Option.isSome_iff_exists.1 conforming
      exact ⟨_, .readNumber read⟩
    | _ => cases conforming
  | integer =>
    cases value with
    | number n => exact ⟨_, .integer conforming⟩
    | string s =>
      obtain ⟨i, read⟩ := Option.isSome_iff_exists.1 conforming
      exact ⟨_, .readInteger read⟩
    | _ => cases conforming
  | boolean =>
    cases value with
    | bool b => exact ⟨_, .boolean b⟩
    | string s =>
      obtain ⟨b, read⟩ := Option.isSome_iff_exists.1 conforming
      exact ⟨_, .readBoolean read⟩
    | _ => cases conforming
  | _ => exact ⟨value, .kept (by decide) conforming⟩

namespace Forms

theorem conforms (forms : type.Forms value made) : type.conforms made = true := by
  cases forms with
  | kept _ conforming => exact conforming
  | integer signed => exact signed
  | readInteger read => exact isSigned_of_integerOfText? read
  | _ => rfl

theorem self (forms : type.Forms value made) : type.Forms made made := by
  cases forms with
  | kept free conforming => exact .kept free conforming
  | number n | readNumber => exact .number _
  | integer signed => exact .integer signed
  | readInteger read => exact .integer (isSigned_of_integerOfText? read)
  | boolean | readBoolean => exact .boolean _
  | shownNumber | shownBoolean => exact .kept (by decide) rfl

theorem value_conforms (forms : type.Forms value made) :
    type.conforms value = true ∨
      type = .string ∧ ((∃ n, value = .number n) ∨ ∃ b, value = .bool b) := by
  cases forms with
  | kept _ conforming => exact .inl conforming
  | number | boolean => exact .inl rfl
  | integer signed => exact .inl signed
  | readNumber read => exact .inl (Option.isSome_of_eq_some read)
  | readInteger read => exact .inl (Option.isSome_of_eq_some read)
  | readBoolean read => exact .inl (Option.isSome_of_eq_some read)
  | shownNumber n => exact .inr ⟨rfl, .inl ⟨n, rfl⟩⟩
  | shownBoolean b => exact .inr ⟨rfl, .inr ⟨b, rfl⟩⟩

end Forms

/-- A value has a form in a type exactly if it conforms to the type, or is a number or a boolean and
the type is text; and the form conforms to the type and is its own form. -/
theorem coerce?_agrees (type : FieldType) (value : Json) :
    ((∃ made, type.coerce? value = some made) ↔ type.conforms value = true ∨
      type = .string ∧ ((∃ n, value = .number n) ∨ ∃ b, value = .bool b)) ∧
    ∀ made, type.coerce? value = some made →
      type.conforms made = true ∧ type.coerce? made = some made := by
  simp only [coerce?_eq_some_iff]
  refine ⟨⟨fun ⟨_, forms⟩ => forms.value_conforms, ?_⟩,
    fun _ forms => ⟨forms.conforms, forms.self⟩⟩
  rintro (conforming | ⟨rfl, ⟨n, rfl⟩ | ⟨b, rfl⟩⟩)
  · exact exists_forms_of_conforms conforming
  · exact ⟨_, .shownNumber n⟩
  · exact ⟨_, .shownBoolean b⟩

/-- Text behind white space that spells one more than the greatest signed integer: no integer, and a
number all the same. -/
theorem coerce?_agrees_pastSigned :
    let value : Json := .string " 9223372036854775808"
    FieldType.integer.coerce? value = none ∧ ∃ made, FieldType.number.coerce? value = some made ∧
      FieldType.number.conforms made = true ∧ FieldType.number.coerce? made = some made := by
  intro value
  have refused : FieldType.integer.conforms value = false := by decide +kernel
  have conforming : FieldType.number.conforms value = true := by decide +kernel
  have formless := mt (coerce?_agrees .integer value).1.1 (by simp [refused])
  obtain ⟨made, formed⟩ := (coerce?_agrees .number value).1.2 (.inl conforming)
  exact ⟨Option.eq_none_iff_forall_ne_some.2 (not_exists.1 formless),
    made, formed, (coerce?_agrees .number value).2 made formed⟩

/-- The values of a strict shape: numbers, integers of a signed 64-bit word, booleans, and texts
that spell a date or a time. -/
inductive Canonical : FieldType → Json → Prop where
  | number (n : Number) : Canonical .number (.number n)
  | integer {i : Integer} : -9223372036854775808 ≤ i.val → i.val < 9223372036854775808 →
      Canonical .integer (.number (.integer i))
  | boolean (b : Bool) : Canonical .boolean (.bool b)
  | date {s : String} : (Date.ofText? s).isSome = true → Canonical .date (.string s)
  | datetime {s : String} : (DateTime.ofText? s).isSome = true → Canonical .datetime (.string s)

theorem canonical_of_signed {n : Number} (signed : n.isSigned = true) :
    Canonical .integer (.number n) := by
  cases n with
  | integer i => exact .integer i.lower (of_decide_eq_true signed)
  | real x => cases signed

theorem Forms.canonical (strict : type.isStrict = true) (forms : type.Forms value made) :
    type.Canonical made := by
  cases forms with
  | kept free conforming =>
    cases type with
    | number | integer | boolean => exact absurd (by decide) free
    | date =>
      cases value with
      | string s => exact .date conforming
      | _ => cases conforming
    | datetime =>
      cases value with
      | string s => exact .datetime conforming
      | _ => cases conforming
    | _ => cases strict
  | number n | readNumber => exact .number _
  | integer signed => exact canonical_of_signed signed
  | readInteger read => exact canonical_of_signed (isSigned_of_integerOfText? read)
  | boolean | readBoolean => exact .boolean _
  | shownNumber | shownBoolean => cases strict

end FieldType
end VirtualRecords
