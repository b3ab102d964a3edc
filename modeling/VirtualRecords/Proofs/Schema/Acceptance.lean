import VirtualRecords.Proofs.Json.Members
import VirtualRecords.Proofs.Schema.Judgement

/-! When payloads are accepted. A field asks that its value be there if it is required, that a value
which is not null have the field's type, and what its options add to that: a list of strings
limits an enumeration to these, and the name of a type puts the items of a list under it. Options
of any other shape add nothing. A list with items of another type is reported once, by its first. -/

namespace VirtualRecords

/-- The value has the type of the field, and the options of the field allow it. -/
structure Field.Allows (field : Field) (value : Json) : Prop where
  typed : ∃ type, field.type? = some type ∧ type.conforms value = true
  listed (values : List String) : field.type? = some .enum →
    field.option? "values" = some (.array (values.map .string)) → ∃ s ∈ values, value = .string s
  items (item : FieldType) (members : List Json) : field.type? = some .array →
    field.option? "itemType" = some (.string item.name) → value = .array members →
      ∀ member ∈ members, item.conforms member = true

structure Field.AllowsIn (field : Field) (payload : Json.Members) : Prop where
  present : field.required = true →
    ∃ value, payload.get? field.key = some value ∧ value.isNull = false
  allowed (value : Json) : payload.get? field.key = some value → value.isNull = false →
    field.Allows value

/-- The options of the field are of a shape that says something of its type. -/
inductive Field.Restricts (field : Field) : Prop where
  | values (values : List String) : field.type? = some .enum →
      field.option? "values" = some (.array (values.map .string)) → Restricts field
  | items (item : FieldType) : field.type? = some .array →
      field.option? "itemType" = some (.string item.name) → Restricts field

theorem Json.eq_of_mapM_asString? {items : List Json} {texts : List String}
    (read : items.mapM asString? = some texts) : items = texts.map .string := by
  induction items generalizing texts with
  | nil =>
    cases read
    rfl
  | cons item items ih =>
    rw [List.mapM_cons] at read
    obtain ⟨text, isText, read⟩ := Option.bind_eq_some_iff.1 read
    obtain ⟨rest, others, same⟩ := Option.bind_eq_some_iff.1 read
    cases same
    cases item with
    | string s =>
      cases isText
      rw [ih others, List.map_cons]
    | _ => cases isText

namespace Validation

variable {payload : Json.Members} {fields : List Field} {field : Field} {item : FieldType}
  {value bad : Json}

theorem stringList?_eq_some_iff {values : List String} :
    stringList? value = some values ↔ value = .array (values.map .string) := by
  constructor
  · intro read
    cases value with
    | array items => rw [Json.eq_of_mapM_asString? read]
    | _ => cases read
  · rintro rfl
    exact Json.listOf?_map Json.asString?_string values

theorem allowed?_eq_some_iff {values : List String} :
    allowed? field = some values ↔
      field.option? "values" = some (.array (values.map .string)) := by
  simp [allowed?, Option.bind_eq_some_iff, stringList?_eq_some_iff]

theorem itemType?_eq_some_iff :
    itemType? field = some item ↔ field.option? "itemType" = some (.string item.name) := by
  rw [itemType?, Option.bind_eq_some_iff]
  constructor
  · rintro ⟨text, read, named⟩
    obtain ⟨option, held, isText⟩ := Option.bind_eq_some_iff.1 read
    cases option with
    | string s => cases isText; rw [held, FieldType.name_of_ofName? named]
    | _ => cases isText
  · intro held
    exact ⟨item.name, by rw [held]; rfl, FieldType.ofName?_name item⟩

theorem unmetByType?_eq_none_iff : unmetByType? item value = none ↔ item.conforms value = true :=
  ⟨conforms_of_unmetByType?, fun conforming => if_pos conforming⟩

theorem exists_unmetByType? (fails : item.conforms value = false) :
    ∃ demand, unmetByType? item value = some demand := by
  refine Option.ne_none_iff_exists'.1 fun met => ?_
  rw [unmetByType?_eq_none_iff, fails] at met
  cases met

/-- A field that has a type and no options judges a value by the type alone. -/
theorem valueViolation?_ofType (key : String) (item : FieldType) (value : Json) :
    valueViolation? (.ofType key item) value = (unmetByType? item value).map (.unmet key) := by
  have known : (Field.ofType key item).type? = some item := FieldType.ofName?_name item
  have free : optionViolation? (.ofType key item) item value = none := by
    unfold optionViolation?
    split <;> rfl
  rw [valueViolation?, known]
  dsimp only
  rw [free]
  cases unmetByType? item value <;> rfl

/-- An item is judged as the value of a field of its own, which is named by its place. -/
theorem firstBadItem?_cons (key : String) (item : FieldType) (index : Nat) (first : Json)
    (rest : List Json) :
    firstBadItem? key item index (first :: rest) =
      (valueViolation? (.ofType (itemKey key index) item) first).or
        (firstBadItem? key item (index + 1) rest) := by
  rw [firstBadItem?, valueViolation?_ofType]
  cases unmetByType? item first <;> rfl

theorem firstBadItem?_eq_none_iff {key : String} {index : Nat} {items : List Json} :
    firstBadItem? key item index items = none ↔ ∀ member ∈ items, item.conforms member = true := by
  induction items generalizing index with
  | nil => simp [firstBadItem?]
  | cons first rest ih =>
    rw [firstBadItem?_cons, valueViolation?_ofType, Option.or_eq_none_iff, Option.map_eq_none_iff,
      unmetByType?_eq_none_iff, ih, List.forall_mem_cons]

theorem firstBadItem?_append {key : String} {index : Nat} {before : List Json}
    (good : ∀ member ∈ before, item.conforms member = true) (rest : List Json) :
    firstBadItem? key item index (before ++ rest) =
      firstBadItem? key item (index + before.length) rest := by
  induction before generalizing index with
  | nil => rfl
  | cons first before ih =>
    obtain ⟨here, later⟩ := List.forall_mem_cons.1 good
    rw [List.cons_append, firstBadItem?_cons, valueViolation?_ofType,
      unmetByType?_eq_none_iff.2 here, Option.map_none, Option.none_or, ih later, List.length_cons,
      Nat.add_right_comm, Nat.add_assoc]

theorem optionViolation?_enum_eq_none_iff {s : String} :
    optionViolation? field .enum (.string s) = none ↔
      ∀ values : List String,
        field.option? "values" = some (.array (values.map .string)) → s ∈ values := by
  simp only [← allowed?_eq_some_iff, optionViolation?]
  cases allowed? field with
  | none => simp
  | some values => simp

theorem optionViolation?_array_eq_none_iff {items : List Json} :
    optionViolation? field .array (.array items) = none ↔
      ∀ item : FieldType, field.option? "itemType" = some (.string item.name) →
        ∀ member ∈ items, item.conforms member = true := by
  simp only [← itemType?_eq_some_iff, optionViolation?]
  cases itemType? field with
  | none => simp
  | some item => simp [firstBadItem?_eq_none_iff]

theorem optionViolation?_eq_none_iff {type : FieldType} (known : field.type? = some type)
    (conforming : type.conforms value = true) :
    optionViolation? field type value = none ↔ field.Allows value := by
  have typed : ∃ type, field.type? = some type ∧ type.conforms value = true :=
    ⟨type, known, conforming⟩
  have same {other : FieldType} (declared : field.type? = some other) : type = other :=
    Option.some.inj (known.symm.trans declared)
  constructor
  · intro clear
    refine ⟨typed, fun values isEnum option => ?_, fun item members isArray option isList => ?_⟩
    · obtain rfl := same isEnum
      cases value with
      | string s => exact ⟨s, optionViolation?_enum_eq_none_iff.1 clear values option, rfl⟩
      | _ => cases conforming
    · obtain rfl := same isArray
      subst isList
      exact optionViolation?_array_eq_none_iff.1 clear item option
  · intro allows
    cases type with
    | enum =>
      cases value with
      | string s =>
        refine optionViolation?_enum_eq_none_iff.2 fun values option => ?_
        obtain ⟨_, member, ⟨⟩⟩ := allows.listed values known option
        exact member
      | _ => cases conforming
    | array =>
      cases value with
      | array items =>
        exact optionViolation?_array_eq_none_iff.2 fun item option =>
          allows.items item items known option rfl
      | _ => cases conforming
    | _ => rfl

theorem valueViolation?_eq_none_iff : valueViolation? field value = none ↔ field.Allows value := by
  unfold valueViolation?
  split
  · next unknown =>
    refine iff_of_false (by simp) fun allows => ?_
    obtain ⟨type, known, _⟩ := allows.typed
    rw [unknown] at known
    cases known
  · next type known =>
    split
    · next demand unmet =>
      refine iff_of_false (by simp) fun allows => ?_
      obtain ⟨other, declared, conforming⟩ := allows.typed
      obtain rfl := Option.some.inj (known.symm.trans declared)
      rw [unmetByType?_eq_none_iff.2 conforming] at unmet
      cases unmet
    · next met => exact optionViolation?_eq_none_iff known (conforms_of_unmetByType? met)

theorem fieldViolation?_of_value (held : payload.get? field.key = some value)
    (notNull : value.isNull = false) :
    fieldViolation? payload field = valueViolation? field value := by
  rw [fieldViolation?, held]
  cases value with
  | null => cases notNull
  | _ => rfl

theorem fieldViolation?_eq_none_iff :
    fieldViolation? payload field = none ↔ field.AllowsIn payload := by
  have absent (nothing : ∀ value, payload.get? field.key = some value → value.isNull = true) :
      field.AllowsIn payload ↔ field.required = false := by
    constructor
    · intro allows
      refine Bool.eq_false_iff.2 fun required => ?_
      obtain ⟨value, held, notNull⟩ := allows.present required
      rw [nothing value held] at notNull
      cases notNull
    · intro optional
      refine ⟨fun required => ?_, fun value held notNull => ?_⟩
      · rw [optional] at required
        cases required
      · rw [nothing value held] at notNull
        cases notNull
  cases held : payload.get? field.key with
  | none =>
    rw [absent (by simp [held]), fieldViolation?, held]
    simp
  | some value =>
    cases isNull : value.isNull with
    | true =>
      rw [absent (by simp [held, isNull]), fieldViolation?, held, Json.isNull_iff.1 isNull]
      simp
    | false =>
      rw [fieldViolation?_of_value held isNull, valueViolation?_eq_none_iff]
      constructor
      · intro allows
        refine ⟨fun _ => ⟨value, held, isNull⟩, fun other found _ => ?_⟩
        rwa [← Option.some.inj (held.symm.trans found)]
      · exact fun allows => allows.allowed value held isNull

theorem messages_append (earlier later : List Field) :
    messages payload (earlier ++ later) = messages payload earlier ++ messages payload later := by
  rw [messages, messages, messages, violations, List.filterMap_append, List.map_append]
  rfl

theorem messages_cons (field : Field) (later : List Field) :
    messages payload (field :: later) =
      ((fieldViolation? payload field).map Violation.text).toList ++ messages payload later := by
  rw [messages, messages, violations, List.filterMap_cons]
  cases fieldViolation? payload field with
  | none => rfl
  | some violation => rfl

theorem fieldViolation?_of_badItem {before after : List Json} (isArray : field.type? = some .array)
    (option : field.option? "itemType" = some (.string item.name))
    (held : payload.get? field.key = some (.array (before ++ bad :: after)))
    (good : ∀ member ∈ before, item.conforms member = true)
    (fails : item.conforms bad = false) :
    ∃ demand, unmetByType? item bad = some demand ∧
      fieldViolation? payload field = some (.unmet (itemKey field.key before.length) demand) := by
  obtain ⟨demand, unmet⟩ := exists_unmetByType? fails
  have isList : unmetByType? .array (.array (before ++ bad :: after)) = none := rfl
  refine ⟨demand, unmet, ?_⟩
  rw [fieldViolation?_of_value held rfl, valueViolation?, isArray]
  simp only [isList, optionViolation?, itemType?_eq_some_iff.2 option, Option.bind_eq_bind,
    Option.bind_some, firstBadItem?_append good, firstBadItem?, unmet, Nat.zero_add]

theorem optionViolation?_of_unrestricted (free : ¬ field.Restricts) {type : FieldType}
    (known : field.type? = some type) : optionViolation? field type value = none := by
  cases type with
  | enum =>
    cases value with
    | string s =>
      exact optionViolation?_enum_eq_none_iff.2 fun values option =>
        absurd (.values values known option) free
    | _ => rfl
  | array =>
    cases value with
    | array items =>
      exact optionViolation?_array_eq_none_iff.2 fun item option =>
        absurd (.items item known option) free
    | _ => rfl
  | _ => rfl

theorem fieldViolation?_withOptions_null (free : ¬ field.Restricts) :
    fieldViolation? payload (field.withOptions .null) = fieldViolation? payload field := by
  have freeToo : ¬ (field.withOptions .null).Restricts := by
    rintro (⟨_, _, option⟩ | ⟨_, _, option⟩) <;> cases option
  have value (value : Json) :
      valueViolation? (field.withOptions .null) value = valueViolation? field value := by
    unfold valueViolation?
    have same : (field.withOptions .null).type? = field.type? := rfl
    rw [same]
    cases known : field.type? with
    | none => rfl
    | some type =>
      simp only [optionViolation?_of_unrestricted free known,
        optionViolation?_of_unrestricted freeToo (same.trans known)]
      rfl
  unfold fieldViolation?
  simp only [value]
  rfl

/-- What the messages of a payload are: none exactly if every field is content; one for a list with
a bad item, which is the message of the first such item by itself; and the same with options that
say nothing as with none. -/
structure Exact (payload : Json.Members) : Prop where
  accepted_iff (fields : List Field) :
    messages payload fields = [] ↔ ∀ field ∈ fields, field.AllowsIn payload
  first_item (earlier : List Field) (field : Field) (later : List Field) (item : FieldType)
    (before : List Json) (bad : Json) (after : List Json) : field.type? = some .array →
    field.option? "itemType" = some (.string item.name) →
    payload.get? field.key = some (.array (before ++ bad :: after)) →
    (∀ member ∈ before, item.conforms member = true) → item.conforms bad = false →
    ∃ demand,
      valueViolation? (.ofType (itemKey field.key before.length) item) bad =
        some (.unmet (itemKey field.key before.length) demand) ∧
      messages payload (earlier ++ field :: later) = messages payload earlier ++
        ("Field '" ++ itemKey field.key before.length ++ "' must be " ++ demand.text) ::
          messages payload later
  options_free (earlier : List Field) (field : Field) (later : List Field) : ¬ field.Restricts →
    messages payload (earlier ++ field :: later) =
      messages payload (earlier ++ field.withOptions .null :: later)

theorem messages_exact (payload : Json.Members) : Exact payload where
  accepted_iff fields := by
    simp only [messages_eq_nil_iff, fieldViolation?_eq_none_iff]
  first_item earlier field later item before bad after isArray option held good fails := by
    obtain ⟨demand, unmet, violation⟩ := fieldViolation?_of_badItem isArray option held good fails
    have alone := valueViolation?_ofType (itemKey field.key before.length) item bad
    rw [unmet, Option.map_some] at alone
    refine ⟨demand, alone, ?_⟩
    rw [messages_append, messages_cons, violation]
    rfl
  options_free earlier field later free := by
    rw [messages_append, messages_append, messages_cons, messages_cons,
      fieldViolation?_withOptions_null free]

theorem messages_exact_tags :
    let tags : Field := .arrayOf "tags" .string
    let payload : Json.Members := [("tags", .array [.string "x", .bool true, .null])]
    messages payload [tags] = ["Field 'tags[1]' must be a string"] := by
  intro tags payload
  obtain ⟨demand, violation, reported⟩ := (messages_exact payload).first_item [] tags [] .string
    [.string "x"] (.bool true) [.null] (by decide) rfl rfl (by simp [FieldType.conforms, Json.isText]) rfl
  cases violation
  exact reported

end Validation
end VirtualRecords
