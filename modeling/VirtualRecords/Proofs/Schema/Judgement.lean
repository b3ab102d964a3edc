import VirtualRecords.Schema.Entity
import VirtualRecords.Schema.Validation

/-! Judging payloads. A payload is valid if no field finds fault with it, so the order in which
fields are asked does not matter; and a valid payload has a value of the right type under
every required key. -/

namespace VirtualRecords

namespace Validation

variable {payload : Json.Members} {fields : List Field} {field : Field}

theorem messages_eq_nil_iff :
    messages payload fields = [] ↔ ∀ field ∈ fields, fieldViolation? payload field = none := by
  rw [messages, List.map_eq_nil_iff, violations, List.filterMap_eq_nil_iff]

theorem messages_eq_nil_of_perm {others : List Field} (same : fields.Perm others) :
    messages payload fields = [] ↔ messages payload others = [] := by
  rw [messages_eq_nil_iff, messages_eq_nil_iff]
  exact forall_congr' fun field => imp_congr_left same.mem_iff

theorem conforms_of_unmetByType? {type : FieldType} {value : Json}
    (met : unmetByType? type value = none) : type.conforms value = true := by
  unfold unmetByType? at met
  by_cases conforming : type.conforms value = true
  · exact conforming
  · rw [if_neg conforming] at met
    split at met
    · cases met
    · cases met

theorem exists_of_valueViolation? {value : Json} (clear : valueViolation? field value = none) :
    ∃ type, field.type? = some type ∧ type.conforms value = true := by
  unfold valueViolation? at clear
  split at clear
  · cases clear
  · next type known =>
    split at clear
    · cases clear
    · next met => exact ⟨type, known, conforms_of_unmetByType? met⟩

theorem exists_of_required (required : field.required = true)
    (clear : fieldViolation? payload field = none) :
    ∃ value type, payload.get? field.key = some value ∧ value.isNull = false ∧
      field.type? = some type ∧ type.conforms value = true := by
  unfold fieldViolation? at clear
  split at clear
  · rw [if_pos required] at clear
    cases clear
  · rw [if_pos required] at clear
    cases clear
  · next value notNull found =>
    obtain ⟨type, known, conforming⟩ := exists_of_valueViolation? clear
    refine ⟨value, type, found, ?_, known, conforming⟩
    cases value with
    | null => exact absurd rfl notNull
    | _ => rfl

theorem asPayload_eq_ok {value : Json} :
    asPayload value = .ok payload ↔ value = .object payload := by
  unfold asPayload
  cases value with
  | object members => simp [Json.asObject?]
  | _ => simp [Json.asObject?]

end Validation

theorem Rejection.ofMessages?_eq_none_iff {messages : List String} :
    ofMessages? messages = none ↔ messages = [] := by
  unfold ofMessages?
  by_cases empty : messages = []
  · simp [empty]
  · simp [empty]

theorem Rejection.ofMessages?_eq_some_iff {messages : List String} {rejection : Rejection} :
    ofMessages? messages = some rejection ↔ rejection.messages = messages := by
  unfold ofMessages?
  constructor
  · intro made
    split at made
    · cases made
      rfl
    · cases made
  · rintro rfl
    rw [dif_pos rejection.nonempty]

theorem Entity.orderedFields_perm (entity : Entity) : entity.orderedFields.Perm entity.fields :=
  List.mergeSort_perm entity.fields shownBefore

end VirtualRecords
