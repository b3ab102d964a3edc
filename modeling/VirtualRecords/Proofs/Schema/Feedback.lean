import Mathlib.Data.List.OfFn
import VirtualRecords.Proofs.Schema.Acceptance

/-! What the messages of a payload tell. Every field is judged by the value under its own key and by
nothing else, so the messages are those of the fields one by one: none for a field that is content,
and otherwise one, which quotes its key. The wording of a missing value is shared by no other
violation, so these messages are as many as the required fields whose keys are absent. -/

namespace VirtualRecords

inductive Violation.About (key : String) : Violation → Prop where
  | missing : About key (.missing key)
  | null : About key (.null key)
  | unknownType : About key (.unknownType key)
  | unmet (demand : Demand) : About key (.unmet key demand)
  | item (index : Nat) (demand : Demand) : About key (.unmet (Validation.itemKey key index) demand)

/-- The message has the key in quotes, or the key and behind it the place of an item. -/
def Quotes (message key : String) : Prop :=
  ∃ front place back, message = front ++ "'" ++ key ++ place ++ "'" ++ back ∧
    (place = "" ∨ ∃ index, place = "[" ++ natText index ++ "]")

namespace Violation

variable {violation : Violation} {key : String}

theorem text_missing (key : String) :
    (missing key).text = "Required field '" ++ key ++ "' is missing" := rfl

theorem text_null (key : String) :
    (null key).text = "Required field '" ++ key ++ "' cannot be null" := rfl

theorem text_unknownType (key : String) :
    (unknownType key).text = "Unknown field type for field '" ++ key ++ "'" := rfl

theorem text_unmet (key : String) (demand : Demand) :
    (unmet key demand).text = "Field '" ++ key ++ "' must be " ++ demand.text := rfl

theorem quotes_of_toList {message : String} (front back : String)
    (same : message.toList = front.toList ++ '\'' :: (key.toList ++ '\'' :: back.toList)) :
    Quotes message key := by
  refine ⟨front, "", back, String.toList_inj.1 ?_, .inl rfl⟩
  rw [same]
  simp

theorem About.quotes (about : violation.About key) : Quotes violation.text key := by
  cases about with
  | missing =>
    rw [text_missing]
    exact quotes_of_toList "Required field " " is missing" (by simp)
  | null =>
    rw [text_null]
    exact quotes_of_toList "Required field " " cannot be null" (by simp)
  | unknownType =>
    rw [text_unknownType]
    exact quotes_of_toList "Unknown field type for field " "" (by simp)
  | unmet demand =>
    rw [text_unmet]
    exact quotes_of_toList "Field " (" must be " ++ demand.text) (by simp)
  | item index demand =>
    rw [text_unmet]
    let place := "[" ++ natText index ++ "]"
    refine ⟨"Field ", place, " must be " ++ demand.text, ?_, .inr ⟨index, rfl⟩⟩
    simp [← String.toList_inj, Validation.itemKey, place]

theorem text_eq_missing_iff :
    violation.text = "Required field '" ++ key ++ "' is missing" ↔ violation = .missing key := by
  constructor
  · intro same
    cases violation with
    | missing other =>
      rw [text_missing, ← String.toList_inj] at same
      simp only [String.toList_append, List.append_cancel_right_eq, List.append_cancel_left_eq,
        String.toList_inj] at same
      rw [same]
    | null other =>
      rw [text_null] at same
      have last := congrArg (fun message => message.toList.getLast?) same
      simp [List.getLast?_cons, List.getLast?_append] at last
    | unknownType other =>
      rw [text_unknownType] at same
      have first := congrArg (fun message => message.toList.head?) same
      simp at first
    | unmet other demand =>
      rw [text_unmet] at same
      have first := congrArg (fun message => message.toList.head?) same
      simp at first
  · rintro rfl
    rfl

end Violation

namespace Validation

variable {payload other : Json.Members} {fields : List Field} {field : Field} {key : String}
  {violation : Violation} {value : Json}

theorem exists_of_firstBadItem? {type : FieldType} {index : Nat} {items : List Json}
    (found : firstBadItem? key type index items = some violation) :
    ∃ place demand, violation = .unmet (itemKey key place) demand := by
  induction items generalizing index with
  | nil => cases found
  | cons item items ih =>
    rw [firstBadItem?] at found
    split at found
    · next demand _ =>
      cases found
      exact ⟨index, demand, rfl⟩
    · exact ih found

theorem exists_of_optionViolation? {type : FieldType}
    (found : optionViolation? field type value = some violation) :
    ∃ subject demand, violation = .unmet subject demand ∧ violation.About field.key := by
  unfold optionViolation? at found
  split at found
  · obtain ⟨values, -, found⟩ := Option.bind_eq_some_iff.1 found
    split at found
    · cases found
    · cases found
      exact ⟨_, _, rfl, .unmet _⟩
  · obtain ⟨item, -, found⟩ := Option.bind_eq_some_iff.1 found
    obtain ⟨place, demand, rfl⟩ := exists_of_firstBadItem? found
    exact ⟨_, _, rfl, .item place demand⟩
  · cases found

theorem about_of_valueViolation? (found : valueViolation? field value = some violation) :
    violation.About field.key ∧ ∀ key, violation ≠ .missing key := by
  unfold valueViolation? at found
  split at found
  · cases found
    exact ⟨.unknownType, nofun⟩
  · split at found
    · cases found
      exact ⟨.unmet _, nofun⟩
    · obtain ⟨_, _, rfl, about⟩ := exists_of_optionViolation? found
      exact ⟨about, nofun⟩

theorem about_of_fieldViolation? (found : fieldViolation? payload field = some violation) :
    violation.About field.key := by
  unfold fieldViolation? at found
  split at found
  · split at found
    · cases found
      exact .missing
    · cases found
  · split at found
    · cases found
      exact .null
    · cases found
  · exact (about_of_valueViolation? found).1

theorem fieldViolation?_eq_missing_iff :
    fieldViolation? payload field = some (.missing key) ↔
      field.required = true ∧ field.key = key ∧ payload.get? field.key = none := by
  unfold fieldViolation?
  split
  · next absent => simp [absent]
  · next held => simp [held]
  · next held =>
    rw [held]
    refine iff_of_false (fun found => ?_) (by simp)
    exact (about_of_valueViolation? found).2 key rfl

theorem fieldViolation?_congr (same : payload.get? field.key = other.get? field.key) :
    fieldViolation? payload field = fieldViolation? other field := by
  rw [fieldViolation?, fieldViolation?, same]

theorem messages_singleton (payload : Json.Members) (field : Field) :
    messages payload [field] = ((fieldViolation? payload field).map Violation.text).toList := by
  rw [messages_cons]
  exact List.append_nil _

theorem messages_eq_flatMap (payload : Json.Members) (fields : List Field) :
    messages payload fields = fields.flatMap fun field => messages payload [field] := by
  induction fields with
  | nil => rfl
  | cons field fields ih => rw [messages_cons, List.flatMap_cons, messages_singleton, ih]

theorem messages_singleton_eq_nil_iff : messages payload [field] = [] ↔ field.AllowsIn payload := by
  rw [messages_singleton, Option.toList_eq_nil_iff, Option.map_eq_none_iff,
    fieldViolation?_eq_none_iff]

theorem exists_of_not_allowsIn (discontent : ¬ field.AllowsIn payload) :
    ∃ message, messages payload [field] = [message] ∧ Quotes message field.key := by
  rw [← fieldViolation?_eq_none_iff] at discontent
  obtain ⟨violation, found⟩ := Option.ne_none_iff_exists'.1 discontent
  refine ⟨violation.text, ?_, (about_of_fieldViolation? found).quotes⟩
  rw [messages_singleton, found]
  rfl

/-- The messages of missing values under a key are as many as the required fields of that key, if
the key is absent. -/
theorem count_missing (payload : Json.Members) (fields : List Field) (key : String) :
    (messages payload fields).count ("Required field '" ++ key ++ "' is missing") =
      fields.countP fun field =>
        field.required && field.key == key && (payload.get? field.key).isNone := by
  rw [messages, violations, List.count_eq_countP, List.countP_map, List.countP_filterMap]
  refine List.countP_congr fun field _ => ?_
  have missing : fieldViolation? payload field = some (.missing key) ↔ _ :=
    fieldViolation?_eq_missing_iff
  simp only [Bool.and_eq_true, beq_iff_eq, Option.isNone_iff_eq_none, and_assoc, ← missing]
  cases fieldViolation? payload field with
  | none => simp
  | some violation => simp [Violation.text_eq_missing_iff]

/-- What the messages of a payload tell: of each field apart from the others whether it is content,
and if not, one thing about it; in the order of the fields, so that a rearrangement of the fields
rearranges what is told; and nothing of what the payload holds under other keys. -/
structure Complete (payload : Json.Members) : Prop where
  parts (fields : List Field) :
    messages payload fields = fields.flatMap fun field => messages payload [field]
  content_iff (field : Field) : messages payload [field] = [] ↔ field.AllowsIn payload
  single (field : Field) : ¬ field.AllowsIn payload →
    ∃ message, messages payload [field] = [message] ∧ Quotes message field.key
  missing (fields : List Field) (key : String) :
    (messages payload fields).count ("Required field '" ++ key ++ "' is missing") =
      fields.countP fun field =>
        field.required && field.key == key && (payload.get? field.key).isNone
  rearranged (fields : List Field) (places : Equiv.Perm (Fin fields.length)) :
    messages payload (List.ofFn fun i => fields[places i]) =
      (List.ofFn fun i => messages payload [fields[places i]]).flatten
  others (fields : List Field) (other : Json.Members) :
    (∀ field ∈ fields, other.get? field.key = payload.get? field.key) →
      messages other fields = messages payload fields

theorem messages_complete (payload : Json.Members) : Complete payload where
  parts := messages_eq_flatMap payload
  content_iff _ := messages_singleton_eq_nil_iff
  single _ := exists_of_not_allowsIn
  missing := count_missing payload
  rearranged fields places := by
    rw [messages_eq_flatMap, List.flatMap_def, List.map_ofFn]
    rfl
  others fields other same := by
    rw [messages, messages, violations, violations]
    congr 1
    exact List.filterMap_congr fun field member => fieldViolation?_congr (same field member)

theorem messages_complete_repeated :
    let name : Field := (Field.ofType "name" .string).asRequired
    let tags : Field := .arrayOf "tags" .string
    let payload : Json.Members := [("tags", .array [.string "x", .bool true])]
    let wider : Json.Members := [("extra", .null), ("tags", .array [.string "x", .bool true])]
    (∀ field ∈ [name, tags, name], wider.get? field.key = payload.get? field.key) ∧
      messages wider [name, tags, name] = messages payload [name, tags, name] ∧
      (messages payload [name, tags, name]).count ("Required field '" ++ "name" ++ "' is missing") =
        2 ∧
      ∃ message, messages payload [tags] = [message] ∧ Quotes message "tags" := by
  intro name tags payload wider
  have law := messages_complete payload
  have same : ∀ field ∈ [name, tags, name], wider.get? field.key = payload.get? field.key := by
    simp only [List.forall_mem_cons]
    exact ⟨rfl, rfl, rfl, nofun⟩
  have discontent : ¬ tags.AllowsIn payload := by
    rw [← law.content_iff]
    decide
  exact ⟨same, law.others _ _ same, law.missing _ _, law.single tags discontent⟩

end Validation
end VirtualRecords
