import VirtualRecords.Proofs.Schema.Judgement
import VirtualRecords.Proofs.Service.Run

/-! What a store can come to hold. A payload enters only by way of a judgement, and a new payload
of a record is judged by the entity that the record has, so every record that a run leaves
behind is of a known entity and valid by its fields. -/

namespace VirtualRecords

/-- The record is of a known entity, and no field of that entity finds fault with it. -/
def Registry.Admits (registry : Registry) (record : Record) : Prop :=
  ∃ entity, registry.entity? record.entity = some entity ∧
    Validation.messages record.payload entity.fields = []

/-- Every record is found under its own identifier and nowhere else, and is valid by the fields of
its entity, in the order of declaration as in that of display; required values are all there. -/
structure Store.Valid (registry : Registry) (store : Store) : Prop where
  named (id : Identifier) (record : Record) : store.get? id = some record → record.id = id
  found (record : Record) : record ∈ store.records → store.get? record.id = some record
  judged (record : Record) : record ∈ store.records →
    ∃ entity, registry.entity? record.entity = some entity ∧
      Validation.messages record.payload entity.fields = [] ∧
      Validation.messages record.payload entity.orderedFields = []
  complete (record : Record) (entity : Entity) (field : Field) : record ∈ store.records →
    registry.entity? record.entity = some entity → field ∈ entity.fields → field.required = true →
      ∃ value type, record.payload.get? field.key = some value ∧ value.isNull = false ∧
        field.type? = some type ∧ type.conforms value = true

theorem Store.valid_of_admits {registry : Registry} {store : Store}
    (admitted : ∀ record ∈ store.records, registry.Admits record) : store.Valid registry where
  named id record held := (get?_eq_some_iff.1 held).2
  found record member := get?_id member
  judged record member := by
    obtain ⟨entity, known, clear⟩ := admitted record member
    have displayed := (Validation.messages_eq_nil_of_perm entity.orderedFields_perm).2 clear
    exact ⟨entity, known, clear, displayed⟩
  complete record entity field member known declared required := by
    obtain ⟨other, knownToo, clear⟩ := admitted record member
    obtain rfl : entity = other := Option.some.inj (known.symm.trans knownToo)
    have faultless := Validation.messages_eq_nil_iff.1 clear field declared
    exact Validation.exists_of_required required faultless

namespace Service

variable {service : Service} {call : Call} {id : Identifier} {payload : Json}
  {members : Json.Members}

theorem fields_eq_ok {fields : List Field} :
    service.fields id = .ok fields ↔
      ∃ entity, service.registry.entity? id = some entity ∧ fields = entity.orderedFields := by
  rw [Service.fields, Outcome.mapError_eq_ok, Registry.fieldsOf]
  cases service.registry.entity? id with
  | none => simp
  | some entity => simp [eq_comm]

theorem accept_eq_ok :
    service.accept id payload = .ok members ↔ payload = .object members ∧
      ∃ entity, service.registry.entity? id = some entity ∧
        Validation.messages members entity.fields = [] := by
  rw [accept, Outcome.bind_eq_ok]
  constructor
  · rintro ⟨fields, asked, accepted⟩
    obtain ⟨entity, known, rfl⟩ := fields_eq_ok.1 asked
    obtain ⟨held, isObject, accepted⟩ := Outcome.bind_eq_ok.1 accepted
    rw [Outcome.mapError_eq_ok, Validation.asPayload_eq_ok] at isObject
    split at accepted
    · cases accepted
    · next none =>
      cases accepted
      have clear := Rejection.ofMessages?_eq_none_iff.1 none
      exact ⟨isObject, entity, known,
        (Validation.messages_eq_nil_of_perm entity.orderedFields_perm).1 clear⟩
  · rintro ⟨rfl, entity, known, clear⟩
    refine ⟨entity.orderedFields, fields_eq_ok.2 ⟨entity, known, rfl⟩, ?_⟩
    refine Outcome.bind_eq_ok.2 ⟨members, rfl, ?_⟩
    rw [(Validation.messages_eq_nil_of_perm entity.orderedFields_perm).2 clear]
    rfl

theorem admits_of_accept {record : Record}
    (accepted : service.accept record.entity payload = .ok record.payload) :
    service.registry.Admits record :=
  (accept_eq_ok.1 accepted).2

theorem admits_afterCall
    (admitted : ∀ record ∈ service.store.records, service.registry.Admits record) :
    ∀ record ∈ (service.afterCall call).store.records, service.registry.Admits record := by
  have left := service.afterCall_leaves call
  generalize (service.afterCall call).store = store at left ⊢
  intro record member
  cases left with
  | same => exact admitted record member
  | created _ accepted _ =>
    rcases Store.mem_add.1 member with old | rfl
    · exact admitted record old
    · exact admits_of_accept accepted
  | @updated _ held members _ present accepted =>
    have same : (held.replacePayload members call.now).id = held.id := rfl
    rcases (Store.mem_replace present same).1 member with rfl | ⟨old, -⟩
    · exact admits_of_accept accepted
    · exact admitted record old
  | deleted => exact admitted record (Store.mem_erase.1 member).1
  | cleared => exact admitted record (Store.mem_eraseEntity.1 member).1

theorem admits_run (calls : List Call) (service : Service)
    (admitted : ∀ record ∈ service.store.records, service.registry.Admits record) :
    ∀ record ∈ (service.run calls).store.records, service.registry.Admits record := by
  rw [← service.run_registry calls]
  refine run_induction (motive := fun s => ∀ record ∈ s.store.records, s.registry.Admits record) ?_
    calls service admitted
  intro s call before
  rw [s.afterCall_registry call]
  exact admits_afterCall before

/-- Whatever is asked of a service that starts without records, its records are valid. -/
theorem run_valid (registry : Registry) (maxPageSize : UInt64) (calls : List Call) :
    (run ⟨registry, .empty, maxPageSize⟩ calls).store.Valid registry := by
  refine Store.valid_of_admits (admits_run calls ⟨registry, .empty, maxPageSize⟩ ?_)
  intro record member
  cases member

end Service
end VirtualRecords
