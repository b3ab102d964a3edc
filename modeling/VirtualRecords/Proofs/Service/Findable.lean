import VirtualRecords.Proofs.Criteria.Answers
import VirtualRecords.Proofs.Criteria.Canonical
import VirtualRecords.Proofs.Schema.Acceptance
import VirtualRecords.Proofs.Schema.Registration
import VirtualRecords.Proofs.Service.Validity

/-! Finding a record by a value that it was made with. The value was accepted because it conforms to
the type of its field, so it has a form in that type and equals it; and a key without a full stop
leads to the value itself. A condition that names the value therefore holds of the record, and
its opposite does not, whatever the type and however the value is spelled. -/

namespace VirtualRecords

namespace Service

variable {service changed : Service} {id : Identifier} {entity : Entity} {payload : Json}
  {now : Instant} {record : Record} {field : Field} {value : Json}

theorem exists_type_of_create
    (created : service.create id entity.id payload now = .ok (changed, record))
    (known : service.registry.entity? entity.id = some entity) (declared : field ∈ entity.fields)
    (given : payload.member? field.key = some value) (notNull : value.isNull = false) :
    record.entity = entity.id ∧ record.payload.get? field.key = some value ∧
      ∃ type, field.type? = some type ∧ type.conforms value = true := by
  obtain ⟨members, accepted, rfl, -, -⟩ := create_eq_ok.1 created
  obtain ⟨rfl, other, knownToo, clear⟩ := accept_eq_ok.1 accepted
  obtain rfl := Option.some.inj (known.symm.trans knownToo)
  have held : members.get? field.key = some value := given
  have content := Validation.messages_eq_nil_iff.1 clear field declared
  have allows := (Validation.fieldViolation?_eq_none_iff.1 content).allowed value held notNull
  exact ⟨rfl, held, allows.typed⟩

/-- A record is found by each value that it was made with under a declared key without a full stop:
equality and membership in the list of that value hold of it, and their opposites do not. The
fields may be given in any order. -/
theorem created_found (built : service.registry.Built)
    (known : service.registry.entity? entity.id = some entity)
    (created : service.create id entity.id payload now = .ok (changed, record))
    (declared : field ∈ entity.fields) (plain : '.' ∉ field.key.toList)
    (given : payload.member? field.key = some value) (notNull : value.isNull = false)
    {fields : List Field} (ordered : fields.Perm entity.fields) :
    record.entity = entity.id ∧
      (Compiler.ofFields fields).Answers (.ofOperator field.key .eq value) record true ∧
      (Compiler.ofFields fields).Answers (.ofOperator field.key .isIn (.array [value])) record true ∧
      (Compiler.ofFields fields).Answers (.ofOperator field.key .neq value) record false ∧
      (Compiler.ofFields fields).Answers (.ofOperator field.key .notIn (.array [value])) record
        false := by
  obtain ⟨owned, found, type, typed, conforming⟩ :=
    exists_type_of_create created known declared given notNull
  have sound := built.wellFormed_of_entity? known
  have distinct : (fields.map Field.key).Nodup := (ordered.map Field.key).nodup_iff.2 sound.distinct
  have named := sound.keyed field declared
  have typed := Compiler.type?_ofFields distinct (ordered.mem_iff.2 declared) typed
  obtain ⟨made, formed, same⟩ := FieldType.exists_coerce?_equals conforming
  have accepted := Compiler.coerce_eq_ok typed notNull formed
  have filled := FieldType.isNull_of_coerce? formed
  have found := (FieldPath.find?_ofField plain record.payload).trans found
  exact ⟨owned, Compiler.answers_of_form named found notNull accepted filled same⟩

theorem created_found_spelledAge :
    let age : Field := .ofType "age" .integer
    let person : Entity := ⟨⟨7⟩, "Person", none, [age]⟩
    let service : Service := .ofRegistry ⟨[person]⟩
    let record : Record := .make ⟨1⟩ person.id [("age", .string "+18")] ⟨5, 0⟩
    (∃ changed, service.create ⟨1⟩ person.id (.object record.payload) ⟨5, 0⟩ = .ok (changed, record)) ∧
      (Compiler.ofFields [age]).Answers (.ofOperator "age" .eq (.string "+18")) record true ∧
      (Compiler.ofFields [age]).Answers (.ofOperator "age" .neq (.string "+18")) record false := by
  intro age person service record
  have fresh : service.store.holds record.id = false := rfl
  have clear : Validation.messages record.payload person.fields = [] := by decide
  have created : service.create ⟨1⟩ person.id (.object record.payload) ⟨5, 0⟩ =
      .ok (service.withStore (service.store.add record fresh), record) :=
    create_eq_ok.2 ⟨_, accept_eq_ok.2 ⟨rfl, person, rfl, clear⟩, rfl, fresh, rfl⟩
  have sound : person.WellFormed := Entity.fault?_eq_none_iff.1 (by decide)
  have entered : Registry.registerFrom Registry.inMemory .empty person = .ok service.registry :=
    Registry.registerFrom_eq_ok.2 ⟨sound, rfl, rfl⟩
  have declared : age ∈ person.fields := List.mem_cons_self
  obtain ⟨-, equal, -, unequal, -⟩ := created_found (.register .empty entered) rfl created declared
    (by decide) rfl rfl (List.Perm.refl _)
  exact ⟨⟨_, created⟩, equal, unequal⟩

end Service
end VirtualRecords
