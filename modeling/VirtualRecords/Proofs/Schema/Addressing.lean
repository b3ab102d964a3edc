import VirtualRecords.Proofs.Criteria.Answers
import VirtualRecords.Proofs.Schema.Feedback
import VirtualRecords.Proofs.Schema.Registration
import VirtualRecords.RecordOrder

/-! Where a field is checked and where it is read. A payload is judged by the member that has the
key for its name, while conditions and orders follow the path that the key spells, one object deeper
at each full stop. A registered key is not blank but may have full stops, and the two places are one
for every payload exactly if it has none. -/

namespace VirtualRecords

namespace FieldPath

theorem exists_eq_append_of_dotted {field : String} (dotted : '.' ∈ field.toList) :
    ∃ owner rest : String, '.' ∉ owner.toList ∧ field = owner ++ "." ++ rest := by
  obtain ⟨owner, rest, split, plain⟩ := List.eq_append_cons_of_mem dotted
  refine ⟨String.ofList owner, String.ofList rest, by rwa [String.toList_ofList], ?_⟩
  simp [← String.toList_inj, split]

theorem find?_ofField_singleton {field : String} (dotted : '.' ∈ field.toList) (value : Json) :
    (ofField field).find? [(field, value)] = none := by
  obtain ⟨owner, rest, plain, rfl⟩ := exists_eq_append_of_dotted dotted
  have shorter : owner ≠ owner ++ "." ++ rest := by
    intro same
    have lengths := congrArg (fun name => name.toList.length) same
    simp at lengths
  have absent : Json.Members.get? [(owner ++ "." ++ rest, value)] owner = none := by
    rw [Json.Members.get?, List.lookup_cons, beq_false_of_ne shorter]
    rfl
  rw [find?_ofField_append plain, absent]
  rfl

theorem find?_ofField_eq_get?_iff (field : String) :
    (∀ payload, (ofField field).find? payload = payload.get? field) ↔ '.' ∉ field.toList := by
  constructor
  · intro same dotted
    have held : Json.Members.get? [(field, .null)] field = some .null := List.lookup_cons_self
    have read := same [(field, .null)]
    rw [find?_ofField_singleton dotted, held] at read
    cases read
  · exact fun plain payload => find?_ofField plain payload

end FieldPath

/-- A field is checked at the member that its key names, and filtered and sorted by where its key
leads. These are one place for all payloads if the key has no full stop; a key that has one leads
into the object under what stands before it. -/
structure Field.Addresses (field : Field) : Prop where
  checked (payload other : Json.Members) : payload.get? field.key = other.get? field.key →
    Validation.fieldViolation? payload field = Validation.fieldViolation? other field
  filtered (compiler : Compiler) (op : Operator) (literal : Json) (test : Test) (record : Record) :
    compiler.test (.ofOperator field.key op literal) op = .ok test →
      compiler.Answers (.ofOperator field.key op literal) record
        (test.holds ((FieldPath.ofField field.key).find? record.payload))
  sorted (a b : Record) : FieldOrder.order ⟨.ofField field.key, .ascending⟩ a b =
    Json.optionOrder ((FieldPath.ofField field.key).find? a.payload)
      ((FieldPath.ofField field.key).find? b.payload)
  same_iff : (∀ payload, (FieldPath.ofField field.key).find? payload = payload.get? field.key) ↔
    '.' ∉ field.key.toList
  nested (owner rest : String) (payload : Json.Members) : field.key = owner ++ "." ++ rest →
    '.' ∉ owner.toList → (FieldPath.ofField field.key).find? payload =
      ((payload.get? owner).bind Json.asObject?).bind (FieldPath.ofField rest).find?

theorem Registry.addresses_of_registered {registry changed : Registry} {place : String}
    {entity : Entity} {field : Field}
    (registered : registerFrom place registry entity = .ok changed)
    (declared : field ∈ entity.fields) : field.Addresses where
  checked _ _ := Validation.fieldViolation?_congr
  filtered _ _ _ _ record tested :=
    have sound := (registerFrom_eq_ok.1 registered).1
    Compiler.answers_of_holds (sound.keyed field declared) tested record
  sorted _ _ := rfl
  same_iff := FieldPath.find?_ofField_eq_get?_iff field.key
  nested owner rest payload whole plain := by
    rw [whole]
    exact FieldPath.find?_ofField_append plain rest payload

namespace Registry

theorem addresses_of_registered_city :
    let street : Field := .ofType "address.street" .string
    let city : Field := .ofType "city" .string
    let person : Entity := ⟨⟨7⟩, "Person", none, [street, city]⟩
    let payload : Json.Members :=
      [("address", .object [("street", .string "Elm")]), ("city", .string "Oslo")]
    ((∃ changed, registerFrom inMemory .empty person = .ok changed) ∧
      street ∈ person.fields ∧ city ∈ person.fields) ∧
      (FieldPath.ofField city.key).find? payload = payload.get? city.key ∧
      (FieldPath.ofField street.key).find? payload = some (.string "Elm") := by
  intro street city person payload
  have sound : person.WellFormed := Entity.fault?_eq_none_iff.1 (by decide)
  have registered : registerFrom inMemory .empty person = .ok ⟨[person]⟩ :=
    registerFrom_eq_ok.2 ⟨sound, rfl, rfl⟩
  have ofStreet : street ∈ person.fields := List.mem_cons_self
  have ofCity : city ∈ person.fields := List.mem_cons_of_mem _ List.mem_cons_self
  refine ⟨⟨⟨_, registered⟩, ofStreet, ofCity⟩, ?_, ?_⟩
  · exact (addresses_of_registered registered ofCity).same_iff.2 (by decide) payload
  · rw [(addresses_of_registered registered ofStreet).nested "address" "street" payload (by decide)
      (by decide)]
    rfl

/-- A registered key with a full stop: what is checked under it is not what is read under it. -/
theorem checked_unread :
    let street : Field := .ofType "address.street" .string
    let person : Entity := ⟨⟨7⟩, "Person", none, [street]⟩
    let payload : Json.Members := [("address.street", .string "Elm")]
    (∃ changed, registerFrom inMemory .empty person = .ok changed) ∧ street ∈ person.fields ∧
      payload.get? street.key = some (.string "Elm") ∧
      (FieldPath.ofField street.key).find? payload = none := by
  intro street person payload
  have sound : person.WellFormed := Entity.fault?_eq_none_iff.1 (by decide)
  have registered : registerFrom inMemory .empty person = .ok ⟨[person]⟩ :=
    registerFrom_eq_ok.2 ⟨sound, rfl, rfl⟩
  exact ⟨⟨_, registered⟩, List.mem_cons_self, rfl, FieldPath.find?_ofField_singleton (by decide) _⟩

end Registry

end VirtualRecords
