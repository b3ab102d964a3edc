import VirtualRecords.Proofs.Schema.Judgement
import VirtualRecords.Schema.Registry

/-! Entities that are registered. Only sound entities enter a registry, so each of them has fields
whose keys are not blank and differ from one another. -/

namespace VirtualRecords

namespace Entity

def fieldFault? (seen : List String) (field : Field) : Option EntityFault :=
  if Text.isBlankString field.key then some .blankKey
  else if field.key ∈ seen then some (.repeatedKey field.key)
  else none

theorem firstFieldFault?_cons (seen : List String) (field : Field) (rest : List Field) :
    firstFieldFault? seen (field :: rest) =
      (fieldFault? seen field).or (firstFieldFault? (field.key :: seen) rest) := by
  rw [firstFieldFault?, fieldFault?]
  split
  · rfl
  · split <;> rfl

theorem fieldFault?_eq_none_iff {seen : List String} {field : Field} :
    fieldFault? seen field = none ↔ Text.isBlankString field.key = false ∧ field.key ∉ seen := by
  rw [fieldFault?]
  split
  · next blank => simp [blank]
  · next solid =>
    split
    · next repeated => simp [repeated]
    · next fresh => simp [solid, fresh]

theorem firstFieldFault?_eq_none_iff {seen : List String} {fields : List Field} :
    firstFieldFault? seen fields = none ↔
      (∀ field ∈ fields, Text.isBlankString field.key = false ∧ field.key ∉ seen) ∧
        (fields.map Field.key).Nodup := by
  induction fields generalizing seen with
  | nil => simp [firstFieldFault?]
  | cons field fields ih =>
    rw [firstFieldFault?_cons, Option.or_eq_none_iff, fieldFault?_eq_none_iff, ih,
      List.forall_mem_cons, List.map_cons, List.nodup_cons]
    constructor
    · rintro ⟨here, each, distinct⟩
      have apart : ∀ other ∈ fields, other.key ≠ field.key ∧ other.key ∉ seen :=
        fun other member => not_or.1 (mt List.mem_cons.2 (each other member).2)
      refine ⟨⟨here, fun other member => ⟨(each other member).1, (apart other member).2⟩⟩, ?_,
        distinct⟩
      rintro repeated
      obtain ⟨other, member, same⟩ := List.mem_map.1 repeated
      exact (apart other member).1 same
    · rintro ⟨⟨here, each⟩, fresh, distinct⟩
      refine ⟨here, fun other member => ⟨(each other member).1, ?_⟩, distinct⟩
      rw [List.mem_cons, not_or]
      exact ⟨fun same => fresh (List.mem_map.2 ⟨other, member, same⟩), (each other member).2⟩

structure WellFormed (entity : Entity) : Prop where
  named : Text.isBlankString entity.name = false
  keyed (field : Field) : field ∈ entity.fields → Text.isBlankString field.key = false
  distinct : (entity.fields.map Field.key).Nodup

theorem fault?_eq_none_iff {entity : Entity} : entity.fault? = none ↔ entity.WellFormed := by
  rw [fault?]
  constructor
  · intro clear
    split at clear
    · cases clear
    · next named =>
      obtain ⟨each, distinct⟩ := firstFieldFault?_eq_none_iff.1 clear
      exact ⟨Bool.eq_false_iff.2 named, fun field member => (each field member).1, distinct⟩
  · rintro ⟨named, keyed, distinct⟩
    rw [named, if_neg Bool.false_ne_true, firstFieldFault?_eq_none_iff]
    exact ⟨fun field member => ⟨keyed field member, List.not_mem_nil⟩, distinct⟩

theorem structure?_eq_none_iff {entity : Entity} :
    entity.structure? = none ↔ entity.WellFormed := by
  rw [structure?, Option.map_eq_none_iff, fault?_eq_none_iff]

end Entity

namespace Registry

inductive Built : Registry → Prop where
  | empty : Built .empty
  | register {registry changed : Registry} {place : String} {entity : Entity} : Built registry →
      registerFrom place registry entity = .ok changed → Built changed

theorem registerFrom_eq_ok {registry changed : Registry} {place : String} {entity : Entity} :
    registerFrom place registry entity = .ok changed ↔
      entity.WellFormed ∧ registry.holds entity.id = false ∧
        changed = ⟨registry.entities ++ [entity]⟩ := by
  rw [registerFrom, ← Entity.fault?_eq_none_iff, Entity.structure?]
  cases entity.fault? with
  | some fault => simp
  | none =>
    cases registry.holds entity.id with
    | true => simp
    | false => simp [eq_comm]

theorem Built.wellFormed {registry : Registry} (built : registry.Built) :
    ∀ entity ∈ registry.entities, entity.WellFormed := by
  induction built with
  | empty => nofun
  | register _ entered ih =>
    obtain ⟨sound, -, rfl⟩ := registerFrom_eq_ok.1 entered
    intro entity member
    rcases List.mem_append.1 member with old | new
    · exact ih entity old
    · rwa [List.mem_singleton.1 new]

theorem Built.wellFormed_of_entity? {registry : Registry} (built : registry.Built)
    {id : Identifier} {entity : Entity} (known : registry.entity? id = some entity) :
    entity.WellFormed :=
  built.wellFormed entity (List.mem_of_find?_eq_some known)

end Registry

end VirtualRecords
