import VirtualRecords.Proofs.Criteria.Faults
import VirtualRecords.Proofs.Service.Plans
import VirtualRecords.Proofs.Service.Validity

/-! How operations end. A payload is refused because its entity is unknown, else because it is no
object, else with everything that the fields of the entity say against it; only then is anything
written, and no more than one record. An operation that fails leaves the service as it was, and
every failure is the caller's as long as new identifiers are new. -/

namespace VirtualRecords

/-- Why a payload is refused for an entity. Each reason stands only where the ones before it do not,
and the last comes with all violations in the order in which the fields are shown. -/
inductive Registry.Refuses (registry : Registry) (id : Identifier) (payload : Json) :
    ServiceError → Prop where
  | unknownEntity : registry.entity? id = none →
      Refuses registry id payload (.notFound ("Entity with ID " ++ id.text ++ " not found"))
  | noObject {entity : Entity} : registry.entity? id = some entity →
      (∀ members, payload ≠ .object members) →
      Refuses registry id payload
        (.malformedPayload ("Record payload must be an object, got " ++ payload.typeName))
  | invalid {entity : Entity} {members : Json.Members} {rejection : Rejection} :
      registry.entity? id = some entity → payload = .object members →
      rejection.messages = Validation.messages members entity.orderedFields →
      Refuses registry id payload (.validation rejection)

inductive Service.RefusesUpdate (service : Service) (id : Identifier) (payload : Json) :
    ServiceError → Prop where
  | missing : service.store.get? id = none →
      RefusesUpdate service id payload (.notFound ("Record with ID " ++ id.text ++ " not found"))
  | refused {held : Record} {e : ServiceError} : service.store.get? id = some held →
      service.registry.Refuses held.entity payload e → RefusesUpdate service id payload e

inductive Operation.Asks : Operation → Query → Prop where
  | execute (query : Query) : Asks (.execute query) query
  | count (query : Query) : Asks (.count query) query
  | prepare (query : Query) : Asks (.prepare query) query

def Operation.writes : Operation → Bool
  | create _ _ | update _ _ | delete _ | deleteByEntity _ => true
  | _ => false

namespace Service

/-- How the operations of a service end when they are performed with this new identifier at this
time: the error that each fails with, if it fails, and else what it has done. -/
structure Classified (service : Service) (fresh : Identifier) (now : Instant) : Prop where
  create_fails (entity : Identifier) (payload : Json) (e : ServiceError) :
    (service.perform (.create entity payload) fresh now).2 = .error e ↔
      service.registry.Refuses entity payload e
  create_stores (entity : Identifier) (payload : Json) (answer : Answer) :
    (service.perform (.create entity payload) fresh now).2 = .ok answer →
      ∃ members, payload = .object members ∧
        answer = .record (.make fresh entity members now) ∧
        (service.perform (.create entity payload) fresh now).1.store.records =
          service.store.records ++ [.make fresh entity members now]
  update_fails (id : Identifier) (payload : Json) (e : ServiceError) :
    (service.perform (.update id payload) fresh now).2 = .error e ↔
      service.RefusesUpdate id payload e
  update_replaces (id : Identifier) (payload : Json) (answer : Answer) :
    (service.perform (.update id payload) fresh now).2 = .ok answer →
      ∃ held members, service.store.get? id = some held ∧ payload = .object members ∧
        answer = .record { held with payload := members, updated := now } ∧
        (service.perform (.update id payload) fresh now).1.store.records =
          service.store.records.map fun record =>
            if record.id = id then { record with payload := members, updated := now } else record
  delete_fails (id : Identifier) (e : ServiceError) :
    (service.perform (.delete id) fresh now).2 = .error e ↔
      service.store.get? id = none ∧ e = .notFound ("Record with ID " ++ id.text ++ " not found")
  query_notFound (operation : Operation) (query : Query) : operation.Asks query →
    ((∃ what, (service.perform operation fresh now).2 = .error (.notFound what)) ↔
      service.registry.entity? query.entity = none)
  query_fails (operation : Operation) (query : Query) (entity : Entity) (e : ServiceError) :
    operation.Asks query → service.registry.entity? query.entity = some entity →
      (service.perform operation fresh now).2 = .error e → ∃ fault, e = .queryBuild fault
  failure_unchanged (operation : Operation) (e : ServiceError) :
    (service.perform operation fresh now).2 = .error e →
      (service.perform operation fresh now).1 = service
  reading_unchanged (operation : Operation) : operation.writes = false →
    (service.perform operation fresh now).1 = service
  never_server (operation : Operation) (e : ServiceError) :
    (service.perform operation fresh now).2 = .error e → e.status < 500

variable {service : Service} {id fresh : Identifier} {payload : Json} {now : Instant}
  {query : Query} {operation : Operation} {e : ServiceError}

theorem fields_of_known {entity : Entity} (known : service.registry.entity? id = some entity) :
    service.fields id = .ok entity.orderedFields :=
  fields_eq_ok.2 ⟨entity, known, rfl⟩

theorem fields_of_unknown (unknown : service.registry.entity? id = none) :
    service.fields id = .error (.notFound ("Entity with ID " ++ id.text ++ " not found")) := by
  rw [fields, Registry.fieldsOf, unknown]
  rfl

theorem accept_object {entity : Entity} (known : service.registry.entity? id = some entity)
    (members : Json.Members) :
    service.accept id (.object members) =
      match Rejection.ofMessages? (Validation.messages members entity.orderedFields) with
      | some rejection => .error (.validation rejection)
      | none => .ok members := by
  rw [accept, fields_of_known known]
  rfl

theorem accept_noObject {entity : Entity} (known : service.registry.entity? id = some entity)
    (other : ∀ members, payload ≠ .object members) :
    service.accept id payload =
      .error (.malformedPayload ("Record payload must be an object, got " ++ payload.typeName)) := by
  rw [accept, fields_of_known known]
  cases payload with
  | object members => exact absurd rfl (other members)
  | _ => rfl

theorem accept_eq_error :
    service.accept id payload = .error e ↔ service.registry.Refuses id payload e := by
  constructor
  · intro failed
    cases known : service.registry.entity? id with
    | none =>
      rw [accept, fields_of_unknown known] at failed
      cases failed
      exact .unknownEntity known
    | some entity =>
      by_cases isObject : ∃ members, payload = .object members
      · obtain ⟨members, rfl⟩ := isObject
        rw [accept_object known] at failed
        split at failed
        · next rejection found =>
          cases failed
          exact .invalid known rfl (Rejection.ofMessages?_eq_some_iff.1 found)
        · cases failed
      · have other : ∀ members, payload ≠ .object members := not_exists.1 isObject
        rw [accept_noObject known other] at failed
        cases failed
        exact .noObject known other
  · intro refused
    cases refused with
    | unknownEntity unknown =>
      rw [accept, fields_of_unknown unknown]
      rfl
    | noObject known other => exact accept_noObject known other
    | invalid known isObject same =>
      rw [isObject, accept_object known, Rejection.ofMessages?_eq_some_iff.2 same]

theorem status_lt_of_refuses {registry : Registry} (refused : registry.Refuses id payload e) :
    e.status < 500 := by
  cases refused <;> simp [ServiceError.status]

theorem missingRecord_eq (id : Identifier) :
    missingRecord id = .notFound ("Record with ID " ++ id.text ++ " not found") := rfl

theorem get_eq_error :
    service.get id = .error e ↔
      service.store.get? id = none ∧ e = .notFound ("Record with ID " ++ id.text ++ " not found") := by
  rw [get]
  cases service.store.get? id with
  | none => simp [missingRecord_eq, eq_comm]
  | some record => simp

theorem create_eq_error (unused : service.store.holds fresh = false) :
    service.create fresh id payload now = .error e ↔ service.registry.Refuses id payload e := by
  rw [← accept_eq_error]
  cases accepted : service.accept id payload with
  | error d =>
    simp [create, accepted, bind, Except.bind]
  | ok members =>
    have done : service.create fresh id payload now = .ok (_, .make fresh id members now) :=
      create_eq_ok.2 ⟨members, accepted, rfl, unused, rfl⟩
    simp [done]

theorem update_eq_error :
    service.update id payload now = .error e ↔ service.RefusesUpdate id payload e := by
  constructor
  · intro failed
    obtain absent | ⟨held, found, failed⟩ := Outcome.bind_eq_error.1 failed
    · obtain ⟨none, rfl⟩ := get_eq_error.1 absent
      exact .missing none
    · obtain ⟨member, named⟩ := get_eq_ok.1 found
      have present : service.store.get? id = some held := Store.get?_eq_some_iff.2 ⟨member, named⟩
      cases accepted : service.accept held.entity payload with
      | error d =>
        rw [accepted] at failed
        cases failed
        exact .refused present (accept_eq_error.1 accepted)
      | ok members =>
        have done : service.update id payload now = .ok (_, held.replacePayload members now) :=
          update_eq_ok.2 ⟨held, members, member, named, accepted, rfl, rfl⟩
        rw [update, found] at done
        cases failed.symm.trans done
  · intro refused
    cases refused with
    | missing absent => exact Outcome.bind_eq_error.2 (.inl (get_eq_error.2 ⟨absent, rfl⟩))
    | refused present refused =>
      have found := get_eq_ok.2 (Store.get?_eq_some_iff.1 present)
      refine Outcome.bind_eq_error.2 (.inr ⟨_, found, ?_⟩)
      exact Outcome.bind_eq_error.2 (.inl (accept_eq_error.2 refused))

theorem status_lt_of_refusesUpdate (refused : service.RefusesUpdate id payload e) :
    e.status < 500 := by
  cases refused with
  | missing => simp [ServiceError.status]
  | refused _ refused => exact status_lt_of_refuses refused

theorem delete_eq_error :
    service.delete id = .error e ↔
      service.store.get? id = none ∧ e = .notFound ("Record with ID " ++ id.text ++ " not found") := by
  rw [delete, Store.holds]
  cases service.store.get? id with
  | none => simp [missingRecord_eq, eq_comm]
  | some record => simp

theorem compiler_of_known {entity : Entity} (known : service.registry.entity? id = some entity) :
    service.compiler id = .ok (.ofFields entity.orderedFields) := by
  rw [compiler, fields_of_known known]
  rfl

theorem compiler_of_unknown (unknown : service.registry.entity? id = none) :
    service.compiler id = .error (.notFound ("Entity with ID " ++ id.text ++ " not found")) := by
  rw [compiler, fields_of_unknown unknown]
  rfl

/-- The errors of a request that looks for an entity and then makes something out of a query. -/
def Declines (service : Service) (id : Identifier) (e : ServiceError) : Prop :=
  match service.registry.entity? id with
  | none => e = .notFound ("Entity with ID " ++ id.text ++ " not found")
  | some _ => ∃ fault, e = .queryBuild fault

theorem status_lt_of_declines (declined : service.Declines id e) : e.status < 500 := by
  unfold Declines at declined
  split at declined
  · simp [declined, ServiceError.status]
  · obtain ⟨fault, rfl⟩ := declined
    simp [ServiceError.status]

theorem exists_of_ofQuery {α : Type} {made : Except QueryError α} (own : ClientFaulted made)
    (failed : made.mapError .ofQuery = .error e) : ∃ fault, e = .queryBuild fault := by
  obtain ⟨fault, made, rfl⟩ := Outcome.mapError_eq_error.1 failed
  have client := own fault made
  rw [QueryError.isClientError, Bool.not_eq_true'] at client
  exact ⟨fault, by rw [ServiceError.ofQuery, client, if_neg Bool.false_ne_true]⟩

theorem declines_of_compiler {α : Type} {make : Compiler → Except ServiceError α}
    (own : ∀ compiler, make compiler = .error e → ∃ fault, e = .queryBuild fault)
    (failed : service.compiler id >>= make = .error e) : service.Declines id e := by
  unfold Declines
  split
  · next unknown =>
    rw [compiler_of_unknown unknown] at failed
    cases failed
    rfl
  · next entity known =>
    rw [compiler_of_known known] at failed
    exact own _ failed

theorem declines_of_prepare (failed : service.prepare query = .error e) :
    service.Declines query.entity e :=
  declines_of_compiler
    (fun compiler => exists_of_ofQuery (Query.clientFaulted_plan _ compiler)) failed

theorem execute_eq_error : service.execute query = .error e ↔ service.prepare query = .error e :=
  Outcome.bind_pure_eq_error

theorem declines_of_count (failed : service.count query = .error e) :
    service.Declines query.entity e := by
  refine declines_of_compiler (fun compiler failed => ?_) failed
  exact exists_of_ofQuery (Query.clientFaulted_criteria _ compiler)
    (Outcome.bind_pure_eq_error.1 failed)

theorem declines_of_compile {group : Group} (failed : service.compile group id = .error e) :
    service.Declines id e :=
  declines_of_compiler
    (fun compiler => exists_of_ofQuery (compiler.clientFaulted_compile group id)) failed

theorem prepare_of_unknown (unknown : service.registry.entity? query.entity = none) :
    service.prepare query =
      .error (.notFound ("Entity with ID " ++ query.entity.text ++ " not found")) := by
  rw [prepare, compiler_of_unknown unknown]
  rfl

theorem count_of_unknown (unknown : service.registry.entity? query.entity = none) :
    service.count query =
      .error (.notFound ("Entity with ID " ++ query.entity.text ++ " not found")) := by
  rw [count, compiler_of_unknown unknown]
  rfl

theorem recordsByEntity_eq_error {number size : UInt64}
    (failed : service.recordsByEntity id number size = .error e) : e = .queryBuild .zeroPageSize := by
  unfold recordsByEntity at failed
  split at failed
  · cases failed
    rfl
  · cases failed

theorem status_lt_of_executeNamed {name text : String} {number size : UInt64}
    (failed : service.executeNamed name text number size = .error e) : e.status < 500 := by
  unfold executeNamed at failed
  split at failed
  · cases failed
    simp [ServiceError.ofSchema, ServiceError.status]
  · exact status_lt_of_declines (declines_of_prepare (execute_eq_error.1 failed))

theorem after_eq_error {α : Type} {result : Except ServiceError (Service × α)}
    {answer : α → Answer} : (service.after result answer).2 = .error e ↔ result = .error e := by
  cases result <;> simp [after]

theorem after_unchanged {α : Type} {result : Except ServiceError (Service × α)}
    {answer : α → Answer} (failed : (service.after result answer).2 = .error e) :
    (service.after result answer).1 = service := by
  rw [after_eq_error.1 failed, after]

theorem declines_of_asks (asks : operation.Asks query)
    (failed : (service.perform operation fresh now).2 = .error e) :
    service.Declines query.entity e := by
  cases asks with
  | execute => exact declines_of_prepare (execute_eq_error.1 (Outcome.map_eq_error.1 failed))
  | count => exact declines_of_count (Outcome.map_eq_error.1 failed)
  | prepare => exact declines_of_prepare (Outcome.map_eq_error.1 failed)

theorem asks_of_unknown (asks : operation.Asks query)
    (unknown : service.registry.entity? query.entity = none) :
    (service.perform operation fresh now).2 =
      .error (.notFound ("Entity with ID " ++ query.entity.text ++ " not found")) := by
  cases asks with
  | execute =>
    exact Outcome.map_eq_error.2 (execute_eq_error.2 (prepare_of_unknown unknown))
  | count => exact Outcome.map_eq_error.2 (count_of_unknown unknown)
  | prepare => exact Outcome.map_eq_error.2 (prepare_of_unknown unknown)

theorem perform_create_eq_ok {entity : Identifier} {answer : Answer}
    (done : (service.perform (.create entity payload) fresh now).2 = .ok answer) :
    ∃ members, payload = .object members ∧ answer = .record (.make fresh entity members now) ∧
      (service.perform (.create entity payload) fresh now).1.store.records =
        service.store.records ++ [.make fresh entity members now] := by
  cases made : service.create fresh entity payload now with
  | error d => simp [perform, after, made] at done
  | ok result =>
    obtain ⟨changed, record⟩ := result
    obtain ⟨members, accepted, rfl, unused, rfl⟩ := create_eq_ok.1 made
    simp only [perform, after, made, Except.ok.injEq] at done ⊢
    exact ⟨members, (accept_eq_ok.1 accepted).1, done.symm, rfl⟩

theorem perform_update_eq_ok {answer : Answer}
    (done : (service.perform (.update id payload) fresh now).2 = .ok answer) :
    ∃ held members, service.store.get? id = some held ∧ payload = .object members ∧
      answer = .record { held with payload := members, updated := now } ∧
      (service.perform (.update id payload) fresh now).1.store.records =
        service.store.records.map fun record =>
          if record.id = id then { record with payload := members, updated := now } else record := by
  cases made : service.update id payload now with
  | error d => simp [perform, after, made] at done
  | ok result =>
    obtain ⟨changed, record⟩ := result
    obtain ⟨held, members, member, rfl, accepted, rfl, rfl⟩ := update_eq_ok.1 made
    simp only [perform, after, made, Except.ok.injEq] at done ⊢
    refine ⟨held, members, Store.get?_id member, (accept_eq_ok.1 accepted).1, done.symm, ?_⟩
    refine List.map_congr_left fun record present => ?_
    by_cases named : record.id = held.id
    · obtain rfl := Store.eq_of_id present member named
      simp [Store.replaceIn, Record.replacePayload]
    · simp [Store.replaceIn, Record.replacePayload, named]

theorem status_lt_of_perform (unused : service.store.holds fresh = false)
    (failed : (service.perform operation fresh now).2 = .error e) : e.status < 500 := by
  cases operation with
  | create entity payload =>
    exact status_lt_of_refuses ((create_eq_error unused).1 (after_eq_error.1 failed))
  | update id payload =>
    exact status_lt_of_refusesUpdate (update_eq_error.1 (after_eq_error.1 failed))
  | get id =>
    obtain ⟨-, rfl⟩ := get_eq_error.1 (Outcome.map_eq_error.1 failed)
    simp [ServiceError.status]
  | delete id =>
    obtain ⟨-, rfl⟩ := delete_eq_error.1 (Outcome.map_eq_error.1 (after_eq_error.1 failed))
    simp [ServiceError.status]
  | deleteByEntity entity => cases failed
  | recordsByEntity entity page size =>
    have zero := recordsByEntity_eq_error (Outcome.map_eq_error.1 failed)
    simp [zero, ServiceError.status]
  | execute query => exact status_lt_of_declines (declines_of_asks (.execute query) failed)
  | executeNamed name text page size =>
    exact status_lt_of_executeNamed (Outcome.map_eq_error.1 failed)
  | count query => exact status_lt_of_declines (declines_of_asks (.count query) failed)
  | compile group entity =>
    exact status_lt_of_declines (declines_of_compile (Outcome.map_eq_error.1 failed))
  | prepare query => exact status_lt_of_declines (declines_of_asks (.prepare query) failed)

theorem perform_unchanged (failed : (service.perform operation fresh now).2 = .error e) :
    (service.perform operation fresh now).1 = service := by
  cases operation with
  | create | update | delete => exact after_unchanged failed
  | deleteByEntity => cases failed
  | _ => rfl

theorem perform_reading (reads : operation.writes = false) :
    (service.perform operation fresh now).1 = service := by
  cases operation with
  | create | update | delete | deleteByEntity => cases reads
  | _ => rfl

/-- With a new identifier that is not in use, every operation ends in the way it should: a failure
has the first reason that there is, lies with the caller and changes nothing. -/
theorem classified (service : Service) (fresh : Identifier) (now : Instant)
    (unused : service.store.holds fresh = false) : service.Classified fresh now where
  create_fails _ _ _ := after_eq_error.trans (create_eq_error unused)
  create_stores _ _ _ := perform_create_eq_ok
  update_fails _ _ _ := after_eq_error.trans update_eq_error
  update_replaces _ _ _ := perform_update_eq_ok
  delete_fails _ _ := after_eq_error.trans (Outcome.map_eq_error.trans delete_eq_error)
  query_notFound operation query asks := by
    constructor
    · rintro ⟨what, failed⟩
      have declined := declines_of_asks asks failed
      unfold Declines at declined
      split at declined
      · assumption
      · obtain ⟨fault, ⟨⟩⟩ := declined
    · exact fun unknown => ⟨_, asks_of_unknown asks unknown⟩
  query_fails operation query entity e asks known failed := by
    have declined := declines_of_asks asks failed
    rwa [Declines, known] at declined
  failure_unchanged _ _ := perform_unchanged
  reading_unchanged _ := perform_reading
  never_server _ _ := status_lt_of_perform unused

theorem classified_namedPersons :
    let name : Field := (Field.ofType "name" .string).asRequired
    let ann : Record := .make ⟨1⟩ ⟨7⟩ [("name", .string "Ann")] ⟨0, 0⟩
    let service : Service := ⟨⟨[⟨⟨7⟩, "Person", none, [name]⟩]⟩, ⟨[ann], by decide⟩, 20⟩
    service.store.holds ⟨2⟩ = false ∧ service.Classified ⟨2⟩ ⟨5, 0⟩ := by
  intro name ann service
  have unused : service.store.holds ⟨2⟩ = false := by decide
  exact ⟨unused, classified service ⟨2⟩ ⟨5, 0⟩ unused⟩

end Service
end VirtualRecords
