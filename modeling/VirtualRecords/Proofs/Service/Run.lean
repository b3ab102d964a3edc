import VirtualRecords.Proofs.Store.Members
import VirtualRecords.Service.Operation

/-! Runs of the service. An operation changes the store in one of four ways or not at all,
and never anything else, so what all five cases keep is kept by every run. -/

namespace VirtualRecords

structure Call where
  operation : Operation
  fresh : Identifier
  now : Instant

namespace Service

def afterCall (service : Service) (call : Call) : Service :=
  (service.perform call.operation call.fresh call.now).1

def run (service : Service) (calls : List Call) : Service := calls.foldl afterCall service

inductive Leaves (service : Service) (call : Call) : Store → Prop where
  | same : Leaves service call service.store
  | created {entity : Identifier} {payload : Json} {members : Json.Members} :
      call.operation = .create entity payload → service.accept entity payload = .ok members →
      (fresh : service.store.holds call.fresh = false) →
      Leaves service call (service.store.add (.make call.fresh entity members call.now) fresh)
  | updated {payload : Json} {held : Record} {members : Json.Members} :
      call.operation = .update held.id payload → held ∈ service.store.records →
      service.accept held.entity payload = .ok members →
      Leaves service call (service.store.replace (held.replacePayload members call.now))
  | deleted {id : Identifier} :
      call.operation = .delete id → Leaves service call (service.store.erase id)
  | cleared {entity : Identifier} :
      call.operation = .deleteByEntity entity →
      Leaves service call (service.store.eraseEntity entity)

variable {service changed : Service} {id entity : Identifier} {payload : Json} {now : Instant}
  {record : Record}

theorem create_eq_ok :
    service.create id entity payload now = .ok (changed, record) ↔
      ∃ members, service.accept entity payload = .ok members ∧
        record = .make id entity members now ∧ ∃ fresh : service.store.holds record.id = false,
          changed = service.withStore (service.store.add record fresh) := by
  constructor
  · intro done
    obtain ⟨members, accepted, done⟩ := Outcome.bind_eq_ok.1 done
    obtain ⟨store, inserted, done⟩ := Outcome.bind_eq_ok.1 done
    rw [Outcome.mapError_eq_ok, Store.insert_eq_ok] at inserted
    obtain ⟨fresh, rfl⟩ := inserted
    cases Outcome.pure_eq_ok.1 done
    exact ⟨members, accepted, rfl, fresh, rfl⟩
  · rintro ⟨members, accepted, rfl, fresh, rfl⟩
    refine Outcome.bind_eq_ok.2 ⟨members, accepted, Outcome.bind_eq_ok.2 ⟨_, ?_, rfl⟩⟩
    rw [Outcome.mapError_eq_ok, Store.insert_eq_ok]
    exact ⟨fresh, rfl⟩

theorem get_eq_ok :
    service.get id = .ok record ↔ record ∈ service.store.records ∧ record.id = id := by
  rw [← Store.get?_eq_some_iff, get]
  cases service.store.get? id with
  | none => simp
  | some held => simp

theorem update_eq_ok :
    service.update id payload now = .ok (changed, record) ↔
      ∃ held members, held ∈ service.store.records ∧ held.id = id ∧
        service.accept held.entity payload = .ok members ∧
          record = held.replacePayload members now ∧ changed = service.withStore (service.store.replace record) := by
  constructor
  · intro done
    obtain ⟨held, found, done⟩ := Outcome.bind_eq_ok.1 done
    obtain ⟨members, accepted, done⟩ := Outcome.bind_eq_ok.1 done
    obtain ⟨store, written, done⟩ := Outcome.bind_eq_ok.1 done
    obtain ⟨member, named⟩ := get_eq_ok.1 found
    rw [Outcome.mapError_eq_ok, Store.update_eq_ok] at written
    obtain ⟨-, rfl⟩ := written
    cases Outcome.pure_eq_ok.1 done
    exact ⟨held, members, member, named, accepted, rfl, rfl⟩
  · rintro ⟨held, members, member, named, accepted, rfl, rfl⟩
    refine Outcome.bind_eq_ok.2 ⟨held, get_eq_ok.2 ⟨member, named⟩, Outcome.bind_eq_ok.2
      ⟨members, accepted, Outcome.bind_eq_ok.2 ⟨_, ?_, rfl⟩⟩⟩
    rw [Outcome.mapError_eq_ok, Store.update_eq_ok]
    exact ⟨Store.holds_iff_exists.2 ⟨held, member, rfl⟩, rfl⟩

theorem exists_leaves (service : Service) (call : Call) :
    ∃ store, service.Leaves call store ∧ service.afterCall call = service.withStore store := by
  obtain ⟨operation, fresh, now⟩ := call
  cases operation with
  | create entity payload =>
    cases done : service.create fresh entity payload now with
    | error e => exact ⟨_, .same, by simp [afterCall, perform, after, done, withStore]⟩
    | ok result =>
      obtain ⟨changed, record⟩ := result
      obtain ⟨members, accepted, rfl, absent, rfl⟩ := create_eq_ok.1 done
      exact ⟨_, .created rfl accepted absent, by simp [afterCall, perform, after, done]⟩
  | update id payload =>
    cases done : service.update id payload now with
    | error e => exact ⟨_, .same, by simp [afterCall, perform, after, done, withStore]⟩
    | ok result =>
      obtain ⟨changed, record⟩ := result
      obtain ⟨held, members, member, rfl, accepted, rfl, rfl⟩ := update_eq_ok.1 done
      exact ⟨_, .updated rfl member accepted, by simp [afterCall, perform, after, done]⟩
  | delete id =>
    by_cases present : service.store.holds id = true
    · exact ⟨_, .deleted rfl, by simp [afterCall, perform, after, delete, present, Except.map]⟩
    · exact ⟨_, .same, by simp [afterCall, perform, after, delete, present, Except.map, withStore]⟩
  | deleteByEntity entity => exact ⟨_, .cleared rfl, rfl⟩
  | _ => exact ⟨_, .same, rfl⟩

theorem afterCall_eq (service : Service) (call : Call) :
    service.afterCall call = service.withStore (service.afterCall call).store := by
  obtain ⟨store, -, same⟩ := service.exists_leaves call
  rw [same]
  rfl

theorem afterCall_registry (service : Service) (call : Call) :
    (service.afterCall call).registry = service.registry := by
  rw [afterCall_eq]
  rfl

theorem afterCall_leaves (service : Service) (call : Call) :
    service.Leaves call (service.afterCall call).store := by
  obtain ⟨store, left, same⟩ := service.exists_leaves call
  rw [same, withStore]
  exact left

/-- What holds at first and is kept by every call holds after every run. -/
theorem run_induction {motive : Service → Prop}
    (step : ∀ service call, motive service → motive (service.afterCall call)) (calls : List Call) :
    ∀ service, motive service → motive (service.run calls) := by
  induction calls with
  | nil => exact fun _ holds => holds
  | cons call rest ih => exact fun service holds => ih _ (step service call holds)

theorem run_eq (service : Service) (calls : List Call) :
    service.run calls = service.withStore (service.run calls).store := by
  refine run_induction (motive := fun s => s = service.withStore s.store) ?_ calls service rfl
  intro s call same
  rw [afterCall_eq]
  rw [same]
  rfl

theorem run_registry (service : Service) (calls : List Call) :
    (service.run calls).registry = service.registry := by
  rw [run_eq]
  rfl

end Service
end VirtualRecords
