import VirtualRecords.Proofs.Service.Counting

/-! Listing beside querying. The records of an entity are listed without criteria and without a
plan, and a query on the entity that has no conditions and no order goes through both. Its criteria
ask for the entity alone, so the plan selects what is listed; an order that is not asked for leaves
the order of creation; and both cut one window, whose size is refused or cut down alike. -/

namespace VirtualRecords

theorem Criteria.select_entity (entity : Identifier) (records : List Record) :
    (Criteria.and [.entity entity, .all]).select records =
      records.filter fun record => record.entity == entity := by
  refine List.filter_congr fun record _ => ?_
  rw [Criteria.holds, Criteria.holdAll, Criteria.holdAll, Criteria.holdAll, Criteria.holds,
    Criteria.holds, Bool.and_true, Bool.and_true]

theorem Store.run_entity (store : Store) (entity : Identifier) (window : Window) :
    store.run ⟨.and [.entity entity, .all], none, window⟩ = store.list entity window := by
  rw [Store.run, Plan.run, Plan.result_of_unordered rfl, Criteria.select_entity]
  rfl

/-- Without conditions there is no literal to be refused, whatever types are declared. -/
theorem Query.plan_ofEntity (compiler : Compiler) (entity : Identifier) (number : UInt64)
    {size : UInt64} (sized : size ≠ 0) :
    ((ofEntity entity).withPage number size).plan compiler =
      .ok ⟨.and [.entity entity, .all], none, ⟨number, size⟩⟩ :=
  plan_eq_ok.2 ⟨sized, _, rfl, rfl⟩

namespace Service

variable {service : Service} {entity : Identifier} {size : UInt64}

theorem prepare_ofEntity (limited : 1 ≤ service.maxPageSize) (asked : 1 ≤ size)
    (registered : (service.registry.entity? entity).isSome = true) (number : UInt64) :
    service.prepare ((Query.ofEntity entity).withPage number size) =
      .ok ⟨.and [.entity entity, .all], none, ⟨number, service.clamp size⟩⟩ := by
  obtain ⟨declared, known⟩ := Option.isSome_iff_exists.1 registered
  exact prepare_eq_ok.2 ⟨clamp_ne_zero limited asked, .ofFields declared.orderedFields,
    .and [.entity entity, .all], compiler_of_known known, rfl, rfl⟩

theorem recordsByEntity_of_sizeless (service : Service) (entity : Identifier) (number : UInt64) :
    service.recordsByEntity entity number 0 = .error (.queryBuild .zeroPageSize) := rfl

theorem recordsByEntity_eq_execute (limited : 1 ≤ service.maxPageSize)
    (registered : (service.registry.entity? entity).isSome = true) (number size : UInt64) :
    service.recordsByEntity entity number size =
      service.execute ((Query.ofEntity entity).withPage number size) := by
  by_cases sizeless : size = 0
  · obtain ⟨declared, known⟩ := Option.isSome_iff_exists.1 registered
    rw [sizeless, recordsByEntity_of_sizeless]
    exact (execute_eq_error.2 (prepare_of_sizeless rfl known)).symm
  · have asked : 1 ≤ size := by
      rw [UInt64.le_iff_toNat_le]
      exact Nat.one_le_iff_ne_zero.2 fun zero => sizeless (UInt64.toNat_inj.1 zero)
    have listed : service.recordsByEntity entity number size =
        .ok (service.store.list entity ⟨number, service.clamp size⟩) :=
      recordsByEntity_eq_ok.2 ⟨sizeless, rfl⟩
    rw [listed, ← service.store.run_entity]
    exact (execute_eq_ok.2 ⟨_, prepare_ofEntity limited asked registered number, rfl⟩).symm

end Service

/-- A page of a listing is the page of the query without conditions and without order: in a store,
for every size but zero and every set of declared types, and in a service that knows the entity,
for every size, the page or the error alike. -/
theorem listing_eq_querying :
    (∀ (store : Store) (compiler : Compiler) (entity : Identifier) (number size : UInt64),
      1 ≤ size → ∃ plan,
        ((Query.ofEntity entity).withPage number size).plan compiler = .ok plan ∧
          store.list entity ⟨number, size⟩ = store.run plan) ∧
      ∀ (service : Service) (entity : Identifier), 1 ≤ service.maxPageSize →
        (service.registry.entity? entity).isSome = true → ∀ number size,
          service.recordsByEntity entity number size =
            service.execute ((Query.ofEntity entity).withPage number size) := by
  constructor
  · intro store compiler entity number size asked
    have sized : size ≠ 0 := by
      rintro rfl
      exact absurd asked (by decide)
    exact ⟨_, Query.plan_ofEntity compiler entity number sized,
      (store.run_entity entity ⟨number, size⟩).symm⟩
  · exact fun service entity limited registered =>
      Service.recordsByEntity_eq_execute limited registered

theorem listing_eq_querying_persons :
    let record (id entity : BitVec 128) : Record := .make ⟨id⟩ ⟨entity⟩ [] ⟨0, 0⟩
    let store : Store := ⟨[record 3 7, record 1 8, record 2 7], by decide⟩
    let service : Service := ⟨⟨[⟨⟨7⟩, "Person", none, []⟩]⟩, store, 1⟩
    ((1 : UInt64) ≤ 5 ∧ 1 ≤ service.maxPageSize ∧
      (service.registry.entity? ⟨7⟩).isSome = true) ∧
      (∃ plan, ((Query.ofEntity ⟨7⟩).withPage 1 5).plan .untyped = .ok plan ∧
        store.list ⟨7⟩ ⟨1, 5⟩ = store.run plan) ∧
      service.recordsByEntity ⟨7⟩ 1 5 = service.execute ((Query.ofEntity ⟨7⟩).withPage 1 5) ∧
      service.recordsByEntity ⟨7⟩ 1 0 = service.execute ((Query.ofEntity ⟨7⟩).withPage 1 0) := by
  intro record store service
  have limited : 1 ≤ service.maxPageSize := by decide
  have listed := listing_eq_querying.1 store .untyped ⟨7⟩ 1 5 (by decide)
  have answered := listing_eq_querying.2 service ⟨7⟩ limited rfl
  exact ⟨⟨by decide, limited, rfl⟩, listed, answered 1 5, answered 1 0⟩

end VirtualRecords
