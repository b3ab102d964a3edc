import VirtualRecords.Proofs.CreationOrder
import VirtualRecords.Proofs.Paging
import VirtualRecords.Proofs.Service.Plans
import VirtualRecords.Proofs.Store.Members

/-! The pages of an answer. A query that is taken on one page is taken on every page, with the
same criteria and the same order, so its pages are those of one list: the records that its
criteria hold of, each of them once. -/

namespace VirtualRecords

namespace Store

variable {store : Store}

theorem result_distinct (store : Store) (plan : Plan) : (plan.result store.records).Nodup := by
  have selected := Record.nodup_of_ids (select_distinct plan.criteria store)
  exact (plan.result_perm store.records).nodup_iff.2 selected

theorem result_length_le (store : Store) (plan : Plan) :
    (plan.result store.records).length ≤ store.size := by
  rw [(plan.result_perm store.records).length_eq]
  exact List.length_filter_le _ _

theorem mem_result {plan : Plan} {record : Record} :
    record ∈ plan.result store.records ↔
      record ∈ store.records ∧ plan.criteria.holds record = true := by
  rw [(plan.result_perm store.records).mem_iff]
  exact List.mem_filter

theorem listed_length_le (store : Store) (entity : Identifier) :
    (Record.sortByCreation (store.ofEntity entity)).length ≤ store.size := by
  rw [(Record.sortByCreation_perm _).length_eq]
  exact List.length_filter_le _ _

theorem mem_listed {entity : Identifier} {record : Record} :
    record ∈ Record.sortByCreation (store.ofEntity entity) ↔
      record ∈ store.records ∧ record.entity = entity := by
  rw [(Record.sortByCreation_perm _).mem_iff, mem_ofEntity]

theorem listed_distinct (store : Store) (entity : Identifier) :
    (Record.sortByCreation (store.ofEntity entity)).Nodup :=
  (Record.sortByCreation_perm _).nodup_iff.2 (Record.nodup_of_ids (store.ofEntity_distinct entity))

end Store

namespace Service

variable {service : Service} {size : UInt64}

theorem clamp_toNat (service : Service) (size : UInt64) :
    (service.clamp size).toNat = min size.toNat service.maxPageSize.toNat := by
  change (if size ≤ service.maxPageSize then size else service.maxPageSize).toNat = _
  split
  · next within => exact (Nat.min_eq_left (UInt64.le_iff_toNat_le.1 within)).symm
  · next past =>
    rw [UInt64.le_iff_toNat_le] at past
    omega

theorem clamp_pos (limited : 1 ≤ service.maxPageSize) (asked : 1 ≤ size) :
    0 < (service.clamp size).toNat := by
  have one : (1 : UInt64).toNat = 1 := rfl
  rw [UInt64.le_iff_toNat_le, one] at limited asked
  rw [clamp_toNat]
  omega

theorem clamp_ne_zero (limited : 1 ≤ service.maxPageSize) (asked : 1 ≤ size) :
    service.clamp size ≠ 0 := by
  intro zero
  have positive := clamp_pos limited asked
  rw [zero] at positive
  exact absurd positive (by decide)

theorem prepare_withPage {query : Query} {plan : Plan} (limited : 1 ≤ service.maxPageSize)
    (asked : 1 ≤ size) (ready : service.prepare query = .ok plan) (number : UInt64) :
    service.prepare (query.withPage number size) =
      .ok { plan with window := ⟨number, service.clamp size⟩ } := by
  obtain ⟨-, compiler, criteria, known, accepted, rfl⟩ := prepare_eq_ok.1 ready
  refine prepare_eq_ok.2 ⟨clamp_ne_zero limited asked, compiler, criteria, known, ?_⟩
  rw [Query.applyText_withPage]
  exact ⟨accepted, rfl⟩

/-- The pages of a query, and those of the records of an entity, share out the records that
match, whatever size is asked for. A store in memory has no more records than a word counts. -/
theorem pages_partition (service : Service) (size : UInt64) (limited : 1 ≤ service.maxPageSize)
    (asked : 1 ≤ size) (counted : service.store.size ≤ Window.greatestOffset) :
    (∀ query answer, service.execute query = .ok answer →
      ∃ plan pages, service.prepare query = .ok plan ∧
        (∀ number, service.execute (query.withPage number size) = .ok (pages number)) ∧
        Page.Partition (min size.toNat service.maxPageSize.toNat)
          (fun record => record ∈ service.store.records ∧ plan.criteria.holds record = true)
          pages) ∧
    ∀ entity, ∃ pages,
      (∀ number, service.recordsByEntity entity number size = .ok (pages number)) ∧
      Page.Partition (min size.toNat service.maxPageSize.toNat)
        (fun record => record ∈ service.store.records ∧ record.entity = entity) pages := by
  have positive := clamp_pos limited asked
  rw [← clamp_toNat]
  constructor
  · intro query answer taken
    obtain ⟨plan, ready, -⟩ := execute_eq_ok.1 taken
    let result := plan.result service.store.records
    refine ⟨plan, fun number => .ofRecords result ⟨number, service.clamp size⟩, ready, ?_, ?_⟩
    · intro number
      exact execute_eq_ok.2 ⟨_, prepare_withPage limited asked ready number, rfl⟩
    · have fits := Nat.le_trans (service.store.result_length_le plan) counted
      exact Page.partition_ofRecords positive fits
        (service.store.result_distinct plan) fun record => Store.mem_result
  · intro entity
    let listed := Record.sortByCreation (service.store.ofEntity entity)
    refine ⟨fun number => .ofRecords listed ⟨number, service.clamp size⟩, ?_, ?_⟩
    · intro number
      refine recordsByEntity_eq_ok.2 ⟨?_, rfl⟩
      rintro rfl
      exact absurd asked (by decide)
    · have fits := Nat.le_trans (service.store.listed_length_le entity) counted
      exact Page.partition_ofRecords positive fits
        (service.store.listed_distinct entity) fun record => Store.mem_listed

theorem pages_partition_threePersons :
    let record (id : BitVec 128) : Record := .make ⟨id⟩ ⟨7⟩ [] ⟨0, 0⟩
    let store : Store := ⟨[record 3, record 1, record 2], by decide⟩
    let service : Service := ⟨⟨[⟨⟨7⟩, "Person", none, []⟩]⟩, store, 2⟩
    let query : Query := .ofEntity ⟨7⟩
    (∃ plan pages, service.prepare query = .ok plan ∧
      (∀ number, service.execute (query.withPage number 5) = .ok (pages number)) ∧
      Page.Partition 2 (fun record => record ∈ store.records ∧ plan.criteria.holds record = true)
        pages) ∧
    ∃ pages, (∀ number, service.recordsByEntity ⟨7⟩ number 5 = .ok (pages number)) ∧
      Page.Partition 2 (fun record => record ∈ store.records ∧ record.entity = ⟨7⟩) pages := by
  intro record store service query
  have taken : service.execute query = .ok _ := execute_eq_ok.2 ⟨_, rfl, rfl⟩
  obtain ⟨queried, listed⟩ := pages_partition service 5 (by decide) (by decide) (by decide)
  exact ⟨queried query _ taken, listed ⟨7⟩⟩

end Service
end VirtualRecords
