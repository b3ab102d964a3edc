import VirtualRecords.Proofs.CreationOrder
import VirtualRecords.Proofs.Service.Plans
import VirtualRecords.Proofs.Service.Run

/-! What is said of one entity depends on the records of that entity alone. Two stores that
hold the same of them answer every query on the entity alike, and operations on records of
other entities leave a store that holds the same of them. -/

namespace VirtualRecords

namespace Store

/-- The stores hold the same records of the entity, and of others whatever they do. -/
def SameOn (entity : Identifier) (left right : Store) : Prop :=
  ∀ record, record.entity = entity → (record ∈ left.records ↔ record ∈ right.records)

variable {entity other id : Identifier} {store left right : Store} {record held : Record}

theorem SameOn.refl (entity : Identifier) (store : Store) : store.SameOn entity store :=
  fun _ _ => Iff.rfl

theorem SameOn.trans {middle : Store} (first : left.SameOn entity middle)
    (second : middle.SameOn entity right) : left.SameOn entity right :=
  fun record own => (first record own).trans (second record own)

theorem sameOn_add {fresh : store.holds record.id = false} (foreign : record.entity ≠ entity) :
    store.SameOn entity (store.add record fresh) := by
  intro one own
  have different : one ≠ record := by
    rintro rfl
    exact foreign own
  rw [mem_add, or_iff_left different]

theorem sameOn_replace (present : held ∈ store.records) (same : record.id = held.id)
    (before : held.entity ≠ entity) (foreign : record.entity ≠ entity) :
    store.SameOn entity (store.replace record) := by
  intro one own
  have different : one ≠ record := by
    rintro rfl
    exact foreign own
  have named (member : one ∈ store.records) : one.id ≠ record.id := by
    intro equal
    have isHeld : one = held := eq_of_id member present (equal.trans same)
    exact before (isHeld ▸ own)
  rw [mem_replace present same, or_iff_right different]
  exact ⟨fun member => ⟨member, named member⟩, And.left⟩

theorem sameOn_erase (foreign : ∀ held ∈ store.records, held.id = id → held.entity ≠ entity) :
    store.SameOn entity (store.erase id) := by
  intro one own
  rw [mem_erase]
  exact ⟨fun member => ⟨member, fun named => foreign one member named own⟩, And.left⟩

theorem sameOn_eraseEntity (foreign : other ≠ entity) :
    store.SameOn entity (store.eraseEntity other) := by
  intro one own
  rw [mem_eraseEntity]
  exact ⟨fun member => ⟨member, fun cleared => foreign (cleared.symm.trans own)⟩, And.left⟩

theorem ofEntity_perm (same : left.SameOn entity right) :
    (left.ofEntity entity).Perm (right.ofEntity entity) := by
  refine Record.perm_of_mem_iff (left.ofEntity_distinct entity) (right.ofEntity_distinct entity) ?_
  intro record
  rw [mem_ofEntity, mem_ofEntity]
  exact and_congr_left fun own => same record own

theorem list_congr (same : left.SameOn entity right) (window : Window) :
    left.list entity window = right.list entity window := by
  rw [list, list, Record.sortByCreation_congr (ofEntity_perm same) (left.ofEntity_distinct entity)]

end Store

namespace Criteria

variable {entity : Identifier} {left right : Store} {own : Criteria} {record : Record}

theorem entity_of_holds (holds : (and [.entity entity, own]).holds record = true) :
    record.entity = entity := by
  simp only [Criteria.holds, holdAll, Bool.and_eq_true, beq_iff_eq] at holds
  exact holds.1

theorem select_perm (same : left.SameOn entity right) (own : Criteria) :
    ((and [.entity entity, own]).select left.records).Perm
      ((and [.entity entity, own]).select right.records) := by
  refine Record.perm_of_mem_iff (Store.select_distinct _ left) (Store.select_distinct _ right) ?_
  intro record
  rw [select, select, List.mem_filter, List.mem_filter]
  exact and_congr_left fun holds => same record (entity_of_holds holds)

end Criteria

namespace Plan

variable {plan : Plan} {entity : Identifier} {own : Criteria} {left right : Store}

theorem run_sameOn (asks : plan.criteria = .and [.entity entity, own])
    (same : left.SameOn entity right) : left.run plan = right.run plan := by
  have selected :
      (plan.criteria.select left.records).Perm (plan.criteria.select right.records) := by
    rw [asks]
    exact Criteria.select_perm same own
  have arranged := result_congr selected (Store.select_distinct _ left)
  rw [Store.run, Store.run, Plan.run, Plan.run, arranged]

end Plan

theorem Window.mem_of_cut {window : Window} {records : List Record} {record : Record}
    (member : record ∈ window.cut records) : record ∈ records :=
  List.mem_of_mem_drop (List.mem_of_mem_take member)

/-- Whether an operation leaves the records of the entity alone: it makes, changes or removes
records of other entities, or is a question. -/
def Operation.Foreign (entity : Identifier) (store : Store) : Operation → Prop
  | .create other _ => other ≠ entity
  | .update id _ => ∀ held ∈ store.records, held.id = id → held.entity ≠ entity
  | .delete id => ∀ held ∈ store.records, held.id = id → held.entity ≠ entity
  | .deleteByEntity other => other ≠ entity
  | _ => True

instance (entity : Identifier) (store : Store) :
    (operation : Operation) → Decidable (operation.Foreign entity store)
  | .create other _ => inferInstanceAs (Decidable (other ≠ entity))
  | .update id _ =>
    inferInstanceAs (Decidable (∀ held ∈ store.records, held.id = id → held.entity ≠ entity))
  | .delete id =>
    inferInstanceAs (Decidable (∀ held ∈ store.records, held.id = id → held.entity ≠ entity))
  | .deleteByEntity other => inferInstanceAs (Decidable (other ≠ entity))
  | .get _ | .recordsByEntity .. | .execute _ | .executeNamed .. | .count _ | .compile ..
  | .prepare _ => .isTrue trivial

namespace Service

variable {entity : Identifier} {service : Service} {call : Call} {store : Store}

def Spares (entity : Identifier) : Service → List Call → Prop
  | _, [] => True
  | service, call :: rest =>
    call.operation.Foreign entity service.store ∧ Spares entity (service.afterCall call) rest

instance decidableSpares (entity : Identifier) :
    (service : Service) → (calls : List Call) → Decidable (Spares entity service calls)
  | _, [] => .isTrue trivial
  | service, call :: rest =>
    have := decidableSpares entity (service.afterCall call) rest
    inferInstanceAs (Decidable (_ ∧ Spares entity (service.afterCall call) rest))

/-- The services answer alike whatever is asked of the entity. -/
structure AgreeOn (entity : Identifier) (left right : Service) : Prop where
  execute (query : Query) : query.entity = entity → left.execute query = right.execute query
  count (query : Query) : query.entity = entity → left.count query = right.count query
  recordsByEntity (page size : UInt64) :
    left.recordsByEntity entity page size = right.recordsByEntity entity page size

structure PagesOwn (entity : Identifier) (service : Service) : Prop where
  execute (query : Query) (page : Page) : query.entity = entity → service.execute query = .ok page →
    ∀ record ∈ page.records, record.entity = entity
  recordsByEntity (number size : UInt64) (page : Page) :
    service.recordsByEntity entity number size = .ok page →
      ∀ record ∈ page.records, record.entity = entity

theorem execute_sameOn (same : service.store.SameOn entity store) {query : Query}
    (asked : query.entity = entity) :
    service.execute query = (service.withStore store).execute query := by
  refine Outcome.bind_congr_of_ok fun plan ready => ?_
  obtain ⟨own, asks⟩ := exists_of_prepare ready
  rw [asked] at asks
  exact congrArg Except.ok (Plan.run_sameOn asks same)

theorem count_sameOn (same : service.store.SameOn entity store) {query : Query}
    (asked : query.entity = entity) :
    service.count query = (service.withStore store).count query := by
  refine Outcome.bind_congr_of_ok fun compiler _ => Outcome.bind_congr_of_ok fun criteria made => ?_
  obtain ⟨own, rfl⟩ := Query.exists_of_criteria (Outcome.mapError_eq_ok.1 made)
  rw [query.applyText_entity, asked]
  exact congrArg Except.ok (Criteria.select_perm same own).length_eq

theorem recordsByEntity_sameOn (same : service.store.SameOn entity store) (page size : UInt64) :
    service.recordsByEntity entity page size =
      (service.withStore store).recordsByEntity entity page size := by
  have listed := Store.list_congr same ⟨page, service.clamp size⟩
  unfold recordsByEntity
  rw [listed]
  rfl

theorem agreeOn_withStore (same : service.store.SameOn entity store) :
    service.AgreeOn entity (service.withStore store) where
  execute _ asked := execute_sameOn same asked
  count _ asked := count_sameOn same asked
  recordsByEntity := recordsByEntity_sameOn same

theorem pagesOwn (entity : Identifier) (service : Service) : service.PagesOwn entity where
  execute query page asked answered record member := by
    obtain ⟨plan, ready, rfl⟩ := execute_eq_ok.1 answered
    obtain ⟨own, asks⟩ := exists_of_prepare ready
    have selected : record ∈ plan.criteria.select service.store.records :=
      (plan.result_perm _).mem_iff.1 (Window.mem_of_cut member)
    have holds := (List.mem_filter.1 selected).2
    rw [asks, asked] at holds
    exact Criteria.entity_of_holds holds
  recordsByEntity number size page answered record member := by
    obtain ⟨-, rfl⟩ := recordsByEntity_eq_ok.1 answered
    have listed : record ∈ service.store.ofEntity entity :=
      (Record.sortByCreation_perm _).mem_iff.1 (Window.mem_of_cut member)
    exact (Store.mem_ofEntity.1 listed).2

theorem sameOn_afterCall (foreign : call.operation.Foreign entity service.store) :
    service.store.SameOn entity (service.afterCall call).store := by
  have left := service.afterCall_leaves call
  generalize (service.afterCall call).store = store at left ⊢
  cases left with
  | same => exact .refl entity _
  | created asked _ fresh =>
    rw [asked] at foreign
    exact Store.sameOn_add foreign
  | updated asked present _ =>
    rw [asked] at foreign
    have before := foreign _ present rfl
    exact Store.sameOn_replace present rfl before before
  | deleted asked =>
    rw [asked] at foreign
    exact Store.sameOn_erase foreign
  | cleared asked =>
    rw [asked] at foreign
    exact Store.sameOn_eraseEntity foreign

theorem sameOn_run (calls : List Call) (service : Service) (spared : Spares entity service calls) :
    service.store.SameOn entity (service.run calls).store := by
  induction calls generalizing service with
  | nil => exact .refl entity _
  | cons call rest ih =>
    obtain ⟨foreign, spared⟩ := spared
    exact (sameOn_afterCall foreign).trans (ih _ spared)

/-- Services with the same records of an entity answer alike about it, with records of it alone,
and go on to answer so whatever happens to the records of other entities. -/
theorem answers_of_sameOn (registry : Registry) (maxPageSize : UInt64) {left right : Store}
    (same : left.SameOn entity right) :
    AgreeOn entity ⟨registry, left, maxPageSize⟩ ⟨registry, right, maxPageSize⟩ ∧
      PagesOwn entity ⟨registry, left, maxPageSize⟩ ∧
      ∀ calls, Spares entity ⟨registry, left, maxPageSize⟩ calls →
        AgreeOn entity ⟨registry, left, maxPageSize⟩ (run ⟨registry, left, maxPageSize⟩ calls) := by
  refine ⟨agreeOn_withStore same, pagesOwn entity _, fun calls spared => ?_⟩
  rw [run_eq]
  exact agreeOn_withStore (sameOn_run calls _ spared)

theorem answers_of_sameOn_personsHouses :
    let person : Record := .make ⟨1⟩ ⟨7⟩ [("adult", .bool true)] ⟨0, 0⟩
    let house : Record := .make ⟨2⟩ ⟨8⟩ [] ⟨0, 0⟩
    let registry : Registry := ⟨[⟨⟨7⟩, "Person", none, []⟩, ⟨⟨8⟩, "House", none, []⟩]⟩
    let left : Store := ⟨[house, person], by decide⟩
    let right : Store := ⟨[person], by decide⟩
    let calls : List Call := [⟨.delete ⟨2⟩, .nil, ⟨5, 0⟩⟩, ⟨.create ⟨8⟩ (.object []), ⟨3⟩, ⟨6, 0⟩⟩,
      ⟨.deleteByEntity ⟨8⟩, .nil, ⟨7, 0⟩⟩]
    left.SameOn ⟨7⟩ right ∧ Spares ⟨7⟩ ⟨registry, left, 100⟩ calls ∧
      AgreeOn ⟨7⟩ ⟨registry, left, 100⟩ ⟨registry, right, 100⟩ ∧
      AgreeOn ⟨7⟩ ⟨registry, left, 100⟩ (run ⟨registry, left, 100⟩ calls) := by
  intro person house registry left right calls
  have same : left.SameOn ⟨7⟩ right := by
    intro record own
    have notHouse : record ≠ house := by
      rintro rfl
      cases own
    simp [left, right, notHouse]
  have spared : Spares ⟨7⟩ ⟨registry, left, 100⟩ calls := by decide
  obtain ⟨alike, -, later⟩ := answers_of_sameOn registry 100 same
  exact ⟨same, spared, alike, later calls spared⟩

end Service
end VirtualRecords
