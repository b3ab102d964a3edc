import Mathlib.Data.Set.Card
import VirtualRecords.Proofs.Store.Members
import VirtualRecords.Store.Change

/-! What a run of changes leaves in a store. Seen through its look-up, a store is a finite map
from identifiers to records, and each change is a step of that map. The changes that
succeed make up a history, and what the store holds of an identifier is the record of
the last write in it that nothing after it has overridden. -/

namespace VirtualRecords

inductive StoreEvent where
  | written (record : Record)
  | removed (id : Identifier)
  | cleared (entity : Identifier)

namespace StoreEvent

def Overrides (held : Record) : StoreEvent → Prop
  | written record => held.id = record.id
  | removed id => held.id = id
  | cleared entity => held.entity = entity

/-- The record was written, and no event since then has overridden it. -/
def Standing (record : Record) (history : List StoreEvent) : Prop :=
  ∃ past later, history = past ++ written record :: later ∧
    ∀ event ∈ later, ¬ event.Overrides record

variable {record : Record} {event : StoreEvent} {history : List StoreEvent}

theorem not_standing_nil : ¬ Standing record [] := by
  rintro ⟨past, later, empty, -⟩
  cases past <;> cases empty

theorem standing_append_singleton :
    Standing record (history ++ [event]) ↔
      event = written record ∨ Standing record history ∧ ¬ event.Overrides record := by
  constructor
  · rintro ⟨past, later, split, kept⟩
    rcases List.eq_nil_or_concat later with rfl | ⟨before, last, rfl⟩
    · exact .inl (List.singleton_inj.1 (List.append_inj_right' split rfl))
    · rw [List.concat_eq_append, ← List.cons_append, ← List.append_assoc] at split
      obtain ⟨whole, same⟩ := List.append_inj' split rfl
      cases List.singleton_inj.1 same
      rw [List.concat_eq_append, List.forall_mem_append] at kept
      exact .inr ⟨⟨past, before, whole, kept.1⟩, kept.2 event (List.mem_singleton_self event)⟩
  · rintro (rfl | ⟨⟨past, later, rfl, kept⟩, spared⟩)
    · exact ⟨history, [], rfl, nofun⟩
    · refine ⟨past, later ++ [event], by simp, ?_⟩
      rw [List.forall_mem_append]
      exact ⟨kept, List.forall_mem_singleton.2 spared⟩

end StoreEvent

def StoreChange.event? : StoreChange → Except StorageError StoreReply → Option StoreEvent
  | insert record, .ok _ => some (.written record)
  | update record, .ok _ => some (.written record)
  | delete id, .ok (.present true) => some (.removed id)
  | deleteByEntity entity, .ok _ => some (.cleared entity)
  | _, _ => none

namespace Store

variable {store next : Store} {record other : Record} {id entity : Identifier}
  {history : List StoreEvent}

def afterChange (store : Store) (change : StoreChange) : Store := (store.perform change).1

def afterChanges (store : Store) (changes : List StoreChange) : Store :=
  changes.foldl afterChange store

def event? (store : Store) (change : StoreChange) : Option StoreEvent :=
  change.event? (store.perform change).2

def events (store : Store) : List StoreChange → List StoreEvent
  | [] => []
  | change :: rest => (store.event? change).toList ++ events (store.afterChange change) rest

/-- The steps of a map from identifiers to records. A change that fails leaves the store itself
as it was, and a clearing tells how many identifiers had a record of the entity. -/
inductive StepsTo (store : Store) :
    StoreChange → Store → Except StorageError StoreReply → Prop where
  | inserted {record : Record} {next : Store} : store.get? record.id = none →
      next.get? = Function.update store.get? record.id (some record) →
      StepsTo store (.insert record) next (.ok (.record record))
  | duplicate {record held : Record} : store.get? record.id = some held →
      StepsTo store (.insert record) store (.error (.duplicateRecord record.id))
  | updated {record held : Record} {next : Store} : store.get? record.id = some held →
      next.get? = Function.update store.get? record.id (some record) →
      StepsTo store (.update record) next (.ok (.record record))
  | missing {record : Record} : store.get? record.id = none →
      StepsTo store (.update record) store (.error (.recordNotFound record.id))
  | deleted {id : Identifier} {next : Store} :
      next.get? = Function.update store.get? id none →
      StepsTo store (.delete id) next (.ok (.present (store.get? id).isSome))
  | cleared {entity : Identifier} {next : Store} {count : ℕ} :
      (∀ id, next.get? id = (store.get? id).filter fun record => record.entity != entity) →
      {id | ∃ record, store.get? id = some record ∧ record.entity = entity}.encard = count →
      StepsTo store (.deleteByEntity entity) next (.ok (.count count))

theorem get?_eq_none_iff : store.get? id = none ↔ store.holds id = false := by
  rw [holds, Option.isSome_eq_false_iff, Option.isNone_iff_eq_none]

theorem mem_add_iff_ne (fresh : store.holds record.id = false) :
    other ∈ (store.add record fresh).records ↔
      other = record ∨ other ∈ store.records ∧ other.id ≠ record.id := by
  rw [mem_add, or_comm]
  refine or_congr_right (iff_self_and.2 fun member same => ?_)
  rw [← get?_eq_none_iff, ← same, get?_id member] at fresh
  cases fresh

theorem get?_eq_update {value : Option Record}
    (named : ∀ record, value = some record → record.id = id)
    (left : ∀ record, record ∈ next.records ↔
      value = some record ∨ record ∈ store.records ∧ record.id ≠ id) :
    next.get? = Function.update store.get? id value := by
  funext asked
  apply Option.ext
  intro record
  rw [get?_eq_some_iff, left]
  by_cases same : asked = id
  · subst same
    rw [Function.update_self]
    constructor
    · rintro ⟨chosen | ⟨-, different⟩, found⟩
      · exact chosen
      · exact absurd found different
    · intro chosen
      exact ⟨.inl chosen, named record chosen⟩
  · rw [Function.update_of_ne same, get?_eq_some_iff]
    constructor
    · rintro ⟨chosen | ⟨member, -⟩, rfl⟩
      · exact absurd (named record chosen) same
      · exact ⟨member, rfl⟩
    · rintro ⟨member, rfl⟩
      exact ⟨.inr ⟨member, same⟩, rfl⟩

theorem get?_add (fresh : store.holds record.id = false) :
    (store.add record fresh).get? = Function.update store.get? record.id (some record) := by
  apply get?_eq_update
  · rintro _ ⟨⟩
    rfl
  · intro other
    rw [mem_add_iff_ne, Option.some.injEq, eq_comm]

theorem get?_replace (present : store.holds record.id = true) :
    (store.replace record).get? = Function.update store.get? record.id (some record) := by
  obtain ⟨held, member, same⟩ := holds_iff_exists.1 present
  apply get?_eq_update
  · rintro _ ⟨⟩
    rfl
  · intro other
    rw [mem_replace member same.symm, Option.some.injEq, eq_comm]

theorem get?_erase : (store.erase id).get? = Function.update store.get? id none := by
  apply get?_eq_update
  · intro record none
    cases none
  · intro record
    rw [mem_erase, iff_or_self]
    intro none
    cases none

theorem get?_eraseEntity :
    (store.eraseEntity entity).get? id =
      (store.get? id).filter fun record => record.entity != entity := by
  apply Option.ext
  intro record
  rw [Option.filter_eq_some_iff, get?_eq_some_iff, get?_eq_some_iff, mem_eraseEntity, bne_iff_ne]
  exact and_right_comm

theorem encard_ids {records : List Record} (distinct : (records.map Record.id).Nodup) :
    {id | ∃ record ∈ records, record.id = id}.encard = records.length := by
  have listed : {id | ∃ record ∈ records, record.id = id} =
      ((records.map Record.id).toFinset : Set Identifier) := by
    ext id
    simp
  rw [listed, Set.encard_coe_eq_coe_finsetCard, List.toFinset_card_of_nodup distinct,
    List.length_map]

theorem encard_held (store : Store) :
    {id | (store.get? id).isSome = true}.encard = store.size := by
  rw [size, ← encard_ids store.distinct]
  congr 1
  ext id
  exact holds_iff_exists

theorem size_sub_eraseEntity (store : Store) (entity : Identifier) :
    store.size - (store.eraseEntity entity).size = (store.ofEntity entity).length := by
  have parts : store.records.length =
      (store.ofEntity entity).length + (store.eraseEntity entity).records.length :=
    List.length_eq_length_filter_add fun record : Record => record.entity == entity
  rw [size, size, parts]
  exact Nat.add_sub_cancel _ _

theorem encard_ofEntity (store : Store) (entity : Identifier) :
    {id | ∃ record, store.get? id = some record ∧ record.entity = entity}.encard =
      (store.size - (store.eraseEntity entity).size : ℕ) := by
  rw [size_sub_eraseEntity, ← encard_ids (store.ofEntity_distinct entity)]
  congr 1
  ext id
  refine exists_congr fun record => ?_
  rw [get?_eq_some_iff, mem_ofEntity]
  exact and_right_comm

theorem perform_insert_fresh (fresh : store.holds record.id = false) :
    store.perform (.insert record) = (store.add record fresh, .ok (.record record)) := by
  rw [perform, insert, dif_pos fresh, afterWrite]

theorem perform_insert_held (held : store.holds record.id = true) :
    store.perform (.insert record) = (store, .error (.duplicateRecord record.id)) := by
  rw [perform, insert, dif_neg (by simp [held]), afterWrite]

theorem perform_update_held (held : store.holds record.id = true) :
    store.perform (.update record) = (store.replace record, .ok (.record record)) := by
  rw [perform, update, if_pos held, afterWrite]

theorem perform_update_absent (absent : store.holds record.id = false) :
    store.perform (.update record) = (store, .error (.recordNotFound record.id)) := by
  rw [perform, update, if_neg (by simp [absent]), afterWrite]

theorem stepsTo_perform (store : Store) (change : StoreChange) :
    store.StepsTo change (store.afterChange change) (store.perform change).2 := by
  cases change with
  | insert record =>
    cases held : store.holds record.id with
    | false =>
      rw [afterChange, perform_insert_fresh held]
      exact .inserted (get?_eq_none_iff.2 held) (get?_add held)
    | true =>
      obtain ⟨found, same⟩ := Option.isSome_iff_exists.1 held
      rw [afterChange, perform_insert_held held]
      exact .duplicate same
  | update record =>
    cases held : store.holds record.id with
    | false =>
      rw [afterChange, perform_update_absent held]
      exact .missing (get?_eq_none_iff.2 held)
    | true =>
      obtain ⟨found, same⟩ := Option.isSome_iff_exists.1 held
      rw [afterChange, perform_update_held held]
      exact .updated same (get?_replace held)
  | delete id => exact .deleted get?_erase
  | deleteByEntity entity =>
    exact .cleared (fun _ => get?_eraseEntity) (store.encard_ofEntity entity)

def Reflects (store : Store) (history : List StoreEvent) : Prop :=
  ∀ record, record ∈ store.records ↔ StoreEvent.Standing record history

theorem reflects_empty : empty.Reflects [] :=
  fun _ => ⟨nofun, fun standing => absurd standing StoreEvent.not_standing_nil⟩

theorem Reflects.snoc {event : StoreEvent} (reflects : store.Reflects history)
    (left : ∀ record, record ∈ next.records ↔
      event = .written record ∨ record ∈ store.records ∧ ¬ event.Overrides record) :
    next.Reflects (history ++ [event]) := by
  intro record
  rw [StoreEvent.standing_append_singleton, ← reflects record]
  exact left record

theorem Reflects.add (reflects : store.Reflects history)
    (fresh : store.holds record.id = false) :
    (store.add record fresh).Reflects (history ++ [.written record]) := by
  refine reflects.snoc fun other => ?_
  rw [mem_add_iff_ne, StoreEvent.written.injEq, eq_comm]
  rfl

theorem Reflects.replace (reflects : store.Reflects history)
    (present : store.holds record.id = true) :
    (store.replace record).Reflects (history ++ [.written record]) := by
  obtain ⟨held, member, same⟩ := holds_iff_exists.1 present
  refine reflects.snoc fun other => ?_
  rw [mem_replace member same.symm, StoreEvent.written.injEq, eq_comm]
  rfl

theorem Reflects.put (reflects : store.Reflects history) (record : Record) :
    (store.put record).Reflects (history ++ [.written record]) := by
  unfold Store.put
  split
  · next fresh => exact reflects.add fresh
  · next held => exact reflects.replace (by simpa using held)

/-- The given records count as written in their order, so that the last of one identifier stands. -/
theorem reflects_ofRecords (records : List Record) :
    (ofRecords records).Reflects (records.map .written) := by
  induction records using List.reverseRecOn with
  | nil => exact reflects_empty
  | append_singleton records record ih =>
    rw [ofRecords, List.foldl_append, List.map_append]
    exact ih.put record

theorem Reflects.afterChange (reflects : store.Reflects history) (change : StoreChange) :
    (store.afterChange change).Reflects (history ++ (store.event? change).toList) := by
  cases change with
  | insert record =>
    cases held : store.holds record.id with
    | false =>
      rw [Store.afterChange, event?, perform_insert_fresh held]
      exact reflects.add held
    | true =>
      rw [Store.afterChange, event?, perform_insert_held held]
      simpa [StoreChange.event?] using reflects
  | update record =>
    cases held : store.holds record.id with
    | false =>
      rw [Store.afterChange, event?, perform_update_absent held]
      simpa [StoreChange.event?] using reflects
    | true =>
      rw [Store.afterChange, event?, perform_update_held held]
      exact reflects.replace held
  | delete id =>
    cases held : store.holds id with
    | false =>
      have unchanged : (store.erase id).Reflects history := by
        intro record
        rw [mem_erase, ← reflects record, and_iff_left_iff_imp]
        rintro member rfl
        rw [← get?_eq_none_iff, get?_id member] at held
        cases held
      simpa [Store.afterChange, event?, perform, StoreChange.event?, held] using unchanged
    | true =>
      have removed : (store.erase id).Reflects (history ++ [.removed id]) := by
        refine reflects.snoc fun record => ?_
        rw [mem_erase]
        exact (or_iff_right nofun).symm
      simpa [Store.afterChange, event?, perform, StoreChange.event?, held] using removed
  | deleteByEntity entity =>
    refine reflects.snoc fun record => ?_
    exact mem_eraseEntity.trans (or_iff_right nofun).symm

theorem Reflects.afterChanges (changes : List StoreChange) :
    ∀ {store : Store} {history : List StoreEvent}, store.Reflects history →
      (store.afterChanges changes).Reflects (history ++ store.events changes) := by
  induction changes with
  | nil =>
    intro store history reflects
    rw [events, List.append_nil]
    exact reflects
  | cons change rest ih =>
    intro store history reflects
    rw [events, ← List.append_assoc]
    exact ih (reflects.afterChange change)

/-- A store that was made of records and then changed is the map that its history describes, its
size is the number of identifiers that it has a record for, and whatever change comes next is
a step of that map. -/
theorem changes_refine_map (records : List Record) (changes : List StoreChange) :
    let initial := ofRecords records
    let store := initial.afterChanges changes
    (∀ id record, store.get? id = some record ↔
      record.id = id ∧
        StoreEvent.Standing record (records.map .written ++ initial.events changes)) ∧
    {id | (store.get? id).isSome = true}.encard = store.size ∧
    ∀ change, store.StepsTo change (store.afterChange change) (store.perform change).2 := by
  intro initial store
  have reflects := Reflects.afterChanges changes (reflects_ofRecords records)
  refine ⟨fun id record => ?_, store.encard_held, store.stepsTo_perform⟩
  rw [get?_eq_some_iff, reflects record]
  exact and_comm

end Store
end VirtualRecords
