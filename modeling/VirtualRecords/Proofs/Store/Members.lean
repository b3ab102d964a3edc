import Mathlib.Data.List.Nodup
import VirtualRecords.Proofs.Outcome
import VirtualRecords.Store.Basic

/-! The members of a store. A store holds at most one record of each identifier, so its
look-up finds exactly its members, and every change is known by the members it leaves. -/

namespace VirtualRecords.Store

variable {store next : Store} {record held : Record} {id entity : Identifier}

theorem eq_of_id (inStore : record ∈ store.records) (heldToo : held ∈ store.records)
    (same : record.id = held.id) : record = held :=
  List.inj_on_of_nodup_map store.distinct inStore heldToo same

theorem get?_eq_some_iff :
    store.get? id = some record ↔ record ∈ store.records ∧ record.id = id := by
  constructor
  · intro found
    have named := List.find?_some found
    exact ⟨List.mem_of_find?_eq_some found, by simpa using named⟩
  · rintro ⟨member, rfl⟩
    cases found : store.get? record.id with
    | none =>
      have absent := List.find?_eq_none.1 found record member
      simp at absent
    | some other =>
      have named : other.id = record.id := by simpa using List.find?_some found
      rw [eq_of_id (List.mem_of_find?_eq_some found) member named]

theorem get?_id (member : record ∈ store.records) : store.get? record.id = some record :=
  get?_eq_some_iff.2 ⟨member, rfl⟩

theorem holds_iff_exists :
    store.holds id = true ↔ ∃ record, record ∈ store.records ∧ record.id = id := by
  rw [holds_iff, List.mem_map]

theorem mem_add {fresh : store.holds held.id = false} :
    record ∈ (store.add held fresh).records ↔ record ∈ store.records ∨ record = held := by
  rw [add, List.mem_append, List.mem_singleton]

theorem mem_keep {test : Record → Bool} :
    record ∈ (store.keep test).records ↔ record ∈ store.records ∧ test record = true :=
  List.mem_filter

theorem mem_erase :
    record ∈ (store.erase id).records ↔ record ∈ store.records ∧ record.id ≠ id := by
  rw [erase, mem_keep, bne_iff_ne]

theorem mem_eraseEntity :
    record ∈ (store.eraseEntity entity).records ↔
      record ∈ store.records ∧ record.entity ≠ entity := by
  rw [eraseEntity, mem_keep, bne_iff_ne]

theorem mem_replace (present : held ∈ store.records) (same : record.id = held.id) {other : Record} :
    other ∈ (store.replace record).records ↔
      other = record ∨ other ∈ store.records ∧ other.id ≠ record.id := by
  rw [replace, List.mem_map]
  constructor
  · rintro ⟨before, member, rfl⟩
    by_cases named : before.id = record.id
    · exact .inl (if_pos named)
    · rw [replaceIn, if_neg named]
      exact .inr ⟨member, named⟩
  · rintro (rfl | ⟨member, named⟩)
    · exact ⟨held, present, if_pos same.symm⟩
    · exact ⟨other, member, if_neg named⟩

theorem mem_ofEntity :
    record ∈ store.ofEntity entity ↔ record ∈ store.records ∧ record.entity = entity := by
  rw [ofEntity, List.mem_filter, beq_iff_eq]

theorem insert_eq_ok :
    store.insert record = .ok next ↔
      ∃ fresh : store.holds record.id = false, next = store.add record fresh := by
  unfold insert
  by_cases fresh : store.holds record.id = false
  · rw [dif_pos fresh, Except.ok.injEq]
    exact ⟨fun same => ⟨fresh, same.symm⟩, fun ⟨_, same⟩ => same.symm⟩
  · rw [dif_neg fresh]
    exact ⟨nofun, fun ⟨absent, _⟩ => absurd absent fresh⟩

theorem update_eq_ok :
    store.update record = .ok next ↔
      store.holds record.id = true ∧ next = store.replace record := by
  unfold update
  by_cases present : store.holds record.id = true
  · rw [if_pos present, Except.ok.injEq]
    exact ⟨fun same => ⟨present, same.symm⟩, fun ⟨_, same⟩ => same.symm⟩
  · rw [if_neg present]
    exact ⟨nofun, fun ⟨holds, _⟩ => absurd holds present⟩

theorem records_foldl_put {records : List Record}
    (distinct : ((store.records ++ records).map Record.id).Nodup) :
    (records.foldl put store).records = store.records ++ records := by
  induction records generalizing store with
  | nil => simp
  | cons record rest ih =>
    have fresh : store.holds record.id = false := by
      rw [List.map_append, List.map_cons, List.nodup_append] at distinct
      rw [Bool.eq_false_iff, Ne, holds_iff]
      exact fun held => distinct.2.2 _ held _ List.mem_cons_self rfl
    have grown : (store.add record fresh).records ++ rest = store.records ++ record :: rest :=
      List.append_cons .. |>.symm
    have entered : store.put record = store.add record fresh := dif_pos fresh
    rw [← grown] at distinct
    rw [List.foldl_cons, entered, ih distinct, grown]

theorem records_ofRecords {records : List Record} (distinct : (records.map Record.id).Nodup) :
    (ofRecords records).records = records :=
  records_foldl_put distinct

theorem select_distinct (criteria : Criteria) (store : Store) :
    ((criteria.select store.records).map Record.id).Nodup :=
  store.distinct.sublist (List.filter_sublist.map _)

theorem ofEntity_distinct (store : Store) (entity : Identifier) :
    ((store.ofEntity entity).map Record.id).Nodup :=
  store.distinct.sublist (List.filter_sublist.map _)

end VirtualRecords.Store
