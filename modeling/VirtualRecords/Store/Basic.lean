import VirtualRecords.Plan
import VirtualRecords.Store.Error

/-! Stores: records in memory, at most one for each identifier. A record that is replaced
keeps its place; results are put in an order of their own, so places never show. -/

namespace VirtualRecords

structure Store where
  records : List Record
  distinct : (records.map Record.id).Nodup

namespace Store

def empty : Store := ⟨[], List.nodup_nil⟩

def get? (store : Store) (id : Identifier) : Option Record := store.records.find? (·.id == id)

def holds (store : Store) (id : Identifier) : Bool := (store.get? id).isSome

def size (store : Store) : Nat := store.records.length

theorem holds_iff (store : Store) (id : Identifier) :
    store.holds id = true ↔ id ∈ store.records.map Record.id := by
  simp [holds, get?, List.find?_isSome]

def replaceIn (record : Record) (held : Record) : Record :=
  if held.id = record.id then record else held

theorem replaceIn_id (record held : Record) : (replaceIn record held).id = held.id := by
  unfold replaceIn
  split
  · next same => exact same.symm
  · rfl

def replace (store : Store) (record : Record) : Store where
  records := store.records.map (replaceIn record)
  distinct := by
    simpa [Function.comp_def, replaceIn_id] using store.distinct

def add (store : Store) (record : Record) (fresh : store.holds record.id = false) : Store where
  records := store.records ++ [record]
  distinct := by
    have absent : record.id ∉ store.records.map Record.id := by
      rw [← holds_iff, fresh]; simp
    simp only [List.map_append, List.map_cons, List.map_nil]
    refine List.nodup_append.2 ⟨store.distinct, by simp, ?_⟩
    rintro a held b one rfl
    simp only [List.mem_singleton] at one
    exact absent (one ▸ held)

def keep (store : Store) (test : Record → Bool) : Store where
  records := store.records.filter test
  distinct := store.distinct.sublist (List.filter_sublist.map _)

def insert (store : Store) (record : Record) : Except StorageError Store :=
  if fresh : store.holds record.id = false then .ok (store.add record fresh)
  else .error (.duplicateRecord record.id)

def update (store : Store) (record : Record) : Except StorageError Store :=
  if store.holds record.id then .ok (store.replace record)
  else .error (.recordNotFound record.id)

def erase (store : Store) (id : Identifier) : Store := store.keep fun r => r.id != id

def eraseEntity (store : Store) (entity : Identifier) : Store := store.keep fun r => r.entity != entity

def put (store : Store) (record : Record) : Store :=
  if fresh : store.holds record.id = false then store.add record fresh else store.replace record

/-- The store of given records; of those with one identifier the last is kept. -/
def ofRecords (records : List Record) : Store := records.foldl put empty

def ofEntity (store : Store) (entity : Identifier) : List Record :=
  store.records.filter fun r => r.entity == entity

def list (store : Store) (entity : Identifier) (window : Window) : Page :=
  .ofRecords (Record.sortByCreation (store.ofEntity entity)) window

def run (store : Store) (plan : Plan) : Page := plan.run store.records

def count (store : Store) (criteria : Criteria) : Nat := criteria.count store.records

end Store
end VirtualRecords
