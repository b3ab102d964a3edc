import VirtualRecords.Store.Basic

/-! The changes of a store as values, so that whole runs of them can be spoken of. A change
that fails leaves the store as it was. -/

namespace VirtualRecords

inductive StoreChange where
  | insert (record : Record)
  | update (record : Record)
  | delete (id : Identifier)
  | deleteByEntity (entity : Identifier)

inductive StoreReply where
  | record (record : Record)
  | present (was : Bool)
  | count (n : Nat)

namespace Store

/-- The store after a write, which is the same as before if the write failed. -/
def afterWrite (store : Store) (record : Record) :
    Except StorageError Store → Store × Except StorageError StoreReply
  | .ok written => (written, .ok (.record record))
  | .error e => (store, .error e)

def perform (store : Store) : StoreChange → Store × Except StorageError StoreReply
  | .insert record => store.afterWrite record (store.insert record)
  | .update record => store.afterWrite record (store.update record)
  | .delete id => (store.erase id, .ok (.present (store.holds id)))
  | .deleteByEntity entity =>
    let left := store.eraseEntity entity
    (left, .ok (.count (store.size - left.size)))

end Store
end VirtualRecords
