import VirtualRecords.QueryText.Reading
import VirtualRecords.Schema.Registry
import VirtualRecords.Schema.Validation
import VirtualRecords.Service.Error
import VirtualRecords.Store.Basic

/-! The service: entities and a store of their records. A payload enters the store only if
it satisfies the fields of its entity, and queries are made with the types of those
fields. Identifiers and times of records are given by the caller. -/

namespace VirtualRecords

structure Service where
  registry : Registry
  store : Store
  maxPageSize : UInt64

namespace Service

def defaultMaxPageSize : UInt64 := 1000

def ofRegistry (registry : Registry) : Service := ⟨registry, .empty, defaultMaxPageSize⟩

def fields (service : Service) (entity : Identifier) : Except ServiceError (List Field) :=
  (service.registry.fieldsOf entity).mapError .ofSchema

def compiler (service : Service) (entity : Identifier) : Except ServiceError Compiler := do
  return .ofFields (← service.fields entity)

def accept (service : Service) (entity : Identifier) (payload : Json) :
    Except ServiceError Json.Members := do
  let fields ← service.fields entity
  let members ← (Validation.asPayload payload).mapError ServiceError.ofSchema
  match Rejection.ofMessages? (Validation.messages members fields) with
  | some rejection => .error (.validation rejection)
  | none => .ok members

def missingRecord (id : Identifier) : ServiceError :=
  .notFound (StorageError.recordNotFound id).message

def get (service : Service) (id : Identifier) : Except ServiceError Record :=
  match service.store.get? id with
  | some record => .ok record
  | none => .error (missingRecord id)

def withStore (service : Service) (store : Store) : Service := { service with store }

def create (service : Service) (id entity : Identifier) (payload : Json) (now : Instant) :
    Except ServiceError (Service × Record) := do
  let record := Record.make id entity (← service.accept entity payload) now
  let store ← (service.store.insert record).mapError .ofStorage
  return (service.withStore store, record)

/-- Gives a record another payload. Its identifier, its entity and its time of creation stay. -/
def update (service : Service) (id : Identifier) (payload : Json) (now : Instant) :
    Except ServiceError (Service × Record) := do
  let held ← service.get id
  let record := held.replacePayload (← service.accept held.entity payload) now
  let store ← (service.store.update record).mapError .ofStorage
  return (service.withStore store, record)

def delete (service : Service) (id : Identifier) : Except ServiceError Service :=
  if service.store.holds id then .ok (service.withStore (service.store.erase id))
  else .error (missingRecord id)

def deleteByEntity (service : Service) (entity : Identifier) : Service × Nat :=
  let left := service.store.eraseEntity entity
  (service.withStore left, service.store.size - left.size)

def clamp (service : Service) (size : UInt64) : UInt64 := min size service.maxPageSize

def recordsByEntity (service : Service) (entity : Identifier) (page size : UInt64) :
    Except ServiceError Page :=
  if size = 0 then .error (.ofQuery .zeroPageSize)
  else .ok (service.store.list entity ⟨page, service.clamp size⟩)

def prepare (service : Service) (query : Query) : Except ServiceError Plan := do
  let compiler ← service.compiler query.entity
  let read := query.applyText
  ({ read with size := service.clamp read.size }.plan compiler).mapError .ofQuery

def execute (service : Service) (query : Query) : Except ServiceError Page := do
  return service.store.run (← service.prepare query)

/-- The number of records that satisfy a query. Its page and its size do not matter. -/
def count (service : Service) (query : Query) : Except ServiceError Nat := do
  let compiler ← service.compiler query.entity
  return service.store.count (← (query.applyText.criteria compiler).mapError .ofQuery)

def executeNamed (service : Service) (name text : String) (page size : UInt64) :
    Except ServiceError Page :=
  match service.registry.named? name with
  | none => .error (.ofSchema (.unknownEntityName name))
  | some entity => service.execute (((Query.ofEntity entity.id).withText text).withPage page size)

def compile (service : Service) (group : Group) (entity : Identifier) :
    Except ServiceError Criteria := do
  let compiler ← service.compiler entity
  (compiler.compile group entity).mapError .ofQuery

end Service
end VirtualRecords
