import VirtualRecords.Service.Basic

/-! The operations of the service as values, so that whole runs of them can be spoken of.
Each is performed with an identifier that is new and with the time. -/

namespace VirtualRecords

inductive Operation where
  | create (entity : Identifier) (payload : Json)
  | update (id : Identifier) (payload : Json)
  | get (id : Identifier)
  | delete (id : Identifier)
  | deleteByEntity (entity : Identifier)
  | recordsByEntity (entity : Identifier) (page size : UInt64)
  | execute (query : Query)
  | executeNamed (name text : String) (page size : UInt64)
  | count (query : Query)
  | compile (group : Group) (entity : Identifier)
  | prepare (query : Query)

inductive Answer where
  | nothing
  | record (record : Record)
  | count (n : Nat)
  | page (page : Page)
  | criteria (criteria : Criteria)
  | plan (plan : Plan)

namespace Service

/-- The service after an operation, which is the same as before if the operation failed. -/
def after (service : Service) {α : Type} (result : Except ServiceError (Service × α))
    (answer : α → Answer) : Service × Except ServiceError Answer :=
  match result with
  | .ok (changed, value) => (changed, .ok (answer value))
  | .error e => (service, .error e)

def perform (service : Service) (operation : Operation) (fresh : Identifier) (now : Instant) :
    Service × Except ServiceError Answer :=
  match operation with
  | .create entity payload => service.after (service.create fresh entity payload now) .record
  | .update id payload => service.after (service.update id payload now) .record
  | .get id => (service, (service.get id).map .record)
  | .delete id => service.after ((service.delete id).map (·, ())) fun _ => .nothing
  | .deleteByEntity entity =>
    let (left, n) := service.deleteByEntity entity
    (left, .ok (.count n))
  | .recordsByEntity entity page size =>
    (service, (service.recordsByEntity entity page size).map .page)
  | .execute query => (service, (service.execute query).map .page)
  | .executeNamed name text page size =>
    (service, (service.executeNamed name text page size).map .page)
  | .count query => (service, (service.count query).map .count)
  | .compile group entity => (service, (service.compile group entity).map .criteria)
  | .prepare query => (service, (service.prepare query).map .plan)

end Service
end VirtualRecords
