import VirtualRecords.Calendar.Instant
import VirtualRecords.Identifier
import VirtualRecords.Json.Decode

/-! Records: instances of an entity, each with a payload, an identifier of its own and the
times at which it was made and last changed. -/

namespace VirtualRecords

structure Record where
  id : Identifier
  entity : Identifier
  payload : Json.Members
  created : Instant
  updated : Instant

namespace Record

def make (id entity : Identifier) (payload : Json.Members) (now : Instant) : Record :=
  { id, entity, payload, created := now, updated := now }

def replacePayload (record : Record) (payload : Json.Members) (now : Instant) : Record :=
  { record with payload, updated := now }

def toJson (record : Record) : Json := .objectOf [
  ("id", record.id.toJson),
  ("entityId", record.entity.toJson),
  ("payload", .object record.payload),
  ("createdAt", record.created.toJson),
  ("updatedAt", record.updated.toJson)]

def ofMembers? (members : Json.Members) : Option Record := do
  return {
    id := ← members.required? "id" Identifier.ofJson?
    entity := ← members.required? "entityId" Identifier.ofJson?
    payload := ← members.required? "payload" Json.asObject?
    created := ← members.required? "createdAt" Instant.ofJson?
    updated := ← members.required? "updatedAt" Instant.ofJson? }

def ofJson? (value : Json) : Option Record := value.asObject?.bind ofMembers?

end Record
end VirtualRecords
