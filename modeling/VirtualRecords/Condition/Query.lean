import VirtualRecords.Condition.Group
import VirtualRecords.Identifier
import VirtualRecords.Text.Blank

/-! Queries on the records of one entity: a group of conditions, text that is still to be
read into it, flat conditions that count only where the group is empty, an order and a
page. -/

namespace VirtualRecords

structure Query where
  entity : Identifier
  text : Option String
  root : Group
  flat : List Leaf
  connective : Connective
  sortField : Option String
  direction : Direction
  page : UInt64
  size : UInt64

namespace Query

def defaultSize : UInt64 := 20

def ofEntity (entity : Identifier) : Query where
  entity
  text := none
  root := .empty
  flat := []
  connective := .all
  sortField := none
  direction := .ascending
  page := 0
  size := defaultSize

def withText (query : Query) (text : String) : Query := { query with text := some text }

def withRoot (query : Query) (root : Group) : Query := { query with root }

def withFlat (query : Query) (leaf : Leaf) : Query := { query with flat := query.flat ++ [leaf] }

def withSort (query : Query) (field : String) (direction : Direction) : Query :=
  { query with sortField := some field, direction }

def withPage (query : Query) (page size : UInt64) : Query := { query with page, size }

/-- The text to be read, unless there is none or it is blank. -/
def textToRead? (query : Query) : Option String :=
  query.text.filter fun s => !Text.isBlankString s

def hasText (query : Query) : Bool := query.textToRead?.isSome

def toJson (query : Query) : Json := .objectOf (Json.Members.present [
  ("entityId", some query.entity.toJson),
  ("queryString", query.text.map .string),
  ("rootGroup", some query.root.toJson),
  ("conditions",
    if query.flat.isEmpty then none else some (.array (query.flat.map Leaf.toJson))),
  ("logicalOperator", some query.connective.toJson),
  ("sortField", query.sortField.map .string),
  ("sortDirection", some query.direction.toJson),
  ("page", some (.ofUInt64 query.page)),
  ("size", some (.ofUInt64 query.size))])

def ofMembers? (members : Json.Members) : Option Query := do
  return {
    entity := ← members.required? "entityId" Identifier.ofJson?
    text := ← members.optional? "queryString" Json.asString?
    root := ← members.default? "rootGroup" .empty Group.ofJson?
    flat := ← members.default? "conditions" [] (Json.listOf? Leaf.ofJson?)
    connective := ← members.default? "logicalOperator" .all Connective.ofJson?
    sortField := ← members.optional? "sortField" Json.asString?
    direction := ← members.default? "sortDirection" .ascending Direction.ofJson?
    page := ← members.default? "page" 0 Json.toUInt64?
    size := ← members.default? "size" defaultSize Json.toUInt64? }

def ofJson? (value : Json) : Option Query := value.asObject?.bind ofMembers?

end Query
end VirtualRecords
