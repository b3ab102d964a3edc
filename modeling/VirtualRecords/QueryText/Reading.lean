import VirtualRecords.Condition.Query
import VirtualRecords.QueryText.Bracket
import VirtualRecords.QueryText.Clause
import VirtualRecords.QueryText.Comparison
import VirtualRecords.QueryText.Connectives

/-! Reading query text into a group of conditions and an order. Bracketed texts are read
first, each into a group of its own: it takes the place of a root that is still empty,
and is put into one that is not. What is left of the conditions then goes into the root. -/

namespace VirtualRecords.QueryText

open Text

def isPlaceholder (part : List Char) : Bool := sameAsciiLetters (trim part) placeholder

def leavesOf (text : List Char) : List Leaf :=
  ((parts text).filter fun part => !isPlaceholder part).filterMap fun part =>
    (comparison? part).map Comparison.toLeaf

def readFlat (text : List Char) (group : Group) : Group :=
  { group with connective := connectiveOf text, leaves := group.leaves ++ leavesOf text }

def addBracket (root : Group) (inner : List Char) : Group :=
  let group := readFlat inner .empty
  if root.isEmpty then group else root.addGroup group

def readConditions (text : List Char) (root : Group) : Group :=
  let (inners, left) := extract text
  readFlat left (inners.foldl addBracket root)

/-- What a query text says: conditions put into a group that may hold some already, and an
order, which names a field and perhaps a direction. -/
structure Reading where
  root : Group
  order? : Option (String × Option Direction)

def read (text : String) (root : Group) : Reading :=
  let body := trim text.toList
  { root := match whereClause? body with
      | none => root
      | some conditions => readConditions conditions root
    order? := (orderClause? body).map fun (field, direction?) => (String.ofList field, direction?) }

def parse (text : String) : Reading := read text .empty

namespace Reading

def direction? (reading : Reading) : Option Direction :=
  reading.order?.map fun order => order.2.getD .ascending

def toJson (reading : Reading) : Json := .objectOf (Json.Members.present [
  ("rootGroup", some reading.root.toJson),
  ("sortField", reading.order?.map fun order => .string order.1),
  ("sortDirection", reading.direction?.map Direction.toJson)])

end Reading
end QueryText

namespace Query

/-- Reads the query's text into its conditions and its order. A direction that is not
written leaves the query's own. -/
def applyText (query : Query) : Query :=
  match query.textToRead? with
  | none => query
  | some text =>
    let reading := QueryText.read text query.root
    match reading.order? with
    | none => { query with root := reading.root }
    | some (field, direction?) =>
      { query with
        root := reading.root
        sortField := some field
        direction := direction?.getD query.direction }

end Query
end VirtualRecords
