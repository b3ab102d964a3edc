import VirtualRecords.Criteria.Compiler
import VirtualRecords.Criteria.Holds
import VirtualRecords.Criteria.Sql
import VirtualRecords.Page
import VirtualRecords.RecordOrder

/-! Plans: queries that are ready to run, with criteria, an order and a window. A plan keeps
the records that satisfy its criteria, puts them in the order of creation and then in
its own order, and cuts its window out of them. -/

namespace VirtualRecords

structure Plan where
  criteria : Criteria
  order? : Option FieldOrder
  window : Window

namespace Query

/-- The order that the query asks for; a blank field asks for none. -/
def order? (query : Query) : Option FieldOrder :=
  (query.sortField.filter fun field => !Text.isBlankString field).map fun field =>
    { path := .ofField field, direction := query.direction }

def plan (query : Query) (compiler : Compiler) : Except QueryError Plan :=
  if query.size = 0 then .error .zeroPageSize
  else do
    return {
      criteria := ← query.criteria compiler
      order? := query.order?
      window := ⟨query.page, query.size⟩ }

end Query

namespace Criteria

def select (criteria : Criteria) (records : List Record) : List Record :=
  records.filter fun record => criteria.holds record

def count (criteria : Criteria) (records : List Record) : Nat := (criteria.select records).length

end Criteria

namespace Plan

def result (plan : Plan) (records : List Record) : List Record :=
  let inOrder := Record.sortByCreation (plan.criteria.select records)
  match plan.order? with
  | none => inOrder
  | some order => order.sort inOrder

def run (plan : Plan) (records : List Record) : Page :=
  .ofRecords (plan.result records) plan.window

def orderSql (order : FieldOrder) : Sql :=
  .words " ORDER BY " :: order.path.sql ++ [.words (" " ++ order.direction.name)]

def windowText (window : Window) : String :=
  " LIMIT " ++ natText window.limit ++ " OFFSET " ++ natText window.offset

def sql (plan : Plan) : Sql :=
  .words "WHERE " :: plan.criteria.sql ++ (plan.order?.map orderSql).getD [] ++
    [.words (windowText plan.window)]

def text (plan : Plan) : String := plan.sql.text

end Plan
end VirtualRecords
