import VirtualRecords.Condition.Operator
import VirtualRecords.Criteria.Path
import VirtualRecords.Identifier

/-! Criteria: what a query asks of a record, in terms of paths into its payload and of
values that are ready for comparison. -/

namespace VirtualRecords

inductive Relation where
  | eq
  | neq
  | gt
  | gte
  | lt
  | lte
deriving DecidableEq

inductive Test where
  | compare (relation : Relation) (value : Json)
  | like (pattern : String)
  | contains (value : Json)
  | isIn (values : List Json)
  | notIn (values : List Json)
  | isNull
  | isNotNull

inductive Criteria where
  | all
  | entity (id : Identifier)
  | field (path : FieldPath) (test : Test)
  | and (parts : List Criteria)
  | or (parts : List Criteria)

namespace Criteria

def join : Connective → List Criteria → Criteria
  | .all => and
  | .any => or

def ownEntity? : Criteria → Option Identifier
  | entity id => some id
  | _ => none

/-- The entity that the criteria are limited to, as far as their top level shows it. -/
def entityScope? : Criteria → Option Identifier
  | and parts => parts.findSome? ownEntity?
  | other => other.ownEntity?

end Criteria
end VirtualRecords
