/-! What can go wrong with a query, while its criteria are made or while it runs. -/

namespace VirtualRecords

inductive QueryError where
  | emptyField
  | unknownOperator (name : String)
  | invalidLiteral (field expected found : String)
  | invalidList (field operator : String)
  | missingValue (field operator : String)
  | zeroPageSize
  | executionFailed (reason : String)
deriving DecidableEq

namespace QueryError

def isExecution : QueryError → Bool
  | executionFailed _ => true
  | _ => false

def isClientError (e : QueryError) : Bool := !e.isExecution

def status (e : QueryError) : Nat := if e.isExecution then 500 else 400

def text : QueryError → String
  | emptyField => "Field name cannot be empty"
  | unknownOperator name => "Unsupported operator: " ++ name
  | invalidLiteral field expected found =>
    "Invalid value for field '" ++ field ++ "': expected " ++ expected ++ ", got " ++ found
  | invalidList field operator =>
    "Operator '" ++ operator ++ "' on field '" ++ field ++ "' requires a list value"
  | missingValue field operator =>
    "Operator '" ++ operator ++ "' on field '" ++ field ++ "' requires a value"
  | zeroPageSize => "Page size must be greater than zero"
  | executionFailed reason => "Query execution failed: " ++ reason

end QueryError
end VirtualRecords
