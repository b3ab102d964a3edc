import VirtualRecords.Schema.Error

/-! What ends a command without an answer. -/

namespace VirtualRecords

inductive CommandError where
  | config (reason : String)
  | invalidArgument (reason : String)
  | data (reason : String)
  | schema (error : SchemaError)
  | io (reason : String)
  | json (reason : String)
deriving DecidableEq

def CommandError.text : CommandError → String
  | config reason => "config error: " ++ reason
  | invalidArgument reason => "invalid argument: " ++ reason
  | data reason => "data error: " ++ reason
  | schema error => "schema error: " ++ error.text
  | io reason => "I/O error: " ++ reason
  | json reason => "JSON error: " ++ reason

end VirtualRecords
