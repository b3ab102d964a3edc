import VirtualRecords.Criteria.Error
import VirtualRecords.Schema.Error
import VirtualRecords.Store.Error

/-! What a caller of the service is told when something goes wrong: one taxonomy, with HTTP
statuses, into which the errors of entities, queries and stores are folded. -/

namespace VirtualRecords

inductive ServiceError where
  | validation (rejection : Rejection)
  | queryBuild (error : QueryError)
  | malformedPayload (reason : String)
  | notFound (what : String)
  | queryExecution (reason : String)
  | internal (reason : String)
deriving DecidableEq

namespace ServiceError

def code : ServiceError → String
  | validation _ => "VALIDATION_FAILED"
  | queryBuild _ => "QUERY_BUILD_FAILED"
  | malformedPayload _ => "MALFORMED_PAYLOAD"
  | notFound _ => "NOT_FOUND"
  | queryExecution _ => "QUERY_EXECUTION_FAILED"
  | internal _ => "INTERNAL_ERROR"

def status : ServiceError → Nat
  | validation _ | queryBuild _ | malformedPayload _ => 400
  | notFound _ => 404
  | queryExecution _ | internal _ => 500

def isClientError (e : ServiceError) : Bool := e.status < 500

def text : ServiceError → String
  | validation rejection => rejection.text
  | queryBuild error => "Invalid query: " ++ error.text
  | malformedPayload reason => "Malformed payload: " ++ reason
  | notFound what => what
  | queryExecution reason => "Query execution failed: " ++ reason
  | internal reason => "Internal error: " ++ reason

def rejection? : ServiceError → Option Rejection
  | validation rejection => some rejection
  | _ => none

def violations (e : ServiceError) : List String := (e.rejection?.map Rejection.messages).getD []

def ofQuery (e : QueryError) : ServiceError :=
  if e.isExecution then queryExecution e.text else queryBuild e

def ofSchema : SchemaError → ServiceError
  | .validationFailed _ rejection => validation rejection
  | .malformedPayload found => malformedPayload (SchemaError.malformedPayload found).message
  | .unknownEntity id => notFound (SchemaError.unknownEntity id).message
  | .unknownEntityName name => notFound (SchemaError.unknownEntityName name).message
  | .duplicateEntity id => internal (SchemaError.duplicateEntity id).text
  | .malformedDefinition path reason => internal (SchemaError.malformedDefinition path reason).text

def ofStorage (e : StorageError) : ServiceError :=
  if e.isNotFound then notFound e.message else queryExecution e.text

end ServiceError
end VirtualRecords
