import VirtualRecords.Identifier
import VirtualRecords.Text.Pieces

/-! What can go wrong with entities and payloads: the causes, their codes, their severity
and their texts. -/

namespace VirtualRecords

structure Rejection where
  messages : List String
  nonempty : messages ≠ []
deriving DecidableEq

namespace Rejection

def ofMessages? (messages : List String) : Option Rejection :=
  if nonempty : messages ≠ [] then some { messages, nonempty } else none

def text (rejection : Rejection) : String :=
  "Record validation failed: " ++ Text.join "; " rejection.messages

end Rejection

inductive Severity where
  | reject
  | fatal
deriving DecidableEq

def Severity.text : Severity → String
  | reject => "REJECT"
  | fatal => "FATAL"

inductive SchemaError where
  | validationFailed (entity : Option Identifier) (rejection : Rejection)
  | malformedPayload (found : String)
  | unknownEntity (id : Identifier)
  | unknownEntityName (name : String)
  | duplicateEntity (id : Identifier)
  | malformedDefinition (path : String) (reason : String)
deriving DecidableEq

namespace SchemaError

def code : SchemaError → String
  | validationFailed _ _ => "MODELHUB_VALIDATION_FAILED"
  | malformedPayload _ => "MODELHUB_MALFORMED_PAYLOAD"
  | unknownEntity _ => "MODELHUB_UNKNOWN_ENTITY"
  | unknownEntityName _ => "MODELHUB_UNKNOWN_ENTITY"
  | duplicateEntity _ => "MODELHUB_DUPLICATE_ENTITY"
  | malformedDefinition _ _ => "MODELHUB_MALFORMED_DEFINITION"

/-- Only a bad definition makes the definitions as a whole unusable. -/
def severity : SchemaError → Severity
  | malformedDefinition _ _ => .fatal
  | _ => .reject

def message : SchemaError → String
  | validationFailed _ rejection => rejection.text
  | malformedPayload found => "Record payload must be an object, got " ++ found
  | unknownEntity id => "Entity with ID " ++ id.text ++ " not found"
  | unknownEntityName name => "Entity named '" ++ name ++ "' not found"
  | duplicateEntity id => "Entity with ID " ++ id.text ++ " is already registered"
  | malformedDefinition path reason => "Malformed entity definition '" ++ path ++ "': " ++ reason

def entity? : SchemaError → Option Identifier
  | validationFailed entity _ => entity
  | unknownEntity id => some id
  | duplicateEntity id => some id
  | _ => none

def rejection? : SchemaError → Option Rejection
  | validationFailed _ rejection => some rejection
  | _ => none

def isFatal (e : SchemaError) : Bool := e.severity = .fatal

def text (e : SchemaError) : String :=
  "[" ++ e.severity.text ++ "] " ++ e.code ++ ": " ++ e.message

end SchemaError
end VirtualRecords
