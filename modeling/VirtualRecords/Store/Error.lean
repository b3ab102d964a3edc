import VirtualRecords.Identifier

/-! What can go wrong with a store of records. -/

namespace VirtualRecords

inductive StorageError where
  | recordNotFound (id : Identifier)
  | duplicateRecord (id : Identifier)
  | unavailable (reason : String)
  | ioError (reason : String) (cause : Option String)
deriving DecidableEq

namespace StorageError

def code : StorageError → String
  | recordNotFound _ => "MODELHUB_RECORD_NOT_FOUND"
  | duplicateRecord _ => "MODELHUB_DUPLICATE_RECORD"
  | unavailable _ => "MODELHUB_STORAGE_UNAVAILABLE"
  | ioError _ _ => "MODELHUB_STORAGE_IO_ERROR"

def message : StorageError → String
  | recordNotFound id => "Record with ID " ++ id.text ++ " not found"
  | duplicateRecord id => "Record with ID " ++ id.text ++ " already exists"
  | unavailable reason => reason
  | ioError reason _ => reason

def isNotFound : StorageError → Bool
  | recordNotFound _ => true
  | _ => false

def cause? : StorageError → Option String
  | ioError _ cause => cause
  | _ => none

def text (e : StorageError) : String :=
  let told := e.code ++ ": " ++ e.message
  match e.cause? with
  | none => told
  | some cause => told ++ " (caused by: " ++ cause ++ ")"

end StorageError
end VirtualRecords
