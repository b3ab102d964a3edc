import VirtualRecords.Json.Decode
import VirtualRecords.Json.Printer
import VirtualRecords.Service.Error

/-! Envelopes around answers: what was asked for, or the error with its code and status. -/

namespace VirtualRecords

inductive Envelope where
  | success (data : Json)
  | failure (error : ServiceError)

namespace Envelope

def isSuccess : Envelope → Bool
  | success _ => true
  | failure _ => false

def errorMembers (e : ServiceError) : List (String × Json) := Json.Members.present [
  ("status", some (.string "error")),
  ("code", some (.string e.code)),
  ("http_status", some (.ofCount e.status)),
  ("message", some (.string e.text)),
  ("violations",
    if e.violations.isEmpty then none else some (.array (e.violations.map .string)))]

def toJson : Envelope → Json
  | success data => .object [("status", .string "ok"), ("data", data)]
  | failure e => .object (errorMembers e)

def text (envelope : Envelope) : String := envelope.toJson.pretty

def ofResult : Except ServiceError Json → Envelope
  | .ok data => success data
  | .error e => failure e

end Envelope
end VirtualRecords
