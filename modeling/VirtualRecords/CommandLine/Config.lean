import VirtualRecords.CommandLine.Error
import VirtualRecords.CommandLine.LogFilter
import VirtualRecords.FileTree
import VirtualRecords.Json.Decode
import VirtualRecords.Json.Reader
import VirtualRecords.Number.Shortest
import VirtualRecords.Service.Basic

/-! The configuration of the program: a data folder, page sizes and a log filter. Page sizes
are positive, and the default one is not greater than the greatest one. -/

namespace VirtualRecords

structure Config where
  dataFolder : String
  defaultPageSize : UInt64
  maxPageSize : UInt64
  logLevel : String
deriving DecidableEq

namespace Config

def outline : Json.Outline := .record [
  ("data_dir", .value), ("default_page_size", .value), ("max_page_size", .value),
  ("log_level", .value)]

def ofMembers? (members : Json.Members) : Option Config := do
  return {
    dataFolder := ← members.required? "data_dir" Json.asString?
    defaultPageSize := ← members.default? "default_page_size" Query.defaultSize Json.toUInt64?
    maxPageSize := ← members.default? "max_page_size" Service.defaultMaxPageSize Json.toUInt64?
    logLevel := ← members.default? "log_level" "info" Json.asString? }

def toJson (config : Config) : Json := .objectOf [
  ("data_dir", .string config.dataFolder),
  ("default_page_size", .ofUInt64 config.defaultPageSize),
  ("max_page_size", .ofUInt64 config.maxPageSize),
  ("log_level", .string config.logLevel)]

def ofText? (text : String) : Option Config :=
  ((Json.ofTextBy? outline text).bind Json.asObject?).bind ofMembers?

def fault? (config : Config) : Option String :=
  if config.defaultPageSize = 0 then some "default_page_size must be > 0"
  else if config.maxPageSize = 0 then some "max_page_size must be > 0"
  else if config.maxPageSize < config.defaultPageSize then
    some ("default_page_size (" ++ natText config.defaultPageSize.toNat ++
      ") exceeds max_page_size (" ++ natText config.maxPageSize.toNat ++ ")")
  else if !LogFilter.isValid config.logLevel then
    some ("Invalid log_level '" ++ config.logLevel ++ "': invalid filter directive")
  else none

def unreadable : String := "Failed to read config: "

def undecodable : String := "Invalid config JSON: "

def load (tree : FileTree) (path : String) : Except CommandError Config :=
  match tree.read path with
  | .error failure => .error (.config (unreadable ++ failure.text))
  | .ok text =>
    match ofText? text with
    | none => .error (.config (undecodable ++ "not a configuration"))
    | some config =>
      match config.fault? with
      | some reason => .error (.config reason)
      | none => .ok config

end Config
end VirtualRecords
