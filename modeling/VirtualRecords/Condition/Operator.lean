import VirtualRecords.Json.Decode
import VirtualRecords.Text.Letter

/-! Comparison operators, connectives and sort directions, with their names. Operators of
conditions are matched without regard to the case of letters; connectives and
directions are written in capitals or in small letters. -/

namespace VirtualRecords

inductive Operator where
  | eq
  | neq
  | gt
  | gte
  | lt
  | lte
  | contains
  | startsWith
  | endsWith
  | isIn
  | notIn
  | isNull
  | isNotNull
deriving DecidableEq

inductive Connective where
  | all
  | any
deriving DecidableEq

inductive Direction where
  | ascending
  | descending
deriving DecidableEq

namespace Operator

def list : List Operator :=
  [eq, neq, gt, gte, lt, lte, contains, startsWith, endsWith, isIn, notIn, isNull, isNotNull]

def name : Operator → String
  | eq => "eq"
  | neq => "neq"
  | gt => "gt"
  | gte => "gte"
  | lt => "lt"
  | lte => "lte"
  | contains => "contains"
  | startsWith => "startsWith"
  | endsWith => "endsWith"
  | isIn => "in"
  | notIn => "notIn"
  | isNull => "isNull"
  | isNotNull => "isNotNull"

def ofName? (text : String) : Option Operator :=
  list.find? fun op => Text.equalsIgnoringCase op.name text

def ofExactName? (text : String) : Option Operator := list.find? (·.name == text)

theorem mem_list (op : Operator) : op ∈ list := by cases op <;> decide

@[simp] theorem ofName?_name (op : Operator) : ofName? op.name = some op := by
  cases op <;> decide

end Operator

namespace Connective

def name : Connective → String
  | all => "AND"
  | any => "OR"

def ofName? (text : String) : Option Connective :=
  if text = "AND" ∨ text = "and" then some all
  else if text = "OR" ∨ text = "or" then some any
  else none

def ofJson? (value : Json) : Option Connective := value.choice?.bind ofName?

def toJson (c : Connective) : Json := .string c.name

@[simp] theorem ofJson?_toJson (c : Connective) : ofJson? c.toJson = some c := by
  cases c <;> rfl

end Connective

namespace Direction

def name : Direction → String
  | ascending => "ASC"
  | descending => "DESC"

def ofName? (text : String) : Option Direction :=
  if text = "ASC" ∨ text = "asc" then some ascending
  else if text = "DESC" ∨ text = "desc" then some descending
  else none

def ofJson? (value : Json) : Option Direction := value.choice?.bind ofName?

def toJson (d : Direction) : Json := .string d.name

@[simp] theorem ofJson?_toJson (d : Direction) : ofJson? d.toJson = some d := by
  cases d <;> rfl

end Direction
end VirtualRecords
