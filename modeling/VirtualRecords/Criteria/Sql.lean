import VirtualRecords.Criteria.Basic
import VirtualRecords.Json.Printer

/-! Criteria as SQL text. The text is made of fragments: words of the language, and string
literals, which alone hold text from outside. A quote inside a literal is doubled. -/

namespace VirtualRecords

inductive SqlFragment where
  | words (text : String)
  | literal (text : String)
deriving DecidableEq

abbrev Sql := List SqlFragment

namespace SqlFragment

def doubleQuote (c : Char) : List Char := if c = '\'' then ['\'', '\''] else [c]

def chars : SqlFragment → List Char
  | words text => text.toList
  | literal text => '\'' :: text.toList.flatMap doubleQuote ++ ['\'']

end SqlFragment

namespace Sql

def text (sql : Sql) : String := String.ofList (sql.flatMap SqlFragment.chars)

def separated (words : String) : List Sql → Sql
  | [] => []
  | [sql] => sql
  | sql :: next :: rest => sql ++ .words words :: separated words (next :: rest)

end Sql

namespace FieldPath

def keySql (key : String) : Sql := [.words "->", .literal key]

def sql (path : FieldPath) : Sql := .words "payload" :: path.keys.flatMap keySql

def text (path : FieldPath) : String := path.sql.text

end FieldPath

/-- A value as a literal of SQL; a list or an object is a string of JSON text. -/
def Json.sql : Json → Sql
  | null => [.words "NULL"]
  | bool b => [.words (boolText b)]
  | number n => [.words n.text]
  | string s => [.literal s]
  | other => [.literal other.text]

def Relation.symbol : Relation → String
  | eq => "="
  | neq => "<>"
  | gt => ">"
  | gte => ">="
  | lt => "<"
  | lte => "<="

namespace Test

def listSql (values : List Json) : Sql := Sql.separated ", " (values.map Json.sql)

def sql : Test → Sql
  | compare relation value => .words (" " ++ relation.symbol ++ " ") :: value.sql
  | like pattern => [.words " LIKE ", .literal pattern]
  | contains value => [.words " @> ", .literal (Json.array [value]).text]
  | isIn values => .words " IN (" :: listSql values ++ [.words ")"]
  | notIn values => .words " NOT IN (" :: listSql values ++ [.words ")"]
  | isNull => [.words " IS NULL"]
  | isNotNull => [.words " IS NOT NULL"]

end Test

namespace Criteria

mutual

/-- A conjunction of nothing is true, a disjunction of nothing false. -/
def sql : Criteria → Sql
  | all => [.words "TRUE"]
  | entity id => [.words "entity_id = ", .literal id.text]
  | field path test => path.sql ++ test.sql
  | and [] => [.words "TRUE"]
  | and (part :: rest) => .words "(" :: joinedSql " AND " (part :: rest) ++ [.words ")"]
  | or [] => [.words "FALSE"]
  | or (part :: rest) => .words "(" :: joinedSql " OR " (part :: rest) ++ [.words ")"]

def joinedSql (words : String) : List Criteria → Sql
  | [] => []
  | [part] => sql part
  | part :: next :: rest => sql part ++ .words words :: joinedSql words (next :: rest)

end

def text (criteria : Criteria) : String := criteria.sql.text

end Criteria
end VirtualRecords
