import VirtualRecords.Condition.Query
import VirtualRecords.Criteria.Basic
import VirtualRecords.Criteria.Error
import VirtualRecords.Schema.Conformance
import VirtualRecords.Schema.Field

/-! From conditions to criteria. A literal takes the form that the declared type of its
field gives it; types of a strict shape turn other literals down. Criteria always ask
for the entity first, and a group without members asks for nothing more. -/

namespace VirtualRecords

/-- The declared types by which literals are read, the one that counts first. -/
structure Compiler where
  types : List (String × FieldType)

namespace Compiler

def untyped : Compiler := ⟨[]⟩

/-- Fields of unknown types count for nothing; of two with one key the later counts. -/
def ofFields (fields : List Field) : Compiler :=
  ⟨(fields.filterMap fun field => field.type?.map (field.key, ·)).reverse⟩

def type? (compiler : Compiler) (field : String) : Option FieldType := compiler.types.lookup field

def coerceTo (type : FieldType) (field : String) (value : Json) : Except QueryError Json :=
  match type.coerce? value with
  | some made => .ok made
  | none => if type.isStrict then .error (.invalidLiteral field type.name value.text) else .ok value

def coerce (compiler : Compiler) (field : String) (value : Json) : Except QueryError Json :=
  if value.isNull then .ok .null
  else
    match compiler.type? field with
    | none => .ok value
    | some type => coerceTo type field value

def literal (compiler : Compiler) (leaf : Leaf) : Except QueryError Json :=
  compiler.coerce leaf.field leaf.value

def missing (leaf : Leaf) (op : Operator) : QueryError := .missingValue leaf.field op.name

def required (compiler : Compiler) (leaf : Leaf) (op : Operator) : Except QueryError Json := do
  let value ← compiler.literal leaf
  if value.isNull then .error (missing leaf op) else .ok value

/-- The text between two characters, if it has both, and else the whole text. -/
def stripped (opening closing : Char) (text : List Char) : List Char :=
  (Text.within? opening closing text).getD text

/-- The items of a list written as text: between commas, in brackets or not, each in
quotes or not. Items of white space only do not count. -/
def listItems (text : List Char) : List Json :=
  let inner := stripped '(' ')' (Text.trim text)
  (((Text.pieces ',' inner).map Text.trim).filter (!·.isEmpty)).map fun item =>
    .string (String.ofList (stripped '\'' '\'' item))

def items? : Json → Option (List Json)
  | .array items => some items
  | .string s => some (listItems s.toList)
  | _ => none

def list (compiler : Compiler) (leaf : Leaf) (op : Operator) : Except QueryError (List Json) :=
  match items? leaf.value with
  | none => .error (.invalidList leaf.field op.name)
  | some items => items.mapM (compiler.coerce leaf.field)

def patternText (leaf : Leaf) (op : Operator) : Except QueryError String :=
  match leaf.value with
  | .null => .error (missing leaf op)
  | .string s => .ok s
  | other => .ok other.text

/-- Text is looked for inside text, any other value among the items of a list. -/
def containment (leaf : Leaf) (op : Operator) : Except QueryError Test :=
  match leaf.value with
  | .null => .error (missing leaf op)
  | .string s => .ok (.like ("%" ++ s ++ "%"))
  | other => .ok (.contains other)

/-- Equality with null is a test for null. -/
def equality (value : Json) : Test := if value.isNull then .isNull else .compare .eq value

def inequality (value : Json) : Test := if value.isNull then .isNotNull else .compare .neq value

def test (compiler : Compiler) (leaf : Leaf) (op : Operator) : Except QueryError Test :=
  match op with
  | .eq => do return equality (← compiler.literal leaf)
  | .neq => do return inequality (← compiler.literal leaf)
  | .gt => do return .compare .gt (← compiler.required leaf op)
  | .gte => do return .compare .gte (← compiler.required leaf op)
  | .lt => do return .compare .lt (← compiler.required leaf op)
  | .lte => do return .compare .lte (← compiler.required leaf op)
  | .contains => containment leaf op
  | .startsWith => do return .like ((← patternText leaf op) ++ "%")
  | .endsWith => do return .like ("%" ++ (← patternText leaf op))
  | .isIn => do return .isIn (← compiler.list leaf op)
  | .notIn => do return .notIn (← compiler.list leaf op)
  | .isNull => .ok .isNull
  | .isNotNull => .ok .isNotNull

def leaf (compiler : Compiler) (leaf : Leaf) : Except QueryError Criteria :=
  if Text.isBlankString leaf.field then .error .emptyField
  else
    match leaf.operator? with
    | none => .error (.unknownOperator leaf.operatorName)
    | some op => do return .field (.ofField leaf.field) (← compiler.test leaf op)

mutual

/-- The criteria of a group without its entity. The first member that is faulty, leaves
before groups, decides the error. -/
def group (compiler : Compiler) : Group → Except QueryError Criteria
  | ⟨connective, leaves, groups⟩ =>
    if leaves.isEmpty && groups.isEmpty then .ok .all
    else do
      let own ← leaves.mapM compiler.leaf
      let nested ← compiler.groups groups
      return Criteria.join connective (own ++ nested)

def groups (compiler : Compiler) : List Group → Except QueryError (List Criteria)
  | [] => .ok []
  | first :: rest => do return (← compiler.group first) :: (← compiler.groups rest)

end

def compile (compiler : Compiler) (group : Group) (entity : Identifier) :
    Except QueryError Criteria := do
  return .and [.entity entity, ← compiler.group group]

end Compiler

namespace Query

/-- The conditions that count: the flat ones, all of which must hold, if the root is empty
and there are any. -/
def conditions (query : Query) : Group :=
  if query.root.isEmpty && !query.flat.isEmpty then ⟨.all, query.flat, []⟩ else query.root

def criteria (query : Query) (compiler : Compiler) : Except QueryError Criteria :=
  compiler.compile query.conditions query.entity

theorem conditions_of_filled {query : Query} (filled : query.root.isEmpty = false) :
    query.conditions = query.root := by
  simp [conditions, filled]

theorem conditions_of_vacant {query : Query} (vacant : query.root.isEmpty = true)
    (some : query.flat ≠ []) : query.conditions = ⟨.all, query.flat, []⟩ := by
  simp [conditions, vacant, some]

end Query
end VirtualRecords
