import VirtualRecords.Criteria.Compare
import VirtualRecords.Criteria.Compiler
import VirtualRecords.Proofs.Text.Like
import VirtualRecords.Record

/-! What a condition says of a record, read off the tree itself and without criteria. A leaf
compares the value that its field leads to with its literal: for equality, orders and
lists in the form that the field's declared type gives the literal, for parts of text as
it was written. A value that is missing or null satisfies the test for null alone. A
group of all holds if every member does, a group of any if one does, and a group without
members always. -/

namespace VirtualRecords

/-- From object to object, one member deeper with each key, the keys lead to the value. -/
inductive FieldPath.Leads : (payload : Json.Members) → (keys : List String) → Json → Prop where
  | here {payload : Json.Members} {key : String} {value : Json} :
      payload.get? key = some value → Leads payload [key] value
  | deeper {payload members : Json.Members} {key next : String} {rest : List String}
      {value : Json} :
      payload.get? key = some (.object members) → Leads members (next :: rest) value →
      Leads payload (key :: next :: rest) value

def Record.Shows (record : Record) (field : String) (value : Json) : Prop :=
  FieldPath.Leads record.payload (FieldPath.ofField field).keys value ∧ value.isNull = false

/-- The literal in the form that the declared type of the field gives it, or as it stands
where the field has no type or the type no form for it. -/
def Compiler.form (compiler : Compiler) (field : String) (literal : Json) : Json :=
  ((compiler.type? field).bind (·.coerce? literal)).getD literal

namespace Json

def patternChars : Json → List Char
  | string s => s.toList
  | other => other.text.toList

def TextHas (demand : List Char → Prop) (value : Json) : Prop :=
  ∃ text, value.scalarText? = some text ∧ demand text.toList

end Json

/-- What an operator says of the values that a field shows, of which there is at most one. -/
def Operator.Holds (form : Json → Json) (literal : Json) (shows : Json → Prop) : Operator → Prop
  | .eq =>
    if literal.isNull then ¬ ∃ value, shows value
    else ∃ value, shows value ∧ value.equals (form literal) = true
  | .neq =>
    if literal.isNull then ∃ value, shows value
    else ∃ value, shows value ∧ value.equals (form literal) = false
  | .gt => ∃ value, shows value ∧ value.order? (form literal) = some .gt
  | .gte =>
    ∃ value, shows value ∧
      (value.order? (form literal) = some .gt ∨ value.order? (form literal) = some .eq)
  | .lt => ∃ value, shows value ∧ value.order? (form literal) = some .lt
  | .lte =>
    ∃ value, shows value ∧
      (value.order? (form literal) = some .lt ∨ value.order? (form literal) = some .eq)
  | .contains =>
    match literal with
    | .string s => ∃ value, shows value ∧ value.TextHas (Text.FitsInside s.toList)
    | element => ∃ items, shows (.array items) ∧ ∃ item ∈ items, item.equals element = true
  | .startsWith => ∃ value, shows value ∧ value.TextHas (Text.FitsAtStart literal.patternChars)
  | .endsWith => ∃ value, shows value ∧ value.TextHas (Text.FitsAtEnd literal.patternChars)
  | .isIn =>
    ∃ value items, shows value ∧ Compiler.items? literal = some items ∧
      ∃ item ∈ items, value.equals (form item) = true
  | .notIn =>
    ∃ value items, shows value ∧ Compiler.items? literal = some items ∧
      ∀ item ∈ items, value.equals (form item) = false
  | .isNull => ¬ ∃ value, shows value
  | .isNotNull => ∃ value, shows value

def Leaf.Holds (compiler : Compiler) (record : Record) (leaf : Leaf) : Prop :=
  ∃ op, leaf.operator? = some op ∧
    op.Holds (compiler.form leaf.field) leaf.value (record.Shows leaf.field)

inductive Group.Holds (compiler : Compiler) (record : Record) : Group → Prop where
  | empty (connective : Connective) : Holds compiler record ⟨connective, [], []⟩
  | all {leaves : List Leaf} {groups : List Group} :
      (∀ leaf ∈ leaves, leaf.Holds compiler record) →
      (∀ group ∈ groups, Holds compiler record group) → Holds compiler record ⟨.all, leaves, groups⟩
  | anyLeaf {leaves : List Leaf} {groups : List Group} {leaf : Leaf} :
      leaf ∈ leaves → leaf.Holds compiler record → Holds compiler record ⟨.any, leaves, groups⟩
  | anyGroup {leaves : List Leaf} {groups : List Group} {group : Group} :
      group ∈ groups → Holds compiler record group → Holds compiler record ⟨.any, leaves, groups⟩

namespace FieldPath

theorem leads_iff_findIn? {payload : Json.Members} {keys : List String} {value : Json} :
    Leads payload keys value ↔ findIn? payload keys = some value := by
  constructor
  · intro leads
    induction leads with
    | here held => exact held
    | deeper held _ ih => simp [findIn?, held, Json.asObject?, ih]
  · intro found
    induction keys generalizing payload with
    | nil => cases found
    | cons key rest ih =>
      cases rest with
      | nil => exact .here found
      | cons next rest =>
        simp only [findIn?, Option.bind_eq_bind, Option.bind_eq_some_iff] at found
        obtain ⟨held, member, members, isObject, found⟩ := found
        cases held with
        | object inner =>
          obtain rfl : inner = members := by simpa [Json.asObject?] using isObject
          exact .deeper member (ih found)
        | _ => cases isObject

end FieldPath

theorem Record.shows_iff {record : Record} {field : String} {value : Json} :
    record.Shows field value ↔
      (FieldPath.ofField field).find? record.payload = some value ∧ value.isNull = false := by
  rw [Record.Shows, FieldPath.leads_iff_findIn?, FieldPath.find?]

namespace Group

variable {compiler : Compiler} {record : Record} {leaves : List Leaf} {groups : List Group}

theorem holds_all_iff :
    Holds compiler record ⟨.all, leaves, groups⟩ ↔
      (∀ leaf ∈ leaves, leaf.Holds compiler record) ∧
        ∀ group ∈ groups, Holds compiler record group := by
  constructor
  · intro h
    cases h with
    | empty => simp
    | all own nested => exact ⟨own, nested⟩
  · rintro ⟨own, nested⟩
    exact .all own nested

theorem holds_any_iff :
    Holds compiler record ⟨.any, leaves, groups⟩ ↔
      (leaves = [] ∧ groups = []) ∨ (∃ leaf ∈ leaves, leaf.Holds compiler record) ∨
        ∃ group ∈ groups, Holds compiler record group := by
  constructor
  · intro h
    cases h with
    | empty => exact .inl ⟨rfl, rfl⟩
    | anyLeaf member holds => exact .inr (.inl ⟨_, member, holds⟩)
    | anyGroup member holds => exact .inr (.inr ⟨_, member, holds⟩)
  · rintro (⟨rfl, rfl⟩ | ⟨leaf, member, holds⟩ | ⟨group, member, holds⟩)
    · exact .empty .any
    · exact .anyLeaf member holds
    · exact .anyGroup member holds

end Group
end VirtualRecords
