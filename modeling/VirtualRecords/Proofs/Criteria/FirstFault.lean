import VirtualRecords.Proofs.Criteria.Leaves
import VirtualRecords.Proofs.Criteria.Literal

/-! Which leaf decides. A leaf is at fault because its field is blank, else because its operator is
unknown, else because of its value: a literal that cannot take the strict shape of the field's
type, no value where one is needed, no list where one is, or an item that cannot take the shape.
Conditions can be made into criteria exactly if no leaf at any depth is at fault, and otherwise
the fault of the first such leaf is reported, the leaves of a group before the groups in it. -/

namespace VirtualRecords

structure Compiler.Unfit (compiler : Compiler) (field : String) (literal : Json)
    (type : FieldType) : Prop where
  declared : compiler.type? field = some type
  strict : type ∈ [.number, .integer, .boolean, .date, .datetime]
  notNull : literal.isNull = false
  formless : type.coerce? literal = none

/-- What is wrong with the value of a leaf for an operator, with all that the message says. -/
inductive Compiler.ValueFault (compiler : Compiler) (leaf : Leaf) (op : Operator) :
    QueryError → Prop where
  | unfitLiteral {type : FieldType} : op ∈ [.eq, .neq, .gt, .gte, .lt, .lte] →
      compiler.Unfit leaf.field leaf.value type →
      ValueFault compiler leaf op (.invalidLiteral leaf.field type.name leaf.value.text)
  | missing : op ∈ [.gt, .gte, .lt, .lte, .contains, .startsWith, .endsWith] →
      leaf.value = .null → ValueFault compiler leaf op (.missingValue leaf.field op.name)
  | noList : op ∈ [.isIn, .notIn] → (∀ items, leaf.value ≠ .array items) →
      (∀ s, leaf.value ≠ .string s) →
      ValueFault compiler leaf op (.invalidList leaf.field op.name)
  | unfitItem {type : FieldType} {before after : List Json} {item : Json} : op ∈ [.isIn, .notIn] →
      Compiler.items? leaf.value = some (before ++ item :: after) →
      (∀ earlier ∈ before, ∀ other, ¬ compiler.Unfit leaf.field earlier other) →
      compiler.Unfit leaf.field item type →
      ValueFault compiler leaf op (.invalidLiteral leaf.field type.name item.text)

/-- What is wrong with a leaf: its field, else its operator, else its value. -/
inductive Compiler.Faulty (compiler : Compiler) (leaf : Leaf) : QueryError → Prop where
  | blankField : Text.isBlankString leaf.field = true → Faulty compiler leaf .emptyField
  | unknownOperator : Text.isBlankString leaf.field = false →
      (∀ op : Operator, Text.equalsIgnoringCase op.name leaf.operatorName = false) →
      Faulty compiler leaf (.unknownOperator leaf.operatorName)
  | value {op : Operator} {e : QueryError} : Text.isBlankString leaf.field = false →
      Text.equalsIgnoringCase op.name leaf.operatorName = true → compiler.ValueFault leaf op e →
      Faulty compiler leaf e

def Compiler.Sound (compiler : Compiler) (leaf : Leaf) : Prop := ∀ e, ¬ compiler.Faulty leaf e

theorem FieldType.isStrict_iff {type : FieldType} :
    type.isStrict = true ↔ type ∈ [.number, .integer, .boolean, .date, .datetime] := by
  cases type <;> decide

theorem Operator.eq_of_sameLetters {a b : Operator}
    (same : a.name.toList.map Char.toLower = b.name.toList.map Char.toLower) : a = b := by
  have each : ∀ a ∈ list, ∀ b ∈ list,
      a.name.toList.map Char.toLower = b.name.toList.map Char.toLower → a = b := by decide
  exact each a (mem_list a) b (mem_list b) same

theorem Operator.spelled_of_ofName? {text : String} {op : Operator}
    (found : ofName? text = some op) : Text.equalsIgnoringCase op.name text = true := by
  have spelled := List.find?_some found
  exact spelled

theorem Operator.ofName?_eq_some_iff {text : String} {op : Operator} :
    ofName? text = some op ↔ Text.equalsIgnoringCase op.name text = true := by
  refine ⟨spelled_of_ofName?, fun spelled => ?_⟩
  cases found : ofName? text with
  | none => exact absurd spelled (List.find?_eq_none.1 found op (mem_list op))
  | some other =>
    have first := eq_of_beq spelled
    have second := eq_of_beq (spelled_of_ofName? found)
    rw [eq_of_sameLetters (second.trans first.symm)]

theorem Leaf.operator?_eq_none_iff {leaf : Leaf} :
    leaf.operator? = none ↔
      ∀ op : Operator, Text.equalsIgnoringCase op.name leaf.operatorName = false := by
  simp [operator?, Option.eq_none_iff_forall_ne_some, Operator.ofName?_eq_some_iff]

namespace Compiler

variable {compiler : Compiler} {field : String} {value : Json} {leaf : Leaf} {op : Operator}
  {e : QueryError}

theorem coerce_eq_error_iff :
    compiler.coerce field value = .error e ↔
      ∃ type, compiler.Unfit field value type ∧ e = .invalidLiteral field type.name value.text := by
  constructor
  · intro failed
    unfold coerce at failed
    split at failed
    · cases failed
    · next notNull =>
      split at failed
      · cases failed
      · next type declared =>
        unfold coerceTo at failed
        split at failed
        · cases failed
        · next formless =>
          split at failed
          · next strict =>
            cases failed
            exact ⟨type, ⟨declared, FieldType.isStrict_iff.1 strict,
              Bool.eq_false_iff.2 notNull, formless⟩, rfl⟩
          · cases failed
  · rintro ⟨type, ⟨declared, strict, notNull, formless⟩, rfl⟩
    rw [coerce, notNull, if_neg Bool.false_ne_true, declared]
    simp only [coerceTo, formless, FieldType.isStrict_iff.2 strict, if_true]

theorem exists_coerce_eq_ok_iff :
    (∃ made, compiler.coerce field value = .ok made) ↔
      ∀ type, ¬ compiler.Unfit field value type := by
  simp only [Outcome.exists_eq_ok_iff, Ne, coerce_eq_error_iff, not_exists, not_and]
  exact ⟨fun none type unfit => none _ type unfit rfl, fun none e type unfit _ => none type unfit⟩

theorem required_eq_error_iff :
    compiler.required leaf op = .error e ↔
      compiler.coerce leaf.field leaf.value = .error e ∨
        leaf.value = .null ∧ e = missing leaf op := by
  rw [required, literal, Outcome.bind_eq_error]
  refine or_congr_right ⟨?_, ?_⟩
  · rintro ⟨made, accepted, failed⟩
    obtain rfl := eq_form_of_coerce accepted
    split at failed
    · next null =>
      cases failed
      rw [isNull_form] at null
      exact ⟨Json.isNull_iff.1 null, rfl⟩
    · cases failed
  · rintro ⟨null, rfl⟩
    refine ⟨.null, ?_, rfl⟩
    rw [null]
    rfl

theorem patternText_eq_error_iff :
    patternText leaf op = .error e ↔ leaf.value = .null ∧ e = missing leaf op := by
  unfold patternText
  cases leaf.value <;> simp [eq_comm]

theorem containment_eq_error_iff :
    containment leaf op = .error e ↔ leaf.value = .null ∧ e = missing leaf op := by
  unfold containment
  cases leaf.value <;> simp [eq_comm]

theorem items?_eq_none_iff :
    items? value = none ↔ (∀ items, value ≠ .array items) ∧ ∀ s, value ≠ .string s := by
  cases value <;> simp [items?]

theorem list_eq_error_iff :
    compiler.list leaf op = .error e ↔
      (items? leaf.value = none ∧ e = .invalidList leaf.field op.name) ∨
        ∃ before item after type, items? leaf.value = some (before ++ item :: after) ∧
          (∀ earlier ∈ before, ∀ other, ¬ compiler.Unfit leaf.field earlier other) ∧
          compiler.Unfit leaf.field item type ∧
          e = .invalidLiteral leaf.field type.name item.text := by
  unfold list
  cases items? leaf.value with
  | none => simp [eq_comm]
  | some items =>
    simp only [Outcome.mapM_eq_error_iff, exists_coerce_eq_ok_iff, coerce_eq_error_iff]
    simp

theorem valueFault_iff :
    compiler.ValueFault leaf op e ↔
      (op ∈ [.eq, .neq, .gt, .gte, .lt, .lte] ∧ compiler.coerce leaf.field leaf.value = .error e) ∨
      (op ∈ [.gt, .gte, .lt, .lte, .contains, .startsWith, .endsWith] ∧
        leaf.value = .null ∧ e = missing leaf op) ∨
      (op ∈ [.isIn, .notIn] ∧ compiler.list leaf op = .error e) := by
  rw [coerce_eq_error_iff, list_eq_error_iff, items?_eq_none_iff]
  constructor
  · intro fault
    cases fault with
    | unfitLiteral compares unfit => exact .inl ⟨compares, _, unfit, rfl⟩
    | missing needs null => exact .inr (.inl ⟨needs, null, rfl⟩)
    | noList lists noArray noText => exact .inr (.inr ⟨lists, .inl ⟨⟨noArray, noText⟩, rfl⟩⟩)
    | unfitItem lists read fine unfit =>
      exact .inr (.inr ⟨lists, .inr ⟨_, _, _, _, read, fine, unfit, rfl⟩⟩)
  · rintro (⟨compares, type, unfit, rfl⟩ | ⟨needs, null, rfl⟩ |
      ⟨lists, ⟨⟨noArray, noText⟩, rfl⟩ | ⟨before, item, after, type, read, fine, unfit, rfl⟩⟩)
    · exact .unfitLiteral compares unfit
    · exact .missing needs null
    · exact .noList lists noArray noText
    · exact .unfitItem lists read fine unfit

theorem test_eq_error_iff : compiler.test leaf op = .error e ↔ compiler.ValueFault leaf op e := by
  rw [valueFault_iff]
  cases op with
  | eq | neq =>
    refine Outcome.bind_pure_eq_error.trans ?_
    simp [literal]
  | gt | gte | lt | lte =>
    refine Outcome.bind_pure_eq_error.trans (required_eq_error_iff.trans ?_)
    simp
  | contains =>
    refine containment_eq_error_iff.trans ?_
    simp
  | startsWith | endsWith =>
    refine Outcome.bind_pure_eq_error.trans (patternText_eq_error_iff.trans ?_)
    simp
  | isIn | notIn =>
    refine Outcome.bind_pure_eq_error.trans ?_
    simp
  | isNull | isNotNull => simp [test]

theorem leaf_eq_error_iff_faulty : compiler.leaf leaf = .error e ↔ compiler.Faulty leaf e := by
  constructor
  · intro failed
    cases blank : Text.isBlankString leaf.field with
    | true =>
      rw [Compiler.leaf, blank, if_pos rfl] at failed
      cases failed
      exact .blankField blank
    | false =>
      cases known : leaf.operator? with
      | none =>
        rw [Compiler.leaf, blank, known, if_neg Bool.false_ne_true] at failed
        cases failed
        exact .unknownOperator blank (Leaf.operator?_eq_none_iff.1 known)
      | some op =>
        rw [leaf_eq_error_iff blank known, test_eq_error_iff] at failed
        exact .value blank (Operator.spelled_of_ofName? known) failed
  · intro faulty
    cases faulty with
    | blankField blank => rw [Compiler.leaf, blank, if_pos rfl]
    | unknownOperator named unknown =>
      rw [Compiler.leaf, named, Leaf.operator?_eq_none_iff.2 unknown, if_neg Bool.false_ne_true]
    | value named spelled fault =>
      rw [leaf_eq_error_iff named (Operator.ofName?_eq_some_iff.2 spelled), test_eq_error_iff]
      exact fault

theorem sound_iff : compiler.Sound leaf ↔ ∃ criteria, compiler.leaf leaf = .ok criteria := by
  simp only [Sound, Outcome.exists_eq_ok_iff, Ne, leaf_eq_error_iff_faulty]

/-- Criteria can be made of conditions exactly if every leaf at every depth is sound, and the error
is otherwise what is wrong with the first leaf that is not. -/
theorem compile_first_fault (compiler : Compiler) (group : Group) (entity : Identifier) :
    ((∃ criteria, compiler.compile group entity = .ok criteria) ↔
      ∀ leaf ∈ group.everyLeaf, compiler.Sound leaf) ∧
    ∀ e, compiler.compile group entity = .error e ↔
      ∃ before leaf after, group.everyLeaf = before ++ leaf :: after ∧
        (∀ earlier ∈ before, compiler.Sound earlier) ∧ compiler.Faulty leaf e := by
  constructor
  · have failing : (∃ e, compiler.compile group entity = .error e) ↔
        ∃ leaf ∈ group.everyLeaf, ∃ e, compiler.Faulty leaf e := by
      simp only [exists_compile_eq_error_iff, leaf_eq_error_iff_faulty]
    rw [Outcome.exists_eq_ok_iff]
    simpa [Sound] using not_congr failing
  · intro e
    rw [compile_eq_error_iff, Outcome.mapM_eq_error_iff]
    simp only [← sound_iff, leaf_eq_error_iff_faulty]

end Compiler
end VirtualRecords
