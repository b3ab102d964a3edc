import VirtualRecords.Proofs.Criteria.Leaves
import VirtualRecords.Proofs.QueryText.Fragments

/-! What can be read can be used. Every leaf that is read from a text has a field, which is a run
of characters without white space, an operator that is known, and a literal that is text or null.
Where no types are declared, only a null that an operator has no use for is turned down. -/

namespace VirtualRecords

def Operator.written : List Operator := [.eq, .neq, .gt, .gte, .lt, .lte, .contains, .isIn, .isNull]

structure Leaf.Readable (leaf : Leaf) : Prop where
  field_ne : leaf.field ≠ ""
  solid : Text.Solid leaf.field.toList
  operator : ∃ op ∈ Operator.written, leaf.operator? = some op
  value : leaf.value = .null ∨ ∃ s, leaf.value = .string s

namespace QueryText

open Text

variable {text field rest token : List Char} {leaf : Leaf} {comparison : Comparison}

theorem operatorOf_written (token : List Char) : operatorOf token ∈ Operator.written := by
  unfold operatorOf
  repeat' split
  all_goals decide

theorem field_of_comparisonWith? (found : comparisonWith? field rest = some comparison) :
    comparison.field ≠ [] ∧ comparison.field.reverse <:+ field := by
  induction field generalizing rest with
  | nil => contradiction
  | cons c field ih =>
    rw [comparisonWith?] at found
    split at found
    · cases found
      simp
    · obtain ⟨nonempty, suffix⟩ := ih found
      exact ⟨nonempty, suffix.trans (List.suffix_cons c field)⟩

theorem field_of_comparison? (found : comparison? text = some comparison) :
    comparison.field ≠ [] ∧ Solid comparison.field := by
  fun_induction comparison? text with
  | case1 => contradiction
  | case2 text nonempty ih =>
    rcases Option.or_eq_some_iff.1 found with here | ⟨_, later⟩
    · obtain ⟨nonempty, suffix⟩ := field_of_comparisonWith? here
      refine ⟨nonempty, fun c member => solid_leadingRun (skipBlank text) c ?_⟩
      exact List.mem_reverse.1 (suffix.subset (List.mem_reverse.2 member))
    · exact ih later

theorem readable_of_comparison? (found : comparison? text = some comparison) :
    comparison.toLeaf.Readable := by
  obtain ⟨nonempty, solid⟩ := field_of_comparison? found
  constructor
  · intro empty
    apply nonempty
    simpa [Comparison.toLeaf, Leaf.ofOperator] using congrArg String.toList empty
  · simpa [Comparison.toLeaf, Leaf.ofOperator] using solid
  · exact ⟨_, operatorOf_written comparison.operator, Operator.ofName?_name _⟩
  · rw [Comparison.toLeaf, Leaf.ofOperator]
    cases comparison.literal with
    | quoted text => exact .inr ⟨_, rfl⟩
    | bare text =>
      simp only [Literal.toJson]
      split
      · exact .inl rfl
      · exact .inr ⟨_, rfl⟩

theorem readable_of_mem_leavesOf (member : leaf ∈ leavesOf text) : leaf.Readable := by
  rw [leavesOf_eq_map] at member
  obtain ⟨comparison, compared, rfl⟩ := List.mem_map.1 member
  obtain ⟨part, -, found⟩ := List.mem_filterMap.1 compared
  exact readable_of_comparison? found

theorem everyLeaf_bracketGroup (inner : List Char) :
    (bracketGroup inner).everyLeaf = leavesOf inner := by
  rw [bracketGroup, Group.everyLeaf, Group.everyLeafOf, List.append_nil]

theorem readable_of_mem_readConditions
    (member : leaf ∈ (readConditions text .empty).everyLeaf) : leaf.Readable := by
  rcases Group.mem_everyLeaf.1 member with own | ⟨nested, isNested, inside⟩
  · obtain ⟨fragment, -, inside⟩ := exists_fragment_of_mem_leaves own
    exact readable_of_mem_leavesOf inside
  · rw [readConditions_empty] at isNested
    obtain ⟨inner, -, rfl⟩ := List.mem_map.1 isNested
    rw [everyLeaf_bracketGroup] at inside
    exact readable_of_mem_leavesOf inside

theorem readable_of_mem_parse {text : String} (member : leaf ∈ (parse text).root.everyLeaf) :
    leaf.Readable := by
  rw [parse, read] at member
  cases clause : whereClause? (trim text.toList) with
  | none => simp [clause, Group.empty, Group.everyLeaf, Group.everyLeafOf] at member
  | some conditions => exact readable_of_mem_readConditions (by simpa only [clause] using member)

theorem flat_of_mem_groups_parse {text : String} {nested : Group}
    (member : nested ∈ (parse text).root.groups) : nested.groups = [] := by
  rw [groups_parse] at member
  obtain ⟨inner, -, rfl⟩ := List.mem_map.1 member
  rfl

end QueryText

namespace Leaf.Readable

variable {leaf : Leaf} {e : QueryError} (readable : leaf.Readable)
include readable

theorem isBlankString_eq_false : Text.isBlankString leaf.field = false := by
  obtain ⟨c, rest, spelled⟩ := List.exists_cons_of_ne_nil
    fun none => readable.field_ne (String.toList_eq_nil_iff.1 none)
  have solid : Text.isBlank c = false := readable.solid c (by simp [spelled])
  simp [Text.isBlankString, Text.allBlank, spelled, solid]

theorem leaf_eq_error_iff {op : Operator} (known : leaf.operator? = some op) :
    Compiler.untyped.leaf leaf = .error e ↔
      leaf.value = .null ∧ Compiler.nullFault? leaf op = some e := by
  rw [Compiler.leaf_eq_error_iff readable.isBlankString_eq_false known]
  rcases readable.value with null | ⟨s, text⟩
  · rw [Compiler.test_eq_error_iff_of_null null, and_iff_right null]
  · simp [text, Compiler.test_untyped_ne_error_of_string text]

theorem exists_leaf_eq_error_iff :
    (∃ e, Compiler.untyped.leaf leaf = .error e) ↔
      leaf.value = .null ∧
        ∃ op ∈ [.gt, .gte, .lt, .lte, .contains, .isIn], leaf.operator? = some op := by
  obtain ⟨op, written, known⟩ := readable.operator
  have needs : (∃ e, Compiler.nullFault? leaf op = some e) ↔
      op ∈ [.gt, .gte, .lt, .lte, .contains, .isIn] := by
    cases op <;> simp [Compiler.nullFault?, Operator.written] at written ⊢
  simp only [readable.leaf_eq_error_iff known, exists_and_left, needs, known, Option.some.injEq,
    exists_eq_right']

end Leaf.Readable

namespace QueryText

/-- Whatever is read from a text is fit to be compiled: no group inside the root has groups of its
own, every leaf names a field and a known operator, and criteria without types can fail to be
made only for a null whose operator needs a value. -/
theorem parse_accepted (text : String) :
    let root := (parse text).root
    (∀ nested ∈ root.groups, nested.groups = []) ∧
      (∀ leaf ∈ root.everyLeaf, leaf.Readable) ∧
      ∀ entity,
        (∀ e, Compiler.untyped.compile root entity = .error e →
          e ≠ .emptyField ∧ (∀ name, e ≠ .unknownOperator name) ∧
            ∀ field expected found, e ≠ .invalidLiteral field expected found) ∧
        ((∃ e, Compiler.untyped.compile root entity = .error e) ↔
          ∃ leaf ∈ root.everyLeaf, leaf.value = .null ∧
            ∃ op ∈ [.gt, .gte, .lt, .lte, .contains, .isIn], leaf.operator? = some op) := by
  intro root
  have readable : ∀ leaf ∈ root.everyLeaf, leaf.Readable := fun _ => readable_of_mem_parse
  refine ⟨fun _ => flat_of_mem_groups_parse, readable, fun entity => ⟨?_, ?_⟩⟩
  · intro e failed
    obtain ⟨leaf, member, fails⟩ := Compiler.exists_leaf_of_compile_eq_error failed
    obtain ⟨op, -, known⟩ := (readable leaf member).operator
    exact Compiler.ne_of_nullFault? (((readable leaf member).leaf_eq_error_iff known).1 fails).2
  · rw [Compiler.exists_compile_eq_error_iff]
    exact exists_congr fun leaf => and_congr_right fun member =>
      (readable leaf member).exists_leaf_eq_error_iff

theorem parse_accepted_null :
    let root := (parse "WHERE (a = '1') OR (n > null)").root
    let leaf := Leaf.ofOperator "n" .gt .null
    ∃ nested ∈ root.groups, nested.groups = [] ∧ leaf ∈ root.everyLeaf ∧ leaf.Readable ∧
      ∀ entity, ∃ e, Compiler.untyped.compile root entity = .error e ∧ e ≠ .emptyField := by
  intro root leaf
  have texts : nestedTexts "WHERE (a = '1') OR (n > null)" = ["n > null".toList] := by
    decide +kernel
  have compared : comparisonsOf "n > null".toList = [⟨['n'], ['>'], .bare "null".toList⟩] := by
    decide +kernel
  have leaves : leavesOf "n > null".toList = [leaf] := by
    rw [leavesOf_eq_map, compared]
    rfl
  have isNested : bracketGroup "n > null".toList ∈ root.groups := by
    rw [groups_parse, texts]
    exact List.mem_singleton_self _
  have inside : leaf ∈ root.everyLeaf := by
    refine Group.mem_everyLeaf.2 (.inr ⟨_, isNested, ?_⟩)
    rw [everyLeaf_bracketGroup, leaves]
    exact List.mem_singleton_self _
  obtain ⟨flat, readable, compiled⟩ := parse_accepted "WHERE (a = '1') OR (n > null)"
  refine ⟨_, isNested, flat _ isNested, inside, readable _ inside, fun entity => ?_⟩
  obtain ⟨errors, fails⟩ := compiled entity
  obtain ⟨e, failed⟩ := fails.2 ⟨leaf, inside, rfl, .gt, by decide, Operator.ofName?_name _⟩
  exact ⟨e, failed, (errors e failed).1⟩

end QueryText
end VirtualRecords
