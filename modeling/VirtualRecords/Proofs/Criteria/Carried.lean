import VirtualRecords.Proofs.Criteria.Answers
import VirtualRecords.Proofs.Criteria.FirstFault
import VirtualRecords.Proofs.Schema.Coercion

/-! The literals that criteria carry. Every test inside criteria was made for one leaf of the
conditions, at whatever depth the leaf stands, and its literals are forms of what the leaf names;
the path of the test spells the leaf's field. So where a type of a strict shape is declared for a
field, nothing but values of that shape, and null, is carried to the records. -/

namespace VirtualRecords

def Test.literals : Test → List Json
  | .compare _ value => [value]
  | .isIn values | .notIn values => values
  | _ => []

/-- Somewhere in the criteria the value at the path is tested. -/
inductive Criteria.Asks : Criteria → FieldPath → Test → Prop where
  | field (path : FieldPath) (test : Test) : Asks (.field path test) path test
  | and {parts : List Criteria} {part : Criteria} {path : FieldPath} {test : Test} :
      part ∈ parts → Asks part path test → Asks (.and parts) path test
  | or {parts : List Criteria} {part : Criteria} {path : FieldPath} {test : Test} :
      part ∈ parts → Asks part path test → Asks (.or parts) path test

theorem Criteria.exists_of_asks_join {connective : Connective} {parts : List Criteria}
    {path : FieldPath} {test : Test} (asked : (join connective parts).Asks path test) :
    ∃ part ∈ parts, part.Asks path test := by
  cases connective with
  | all => cases asked with | and member inside => exact ⟨_, member, inside⟩
  | any => cases asked with | or member inside => exact ⟨_, member, inside⟩

namespace Compiler

variable {compiler : Compiler} {leaf : Leaf} {op : Operator} {criteria : Criteria}
  {path : FieldPath} {test : Test} {literal : Json}

structure TestOf (compiler : Compiler) (leaf : Leaf) (path : FieldPath) (test : Test) : Prop where
  path_eq : path = .ofField leaf.field
  tested : ∃ op, compiler.test leaf op = .ok test

theorem testOf_of_leaf (made : compiler.leaf leaf = .ok criteria)
    (asked : criteria.Asks path test) : compiler.TestOf leaf path test := by
  unfold Compiler.leaf at made
  split at made
  · cases made
  · split at made
    · cases made
    · next op _ =>
      obtain ⟨own, tested, rfl⟩ := Outcome.bind_pure_eq_ok.1 made
      cases asked with
      | field => exact ⟨rfl, op, tested⟩

theorem exists_testOf_of_leaves {leaves : List Leaf} {parts : List Criteria} {part : Criteria}
    (made : leaves.mapM compiler.leaf = .ok parts) (member : part ∈ parts)
    (asked : part.Asks path test) : ∃ leaf ∈ leaves, compiler.TestOf leaf path test := by
  obtain ⟨leaf, inside, accepted⟩ := Outcome.exists_of_mem_of_mapM made member
  exact ⟨leaf, inside, testOf_of_leaf accepted asked⟩

mutual

/-- Whatever the criteria of a group test is tested for a leaf of the group. -/
theorem exists_testOf_of_group {group : Group} {criteria : Criteria}
    (made : compiler.group group = .ok criteria) (asked : criteria.Asks path test) :
    ∃ leaf ∈ group.everyLeaf, compiler.TestOf leaf path test := by
  obtain ⟨connective, leaves, groups⟩ := group
  unfold Compiler.group at made
  split at made
  · cases made
    cases asked
  · obtain ⟨own, ownMade, made⟩ := Outcome.bind_eq_ok.1 made
    obtain ⟨nested, nestedMade, rfl⟩ := Outcome.bind_pure_eq_ok.1 made
    obtain ⟨part, member, asked⟩ := Criteria.exists_of_asks_join asked
    obtain inOwn | inNested := List.mem_append.1 member
    · obtain ⟨leaf, inside, source⟩ := exists_testOf_of_leaves ownMade inOwn asked
      exact ⟨leaf, List.mem_append_left _ inside, source⟩
    · obtain ⟨leaf, inside, source⟩ := exists_testOf_of_groups nestedMade inNested asked
      exact ⟨leaf, List.mem_append_right _ inside, source⟩

theorem exists_testOf_of_groups {groups : List Group} {parts : List Criteria} {part : Criteria}
    (made : compiler.groups groups = .ok parts) (member : part ∈ parts)
    (asked : part.Asks path test) :
    ∃ leaf ∈ Group.everyLeafOf groups, compiler.TestOf leaf path test := by
  cases groups with
  | nil =>
    cases made
    cases member
  | cons first rest =>
    obtain ⟨head, headMade, made⟩ := Outcome.bind_eq_ok.1 made
    obtain ⟨tail, tailMade, rfl⟩ := Outcome.bind_pure_eq_ok.1 made
    obtain rfl | later := List.mem_cons.1 member
    · obtain ⟨leaf, inside, source⟩ := exists_testOf_of_group headMade asked
      exact ⟨leaf, List.mem_append_left _ inside, source⟩
    · obtain ⟨leaf, inside, source⟩ := exists_testOf_of_groups tailMade later asked
      exact ⟨leaf, List.mem_append_right _ inside, source⟩

end

theorem exists_testOf {group : Group} {entity : Identifier}
    (made : compiler.compile group entity = .ok criteria) (asked : criteria.Asks path test) :
    ∃ leaf ∈ group.everyLeaf, compiler.TestOf leaf path test := by
  obtain ⟨own, ownMade, rfl⟩ := Outcome.bind_pure_eq_ok.1 made
  cases asked with
  | and member inside =>
    obtain rfl | rfl : _ = Criteria.entity entity ∨ _ = own := by simpa using member
    · cases inside
    · exact exists_testOf_of_group ownMade inside

theorem eq_of_mem_comparison {value : Json} {ofNull : Test} {relation : Relation}
    (bare : ofNull.literals = [])
    (carried : literal ∈ (if value.isNull then ofNull else .compare relation value).literals) :
    literal = value := by
  split at carried
  · rw [bare] at carried
    cases carried
  · exact List.mem_singleton.1 carried

theorem exists_coerce_of_mem_literals (tested : compiler.test leaf op = .ok test)
    (carried : literal ∈ test.literals) :
    ∃ given, compiler.coerce leaf.field given = .ok literal := by
  cases op with
  | eq | neq =>
    obtain ⟨value, read, rfl⟩ := Outcome.bind_pure_eq_ok.1 tested
    obtain rfl := eq_of_mem_comparison rfl carried
    exact ⟨leaf.value, read⟩
  | gt | gte | lt | lte =>
    obtain ⟨value, accepted, rfl⟩ := Outcome.bind_pure_eq_ok.1 tested
    obtain rfl := List.mem_singleton.1 carried
    exact ⟨leaf.value, coerce_of_required accepted⟩
  | contains =>
    change containment leaf .contains = .ok test at tested
    unfold containment at tested
    split at tested
    · cases tested
    · cases tested
      cases carried
    · cases tested
      cases carried
  | startsWith | endsWith =>
    obtain ⟨pattern, -, rfl⟩ := Outcome.bind_pure_eq_ok.1 tested
    cases carried
  | isIn | notIn =>
    obtain ⟨values, accepted, rfl⟩ := Outcome.bind_pure_eq_ok.1 tested
    obtain ⟨items, -, walked⟩ := exists_items_of_list accepted
    obtain ⟨given, -, made⟩ := Outcome.exists_of_mem_of_mapM walked carried
    exact ⟨given, made⟩
  | isNull | isNotNull =>
    cases tested
    cases carried

theorem forms_of_coerce {key : String} {type : FieldType} {given made : Json}
    (known : compiler.type? key = some type) (strict : type.isStrict = true)
    (accepted : compiler.coerce key given = .ok made) (filled : made.isNull = false) :
    type.Forms given made := by
  unfold coerce at accepted
  split at accepted
  · cases accepted
    cases filled
  · rw [known] at accepted
    dsimp only at accepted
    unfold coerceTo at accepted
    split at accepted
    · next own formed =>
      cases accepted
      exact FieldType.forms_of_coerce? formed
    · rw [if_pos strict] at accepted
      cases accepted

/-- Where a strict shape is declared for the field that a path spells, every literal that criteria
carry there, null apart, has that shape and is its own form. -/
theorem compile_canonical {fields : List Field} {group : Group} {entity : Identifier}
    {field : Field} {type : FieldType} (distinct : (fields.map Field.key).Nodup)
    (made : (ofFields fields).compile group entity = .ok criteria)
    (asked : criteria.Asks path test) (declared : field ∈ fields)
    (known : field.type? = some type)
    (strict : type ∈ [.number, .integer, .boolean, .date, .datetime])
    (reached : Text.join "." path.keys = field.key) (carried : literal ∈ test.literals)
    (filled : literal.isNull = false) :
    type.coerce? literal = some literal ∧ type.Canonical literal := by
  obtain ⟨leaf, -, source⟩ := exists_testOf made asked
  obtain ⟨op, tested⟩ := source.tested
  obtain ⟨given, accepted⟩ := exists_coerce_of_mem_literals tested carried
  have named : leaf.field = field.key := by
    rw [← reached, source.path_eq, FieldPath.join_keys_ofField]
  rw [named] at accepted
  have isStrict := FieldType.isStrict_iff.2 strict
  have forms := forms_of_coerce (type?_ofFields distinct declared known) isStrict accepted filled
  exact ⟨FieldType.coerce?_eq_some_iff.2 forms.self, forms.canonical isStrict⟩

/-- A list written as text, for a field with a full stop in its key and two groups deep: what it
names is carried as integers. -/
theorem compile_canonical_dottedList :
    let listed := Leaf.ofOperator "person.age" .isIn (.string "('18', '+21')")
    let carried : List Json := [.number (.integer ⟨18, by decide, by decide⟩),
      .number (.integer ⟨21, by decide, by decide⟩)]
    ∃ criteria, (ofFields [.ofType "person.age" .integer]).compile
        ⟨.any, [], [⟨.all, [listed], []⟩]⟩ .nil = .ok criteria ∧
      criteria.Asks ⟨["person", "age"]⟩ (.isIn carried) ∧
      ∀ literal ∈ carried, FieldType.integer.coerce? literal = some literal ∧
        FieldType.integer.Canonical literal := by
  intro listed carried
  let compiler := ofFields [.ofType "person.age" .integer]
  let nested : Criteria := .and [.field ⟨["person", "age"]⟩ (.isIn carried)]
  have tested : compiler.test listed .isIn = .ok (.isIn carried) :=
    Outcome.bind_pure_eq_ok.2 ⟨carried, rfl, rfl⟩
  have cut : FieldPath.ofField "person.age" = ⟨["person", "age"]⟩ := by decide +kernel
  have leaf : compiler.leaf listed = .ok (.field ⟨["person", "age"]⟩ (.isIn carried)) :=
    cut ▸ leaf_eq_ok (by decide) (Operator.ofName?_name .isIn) tested
  have made : compiler.compile ⟨.any, [], [⟨.all, [listed], []⟩]⟩ .nil =
      .ok (.and [.entity .nil, .or [nested]]) := by
    simp [compile, group, groups, leaf, nested, Criteria.join, bind, pure, Except.bind,
      Except.pure]
  have inside : (Criteria.or [nested]).Asks ⟨["person", "age"]⟩ (.isIn carried) :=
    .or List.mem_cons_self (.and List.mem_cons_self (.field _ _))
  have asked : Criteria.Asks (.and [.entity .nil, .or [nested]]) ⟨["person", "age"]⟩
      (.isIn carried) :=
    .and (List.mem_cons_of_mem _ List.mem_cons_self) inside
  refine ⟨_, made, asked, fun literal member => ?_⟩
  refine compile_canonical (by decide) made asked List.mem_cons_self (by decide) (by decide)
    (by decide) member ?_
  obtain rfl | rfl : literal = _ ∨ literal = _ := by simpa [carried] using member
  · rfl
  · rfl

end Compiler
end VirtualRecords
