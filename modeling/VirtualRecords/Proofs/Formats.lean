import VirtualRecords.Condition.Query
import VirtualRecords.Proofs.Identifier
import VirtualRecords.Proofs.Json.Members
import VirtualRecords.Schema.Entity

/-! Conditions, queries and entities as JSON values. Each structure is read back from the value
that is written for it, member by member: a member that is always written holds what is read, and
one that may be left out is left out only where the value that stands in for it is its own. -/

namespace VirtualRecords

open Json Json.Members

theorem Leaf.ofJson?_toJson (leaf : Leaf) : ofJson? leaf.toJson = some leaf := by
  refine read_objectOf (by simp [names]) fun made held => ?_
  have field := required?_written (asString?_string leaf.field) (held "field")
  have operator := required?_written (asString?_string leaf.operatorName) (held "operator")
  have value := default?_written .null (Option.some_inj.2 rfl) (held "value")
  rw [ofMembers?, field, operator, value]
  rfl

namespace Group

theorem nestedIn?_eq (members : Members) :
    nestedIn? members = default? members "groups" [] listOfJson? := by
  induction members with
  | nil => rfl
  | cons member members ih =>
    obtain ⟨name, value⟩ := member
    rw [nestedIn?, default?, get?, List.lookup_cons]
    by_cases same : name = "groups"
    · subst same
      rfl
    · rw [if_neg same, beq_false_of_ne (Ne.symm same)]
      exact ih

theorem ofJson?_eq (value : Json) :
    ofJson? value = value.asObject?.bind fun members => do
      return {
        connective := ← default? members "logicalOperator" .all Connective.ofJson?
        leaves := ← default? members "conditions" [] (listOf? Leaf.ofJson?)
        groups := ← default? members "groups" [] listOfJson? } := by
  cases value with
  | object members => rw [ofJson?, nestedIn?_eq]; rfl
  | _ => rfl

mutual

theorem ofJson?_toJson (group : Group) : ofJson? group.toJson = some group := by
  obtain ⟨connective, leaves, groups⟩ := group
  rw [toJson, ofJson?_eq]
  refine read_objectOf (by simp [names]) fun made held => ?_
  have joined := default?_written .all connective.ofJson?_toJson (held "logicalOperator")
  have own := default?_written [] (listOf?_map Leaf.ofJson?_toJson leaves) (held "conditions")
  have items : listOfJson? (.array (listToJson groups)) = some groups :=
    ofItems?_listToJson groups
  have nested := default?_written [] items (held "groups")
  rw [joined, own, nested]
  rfl

theorem ofItems?_listToJson (groups : List Group) :
    ofItems? (listToJson groups) = some groups := by
  cases groups with
  | nil => rfl
  | cons group groups =>
    rw [listToJson, ofItems?, ofJson?_toJson group, ofItems?_listToJson groups]
    rfl

end

end Group

namespace Query

variable (query : Query)

theorem ofJson?_toJson : ofJson? query.toJson = some query := by
  refine read_objectOf_present (by simp) fun made held => ?_
  have entity := required?_written query.entity.ofJson?_toJson (held "entityId")
  have text := optional?_written asString?_string rfl (held "queryString")
  have root := default?_written .empty query.root.ofJson?_toJson (held "rootGroup")
  have flat := default?_omittable List.isEmpty_iff.1 (listOf?_map Leaf.ofJson?_toJson query.flat)
    (held "conditions")
  have connective := default?_written .all query.connective.ofJson?_toJson
    (held "logicalOperator")
  have sortField := optional?_written asString?_string rfl (held "sortField")
  have direction := default?_written .ascending query.direction.ofJson?_toJson
    (held "sortDirection")
  have page := default?_written 0 (toUInt64?_ofUInt64 query.page) (held "page")
  have size := default?_written defaultSize (toUInt64?_ofUInt64 query.size) (held "size")
  rw [ofMembers?, entity, text, root, flat, connective, sortField, direction, page, size]
  rfl

theorem member?_toJson_eq_none :
    (query.toJson.member? "queryString" = none ↔ query.text = none) ∧
      (query.toJson.member? "conditions" = none ↔ query.flat = []) ∧
      (query.toJson.member? "sortField" = none ↔ query.sortField = none) := by
  have held (name : String) : query.toJson.member? name = _ :=
    member?_objectOf_present (by simp) name
  simp [held, List.lookup_cons]

end Query

namespace Field

variable {field : Field} {made : Members}

theorem ofMembers?_of_get? (held : ∀ name, get? made name = field.members.lookup name) :
    ofMembers? made = some field := by
  have held : ∀ name, _ := fun name => (held name).trans (lookup_present (by simp) name)
  have key := required?_written (asString?_string field.key) (held "fieldKey")
  have label := optional?_written asString?_string rfl (held "fieldLabel")
  have typeName := required?_written (asString?_string field.typeName) (held "fieldType")
  have required := default?_written false (toBool?_bool field.required) (held "required")
  have options := default?_omittable isNull_iff.1 (Option.some_inj.2 rfl) (held "options")
  have orderIndex := optional?_written toInt32?_ofInt32 rfl (held "orderIndex")
  rw [ofMembers?, key, label, typeName, required, options, orderIndex]
  rfl

theorem ofJson?_toJson (field : Field) : ofJson? field.toJson = some field :=
  read_objectOf ((names_present_sublist _).nodup (by simp)) fun _ => ofMembers?_of_get?

theorem ofJson?_members (field : Field) : ofJson? (.object field.members) = some field :=
  ofMembers?_of_get? fun _ => rfl

theorem member?_toJson_eq_none (field : Field) :
    (field.toJson.member? "fieldLabel" = none ↔ field.label = none) ∧
      (field.toJson.member? "options" = none ↔ field.options = .null) ∧
      (field.toJson.member? "orderIndex" = none ↔ field.orderIndex = none) := by
  have held (name : String) : field.toJson.member? name = _ :=
    member?_objectOf_present (by simp) name
  simp [held, List.lookup_cons, isNull_iff]

end Field

namespace Entity

variable {entity : Entity} {write : Field → Json} {made : Members}

theorem ofMembers?_of_get? (restores : ∀ field, Field.ofJson? (write field) = some field)
    (held : ∀ name, get? made name = (entity.membersWith write).lookup name) :
    ofMembers? made = some entity := by
  have held : ∀ name, _ := fun name => (held name).trans (lookup_present (by simp) name)
  have id := required?_written entity.id.ofJson?_toJson (held "id")
  have name := required?_written (asString?_string entity.name) (held "name")
  have description := optional?_written asString?_string rfl (held "description")
  have fields := default?_written [] (listOf?_map restores entity.fields) (held "fields")
  rw [ofMembers?, id, name, description, fields]
  rfl

theorem ofJson?_toJson (entity : Entity) : ofJson? entity.toJson = some entity :=
  read_objectOf ((names_present_sublist _).nodup (by simp)) fun _ =>
    ofMembers?_of_get? Field.ofJson?_toJson

theorem ofJson?_toFileJson (entity : Entity) : ofJson? entity.toFileJson = some entity := by
  rw [ofJson?, toFileJson, asObject?, Option.bind_some]
  exact ofMembers?_of_get? Field.ofJson?_members fun _ => rfl

theorem member?_toJson_eq_none (entity : Entity) :
    entity.toJson.member? "description" = none ↔ entity.description = none := by
  have held (name : String) : entity.toJson.member? name = _ :=
    member?_objectOf_present (by simp) name
  simp [held, List.lookup_cons]

end Entity

/-- Reading undoes writing, for conditions of any depth, queries and entities: what is read back is
what was written, and what was not written comes back as it was. -/
theorem formats_read_back :
    (∀ group : Group, Group.ofJson? group.toJson = some group) ∧
      (∀ query : Query, Query.ofJson? query.toJson = some query ∧
        (query.toJson.member? "queryString" = none ↔ query.text = none) ∧
        (query.toJson.member? "conditions" = none ↔ query.flat = []) ∧
        (query.toJson.member? "sortField" = none ↔ query.sortField = none)) ∧
      (∀ entity : Entity, Entity.ofJson? entity.toJson = some entity ∧
        Entity.ofJson? entity.toFileJson = some entity ∧
        (entity.toJson.member? "description" = none ↔ entity.description = none)) ∧
      ∀ field : Field, Field.ofJson? field.toJson = some field ∧
        (field.toJson.member? "fieldLabel" = none ↔ field.label = none) ∧
        (field.toJson.member? "options" = none ↔ field.options = .null) ∧
        (field.toJson.member? "orderIndex" = none ↔ field.orderIndex = none) :=
  ⟨Group.ofJson?_toJson,
    fun query => ⟨query.ofJson?_toJson, query.member?_toJson_eq_none⟩,
    fun entity => ⟨entity.ofJson?_toJson, entity.ofJson?_toFileJson,
      entity.member?_toJson_eq_none⟩,
    fun field => ⟨field.ofJson?_toJson, field.member?_toJson_eq_none⟩⟩

end VirtualRecords
