import VirtualRecords.Proofs.Outcome
import VirtualRecords.Proofs.Schema.Registration
import VirtualRecords.Schema.Definitions

/-! Loading definition files. A folder lists its entries in no order of its own, and each file is
held against a registry that the files before it have grown. Whether all of them can be taken is
still a property of the files together, and so is the registry that they lead to: it finds the old
entities and one more for each file. Entities that are given directly enter in the same way, so a
registry that started empty finds sound entities only, whatever was refused on the way. -/

namespace VirtualRecords

namespace DefinitionFile

variable {file : DefinitionFile} {entity other : Entity}

def Defines (file : DefinitionFile) (entity : Entity) : Prop :=
  ∃ text, file.content = .ok text ∧
    (Json.ofTextBy? Entity.outline text).bind Entity.ofJson? = some entity

theorem entity_eq_ok : file.entity = .ok entity ↔ file.Defines entity := by
  rw [DefinitionFile.entity, Defines]
  cases file.content with
  | error failure => simp
  | ok text =>
    simp only [Except.ok.injEq, exists_eq_left']
    cases (Json.ofTextBy? Entity.outline text).bind Entity.ofJson? <;> simp

theorem Defines.unique (first : file.Defines entity) (second : file.Defines other) :
    entity = other :=
  Except.ok.inj ((entity_eq_ok.2 first).symm.trans (entity_eq_ok.2 second))

theorem exists_defines (file : DefinitionFile) (text : String) (id : Identifier)
    (readable : file.content = .ok text)
    (decoded : ((Json.ofTextBy? Entity.outline text).bind Entity.ofJson?).map
      (fun entity => (entity.id, entity.structure?)) = some (id, none)) :
    ∃ entity, file.Defines entity ∧ entity.structure? = none ∧ entity.id = id := by
  obtain ⟨entity, read, parts⟩ := Option.map_eq_some_iff.1 decoded
  obtain ⟨same, sound⟩ := Prod.mk.inj parts
  exact ⟨entity, ⟨text, readable, read⟩, sound, same⟩

end DefinitionFile

namespace Registry

variable {registry grown other : Registry} {file : DefinitionFile}
  {files rest others : List DefinitionFile} {entity : Entity} {id : Identifier}

theorem entity?_append : entity? ⟨registry.entities ++ [entity]⟩ id =
    (registry.entity? id).or (if entity.id = id then some entity else none) := by
  simp only [entity?, List.find?_append, List.find?_singleton, beq_iff_eq]

theorem id_of_entity? (found : registry.entity? id = some entity) : entity.id = id :=
  eq_of_beq (List.find?_some (p := fun entity : Entity => entity.id == id) found)

theorem holds_eq_false : registry.holds id = false ↔ registry.entity? id = none := by
  rw [holds, Option.isSome_eq_false_iff, Option.isNone_iff_eq_none]

theorem loadFile_eq_ok : registry.loadFile file = .ok grown ↔
    ∃ entity, file.Defines entity ∧ entity.WellFormed ∧ registry.holds entity.id = false ∧
      grown = ⟨registry.entities ++ [entity]⟩ := by
  rw [loadFile, Outcome.bind_eq_ok]
  simp only [DefinitionFile.entity_eq_ok, registerFrom_eq_ok]

/-- Each of the files defines a sound entity whose identifier neither the registry holds nor
another of the files declares. -/
structure Loadable (registry : Registry) (files : List DefinitionFile) : Prop where
  defined (file : DefinitionFile) : file ∈ files → ∃ entity, file.Defines entity ∧
    entity.structure? = none ∧ registry.holds entity.id = false
  apart : files.Pairwise fun a b => ∀ x y, a.Defines x → b.Defines y → x.id ≠ y.id

theorem holds_append_eq_false : holds ⟨registry.entities ++ [entity]⟩ id = false ↔
    registry.holds id = false ∧ entity.id ≠ id := by
  rw [holds_eq_false, holds_eq_false, entity?_append, Option.or_eq_none_iff]
  simp

theorem loadable_cons : registry.Loadable (file :: rest) ↔
    ∃ grown, registry.loadFile file = .ok grown ∧ grown.Loadable rest := by
  constructor
  · rintro ⟨defined, apart⟩
    obtain ⟨⟨entity, own, sound, fresh⟩, later⟩ := List.forall_mem_cons.1 defined
    obtain ⟨other, apart⟩ := List.pairwise_cons.1 apart
    refine ⟨_, loadFile_eq_ok.2 ⟨entity, own, Entity.structure?_eq_none_iff.1 sound, fresh, rfl⟩,
      fun file member => ?_, apart⟩
    -- New to the grown registry is what is new to the old one and not declared by this file.
    obtain ⟨next, defines, sound, fresh⟩ := later file member
    exact ⟨next, defines, sound, holds_append_eq_false.2 ⟨fresh, other file member _ _ own defines⟩⟩
  · rintro ⟨grown, entered, defined, apart⟩
    obtain ⟨entity, own, sound, fresh, rfl⟩ := loadFile_eq_ok.1 entered
    refine ⟨List.forall_mem_cons.2 ⟨⟨entity, own, Entity.structure?_eq_none_iff.2 sound, fresh⟩,
      fun file member => ?_⟩, List.pairwise_cons.2 ⟨fun file member x y first second => ?_, apart⟩⟩
    · obtain ⟨next, defines, sound, fresh⟩ := defined file member
      exact ⟨next, defines, sound, (holds_append_eq_false.1 fresh).1⟩
    · obtain ⟨next, defines, -, fresh⟩ := defined file member
      obtain rfl := own.unique first
      obtain rfl := defines.unique second
      exact (holds_append_eq_false.1 fresh).2

theorem Loadable.perm (loadable : registry.Loadable files) (same : files.Perm others) :
    registry.Loadable others where
  defined file member := loadable.defined file (same.mem_iff.2 member)
  apart := (same.pairwise_iff fun apart x y first second =>
    (apart y x second first).symm).1 loadable.apart

theorem loadFiles_succeeds_iff : (registry.loadFiles files).2 = none ↔ registry.Loadable files := by
  induction files generalizing registry with
  | nil => exact iff_of_true rfl ⟨nofun, .nil⟩
  | cons file rest ih =>
    rw [loadable_cons, loadFiles]
    cases entered : registry.loadFile file with
    | ok grown => simp [ih]
    | error failure => simp

/-- The registry with one more entity for each of the files, under the identifiers that these
declare. -/
structure GrownBy (registry : Registry) (files : List DefinitionFile) (grown : Registry) :
    Prop where
  size : grown.size = registry.size + files.length
  kept (id : Identifier) (entity : Entity) :
    registry.entity? id = some entity → grown.entity? id = some entity
  added (file : DefinitionFile) : file ∈ files → ∃ entity, file.Defines entity ∧
    registry.entity? entity.id = none ∧ grown.entity? entity.id = some entity
  source (id : Identifier) (entity : Entity) : grown.entity? id = some entity →
    registry.entity? id = some entity ∨ ∃ file ∈ files, file.Defines entity

theorem GrownBy.refl (registry : Registry) : registry.GrownBy [] registry where
  size := rfl
  kept _ _ known := known
  added := nofun
  source _ _ := .inl

theorem GrownBy.cons {middle : Registry} (entered : registry.loadFile file = .ok middle)
    (later : middle.GrownBy rest grown) : registry.GrownBy (file :: rest) grown := by
  obtain ⟨entity, own, -, fresh, rfl⟩ := loadFile_eq_ok.1 entered
  rw [holds_eq_false] at fresh
  constructor
  case size =>
    have first : Registry.size ⟨registry.entities ++ [entity]⟩ = registry.size + 1 :=
      List.length_append
    rw [later.size, first, List.length_cons, Nat.add_assoc, Nat.add_comm 1]
  case kept =>
    intro id old held
    refine later.kept id old ?_
    rw [entity?_append, held, Option.some_or]
  case added =>
    refine List.forall_mem_cons.2 ⟨⟨entity, own, fresh, later.kept entity.id entity ?_⟩, ?_⟩
    · rw [entity?_append, fresh, Option.none_or, if_pos rfl]
    · intro file member
      obtain ⟨next, defines, absent, found⟩ := later.added file member
      rw [entity?_append, Option.or_eq_none_iff] at absent
      exact ⟨next, defines, absent.1, found⟩
  case source =>
    intro id held found
    rcases later.source id held found with known | ⟨file, member, defines⟩
    · rw [entity?_append, Option.or_eq_some_iff] at known
      rcases known with old | ⟨-, new⟩
      · exact .inl old
      · obtain ⟨-, same⟩ := Option.ite_none_right_eq_some.1 new
        exact .inr ⟨file, List.mem_cons_self, Option.some.inj same ▸ own⟩
    · exact .inr ⟨file, List.mem_cons_of_mem _ member, defines⟩

theorem grownBy_loadFiles (loaded : (registry.loadFiles files).2 = none) :
    registry.GrownBy files (registry.loadFiles files).1 := by
  induction files generalizing registry with
  | nil => exact .refl registry
  | cons file rest ih =>
    rw [loadFiles] at loaded ⊢
    cases entered : registry.loadFile file with
    | ok middle =>
      rw [entered] at loaded
      exact .cons entered (ih loaded)
    | error failure =>
      rw [entered] at loaded
      cases loaded

theorem GrownBy.perm (growth : registry.GrownBy files grown) (same : files.Perm others) :
    registry.GrownBy others grown where
  size := same.length_eq ▸ growth.size
  kept := growth.kept
  added file member := growth.added file (same.mem_iff.2 member)
  source id entity found := (growth.source id entity found).imp_right fun ⟨file, member, defines⟩ =>
    ⟨file, same.mem_iff.1 member, defines⟩

theorem GrownBy.entity?_of_entity? (first : registry.GrownBy files grown)
    (second : registry.GrownBy files other) (found : grown.entity? id = some entity) :
    other.entity? id = some entity := by
  rcases first.source id entity found with old | ⟨file, member, defines⟩
  · exact second.kept id entity old
  · obtain ⟨same, own, -, known⟩ := second.added file member
    obtain rfl := own.unique defines
    rwa [id_of_entity? found] at known

theorem GrownBy.entity?_eq (first : registry.GrownBy files grown)
    (second : registry.GrownBy files other) : grown.entity? id = other.entity? id :=
  Option.ext fun _ => ⟨first.entity?_of_entity? second, second.entity?_of_entity? first⟩

theorem Built.loadFiles (built : registry.Built) : (registry.loadFiles files).1.Built := by
  induction files generalizing registry with
  | nil => exact built
  | cons file rest ih =>
    rw [Registry.loadFiles]
    cases entered : registry.loadFile file with
    | ok grown =>
      obtain ⟨entity, -, registered⟩ := Outcome.bind_eq_ok.1 entered
      exact ih (.register built registered)
    | error failure => exact built

inductive Intake where
  | entity (entity : Entity)
  | folder (folder : DefinitionFolder) (tree : FileTree)

def take (registry : Registry) : Intake → Registry × Option SchemaError
  | .entity entity =>
    match registry.register entity with
    | .ok grown => (grown, none)
    | .error failure => (registry, some failure)
  | .folder folder tree => (folder.load tree registry).2

theorem Built.take (built : registry.Built) (intake : Intake) : (registry.take intake).1.Built := by
  cases intake with
  | entity entity =>
    rw [Registry.take]
    cases entered : registry.register entity with
    | ok grown => exact .register built entered
    | error failure => exact built
  | folder folder tree =>
    rw [Registry.take, DefinitionFolder.load]
    split
    · split
      · exact built
      · exact built.loadFiles
    · split <;> exact built

def takeAll (registry : Registry) (intakes : List Intake) : Registry :=
  intakes.foldl (fun registry intake => (registry.take intake).1) registry

theorem Built.takeAll (built : registry.Built) (intakes : List Intake) :
    (registry.takeAll intakes).Built := by
  induction intakes generalizing registry with
  | nil => exact built
  | cons intake later ih => exact ih (built.take intake)

end Registry

namespace DefinitionFolder

theorem files_perm (folder : DefinitionFolder) (tree : FileTree) {entries others : List String}
    (same : entries.Perm others) : (folder.files tree entries).Perm (folder.files tree others) :=
  (same.filter isDefinitionName).map (folder.file tree)

/-- Loading the entries of a folder succeeds in one order exactly if it does in every other, and
leads to registries that find the same: the entities of before and one for each definition file.
Whatever a registry that started empty was asked to take in, its entities are sound, and it is what
it was if it refused an entity. -/
theorem load_anyOrder {folder : DefinitionFolder} {tree : FileTree} {place : Place}
    (found : tree.find folder.path = .ok place) (opened : tree.isFile place = false)
    (registry : Registry) :
    let files := folder.files tree (tree.names place)
    folder.load tree registry = (tree, registry.loadFiles files) ∧
    (∀ entries, entries.Perm (tree.names place) →
      let loaded := registry.loadFiles (folder.files tree entries)
      (loaded.2 = none ↔ registry.Loadable files) ∧
      (loaded.2 = none → registry.GrownBy files loaded.1 ∧
        ∀ id, loaded.1.entity? id = (registry.loadFiles files).1.entity? id)) ∧
    (∀ intakes, ∀ entity ∈ (Registry.empty.takeAll intakes).entities, entity.WellFormed) ∧
    ∀ entity refusal, (registry.take (.entity entity)).2 = some refusal →
      (registry.take (.entity entity)).1 = registry := by
  intro files
  refine ⟨?_, fun entries same => ?_, fun intakes => ?_, fun entity refusal refused => ?_⟩
  · rw [load]
    simp only [found, opened, Bool.false_eq_true, if_false, files]
  · intro loaded
    have reordered := folder.files_perm tree same
    have possible : loaded.2 = none ↔ registry.Loadable files :=
      Registry.loadFiles_succeeds_iff.trans
        ⟨fun loadable => loadable.perm reordered, fun loadable => loadable.perm reordered.symm⟩
    refine ⟨possible, fun succeeded => ?_⟩
    have growth := (Registry.grownBy_loadFiles succeeded).perm reordered
    have listed := Registry.grownBy_loadFiles
      (Registry.loadFiles_succeeds_iff.2 (possible.1 succeeded))
    exact ⟨growth, fun id => growth.entity?_eq listed⟩
  · exact (Registry.Built.empty.takeAll intakes).wellFormed
  · rw [Registry.take] at refused ⊢
    cases entered : registry.register entity with
    | ok grown =>
      rw [entered] at refused
      cases refused
    | error failure => rfl

def twoDefinitions : FileTree :=
  ⟨[(["e", "b.json"], "\x7b\"id\":\"00000000000000000000000000000002\",\"name\":\"B\"\x7d"),
    (["e", "notes.txt"], "Tuesday"),
    (["e", "a.json"], "\x7b\"id\":\"00000000000000000000000000000001\",\"name\":\"A\"\x7d")], []⟩

theorem load_anyOrder_twoDefinitions :
    let folder : DefinitionFolder := ⟨"e"⟩
    let registry : Registry := ⟨[⟨⟨3⟩, "C", none, []⟩]⟩
    let loaded := registry.loadFiles (folder.files twoDefinitions ["a.json", "notes.txt", "b.json"])
    loaded.2 = none ∧ loaded.1.size = 3 ∧ (folder.load twoDefinitions registry).2.2 = none ∧
      ∀ id, loaded.1.entity? id = (folder.load twoDefinitions registry).2.1.entity? id := by
  intro folder registry
  obtain ⟨b, definesB, soundB, idB⟩ := (folder.file twoDefinitions "b.json").exists_defines
    "\x7b\"id\":\"00000000000000000000000000000002\",\"name\":\"B\"\x7d" ⟨2⟩
    (by decide +kernel) (by decide +kernel)
  obtain ⟨a, definesA, soundA, idA⟩ := (folder.file twoDefinitions "a.json").exists_defines
    "\x7b\"id\":\"00000000000000000000000000000001\",\"name\":\"A\"\x7d" ⟨1⟩
    (by decide +kernel) (by decide +kernel)
  have named : twoDefinitions.names ["e"] = ["b.json", "notes.txt", "a.json"] := by decide +kernel
  have files : folder.files twoDefinitions (twoDefinitions.names ["e"]) =
      [folder.file twoDefinitions "b.json", folder.file twoDefinitions "a.json"] := by
    rw [named]
    rfl
  have loadable : registry.Loadable (folder.files twoDefinitions (twoDefinitions.names ["e"])) := by
    rw [files]
    refine ⟨List.forall_mem_cons.2 ⟨⟨b, definesB, soundB, by rw [idB]; rfl⟩,
      List.forall_mem_singleton.2 ⟨a, definesA, soundA, by rw [idA]; rfl⟩⟩,
      List.pairwise_pair.2 ?_⟩
    intro x y first second
    obtain rfl := definesB.unique first
    obtain rfl := definesA.unique second
    rw [idB, idA]
    decide
  have found : twoDefinitions.find folder.path = .ok ["e"] := by decide +kernel
  obtain ⟨loads, orders, -, -⟩ := load_anyOrder found (by decide +kernel) registry
  have backwards : ["a.json", "notes.txt", "b.json"].Perm (twoDefinitions.names ["e"]) := by
    rw [named]
    decide
  obtain ⟨possible, result⟩ := orders _ backwards
  obtain ⟨growth, alike⟩ := result (possible.2 loadable)
  refine ⟨possible.2 loadable, growth.size.trans ?_, ?_, ?_⟩
  · rw [files]
    rfl
  · rw [loads]
    exact (orders _ (.refl _)).1.2 loadable
  · rw [loads]
    exact alike

end DefinitionFolder
end VirtualRecords
