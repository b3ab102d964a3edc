import VirtualRecords.FileTree
import VirtualRecords.Json.Printer
import VirtualRecords.Json.Reader
import VirtualRecords.Schema.Registry

/-! Definition files: entities kept in a folder, one file each. Loading takes every file
of the folder whose name ends in `.json`, in the order of the folder, and stops at the
first that cannot be taken; those before it stay registered. -/

namespace VirtualRecords

structure DefinitionFile where
  path : String
  content : Except FileFailure String

namespace DefinitionFile

def unreadable : String := "Failed to read file: "

def undecodable : String := "Invalid JSON: "

def entity (file : DefinitionFile) : Except SchemaError Entity :=
  match file.content with
  | .error failure => .error (.malformedDefinition file.path (unreadable ++ failure.text))
  | .ok text =>
    match (Json.ofTextBy? Entity.outline text).bind Entity.ofJson? with
    | some entity => .ok entity
    | none => .error (.malformedDefinition file.path (undecodable ++ "not an entity"))

end DefinitionFile

namespace Registry

def loadFile (registry : Registry) (file : DefinitionFile) : Except SchemaError Registry := do
  registry.registerFrom file.path (← file.entity)

/-- Registers the entities of files up to the first that fails, and says how it failed. -/
def loadFiles (registry : Registry) : List DefinitionFile → Registry × Option SchemaError
  | [] => (registry, none)
  | file :: rest =>
    match registry.loadFile file with
    | .ok grown => grown.loadFiles rest
    | .error failure => (registry, some failure)

end Registry

structure DefinitionFolder where
  path : String

namespace DefinitionFolder

def ofDataFolder (path : String) : DefinitionFolder := ⟨childPath path "entities"⟩

/-- A name of at least one character before `.json`. -/
def isDefinitionName (name : String) : Bool :=
  ".json".toList.isSuffixOf name.toList && ".json".toList.length < name.length

def file (folder : DefinitionFolder) (tree : FileTree) (name : String) : DefinitionFile :=
  let path := childPath folder.path name
  { path, content := tree.read path }

def files (folder : DefinitionFolder) (tree : FileTree) (entries : List String) :
    List DefinitionFile :=
  (entries.filter isDefinitionName).map (folder.file tree)

def fault (folder : DefinitionFolder) (attempt : String) (failure : FileFailure) : SchemaError :=
  .malformedDefinition folder.path ("Failed to " ++ attempt ++ " entity directory: " ++ failure.text)

def make (folder : DefinitionFolder) (tree : FileTree) : Except SchemaError FileTree :=
  (tree.makeFolder folder.path).mapError (folder.fault "create")

/-- Loads every definition file; a folder that is missing is made and counts as empty. -/
def load (folder : DefinitionFolder) (tree : FileTree) (registry : Registry) :
    FileTree × Registry × Option SchemaError :=
  match tree.find folder.path with
  | .ok place =>
    if tree.isFile place then (tree, registry, some (folder.fault "read" .isFile))
    else (tree, registry.loadFiles (folder.files tree (tree.names place)))
  | .error _ =>
    match folder.make tree with
    | .ok made => (made, registry, none)
    | .error failure => (tree, registry, some failure)

def fileName (entity : Entity) : String := "entity_" ++ entity.id.text ++ ".json"

def fileText (entity : Entity) : String := entity.toFileJson.pretty

def save (folder : DefinitionFolder) (tree : FileTree) (entity : Entity) :
    Except SchemaError FileTree :=
  let path := childPath folder.path (fileName entity)
  match tree.find path with
  | .ok _ => .error (.duplicateEntity entity.id)
  | .error _ => do
    ((← folder.make tree).write path (fileText entity)).mapError fun failure =>
      .malformedDefinition path ("Failed to write file: " ++ failure.text)

end DefinitionFolder
end VirtualRecords
