import VirtualRecords.Schema.Entity
import VirtualRecords.Schema.Error

/-! The entities that are known. An entity enters only if it is sound and its identifier
is new; it is found by its identifier or by its exact name. -/

namespace VirtualRecords

structure Registry where
  entities : List Entity

namespace Registry

def empty : Registry := ⟨[]⟩

def entity? (registry : Registry) (id : Identifier) : Option Entity :=
  registry.entities.find? (·.id == id)

def holds (registry : Registry) (id : Identifier) : Bool := (registry.entity? id).isSome

/-- The entity of that name that was registered first. -/
def named? (registry : Registry) (name : String) : Option Entity :=
  registry.entities.find? (·.name == name)

def fieldsOf (registry : Registry) (id : Identifier) : Except SchemaError (List Field) :=
  match registry.entity? id with
  | some entity => .ok entity.orderedFields
  | none => .error (.unknownEntity id)

def registerFrom (place : String) (registry : Registry) (entity : Entity) :
    Except SchemaError Registry :=
  match entity.structure? with
  | some reason => .error (.malformedDefinition place reason)
  | none =>
    if registry.holds entity.id then .error (.duplicateEntity entity.id)
    else .ok ⟨registry.entities ++ [entity]⟩

def inMemory : String := "<in-memory>"

def register (registry : Registry) (entity : Entity) : Except SchemaError Registry :=
  registerFrom inMemory registry entity

def size (registry : Registry) : Nat := registry.entities.length

end Registry
end VirtualRecords
