import AccessControl.Entity.Basic
import AccessControl.Keyed

/-!
Repositories: entities under their identifiers, in the order in which they were first stored.
-/

namespace AccessControl

/-- The order in which entities are listed. -/
inductive ListOrder where
  | stored
  | byName
  | byNameDescending
deriving DecidableEq

structure Repository (ε : Type) where
  entities : List ε

namespace Repository

variable {ε : Type}

def empty : Repository ε :=
  ⟨[]⟩

def size (r : Repository ε) : Nat :=
  r.entities.length

def isEmpty (r : Repository ε) : Bool :=
  r.entities.isEmpty

variable [Entity ε]

def find? (r : Repository ε) (id : EntityId) : Option ε :=
  Keyed.find? Entity.id id r.entities

/-- Entities by name, those of one name as they stand. -/
def sortByName (entities : List ε) : List ε :=
  entities.mergeSort fun a b => Text.lessOrEqual (Entity.name a) (Entity.name b)

/-- All entities. -/
def list (r : Repository ε) : ListOrder → List ε
  | .stored => r.entities
  | .byName => sortByName r.entities
  | .byNameDescending => (sortByName r.entities).reverse

/-- Stores an entity, in the place of the one with its identifier if there is one. -/
def save (r : Repository ε) (e : ε) : Repository ε :=
  ⟨Keyed.put Entity.id e r.entities⟩

def delete (r : Repository ε) (id : EntityId) : Repository ε :=
  ⟨Keyed.remove Entity.id id r.entities⟩

/-- An entity is stored under an identifier. -/
def contains (r : Repository ε) (id : EntityId) : Bool :=
  r.entities.any fun e => decide (Entity.id e = id)

def existsByName (r : Repository ε) (name : String) : Bool :=
  r.entities.any fun e => Entity.name e == name

end Repository

end AccessControl
