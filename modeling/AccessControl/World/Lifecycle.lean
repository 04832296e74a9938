import AccessControl.Entity.Error
import AccessControl.World.Basic

/-!
Hooks around storing and deleting. What may be stored is checked on the entity alone; handlers of a
stored entity, and validators that can object to a deletion, also see the world and may change it.
The world has no log, so a hook that would only write to one does not appear.
-/

namespace AccessControl

/-- A check before an entity is stored, with what it notes in the journal when it runs. -/
structure CreateValidator (ε : Type) where
  check : ε → Except EntityError Unit
  notes : ε → List String := fun _ => []

/-- What follows when an entity has been stored. -/
abbrev CreateHandler (ε : Type) := ε → World → World

/-- A check before an entity is deleted. -/
abbrev DeleteValidator (ε : Type) := ε → World → Except EntityError Unit × World

/-- The hooks of a kind of entity, each list in the order in which it runs. -/
structure Lifecycle (ε : Type) where
  createValidators : List (CreateValidator ε) := []
  createHandlers : List (CreateHandler ε) := []
  deleteValidators : List (DeleteValidator ε) := []

namespace CreateValidator

variable {ε : Type}

/-- The name is not blank. -/
def requireName [Entity ε] : CreateValidator ε where
  check e :=
    if Text.isBlank (Entity.name e) then .error (.invalid (.blankName (Entity.kind ε))) else .ok ()

/-- The address is not blank. -/
def requireAddress : CreateValidator Device where
  check d := if Text.isBlank d.ipAddress then .error (.invalid .blankAddress) else .ok ()

/-- Accepts everything and notes it. -/
def noting (notes : ε → List String) : CreateValidator ε where
  check _ := .ok ()
  notes := notes

/-- Runs validators up to the first one that fails, and collects what they note. -/
def run (e : ε) : List (CreateValidator ε) → Except EntityError Unit × List String
  | [] => (.ok (), [])
  | v :: vs =>
    match v.check e with
    | .error error => (.error error, v.notes e)
    | .ok () => ((run e vs).1, v.notes e ++ (run e vs).2)

end CreateValidator

namespace CreateHandler

variable {ε : Type}

def noting (notes : ε → List String) : CreateHandler ε :=
  fun e w => w.note (notes e)

/-- Runs handlers one after the other. -/
def run (e : ε) (handlers : List (CreateHandler ε)) (w : World) : World :=
  handlers.foldl (fun w handle => handle e w) w

end CreateHandler

namespace DeleteValidator

variable {ε : Type}

/-- A device stays as long as a sensor or an actuator belongs to it. -/
def requireUnused : DeleteValidator Device := fun d w =>
  if w.sensors.entities.any (fun s => decide (s.device = d.id)) ||
      w.actuators.entities.any (fun a => decide (a.device = d.id)) then
    (.error (.refused (.entityStillInUse (Entity.kind Device) d.id)), w)
  else (.ok (), w)

def noting (notes : ε → List String) : DeleteValidator ε :=
  fun e w => (.ok (), w.note (notes e))

/-- Takes some entities out of their repository itself, before it comes to the deletion. -/
def withdrawing [Entity ε] [Stored ε] (concerns : ε → Bool) : DeleteValidator ε := fun e w =>
  if concerns e then
    (.ok (), Stored.setRepository ((Stored.repository (ε := ε) w).delete (Entity.id e)) w)
  else (.ok (), w)

/-- Runs validators up to the first one that objects. -/
def run (e : ε) : List (DeleteValidator ε) → World → Except EntityError Unit × World
  | [], w => (.ok (), w)
  | validate :: vs, w =>
    match validate e w with
    | (.error error, w) => (.error error, w)
    | (.ok (), w) => run e vs w

end DeleteValidator

namespace Lifecycle

variable {ε : Type}

/-- No hooks. -/
def empty : Lifecycle ε :=
  {}

/-- The hooks of the first, then those of the second. -/
def append (l m : Lifecycle ε) : Lifecycle ε where
  createValidators := l.createValidators ++ m.createValidators
  createHandlers := l.createHandlers ++ m.createHandlers
  deleteValidators := l.deleteValidators ++ m.deleteValidators

/-- For entities that only need a name. -/
def basic [Entity ε] : Lifecycle ε where
  createValidators := [.requireName]

/-- For devices: a name, an address, and no deletion while they are in use. -/
def device : Lifecycle Device where
  createValidators := [.requireName, .requireAddress]
  deleteValidators := [.requireUnused]

end Lifecycle

end AccessControl
