import AccessControl.Entity.Actuator
import AccessControl.Entity.Device
import AccessControl.Entity.Operator
import AccessControl.Entity.Sensor
import AccessControl.PolicyStore
import AccessControl.Repository

/-!
Everything that is stored: the policies and a repository for each kind of entity. Beside it lies a
journal, in which hooks note that they have run.
-/

namespace AccessControl

structure World where
  evaluator : Evaluator
  policies : PolicyStore
  devices : Repository Device
  sensors : Repository Sensor
  actuators : Repository Actuator
  operators : Repository Operator
  /-- What hooks have noted, the earliest first. -/
  journal : List String

namespace World

/-- Nothing stored. Policies are stored and decided down to the same depth. -/
def empty (maxConditionDepth : Nat) : World :=
  ⟨.ofLimit maxConditionDepth, .empty maxConditionDepth, .empty, .empty, .empty, .empty, []⟩

/-- Decides by the stored policies. -/
def guard (w : World) : Guard :=
  ⟨w.policies.toLookup, w.evaluator⟩

/-- Adds to the journal. -/
def note (notes : List String) (w : World) : World :=
  { w with journal := w.journal ++ notes }

end World

/-- A kind of entity with a repository of its own in the world. -/
class Stored (ε : Type) where
  repository : World → Repository ε
  setRepository : Repository ε → World → World
  repository_setRepository : ∀ r w, repository (setRepository r w) = r
  setRepository_repository : ∀ w, setRepository (repository w) w = w
  setRepository_setRepository : ∀ r r' w, setRepository r (setRepository r' w) = setRepository r w
  guard_setRepository : ∀ r w, (setRepository r w).guard = w.guard
  repository_note : ∀ notes w, repository (World.note notes w) = repository w

instance : Stored Device where
  repository := World.devices
  setRepository r w := { w with devices := r }
  repository_setRepository _ _ := rfl
  setRepository_repository _ := rfl
  setRepository_setRepository _ _ _ := rfl
  guard_setRepository _ _ := rfl
  repository_note _ _ := rfl

instance : Stored Sensor where
  repository := World.sensors
  setRepository r w := { w with sensors := r }
  repository_setRepository _ _ := rfl
  setRepository_repository _ := rfl
  setRepository_setRepository _ _ _ := rfl
  guard_setRepository _ _ := rfl
  repository_note _ _ := rfl

instance : Stored Actuator where
  repository := World.actuators
  setRepository r w := { w with actuators := r }
  repository_setRepository _ _ := rfl
  setRepository_repository _ := rfl
  setRepository_setRepository _ _ _ := rfl
  guard_setRepository _ _ := rfl
  repository_note _ _ := rfl

instance : Stored Operator where
  repository := World.operators
  setRepository r w := { w with operators := r }
  repository_setRepository _ _ := rfl
  setRepository_repository _ := rfl
  setRepository_setRepository _ _ _ := rfl
  guard_setRepository _ _ := rfl
  repository_note _ _ := rfl

end AccessControl
