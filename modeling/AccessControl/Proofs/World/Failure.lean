import AccessControl.Proofs.World.Changes

/-!
Operations that fail. Every check comes before the first thing that is stored or removed, and
handlers come after that, so a failure leaves what is stored as it was and no handler has run.
-/

namespace AccessControl

open Outcome

namespace World

def Operation.Observing : Operation → Prop
  | .policies _ => True
  | .entities _ service _ => service.lifecycle.Observing

/-- The operation where services have other handlers of stored entities. -/
def Operation.withHandlers (handlers : (kind : EntityKind) → List (CreateHandler kind.Carrier)) :
    Operation → Operation
  | .policies op => .policies op
  | .entities kind service call => .entities kind (service.withHandlers (handlers kind)) call

/-- Services whose deletion validators only look, those of every kind of entity among them, leave a
world that an operation on it fails in as it was but for notes of validators. With any other
handlers the operation would have done the very same, so none has run. -/
theorem failed_leaves_world :
    (∀ kind : EntityKind, kind.lifecycle.Observing) ∧
    ∀ (w : World) (op : Operation) (cause : EntityError), op.Observing →
      (w.perform op).1 = .error cause →
      (∃ notes, (w.perform op).2 = w.note notes) ∧
        ∀ handlers, w.perform (op.withHandlers handlers) = w.perform op := by
  refine ⟨EntityKind.observing_lifecycle, fun w op cause hop h => ?_⟩
  have hsame : ∃ notes, w = w.note notes := ⟨[], (note_nil w).symm⟩
  cases op with
  | policies op =>
    refine ⟨?_, fun _ => rfl⟩
    rw [perform] at h ⊢
    cases hp : w.policies.perform op with
    | error cause => exact hsame
    | ok policies =>
      rw [hp] at h
      cases h
  | entities kind s call =>
    cases call with
    | create e =>
      obtain ⟨notes, hcreate⟩ := Service.create_error (map_error_iff.mp h)
      have hs : s.create e w = (.error cause, w.note notes) := hcreate s.lifecycle.createHandlers
      refine ⟨⟨notes, congrArg Prod.snd hs⟩, fun handlers => ?_⟩
      simp only [Operation.withHandlers, perform, Service.perform, hcreate, hs]
    | delete id request =>
      refine ⟨?_, fun _ => rfl⟩
      rcases Service.delete_cases hop id request w with ⟨_, hd⟩ | ⟨_, _, _, hd⟩
      · rw [perform, Service.perform, hd]
        exact hsame
      · rw [perform, Service.perform, hd] at h
        cases h
    | _ => exact ⟨hsame, fun _ => rfl⟩

/-- A handler that would note what was stored, and a device that is not. -/
def unaddressed : Operation :=
  (Operation.entities .device (EntityKind.device.serviceOf 1)
    (.create (Device.ofAddress (.ofDigit 3) "gateway" "pi" " "))).withHandlers
      fun _ => [.noting fun e => [Entity.name e]]

theorem unaddressed_leaves_nothing :
    ((empty 64).perform unaddressed).1 = .error (.invalid .blankAddress) ∧
      (∃ notes, ((empty 64).perform unaddressed).2 = (empty 64).note notes) ∧
      (empty 64).perform (unaddressed.withHandlers fun _ => []) =
        (empty 64).perform unaddressed := by
  have hfails : ((empty 64).perform unaddressed).1 = .error (.invalid .blankAddress) := rfl
  have hlaw := failed_leaves_world.2 (empty 64) unaddressed _
    (EntityKind.observing_lifecycle .device) hfails
  exact ⟨hfails, hlaw.1, hlaw.2 _⟩

end World

end AccessControl
