import AccessControl.Proofs.Repository.Content
import AccessControl.Proofs.World.Changes
import Mathlib.Logic.Relation

/-!
What hooks may do to a world. All they have are the stores themselves, so whatever they do comes
down to operations on the policies, entities saved and removed, and notes.
-/

namespace AccessControl.World

inductive Write (w : World) : World → Prop
  | policies (op : PolicyStore.Operation) : Write w { w with policies := w.policies.step op }
  | save {kind : EntityKind} (e : kind.Carrier) :
      Write w (Stored.setRepository ((Stored.repository w).save e) w)
  | remove (kind : EntityKind) (id : EntityId) :
      Write w (Stored.setRepository ((Stored.repository (ε := kind.Carrier) w).delete id) w)
  | note (notes : List String) : Write w (w.note notes)

/-- Any number of writes. -/
abbrev Writes : World → World → Prop :=
  Relation.ReflTransGen Write

end AccessControl.World

namespace AccessControl

structure Lifecycle.WritesOnly {ε : Type} (l : Lifecycle ε) : Prop where
  handlers : ∀ handle ∈ l.createHandlers, ∀ e w, World.Writes w (handle e w)
  validators : ∀ validate ∈ l.deleteValidators, ∀ e w, World.Writes w (validate e w).2

theorem EntityKind.writesOnly_lifecycle (kind : EntityKind) : kind.lifecycle.WritesOnly where
  handlers handle hh := by
    rw [kind.createHandlers_lifecycle] at hh
    cases hh
  validators validate hv e w := by
    rw [kind.observing_lifecycle validate hv e w]

namespace World

open Relation (ReflTransGen)

/-- The hooks of the service do nothing but write. -/
def Operation.WritesOnly : Operation → Prop
  | .policies _ => True
  | .entities _ service _ => service.lifecycle.WritesOnly

variable {kind : EntityKind} {s : Service kind.Carrier}

theorem writes_create (h : s.lifecycle.WritesOnly) (e : kind.Carrier) (w : World) :
    Writes w (s.create e w).2 := by
  rcases hc : s.create e w with ⟨_ | saved, after⟩
  · obtain ⟨notes, rfl⟩ := Service.create_failed hc
    exact .single (.note notes)
  · obtain ⟨_, notes, _, _, _, _, _, rfl⟩ := Service.create_ok_iff.mp hc
    apply CreateHandler.run_induction (P := Writes w)
    · exact fun handle hh after hw => hw.trans (h.handlers handle hh saved after)
    · rw [← Stored.repository_note notes]
      exact ReflTransGen.tail (.single (.note notes)) (.save saved)

theorem writes_delete (h : s.lifecycle.WritesOnly) (id : EntityId) (request : AccessRequest)
    (w : World) : Writes w (s.delete id request w).2 := by
  cases hg : s.getChecked id .delete request w with
  | error cause =>
    rw [Service.delete_of_not_granted hg]
  | ok e =>
    have hwrites : Writes w (DeleteValidator.run e s.lifecycle.deleteValidators w).2 := by
      apply DeleteValidator.run_induction (P := Writes w) _ .refl
      exact fun validate hv after hw => hw.trans (h.validators validate hv e after)
    rcases hv : DeleteValidator.run e s.lifecycle.deleteValidators w with ⟨_ | _, after⟩
    · rw [hv] at hwrites
      rw [Service.delete_of_objection hg hv]
      exact hwrites
    · rw [hv] at hwrites
      rw [Service.delete_of_accepted hg hv]
      split
      · exact hwrites.tail (.remove kind id)
      · exact hwrites

theorem writes_step {op : Operation} (h : op.WritesOnly) (w : World) : Writes w (w.step op) := by
  cases op with
  | policies op =>
    have hwrite := Write.policies (w := w) op
    rw [PolicyStore.step] at hwrite
    rw [step, perform]
    cases hp : w.policies.perform op with
    | error cause => exact .refl
    | ok policies =>
      rw [hp] at hwrite
      exact .single hwrite
  | entities kind s call =>
    cases call with
    | create e => exact writes_create h e w
    | delete id request => exact writes_delete h id request w
    | _ => exact .refl

/-- No two entities of one kind share an identifier. -/
def IdsDistinct (w : World) : Prop :=
  ∀ kind, (w.repositoryOf kind).IdsDistinct

variable {w after : World}

theorem Write.idsDistinct (h : Write w after) (hw : w.IdsDistinct) : after.IdsDistinct := by
  cases h with
  | policies op => exact fun kind => by cases kind <;> exact hw _
  | save e => exact forall_repositoryOf (P := fun _ r => r.IdsDistinct) ((hw _).save e) hw
  | remove kind id =>
    exact forall_repositoryOf (P := fun _ r => r.IdsDistinct) ((hw kind).delete id) hw
  | note notes =>
    intro kind
    rw [repositoryOf, Stored.repository_note]
    exact hw kind

theorem Writes.idsDistinct (h : Writes w after) (hw : w.IdsDistinct) : after.IdsDistinct := by
  induction h with
  | refl => exact hw
  | tail _ hstep ih => exact hstep.idsDistinct ih

theorem idsDistinct_fresh (maxConditionDepth : Nat) (evaluator : Evaluator) :
    (fresh maxConditionDepth evaluator).IdsDistinct := by
  intro kind
  rw [repositoryOf_fresh]
  exact List.nodup_nil

theorem idsDistinct_run {ops : List Operation} (h : ∀ op ∈ ops, op.WritesOnly)
    (hw : w.IdsDistinct) : (w.run ops).IdsDistinct :=
  run_induction (fun w _ hop hw => (writes_step hop w).idsDistinct hw) hw h

end World

end AccessControl
