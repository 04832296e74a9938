import AccessControl.Proofs.Service.Deletion
import AccessControl.Proofs.World.Run

/-!
What an operation changes where services have the hooks that their kind of entity comes with: it
stores one entity, or it removes one, or all entities stay as they are.
-/

namespace AccessControl

theorem CreateValidator.run_eq_ok_iff {ε : Type} {e : ε} {validators : List (CreateValidator ε)} :
    (run e validators).1 = .ok () ↔ ∀ v ∈ validators, v.check e = .ok () := by
  induction validators with
  | nil => simp [run]
  | cons v vs ih =>
    rw [List.forall_mem_cons, ← ih, run]
    cases v.check e <;> simp

theorem DeleteValidator.requireUnused_observes (d : Device) (w : World) :
    (DeleteValidator.requireUnused d w).2 = w := by
  unfold requireUnused
  split <;> rfl

namespace EntityKind

theorem observing_lifecycle (kind : EntityKind) : kind.lifecycle.Observing := by
  cases kind with
  | device =>
    intro validate hv d w
    obtain rfl := List.mem_singleton.mp hv
    exact DeleteValidator.requireUnused_observes d w
  | _ => exact fun _ hv => nomatch hv

theorem createHandlers_lifecycle (kind : EntityKind) : kind.lifecycle.createHandlers = [] := by
  cases kind <;> rfl

end EntityKind

namespace World

theorem repositoryOf_note (kind : EntityKind) (notes : List String) (w : World) :
    (w.note notes).repositoryOf kind = w.repositoryOf kind :=
  Stored.repository_note notes w

/-- The entity has a new name and an owner, and no validator of its kind rejects it. -/
structure Admitted (w : World) {kind : EntityKind} (e : kind.Carrier) : Prop where
  name : ∀ x ∈ (w.repositoryOf kind).entities, Entity.name x ≠ Entity.name e
  owner : ∃ user, Entity.owner e = some user
  checked : ∀ v ∈ kind.lifecycle.createValidators, v.check e = .ok ()

inductive Change (w : World) : World → Prop
  | none {after : World} (same : ∀ kind, after.repositoryOf kind = w.repositoryOf kind) :
      Change w after
  | stored {kind : EntityKind} {e : kind.Carrier} (admitted : w.Admitted e) (notes : List String) :
      Change w (Stored.setRepository ((w.repositoryOf kind).save e) (w.note notes))
  | removed {kind : EntityKind} {id : EntityId} {e : kind.Carrier}
      (found : (w.repositoryOf kind).find? id = some e)
      (accepted : DeleteValidator.run e kind.lifecycle.deleteValidators w = (.ok (), w)) :
      Change w (Stored.setRepository ((w.repositoryOf kind).delete id) w)

variable {kind : EntityKind} {s : Service kind.Carrier}

theorem change_create (h : s.lifecycle = kind.lifecycle) (e : kind.Carrier) (w : World) :
    Change w (s.create e w).2 := by
  rcases hc : s.create e w with ⟨_ | saved, after⟩
  · obtain ⟨notes, rfl⟩ := Service.create_failed hc
    exact .none fun kind => repositoryOf_note kind notes w
  · obtain ⟨principal, notes, _, _, hn, rfl, hv, rfl⟩ := Service.create_ok_iff.mp hc
    rw [h] at hv
    rw [h, kind.createHandlers_lifecycle]
    refine .stored ⟨?_, ⟨_, Entity.owner_setOwner principal.id e⟩, ?_⟩ notes
    · rwa [Entity.name_setOwner]
    · exact CreateValidator.run_eq_ok_iff.mp (congrArg Prod.fst hv)

theorem change_delete (h : s.lifecycle = kind.lifecycle) (id : EntityId) (request : AccessRequest)
    (w : World) : Change w (s.delete id request w).2 := by
  have hl : s.lifecycle.Observing := h ▸ kind.observing_lifecycle
  rcases Service.delete_cases hl id request w with ⟨_, hd⟩ | ⟨e, hg, hv, hd⟩
  · rw [hd]
    exact .none fun _ => rfl
  · rw [h] at hv
    rw [hd]
    exact .removed (Service.getChecked_ok_iff.mp hg).1 hv

theorem change_step {op : Operation} (h : op.Standard) (w : World) : Change w (w.step op) := by
  cases op with
  | policies op =>
    refine .none fun kind => ?_
    rw [step, perform]
    split <;> cases kind <;> rfl
  | entities kind s call =>
    cases call with
    | create e => exact change_create h e w
    | delete id request => exact change_delete h id request w
    | _ => exact .none fun _ => rfl

end World

end AccessControl
