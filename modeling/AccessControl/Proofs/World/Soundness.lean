import AccessControl.Proofs.Repository.Content
import AccessControl.Proofs.World.Changes

/-!
What repositories hold after any run. Identifiers stay distinct because entities are stored under
them, names because a new entity has none that is in use, and what validators check stays true
because stored entities are replaced as a whole.
-/

namespace AccessControl

open Outcome

/-- What services keep of a repository whose entities some validators have to accept. -/
structure Repository.Sound {ε : Type} [Entity ε] (validators : List (CreateValidator ε))
    (r : Repository ε) : Prop where
  ids : r.IdsDistinct
  names : (r.entities.map Entity.name).Nodup
  owned : ∀ e ∈ r.entities, ∃ user, Entity.owner e = some user
  checked : ∀ e ∈ r.entities, ∀ v ∈ validators, v.check e = .ok ()

namespace Repository.Sound

variable {ε : Type} [Entity ε] {validators : List (CreateValidator ε)} {r : Repository ε}

theorem empty : (Repository.empty : Repository ε).Sound validators :=
  ⟨List.nodup_nil, List.nodup_nil, fun _ h => (nomatch h), fun _ h => (nomatch h)⟩

/-- The new name is none of those in use, nor that of the entity that loses its place. -/
theorem save (h : r.Sound validators) {e : ε}
    (hname : ∀ x ∈ r.entities, Entity.name x ≠ Entity.name e)
    (howner : ∃ user, Entity.owner e = some user)
    (hchecked : ∀ v ∈ validators, v.check e = .ok ()) : (r.save e).Sound validators where
  ids := h.ids.save e
  names := by
    apply Keyed.nodup_map_put h.names
    intro hused
    obtain ⟨x, hx, he⟩ := List.mem_map.mp hused
    exact hname x hx he
  owned x hx := by
    rcases Keyed.mem_put hx with rfl | hx
    · exact howner
    · exact h.owned x hx
  checked x hx := by
    rcases Keyed.mem_put hx with rfl | hx
    · exact hchecked
    · exact h.checked x hx

theorem delete (h : r.Sound validators) (id : EntityId) : (r.delete id).Sound validators where
  ids := h.ids.delete id
  names := Keyed.nodup_map_remove h.names
  owned x hx := h.owned x (List.mem_filter.mp hx).1
  checked x hx := h.checked x (List.mem_filter.mp hx).1

end Repository.Sound

theorem EntityKind.requireName_mem (kind : EntityKind) :
    CreateValidator.requireName ∈ kind.lifecycle.createValidators := by
  cases kind <;> exact List.mem_cons_self

theorem EntityKind.requireAddress_mem :
    CreateValidator.requireAddress ∈ EntityKind.device.lifecycle.createValidators :=
  List.mem_cons_of_mem _ List.mem_cons_self

namespace World

def Sound (w : World) : Prop :=
  ∀ kind : EntityKind, (w.repositoryOf kind).Sound kind.lifecycle.createValidators

theorem Change.sound {w after : World} (h : Change w after) (hw : w.Sound) : after.Sound := by
  cases h with
  | none same =>
    intro kind
    rw [same kind]
    exact hw kind
  | stored admitted notes =>
    apply forall_repositoryOf (P := fun kind r => r.Sound kind.lifecycle.createValidators)
    · exact (hw _).save admitted.name admitted.owner admitted.checked
    · intro kind
      rw [repositoryOf_note]
      exact hw kind
  | removed _ _ =>
    apply forall_repositoryOf (P := fun kind r => r.Sound kind.lifecycle.createValidators) _ hw
    exact (hw _).delete _

theorem sound_run {w : World} (hw : w.Sound) {ops : List Operation}
    (h : ∀ op ∈ ops, op.Standard) : (w.run ops).Sound :=
  run_induction (fun w _ hop => (change_step hop w).sound) hw h

/-- Whatever is asked of services with the usual hooks, by whomever and for whatever entities, those
that come to be stored differ in identifier and in name, are named and owned, and devices have an
address. -/
theorem fresh_run_sound (maxConditionDepth : Nat) (evaluator : Evaluator) {ops : List Operation}
    (hops : ∀ op ∈ ops, op.Standard) :
    (∀ kind : EntityKind,
      let stored := (((fresh maxConditionDepth evaluator).run ops).repositoryOf kind).entities
      (stored.map Entity.id).Nodup ∧ (stored.map Entity.name).Nodup ∧
        ∀ e ∈ stored, Text.trim (Entity.name e) ≠ "" ∧ ∃ user, Entity.owner e = some user) ∧
    ∀ d ∈ ((fresh maxConditionDepth evaluator).run ops).devices.entities,
      Text.trim d.ipAddress ≠ "" := by
  have hstart : (fresh maxConditionDepth evaluator).Sound := by
    intro kind
    rw [repositoryOf_fresh]
    exact .empty
  have hsound := sound_run hstart hops
  constructor
  · intro kind
    refine ⟨(hsound kind).ids, (hsound kind).names, fun e he => ⟨?_, (hsound kind).owned e he⟩⟩
    have hname := (hsound kind).checked e he _ kind.requireName_mem
    exact mt Text.trim_eq_empty_iff.mp (refuse_or_ok_iff.mp hname).1
  · intro d hd
    have haddress := (hsound .device).checked d hd _ EntityKind.requireAddress_mem
    exact mt Text.trim_eq_empty_iff.mp (refuse_or_ok_iff.mp haddress).1

def creation (caller digit : Fin 16) (name address : String) : Operation :=
  .entities .device (EntityKind.device.serviceOf caller)
    (.create (Device.ofAddress (.ofDigit digit) name "pi" address))

/-- One identifier used twice, then a name used twice, no name and no address. -/
def contended : List Operation :=
  [creation 1 3 "gateway" "10.0.0.1", creation 2 3 "router" "10.0.0.2",
    creation 1 4 "router" "10.0.0.3", creation 1 5 " " "10.0.0.4", creation 1 6 "switch" " ",
    creation 1 7 "gateway" "10.0.0.5"]

theorem contended_sound :
    ((fresh 64 (.ofLimit 64)).run contended).devices.entities.map Entity.id =
      [Id.ofDigit 3, Id.ofDigit 7] ∧
    (((fresh 64 (.ofLimit 64)).run contended).devices.entities.map Entity.name).Nodup ∧
    ∀ d ∈ ((fresh 64 (.ofLimit 64)).run contended).devices.entities,
      Text.trim d.ipAddress ≠ "" := by
  have hops : ∀ op ∈ contended, op.Standard := by
    simp only [contended, List.forall_mem_cons]
    exact ⟨rfl, rfl, rfl, rfl, rfl, rfl, List.forall_mem_nil _⟩
  obtain ⟨hkinds, haddresses⟩ := fresh_run_sound 64 (.ofLimit 64) hops
  exact ⟨rfl, (hkinds .device).2.1, haddresses⟩

end World

end AccessControl
