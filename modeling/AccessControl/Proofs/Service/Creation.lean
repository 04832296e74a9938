import AccessControl.Proofs.Outcome
import AccessControl.World.Service

/-!
Creating entities on behalf of a caller. A conflict is looked for among the names, while the
repository stores under identifiers: an entity that comes with the identifier of a stored one takes
its place and belongs to the caller from then on.
-/

namespace AccessControl

open Outcome

theorem EntityError.lift_ok_iff {α : Type} {x : Except AuthError α} {a : α} :
    EntityError.lift x = .ok a ↔ x = .ok a := by
  rcases x with cause | b <;> simp [EntityError.lift]

namespace Repository

variable {ε : Type}

/-- All that was stored is stored as it was, and one entity more. -/
def GrowsTo (before after : Repository ε) : Prop :=
  (∀ x ∈ before.entities, x ∈ after.entities) ∧ after.size = before.size + 1

variable [Entity ε] {r : Repository ε} {e x : ε}

theorem save_of_find?_eq_none (h : r.find? (Entity.id e) = none) :
    (r.save e).entities = r.entities ++ [e] := by
  apply Keyed.put_of_forall_ne
  intro y hy he
  have hnot := (Keyed.find?_eq_none_iff Entity.id (Entity.id e) r.entities).mp h
  exact hnot (List.mem_map.mpr ⟨y, hy, he⟩)

theorem save_of_find?_eq_some (h : r.find? (Entity.id e) = some x) :
    ∃ front back, r.entities = front ++ x :: back ∧ (r.save e).entities = front ++ e :: back :=
  Keyed.put_of_find? h

theorem growsTo_save_iff : r.GrowsTo (r.save e) ↔ r.find? (Entity.id e) = none := by
  constructor
  · rintro ⟨_, hsize⟩
    cases hf : r.find? (Entity.id e) with
    | none => rfl
    | some x =>
      obtain ⟨front, back, hr, hs⟩ := save_of_find?_eq_some hf
      rw [size, size, hr, hs] at hsize
      simp at hsize
  · intro hf
    have hs := save_of_find?_eq_none hf
    refine ⟨fun y hy => ?_, ?_⟩
    · rw [hs]
      exact List.mem_append_left _ hy
    · rw [size, size, hs]
      simp

end Repository

theorem World.note_nil (w : World) : w.note [] = w := by
  rw [note, List.append_nil]

/-- The handler leaves the entities of its own kind alone. -/
def CreateHandler.Quiet {ε : Type} [Stored ε] (handle : CreateHandler ε) : Prop :=
  ∀ e w, Stored.repository (ε := ε) (handle e w) = Stored.repository w

theorem CreateHandler.repository_run {ε : Type} [Stored ε] (e : ε)
    (handlers : List (CreateHandler ε)) (h : ∀ handle ∈ handlers, handle.Quiet) (w : World) :
    Stored.repository (ε := ε) (CreateHandler.run e handlers w) = Stored.repository w := by
  induction handlers generalizing w with
  | nil => rfl
  | cons handle handlers ih =>
    have hrest := ih (fun g hg => h g (List.mem_cons_of_mem _ hg)) (handle e w)
    exact hrest.trans (h handle List.mem_cons_self e w)

namespace Service

variable {ε : Type} [Entity ε] [Stored ε] {s : Service ε} {e saved : ε} {w after : World}

theorem requireCreatable_ok_iff {name : String} {principal : Principal} :
    s.requireCreatable name w = .ok principal ↔
      s.caller = .ok principal ∧ principal.isLoginable = true ∧
        ∀ x ∈ (Stored.repository (ε := ε) w).entities, Entity.name x ≠ name := by
  simp only [requireCreatable, bind_ok_iff, EntityError.lift_ok_iff,
    Principal.requireLoginable_ok_iff, refuse_or_ok_iff, pure_ok_iff, Repository.existsByName,
    List.any_eq_true, beq_iff_eq, not_exists, not_and]
  constructor
  · rintro ⟨_, hc, ⟨⟩, hl, hn, rfl⟩
    exact ⟨hc, hl, hn⟩
  · rintro ⟨hc, hl, hn⟩
    exact ⟨principal, hc, (), hl, hn, rfl⟩

/-- An entity is stored when its caller may log in, no stored entity has its name, and every
validator accepts it as the caller's own. -/
theorem create_ok_iff :
    s.create e w = (.ok saved, after) ↔
      ∃ principal notes, s.caller = .ok principal ∧ principal.isLoginable = true ∧
        (∀ x ∈ (Stored.repository (ε := ε) w).entities, Entity.name x ≠ Entity.name e) ∧
        saved = Entity.setOwner principal.id e ∧
        CreateValidator.run saved s.lifecycle.createValidators = (.ok (), notes) ∧
        after = CreateHandler.run saved s.lifecycle.createHandlers
          (Stored.setRepository ((Stored.repository w).save saved) (w.note notes)) := by
  unfold create
  constructor
  · intro h
    split at h
    · cases h
    · rename_i principal hp
      obtain ⟨hc, hl, hn⟩ := requireCreatable_ok_iff.mp hp
      dsimp only at h
      split at h
      · cases h
      · rename_i hv
        obtain ⟨hsaved, hafter⟩ := Prod.mk.inj h
        obtain rfl := Except.ok.inj hsaved
        refine ⟨principal, _, hc, hl, hn, rfl, Prod.ext hv rfl, ?_⟩
        rw [← hafter, Stored.repository_note]
  · rintro ⟨principal, notes, hc, hl, hn, rfl, hv, rfl⟩
    rw [requireCreatable_ok_iff.mpr ⟨hc, hl, hn⟩]
    simp only [hv, Stored.repository_note]

/-- The service with other handlers of stored entities. -/
def withHandlers (handlers : List (CreateHandler ε)) (s : Service ε) : Service ε :=
  { s with lifecycle := { s.lifecycle with createHandlers := handlers } }

/-- An entity that is refused leaves nothing but what validators noted, whatever the handlers. -/
theorem create_error {cause : EntityError} (h : (s.create e w).1 = .error cause) :
    ∃ notes, ∀ handlers,
      (s.withHandlers handlers).create e w = (.error cause, w.note notes) := by
  unfold create at h
  split at h
  · rename_i error hp
    obtain rfl := Except.error.inj h
    refine ⟨[], fun handlers => ?_⟩
    have hp' : (s.withHandlers handlers).requireCreatable (Entity.name e) w = .error error := hp
    rw [create, hp', World.note_nil]
  · rename_i principal hp
    dsimp only at h
    split at h
    · rename_i error hv
      obtain rfl := Except.error.inj h
      refine ⟨(CreateValidator.run (Entity.setOwner principal.id e)
        s.lifecycle.createValidators).2, fun handlers => ?_⟩
      have hp' : (s.withHandlers handlers).requireCreatable (Entity.name e) w = .ok principal := hp
      rw [create, hp']
      simp only [withHandlers, hv]
    · cases h

theorem create_failed {cause : EntityError} (h : s.create e w = (.error cause, after)) :
    ∃ notes, after = w.note notes := by
  obtain ⟨notes, hw⟩ := create_error (congrArg Prod.fst h)
  have hsame := hw s.lifecycle.createHandlers
  exact ⟨notes, congrArg Prod.snd (h.symm.trans hsame)⟩

/-- Creating keeps all that was stored and adds one entity exactly where the identifier is new. An
entity stored under the identifier loses its place to the new one, which has another name and
belongs to the caller. Handlers come after that. -/
theorem create_grows_iff (h : s.create e w = (.ok saved, after)) :
    ∃ stored : World,
      after = CreateHandler.run saved s.lifecycle.createHandlers stored ∧
      ((∀ handle ∈ s.lifecycle.createHandlers, handle.Quiet) →
        Stored.repository (ε := ε) after = Stored.repository stored) ∧
      ((Stored.repository (ε := ε) w).GrowsTo (Stored.repository stored) ↔
        (Stored.repository (ε := ε) w).find? (Entity.id e) = none) ∧
      ((Stored.repository (ε := ε) w).find? (Entity.id e) = none →
        (Stored.repository stored).entities = (Stored.repository w).entities ++ [saved]) ∧
      ∀ x, (Stored.repository (ε := ε) w).find? (Entity.id e) = some x →
        ∃ front back, (Stored.repository w).entities = front ++ x :: back ∧
          (Stored.repository stored).entities = front ++ saved :: back ∧
          Entity.name saved ≠ Entity.name x ∧
          ∃ principal, s.caller = .ok principal ∧ Entity.owner saved = some principal.id := by
  obtain ⟨principal, notes, hc, _, hn, rfl, _, rfl⟩ := create_ok_iff.mp h
  refine ⟨_, rfl, fun hq => CreateHandler.repository_run _ _ hq _, ?_⟩
  rw [Stored.repository_setRepository, ← Entity.id_setOwner principal.id e]
  refine ⟨Repository.growsTo_save_iff, Repository.save_of_find?_eq_none, ?_⟩
  intro x hx
  obtain ⟨front, back, hw, hs⟩ := Repository.save_of_find?_eq_some hx
  refine ⟨front, back, hw, hs, ?_, principal, hc, Entity.owner_setOwner principal.id e⟩
  rw [Entity.name_setOwner]
  exact (hn x (hw ▸ List.mem_append_right _ List.mem_cons_self)).symm

/-- The service of operators without hooks, called by one principal. -/
def ofCaller (digit : Fin 16) : Service Operator :=
  ⟨.ok { id := .ofDigit digit, username := "" }, .empty⟩

/-- A world of one operator, the caller's. -/
def oneOperator (digit caller : Fin 16) : World :=
  ((ofCaller caller).create (.ofFunction (.ofDigit digit) "first" "mean") (.empty 64)).2

theorem oneOperator_grows :
    (oneOperator 0 1).operators.GrowsTo
      ((ofCaller 2).create (.ofFunction (.ofDigit 3) "second" "mean")
        (oneOperator 0 1)).2.operators := by
  have hcreate :
      (ofCaller 2).create (.ofFunction (.ofDigit 3) "second" "mean") (oneOperator 0 1) =
        (.ok { Operator.ofFunction (.ofDigit 3) "second" "mean" with owner := some (.ofDigit 2) },
          ((ofCaller 2).create (.ofFunction (.ofDigit 3) "second" "mean")
            (oneOperator 0 1)).2) := rfl
  obtain ⟨stored, _, hquiet, hgrows, _⟩ := create_grows_iff hcreate
  have hgrown := hgrows.mpr rfl
  rw [← hquiet (by simp [ofCaller, Lifecycle.empty])] at hgrown
  exact hgrown

/-- Someone else creates an operator under an identifier in use. The operator stored there is
renamed and changes hands, and there are no more operators than before. -/
theorem operator_taken_over :
    ∃ first second after,
      (oneOperator 0 1).operators.entities = [first] ∧ first.owner = some (.ofDigit 1) ∧
      (ofCaller 2).create (.ofFunction first.id "second" "mean") (oneOperator 0 1) =
        (.ok second, after) ∧
      after.operators.entities = [second] ∧ second.id = first.id ∧
      second.owner = some (.ofDigit 2) :=
  ⟨_, _, _, rfl, rfl, rfl, rfl, rfl, rfl⟩

end Service

end AccessControl
