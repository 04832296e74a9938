import AccessControl.Proofs.Repository.Content
import AccessControl.Proofs.Service.Deletion

/-!
Creating, hook by hook. The caller and the name are looked at first, and no hook runs where one of
them is in the way. Validators then see the entity as the caller's own, one after the other up to
the first that rejects it; only what all of them accept is stored, and handlers come after that.
-/

namespace AccessControl

open Outcome

namespace CreateValidator

variable {ε : Type} {e : ε} {validators before : List (CreateValidator ε)}
  {v : CreateValidator ε} {cause : EntityError}

theorem run_of_accepted (h : ∀ v ∈ validators, v.check e = .ok ()) :
    run e validators = (.ok (), validators.flatMap (·.notes e)) := by
  induction validators with
  | nil => rfl
  | cons v vs ih =>
    rw [List.forall_mem_cons] at h
    rw [run, h.1, ih h.2]
    rfl

/-- The validators after the first one that rejects do not run. -/
theorem run_of_rejected (rest : List (CreateValidator ε))
    (hbefore : ∀ u ∈ before, u.check e = .ok ()) (hv : v.check e = .error cause) :
    run e (before ++ v :: rest) = (.error cause, (before ++ [v]).flatMap (·.notes e)) := by
  induction before with
  | nil => simp [run, hv]
  | cons u us ih =>
    rw [List.forall_mem_cons] at hbefore
    rw [List.cons_append, run, hbefore.1, ih hbefore.2]
    rfl

theorem accepted_or_rejected (e : ε) (validators : List (CreateValidator ε)) :
    (∀ v ∈ validators, v.check e = .ok ()) ∨
      ∃ before v rest cause, validators = before ++ v :: rest ∧
        (∀ u ∈ before, u.check e = .ok ()) ∧ v.check e = .error cause := by
  induction validators with
  | nil => exact .inl fun _ h => nomatch h
  | cons v vs ih =>
    cases hv : v.check e with
    | error cause => exact .inr ⟨[], v, vs, cause, rfl, (fun _ h => nomatch h), hv⟩
    | ok u =>
      rcases ih with hall | ⟨before, w, rest, cause, rfl, hbefore, hw⟩
      · exact .inl (List.forall_mem_cons.mpr ⟨hv, hall⟩)
      · exact .inr ⟨v :: before, w, rest, cause, rfl, List.forall_mem_cons.mpr ⟨hv, hbefore⟩, hw⟩

end CreateValidator

/-- Each handler in turn runs on the entity, in the world that those before it left. -/
inductive CreateHandler.RunInTurn {ε : Type} (e : ε) :
    List (CreateHandler ε) → World → World → Prop
  | nil {w : World} : RunInTurn e [] w w
  | cons {handle : CreateHandler ε} {handlers : List (CreateHandler ε)} {w after : World} :
      RunInTurn e handlers (handle e w) after → RunInTurn e (handle :: handlers) w after

theorem CreateHandler.run_eq_iff {ε : Type} {e : ε} {handlers : List (CreateHandler ε)}
    {w after : World} : run e handlers w = after ↔ RunInTurn e handlers w after := by
  constructor
  · rintro rfl
    induction handlers generalizing w with
    | nil => exact .nil
    | cons handle handlers ih => exact .cons ih
  · intro h
    induction h with
    | nil => rfl
    | cons _ ih => exact ih

namespace Service

variable {ε : Type} [Entity ε] [Stored ε] {s : Service ε} {e saved : ε} {w after : World}
  {principal : Principal} {cause : EntityError}

/-- The caller is known and may log in, and the name of the entity is free. -/
structure MayCreate (s : Service ε) (e : ε) (w : World) (principal : Principal) : Prop where
  caller : s.caller = .ok principal
  loginable : principal.isLoginable = true
  free : ∀ x ∈ (Stored.repository (ε := ε) w).entities, Entity.name x ≠ Entity.name e

/-- Why the caller does not get as far as the hooks, in the order in which it is found out. -/
inductive CreationRefused (s : Service ε) (e : ε) (w : World) : EntityError → Prop
  | unknownCaller {cause : AuthError} : s.caller = .error cause →
      CreationRefused s e w (.refused cause)
  | notLoginable {principal : Principal} : s.caller = .ok principal →
      principal.isLoginable = false → CreationRefused s e w (.refused .userNotLoginable)
  | nameTaken {principal : Principal} {x : ε} : s.caller = .ok principal →
      principal.isLoginable = true → x ∈ (Stored.repository (ε := ε) w).entities →
      Entity.name x = Entity.name e →
      CreationRefused s e w (.refused (.entityAlreadyExists (Entity.kind ε) (Entity.name e)))

/-- The world right after an entity has been stored, with what the validators noted. -/
def afterSave (s : Service ε) (saved : ε) (w : World) : World :=
  Stored.setRepository ((Stored.repository w).save saved)
    (w.note (s.lifecycle.createValidators.flatMap (·.notes saved)))

/-- The ways in which a creation comes out. The notes in the world tell which validators ran. -/
inductive CreateOutcome (s : Service ε) (e : ε) (w : World) : Except EntityError ε × World → Prop
  | refused {cause : EntityError} : s.CreationRefused e w cause →
      CreateOutcome s e w (.error cause, w)
  | rejected {principal : Principal} {before rest : List (CreateValidator ε)}
      {v : CreateValidator ε} {cause : EntityError} : s.MayCreate e w principal →
      s.lifecycle.createValidators = before ++ v :: rest →
      (∀ u ∈ before, u.check (Entity.setOwner principal.id e) = .ok ()) →
      v.check (Entity.setOwner principal.id e) = .error cause →
      CreateOutcome s e w (.error cause,
        w.note ((before ++ [v]).flatMap (·.notes (Entity.setOwner principal.id e))))
  | stored {principal : Principal} {saved : ε} {after : World} : s.MayCreate e w principal →
      saved = Entity.setOwner principal.id e →
      (∀ v ∈ s.lifecycle.createValidators, v.check saved = .ok ()) →
      CreateHandler.RunInTurn saved s.lifecycle.createHandlers (s.afterSave saved w) after →
      CreateOutcome s e w (.ok saved, after)

theorem requireCreatable_eq_ok_iff :
    s.requireCreatable (Entity.name e) w = .ok principal ↔ s.MayCreate e w principal :=
  requireCreatable_ok_iff.trans
    ⟨fun h => ⟨h.1, h.2.1, h.2.2⟩, fun h => ⟨h.caller, h.loginable, h.free⟩⟩

theorem CreationRefused.requireCreatable_eq (h : s.CreationRefused e w cause) :
    s.requireCreatable (Entity.name e) w = .error cause := by
  cases h with
  | unknownCaller hc => simp [requireCreatable, hc, EntityError.lift, bind, Except.bind]
  | notLoginable hc hl =>
    simp [requireCreatable, hc, hl, Principal.requireLoginable, EntityError.lift, bind, Except.bind]
  | nameTaken hc hl hx hn =>
    have htaken : (Stored.repository (ε := ε) w).existsByName (Entity.name e) = true :=
      List.any_eq_true.mpr ⟨_, hx, beq_iff_eq.mpr hn⟩
    simp [requireCreatable, hc, hl, htaken, Principal.requireLoginable, EntityError.lift, bind,
      Except.bind]

theorem mayCreate_or_refused (s : Service ε) (e : ε) (w : World) :
    (∃ principal, s.MayCreate e w principal) ∨ ∃ cause, s.CreationRefused e w cause := by
  cases hc : s.caller with
  | error cause => exact .inr ⟨_, .unknownCaller hc⟩
  | ok principal =>
    cases hl : principal.isLoginable with
    | false => exact .inr ⟨_, .notLoginable hc hl⟩
    | true =>
      by_cases htaken : ∃ x ∈ (Stored.repository (ε := ε) w).entities, Entity.name x = Entity.name e
      · obtain ⟨x, hx, hn⟩ := htaken
        exact .inr ⟨_, .nameTaken hc hl hx hn⟩
      · exact .inl ⟨principal, hc, hl, fun x hx hn => htaken ⟨x, hx, hn⟩⟩

/-- A refusal is the same whatever hooks there are, so none of them has run. -/
theorem create_of_refused (h : s.CreationRefused e w cause) (lifecycle : Lifecycle ε) :
    Service.create ⟨s.caller, lifecycle⟩ e w = (.error cause, w) := by
  have hrequire : Service.requireCreatable ⟨s.caller, lifecycle⟩ (Entity.name e) w = .error cause :=
    h.requireCreatable_eq
  rw [create, hrequire]

theorem CreateOutcome.create_eq {out : Except EntityError ε × World}
    (h : s.CreateOutcome e w out) : s.create e w = out := by
  cases h with
  | refused h => exact create_of_refused h s.lifecycle
  | @rejected principal before rest v cause hmay hs hbefore hv =>
    have hrun := CreateValidator.run_of_rejected rest hbefore hv
    rw [← hs] at hrun
    rw [create, requireCreatable_eq_ok_iff.mpr hmay]
    simp only [hrun]
  | stored hmay hsaved hall hhandlers =>
    subst hsaved
    have hrun := CreateValidator.run_of_accepted hall
    exact create_ok_iff.mpr ⟨_, _, hmay.caller, hmay.loginable, hmay.free, rfl, hrun,
      (CreateHandler.run_eq_iff.mpr hhandlers).symm⟩

/-- A creation comes out in one of these ways. -/
theorem exists_createOutcome (s : Service ε) (e : ε) (w : World) :
    ∃ out, s.CreateOutcome e w out := by
  rcases s.mayCreate_or_refused e w with ⟨principal, hmay⟩ | ⟨cause, hrefused⟩
  · rcases CreateValidator.accepted_or_rejected (Entity.setOwner principal.id e)
      s.lifecycle.createValidators with hall | ⟨_, _, _, _, hs, hbefore, hv⟩
    · exact ⟨_, .stored hmay rfl hall (CreateHandler.run_eq_iff.mp rfl)⟩
    · exact ⟨_, .rejected hmay hs hbefore hv⟩
  · exact ⟨_, .refused hrefused⟩

theorem create_eq_iff {out : Except EntityError ε × World} :
    s.create e w = out ↔ s.CreateOutcome e w out := by
  constructor
  · rintro rfl
    obtain ⟨out, h⟩ := s.exists_createOutcome e w
    rwa [h.create_eq]
  · exact CreateOutcome.create_eq

theorem exists_create_ok_iff :
    (∃ saved, (s.create e w).1 = .ok saved) ↔ ∃ principal, s.MayCreate e w principal ∧
      ∀ v ∈ s.lifecycle.createValidators, v.check (Entity.setOwner principal.id e) = .ok () := by
  constructor
  · rintro ⟨saved, h⟩
    have hout : s.CreateOutcome e w (.ok saved, (s.create e w).2) :=
      create_eq_iff.mp (Prod.ext h rfl)
    cases hout with
    | stored hmay hsaved hall _ => exact ⟨_, hmay, hsaved ▸ hall⟩
  · rintro ⟨principal, hmay, hall⟩
    have hstored := create_eq_iff.mpr
      (.stored hmay rfl hall (CreateHandler.run_eq_iff.mp rfl))
    exact ⟨_, congrArg Prod.fst hstored⟩

theorem get_afterSave (s : Service ε) (saved : ε) (w : World) :
    s.get (Entity.id saved) (s.afterSave saved w) = .ok saved := by
  rw [get_ok_iff, afterSave, Stored.repository_setRepository, Repository.find?_save, if_pos rfl]

/-- The handler does not take the entity away, nor does it store another one in its place. -/
def Keeps (s : Service ε) (saved : ε) (handle : CreateHandler ε) : Prop :=
  ∀ w, s.get (Entity.id saved) w = .ok saved → s.get (Entity.id saved) (handle saved w) = .ok saved

/-- Writing in the journal takes nothing away. -/
theorem keeps_noting (s : Service ε) (saved : ε) (notes : ε → List String) :
    s.Keeps saved (.noting notes) := by
  intro w hget
  rw [get_ok_iff] at hget ⊢
  rwa [CreateHandler.noting, Stored.repository_note]

theorem get_of_runInTurn {handlers : List (CreateHandler ε)}
    (h : CreateHandler.RunInTurn saved handlers w after)
    (hkeeps : ∀ handle ∈ handlers, s.Keeps saved handle)
    (hget : s.get (Entity.id saved) w = .ok saved) :
    s.get (Entity.id saved) after = .ok saved := by
  rw [← CreateHandler.run_eq_iff.mpr h]
  exact CreateHandler.run_induction (P := fun w => s.get (Entity.id saved) w = .ok saved)
    hkeeps hget

/-- A creation succeeds where the caller is known and may log in, the name is free and all
validators accept the entity as the caller's own. They run in turn up to the first that rejects, and
none of them where the caller or the name is in the way. No handler is part of a creation that
fails. Where it succeeds, the world that the handlers run on, each once and in turn, holds the
entity under its identifier, and so does the world that they leave unless one of them takes the
entity away. -/
theorem create_in_turn (s : Service ε) (e : ε) (w : World) :
    (∀ out, s.create e w = out ↔ s.CreateOutcome e w out) ∧
    ((∃ saved, (s.create e w).1 = .ok saved) ↔ ∃ principal, s.MayCreate e w principal ∧
      ∀ v ∈ s.lifecycle.createValidators, v.check (Entity.setOwner principal.id e) = .ok ()) ∧
    ((¬∃ principal, s.MayCreate e w principal) → ∃ cause, s.CreationRefused e w cause ∧
      ∀ lifecycle, Service.create ⟨s.caller, lifecycle⟩ e w = (.error cause, w)) ∧
    (∀ cause, (s.create e w).1 = .error cause →
      ∀ handlers, (s.withHandlers handlers).create e w = s.create e w) ∧
    ∀ saved after, s.create e w = (.ok saved, after) →
      (∃ principal, s.caller = .ok principal ∧ saved = Entity.setOwner principal.id e) ∧
      s.get (Entity.id e) (s.afterSave saved w) = .ok saved ∧
      CreateHandler.RunInTurn saved s.lifecycle.createHandlers (s.afterSave saved w) after ∧
      ((∀ handle ∈ s.lifecycle.createHandlers, s.Keeps saved handle) →
        s.get (Entity.id e) after = .ok saved) := by
  refine ⟨fun _ => create_eq_iff, exists_create_ok_iff, fun hnobody => ?_, ?_, ?_⟩
  · obtain ⟨cause, hrefused⟩ := (s.mayCreate_or_refused e w).resolve_left hnobody
    exact ⟨cause, hrefused, create_of_refused hrefused⟩
  · intro cause h handlers
    obtain ⟨notes, hcreate⟩ := create_error h
    exact (hcreate handlers).trans (hcreate s.lifecycle.createHandlers).symm
  · intro saved after h
    cases create_eq_iff.mp h with
    | @stored principal _ _ hmay hsaved _ hhandlers =>
      have hid : Entity.id e = Entity.id saved := by rw [hsaved, Entity.id_setOwner]
      have hget := s.get_afterSave saved w
      rw [hid]
      exact ⟨⟨principal, hmay.caller, hsaved⟩, hget, hhandlers,
        fun hkeeps => get_of_runInTurn hhandlers hkeeps hget⟩

/-- A service of the first user whose hooks write down that they have run. -/
def notingService : Service Operator :=
  ⟨.ok { id := .ofDigit 1, username := "" },
    { createValidators := [.noting fun o => [o.name], .requireName, .noting fun _ => ["accepted"]]
      createHandlers := [.noting fun _ => ["stored"], .noting fun _ => ["told"]] }⟩

/-- An operator that comes with the second user as its owner. -/
def foreignOperator (name : String) : Operator :=
  { Operator.ofFunction (.ofDigit 3) name "mean" with owner := some (.ofDigit 2) }

theorem foreignOperator_created :
    (∃ saved after, notingService.create (foreignOperator "mean") (.empty 64) = (.ok saved, after) ∧
      after.journal = ["mean", "accepted", "stored", "told"] ∧
      saved.owner = some (.ofDigit 1) ∧ notingService.get (.ofDigit 3) after = .ok saved) ∧
    (notingService.create (foreignOperator " ") (.empty 64) =
        (.error (.invalid (.blankName (Entity.kind Operator))), (World.empty 64).note [" "]) ∧
      ∀ handlers, (notingService.withHandlers handlers).create (foreignOperator " ") (.empty 64) =
        notingService.create (foreignOperator " ") (.empty 64)) ∧
    ∀ lifecycle, Service.create ⟨.error .noSystemUser, lifecycle⟩
      (foreignOperator "mean") (.empty 64) =
        (.error (.refused .noSystemUser), .empty 64) := by
  refine ⟨⟨_, _, rfl, rfl, rfl, ?_⟩, ?_, ?_⟩
  · obtain ⟨_, _, _, _, hstored⟩ :=
      create_in_turn notingService (foreignOperator "mean") (.empty 64)
    refine (hstored _ _ rfl).2.2.2 ?_
    simp only [notingService, List.forall_mem_cons]
    exact ⟨keeps_noting _ _ _, keeps_noting _ _ _, List.forall_mem_nil _⟩
  · obtain ⟨hout, _, _, hfails, _⟩ :=
      create_in_turn notingService (foreignOperator " ") (.empty 64)
    have hmay : notingService.MayCreate (foreignOperator " ") (.empty 64)
        { id := .ofDigit 1, username := "" } := ⟨rfl, rfl, fun _ hx => nomatch hx⟩
    have hbefore : ∀ u ∈ [CreateValidator.noting fun o : Operator => [o.name]],
        u.check (Entity.setOwner (.ofDigit 1) (foreignOperator " ")) = .ok () :=
      List.forall_mem_singleton.mpr rfl
    have hrejected := (hout _).mpr (.rejected hmay rfl hbefore rfl)
    exact ⟨hrejected, hfails _ (congrArg Prod.fst hrejected)⟩
  · obtain ⟨_, _, hnone, _⟩ :=
      create_in_turn ⟨.error .noSystemUser, .empty⟩ (foreignOperator "mean") (.empty 64)
    obtain ⟨_, hrefused, hcreate⟩ := hnone fun ⟨_, hmay⟩ => nomatch hmay.caller
    cases hrefused with
    | unknownCaller hc =>
      cases hc
      exact hcreate
    | notLoginable hc => cases hc
    | nameTaken hc => cases hc

end Service

end AccessControl
