import AccessControl.Proofs.World.References

/-!
How entities disappear. A deletion passes several gates, the last of which is that the entity is
still there when it is to be removed. Nothing but a deletion that passes all of them takes an entity
out, as long as hooks leave what is stored alone.
-/

namespace AccessControl

open Outcome

namespace DeleteValidator

variable {ε : Type} {e : ε} {validators : List (DeleteValidator ε)} {w mid after : World}
  {cause : EntityError}

/-- Each validator in turn accepts the deletion, on the world that those before it left. -/
inductive AcceptInTurn (e : ε) : List (DeleteValidator ε) → World → World → Prop
  | nil {w : World} : AcceptInTurn e [] w w
  | cons {validate : DeleteValidator ε} {vs : List (DeleteValidator ε)} {w mid after : World} :
      validate e w = (.ok (), mid) → AcceptInTurn e vs mid after →
      AcceptInTurn e (validate :: vs) w after

theorem run_eq_ok_iff :
    run e validators w = (.ok (), after) ↔ AcceptInTurn e validators w after := by
  constructor
  · intro h
    induction validators generalizing w with
    | nil =>
      obtain rfl : w = after := congrArg Prod.snd h
      exact .nil
    | cons validate vs ih =>
      rw [run] at h
      split at h
      · cases h
      · rename_i mid hv
        exact .cons hv (ih h)
  · intro h
    induction h with
    | nil => rfl
    | cons hv _ ih =>
      rw [run, hv]
      exact ih

/-- The validators after the first one that objects have no part in what comes out. -/
theorem run_of_objection {validate : DeleteValidator ε} (rest : List (DeleteValidator ε))
    (h : AcceptInTurn e validators w mid) (hv : validate e mid = (.error cause, after)) :
    run e (validators ++ validate :: rest) w = (.error cause, after) := by
  induction h with
  | nil => rw [List.nil_append, run, hv]
  | cons hfirst _ ih =>
    rw [List.cons_append, run, hfirst]
    exact ih hv

end DeleteValidator

namespace Service

open DeleteValidator (AcceptInTurn)

variable {ε : Type} [Entity ε] [Stored ε] {s : Service ε} {id : EntityId}
  {request : AccessRequest} {w mid after : World} {e : ε} {cause : EntityError}

/-- The entity is stored, and the caller may log in and is allowed to delete it. -/
structure MayDelete (s : Service ε) (id : EntityId) (request : AccessRequest) (w : World)
    (e : ε) : Prop where
  stored : (Stored.repository w).find? id = some e
  allowed : ∃ principal, s.caller = .ok principal ∧ principal.isLoginable = true ∧
    ∃ grant, w.guard.verdict (Entity.toResource e) principal .delete request = .ok (.allow grant)

theorem getChecked_delete_iff :
    s.getChecked id .delete request w = .ok e ↔ s.MayDelete id request w e := by
  rw [getChecked_ok_iff]
  constructor
  · rintro ⟨hf, principal, hc, grant, hg⟩
    have hl := (Guard.exists_require_ok_iff.mp ⟨grant, hg⟩).1
    exact ⟨hf, principal, hc, hl, grant, Guard.require_eq_ok_iff.mp hg⟩
  · rintro ⟨hf, principal, hc, _, grant, hg⟩
    exact ⟨hf, principal, hc, grant, Guard.require_eq_ok_iff.mpr hg⟩

/-- The ways in which a deletion comes out. -/
inductive DeleteOutcome (s : Service ε) (id : EntityId) (request : AccessRequest) (w : World) :
    Except EntityError ε × World → Prop
  | refused {cause : EntityError} : s.getChecked id .delete request w = .error cause →
      DeleteOutcome s id request w (.error cause, w)
  | objected {e : ε} {cause : EntityError} {after : World} : s.MayDelete id request w e →
      DeleteValidator.run e s.lifecycle.deleteValidators w = (.error cause, after) →
      DeleteOutcome s id request w (.error cause, after)
  | vanished {e : ε} {mid : World} : s.MayDelete id request w e →
      DeleteValidator.run e s.lifecycle.deleteValidators w = (.ok (), mid) →
      (Stored.repository (ε := ε) mid).contains id = false →
      DeleteOutcome s id request w (.error (notFound ε id), mid)
  | removed {e : ε} {mid : World} : s.MayDelete id request w e →
      DeleteValidator.run e s.lifecycle.deleteValidators w = (.ok (), mid) →
      (Stored.repository (ε := ε) mid).contains id = true →
      DeleteOutcome s id request w
        (.ok e, Stored.setRepository ((Stored.repository (ε := ε) mid).delete id) mid)

theorem delete_outcome (s : Service ε) (id : EntityId) (request : AccessRequest) (w : World) :
    s.DeleteOutcome id request w (s.delete id request w) := by
  cases hg : s.getChecked id .delete request w with
  | error cause =>
    rw [delete_of_not_granted hg]
    exact .refused hg
  | ok e =>
    have hmay := getChecked_delete_iff.mp hg
    rcases hv : DeleteValidator.run e s.lifecycle.deleteValidators w with ⟨_ | _, mid⟩
    · rw [delete_of_objection hg hv]
      exact .objected hmay hv
    · rw [delete_of_accepted hg hv]
      split
      · rename_i hstored
        exact .removed hmay hv hstored
      · rename_i hgone
        exact .vanished hmay hv (by simpa using hgone)

/-- A deletion that comes to an entity has taken it out itself. -/
theorem delete_ok_iff :
    s.delete id request w = (.ok e, after) ↔
      s.MayDelete id request w e ∧ ∃ mid, AcceptInTurn e s.lifecycle.deleteValidators w mid ∧
        (Stored.repository (ε := ε) mid).contains id = true ∧
        after = Stored.setRepository ((Stored.repository (ε := ε) mid).delete id) mid := by
  constructor
  · intro h
    have hout := s.delete_outcome id request w
    rw [h] at hout
    cases hout with
    | removed hmay hv hstored =>
      exact ⟨hmay, _, DeleteValidator.run_eq_ok_iff.mp hv, hstored, rfl⟩
  · rintro ⟨hmay, mid, haccepted, hstored, rfl⟩
    have hg := getChecked_delete_iff.mpr hmay
    rw [delete_of_accepted hg (DeleteValidator.run_eq_ok_iff.mpr haccepted), if_pos hstored]

theorem delete_of_vanished (hmay : s.MayDelete id request w e)
    (haccepted : AcceptInTurn e s.lifecycle.deleteValidators w mid)
    (hgone : (Stored.repository (ε := ε) mid).contains id = false) :
    s.delete id request w = (.error (notFound ε id), mid) := by
  have hg := getChecked_delete_iff.mpr hmay
  rw [delete_of_accepted hg (DeleteValidator.run_eq_ok_iff.mpr haccepted), if_neg (by simp [hgone])]

theorem delete_of_objection_after {before rest : List (DeleteValidator ε)}
    {validate : DeleteValidator ε} (hmay : s.MayDelete id request w e)
    (hs : s.lifecycle.deleteValidators = before ++ validate :: rest)
    (haccepted : AcceptInTurn e before w mid) (hv : validate e mid = (.error cause, after)) :
    s.delete id request w = (.error cause, after) := by
  have hrun := DeleteValidator.run_of_objection rest haccepted hv
  rw [← hs] at hrun
  exact delete_of_objection (getChecked_delete_iff.mpr hmay) hrun

/-- What a deletion that succeeds leaves: everything that validators left, without the entity. -/
theorem contains_after_delete (id : EntityId) (mid : World) :
    (Stored.repository (ε := ε) (Stored.setRepository
      ((Stored.repository (ε := ε) mid).delete id) mid)).contains id = false := by
  rw [Stored.repository_setRepository, Bool.eq_false_iff]
  exact fun h => (Repository.contains_delete.mp h).2 rfl

end Service

/-- The same entities are stored. -/
def World.SameStored (w after : World) : Prop :=
  ∀ kind, after.repositoryOf kind = w.repositoryOf kind

/-- The hooks that see the world do not change which entities are stored. -/
structure Lifecycle.KeepsStored {ε : Type} (l : Lifecycle ε) : Prop where
  handlers : ∀ handle ∈ l.createHandlers, ∀ e w, World.SameStored w (handle e w)
  validators : ∀ validate ∈ l.deleteValidators, ∀ e w, World.SameStored w (validate e w).2

theorem EntityKind.keepsStored_lifecycle (kind : EntityKind) : kind.lifecycle.KeepsStored where
  handlers handle hh := by
    rw [kind.createHandlers_lifecycle] at hh
    cases hh
  validators validate hv e w := by
    rw [kind.observing_lifecycle validate hv e w]
    exact fun _ => rfl

namespace World

open DeleteValidator (AcceptInTurn)

def Operation.KeepsStored : Operation → Prop
  | .policies _ => True
  | .entities _ service _ => service.lifecycle.KeepsStored

variable {kind other : EntityKind} {s : Service kind.Carrier} {w after : World} {id : EntityId}

theorem SameStored.trans {mid : World} (h : SameStored w mid) (h' : SameStored mid after) :
    SameStored w after := fun kind => (h' kind).trans (h kind)

theorem sameStored_handlers (h : s.lifecycle.KeepsStored) (e : kind.Carrier) (w : World) :
    SameStored w (CreateHandler.run e s.lifecycle.createHandlers w) := by
  apply CreateHandler.run_induction (P := SameStored w)
  · exact fun handle hh after hw => hw.trans (h.handlers handle hh e after)
  · exact fun _ => rfl

theorem sameStored_validators (h : s.lifecycle.KeepsStored) (e : kind.Carrier) (w : World) :
    SameStored w (DeleteValidator.run e s.lifecycle.deleteValidators w).2 := by
  apply DeleteValidator.run_induction (P := SameStored w)
  · exact fun validate hv after hw => hw.trans (h.validators validate hv e after)
  · exact fun _ => rfl

/-- Creating takes nothing out, not even what it stores over. -/
theorem contains_create (h : s.lifecycle.KeepsStored) (e : kind.Carrier)
    (hid : (w.repositoryOf other).contains id = true) :
    ((s.create e w).2.repositoryOf other).contains id = true := by
  rcases hc : s.create e w with ⟨_ | saved, after⟩
  · obtain ⟨notes, rfl⟩ := Service.create_failed hc
    rwa [repositoryOf_note]
  · obtain ⟨_, notes, _, _, _, _, _, rfl⟩ := Service.create_ok_iff.mp hc
    rw [sameStored_handlers h saved _ other]
    by_cases hk : other = kind
    · subst hk
      rw [repositoryOf, Stored.repository_setRepository]
      exact Repository.contains_save.mpr (.inl hid)
    · rwa [repositoryOf_setRepository_of_ne hk, repositoryOf_note]

/-- A deletion takes out what it answers and nothing else. -/
theorem gone_delete (h : s.lifecycle.KeepsStored) {request : AccessRequest} {asked : EntityId}
    (hid : (w.repositoryOf other).contains id = true)
    (hgone : ((s.delete asked request w).2.repositoryOf other).contains id = false) :
    other = kind ∧ asked = id ∧ ∃ e, (s.delete asked request w).1 = .ok e := by
  have hrun : ∀ {e verdict mid}, DeleteValidator.run e s.lifecycle.deleteValidators w =
      (verdict, mid) → mid.repositoryOf other = w.repositoryOf other := by
    intro e verdict mid hv
    have hsame := sameStored_validators h e w other
    rwa [hv] at hsame
  have hout := s.delete_outcome asked request w
  generalize s.delete asked request w = out at hout hgone ⊢
  cases hout with
  | refused _ =>
    dsimp only at hgone
    rw [hid] at hgone
    cases hgone
  | objected _ hv =>
    dsimp only at hgone
    rw [hrun hv, hid] at hgone
    cases hgone
  | vanished _ hv _ =>
    dsimp only at hgone
    rw [hrun hv, hid] at hgone
    cases hgone
  | @removed e mid _ hv _ =>
    dsimp only at hgone
    by_cases hk : other = kind
    · subst hk
      refine ⟨rfl, Decidable.byContradiction fun hne => ?_, e, rfl⟩
      have hmid : (mid.repositoryOf other).contains id = true := by rwa [hrun hv]
      have hstays := Repository.contains_delete.mpr ⟨hmid, Ne.symm hne⟩
      rw [repositoryOf, Stored.repository_setRepository, hstays] at hgone
      cases hgone
    · rw [repositoryOf_setRepository_of_ne hk, hrun hv, hid] at hgone
      cases hgone

/-- The operation deletes the entity under the identifier, in that world with success. -/
def DeletesIn (w : World) (kind : EntityKind) (id : EntityId) (op : Operation) : Prop :=
  ∃ (s : Service kind.Carrier) (request : AccessRequest) (e : kind.Carrier),
    op = .entities kind s (.delete id request) ∧ (s.delete id request w).1 = .ok e

theorem deletesIn_of_gone {op : Operation} (h : op.KeepsStored)
    (hid : (w.repositoryOf kind).contains id = true)
    (hgone : ((w.step op).repositoryOf kind).contains id = false) : w.DeletesIn kind id op := by
  -- Whatever keeps the identifier stored contradicts that it is gone.
  have hkept : ((w.step op).repositoryOf kind).contains id = true → w.DeletesIn kind id op := by
    intro hstays
    rw [hgone] at hstays
    cases hstays
  cases op with
  | policies op =>
    apply hkept
    rw [step, perform]
    split <;> cases kind <;> exact hid
  | entities other s call =>
    cases call with
    | create e => exact hkept (contains_create h e hid)
    | delete asked request =>
      obtain ⟨rfl, rfl, e, he⟩ := gone_delete h hid hgone
      exact ⟨s, request, e, rfl, he⟩
    | _ => exact hkept hid

theorem exists_deletesIn_of_gone {ops : List Operation} (h : ∀ op ∈ ops, op.KeepsStored)
    (hid : (w.repositoryOf kind).contains id = true)
    (hgone : ((w.run ops).repositoryOf kind).contains id = false) :
    ∃ before op after, ops = before ++ op :: after ∧ (w.run before).DeletesIn kind id op := by
  induction ops generalizing w with
  | nil =>
    rw [run, List.foldl_nil, hid] at hgone
    cases hgone
  | cons op ops ih =>
    rw [List.forall_mem_cons] at h
    cases hnext : ((w.step op).repositoryOf kind).contains id with
    | false => exact ⟨[], op, ops, rfl, deletesIn_of_gone h.1 hid hnext⟩
    | true =>
      obtain ⟨before, found, after, rfl, hd⟩ := ih h.2 hnext hgone
      exact ⟨op :: before, found, after, rfl, hd⟩

/-- A deletion comes to an entity when that is stored, the caller may delete it, its validators
accept it in turn and it is still there after them. Then it is gone, and all else is as validators
left it; when it is not there any more the deletion fails, and so it does at the first objection,
whatever validators follow. In any run of services whose hooks leave what is stored alone, an
identifier is no more in use only after such a deletion of it. -/
theorem disappears_by_delete_only :
    (∀ (kind : EntityKind) (s : Service kind.Carrier) (id : EntityId) (request : AccessRequest)
      (w : World),
      (∀ e, (s.delete id request w).1 = .ok e ↔ s.MayDelete id request w e ∧
        ∃ mid, AcceptInTurn e s.lifecycle.deleteValidators w mid ∧
          (mid.repositoryOf kind).contains id = true) ∧
      (∀ e mid, s.MayDelete id request w e → AcceptInTurn e s.lifecycle.deleteValidators w mid →
        if (mid.repositoryOf kind).contains id then
          ∃ after, s.delete id request w = (.ok e, after) ∧
            after = Stored.setRepository
              ⟨(mid.repositoryOf kind).entities.filter fun x => !decide (Entity.id x = id)⟩ mid ∧
            (after.repositoryOf kind).contains id = false
        else s.delete id request w = (.error (Service.notFound kind.Carrier id), mid)) ∧
      ∀ e before validate rest mid after cause,
        s.lifecycle.deleteValidators = before ++ validate :: rest → s.MayDelete id request w e →
        AcceptInTurn e before w mid → validate e mid = (.error cause, after) →
        s.delete id request w = (.error cause, after)) ∧
    (∀ kind : EntityKind, kind.lifecycle.KeepsStored) ∧
    (∀ (w : World) (op : Operation) (kind : EntityKind) (id : EntityId), op.KeepsStored →
      (w.repositoryOf kind).contains id = true →
      ((w.step op).repositoryOf kind).contains id = false → w.DeletesIn kind id op) ∧
    ∀ (w : World) (ops : List Operation) (kind : EntityKind) (id : EntityId),
      (∀ op ∈ ops, op.KeepsStored) → (w.repositoryOf kind).contains id = true →
      ((w.run ops).repositoryOf kind).contains id = false →
      ∃ before op after, ops = before ++ op :: after ∧ (w.run before).DeletesIn kind id op := by
  refine ⟨fun kind s id request w => ⟨fun e => ?_, ?_, ?_⟩, EntityKind.keepsStored_lifecycle,
    ?_, ?_⟩
  · constructor
    · intro h
      obtain ⟨hmay, mid, haccepted, hstored, _⟩ := Service.delete_ok_iff.mp (Prod.ext h rfl)
      exact ⟨hmay, mid, haccepted, hstored⟩
    · rintro ⟨hmay, mid, haccepted, hstored⟩
      exact congrArg Prod.fst (Service.delete_ok_iff.mpr ⟨hmay, mid, haccepted, hstored, rfl⟩)
  · intro e mid hmay haccepted
    split
    · rename_i hstored
      have hdelete := Service.delete_ok_iff.mpr ⟨hmay, mid, haccepted, hstored, rfl⟩
      exact ⟨_, hdelete, rfl, Service.contains_after_delete id mid⟩
    · rename_i hgone
      exact Service.delete_of_vanished hmay haccepted (by simpa using hgone)
  · intro e before validate rest mid after cause hs hmay haccepted hv
    exact Service.delete_of_objection_after hmay hs haccepted hv
  · intro w op kind id hop hid hgone
    exact deletesIn_of_gone hop hid hgone
  · intro w ops kind id hops hid hgone
    exact exists_deletesIn_of_gone hops hid hgone

/-- The first user deletes the sensor of the device. -/
def sensorRemoval : Operation :=
  .entities .sensor (EntityKind.sensor.serviceOf 1) (.delete (.ofDigit 4) .empty)

/-- A service of the first user whose validator takes out sensors itself. -/
def withdrawingService : Service Sensor :=
  { EntityKind.sensor.serviceOf 1 with
    lifecycle := { deleteValidators := [.withdrawing fun _ => true] } }

/-- A service of the first user that would take out devices, were they not in use. -/
def cautiousService : Service Device :=
  { EntityKind.device.serviceOf 1 with
    lifecycle := { deleteValidators := [.requireUnused, .withdrawing fun _ => true] } }

def wiredDevice : Device :=
  { Device.ofAddress (.ofDigit 3) "gateway" "pi" "10.0.0.1" with owner := some (.ofDigit 1) }

/-- The sensor as it is stored. -/
def wiredSensor : Sensor :=
  { Sensor.ofDevice (.ofDigit 4) "temp" "temperature" (.ofDigit 3) "celsius" with
    owner := some (.ofDigit 1) }

theorem wiredSensor_disappears :
    (withdrawingService.delete (.ofDigit 4) .empty wired).1 =
      .error (Service.notFound Sensor (.ofDigit 4)) ∧
    cautiousService.delete (.ofDigit 3) .empty wired =
      (.error (.refused (.entityStillInUse (Entity.kind Device) (.ofDigit 3))), wired) ∧
    wired.DeletesIn .sensor (.ofDigit 4) sensorRemoval ∧
    ∃ before op after, [removal, sensorRemoval, removal] = before ++ op :: after ∧
      (wired.run before).DeletesIn .device (.ofDigit 3) op := by
  obtain ⟨hdelete, hkinds, hstep, hrun⟩ := disappears_by_delete_only
  refine ⟨?_, ?_, ?_, ?_⟩
  · have hmay : withdrawingService.MayDelete (.ofDigit 4) .empty wired wiredSensor :=
      ⟨rfl, _, rfl, rfl, .owner, rfl⟩
    have hout := (hdelete .sensor withdrawingService (.ofDigit 4) .empty wired).2.1 wiredSensor _
      hmay (.cons rfl .nil)
    exact congrArg Prod.fst hout
  · have hmay : cautiousService.MayDelete (.ofDigit 3) .empty wired wiredDevice :=
      ⟨rfl, _, rfl, rfl, .owner, rfl⟩
    exact (hdelete .device cautiousService (.ofDigit 3) .empty wired).2.2 wiredDevice []
      .requireUnused [.withdrawing fun _ => true] wired wired _ rfl hmay .nil rfl
  · exact hstep wired sensorRemoval .sensor (.ofDigit 4) (hkinds .sensor) rfl rfl
  · refine hrun wired _ .device (.ofDigit 3) ?_ rfl rfl
    simp only [List.forall_mem_cons]
    exact ⟨hkinds .device, hkinds .sensor, hkinds .device, List.forall_mem_nil _⟩

end World

end AccessControl
