import AccessControl.Proofs.Entity.View
import AccessControl.Proofs.Service.Access

/-!
Reading the view of an entity. It comes to a view exactly when the entity itself is handed out.
Effects bear on those only to whom a policy grants the access, and what a policy redacts they cannot
tell from anything else in its place.
-/

namespace AccessControl

open Outcome

namespace Guard

/-- Access does not depend on policies: the principal is an administrator, or the resource is his or
nobody's. -/
def Unrestricted (resource : Resource) (principal : Principal) : Prop :=
  principal.isAdmin = true ∨ OwnedOrUnowned resource principal

variable {g : Guard} {resource : Resource} {principal : Principal} {access : AccessType}
  {request : AccessRequest} {grant : Grant}

theorem require_ok_iff_due :
    g.require resource principal access request = .ok grant ↔
      g.Due resource principal access request (.ok (.allow grant)) :=
  require_eq_ok_iff.trans verdict_eq_iff

theorem effects_of_unrestricted (h : g.require resource principal access request = .ok grant)
    (hu : Unrestricted resource principal) : grant.effects = [] := by
  cases require_ok_iff_due.mp h with
  | admin => rfl
  | owner => rfl
  | policy p _ hadmin howned _ =>
    rcases hu with hu | hu
    · rw [hadmin] at hu
      cases hu
    · exact absurd hu howned

theorem require_of_restricted (hu : ¬ Unrestricted resource principal) :
    g.require resource principal access request = .ok grant ↔
      principal.isLoginable = true ∧ ∃ p, grant = .policy p ∧
        (g.firstPolicy resource principal access request).value = some p := by
  have hadmin : principal.isAdmin = false := by
    cases ha : principal.isAdmin with
    | true => exact absurd (.inl ha) hu
    | false => rfl
  have howned : ¬ OwnedOrUnowned resource principal := fun ho => hu (.inr ho)
  rw [require_ok_iff_due]
  constructor
  · intro h
    cases h with
    | admin _ ha => exact absurd (.inl ha) hu
    | owner _ _ ho => exact absurd ho howned
    | policy p hl _ _ hp => exact ⟨hl, p, rfl, firstGranting_eq_some_iff.mpr hp⟩
  · rintro ⟨hl, p, rfl, hp⟩
    exact .policy p hl hadmin howned (firstGranting_eq_some_iff.mp hp)

end Guard

namespace Service

variable {ε : Type} [Entity ε] {s : Service ε} {id : EntityId} {access : AccessType}
  {request : AccessRequest} {w : World} {e : ε} {p : Policy} {cause : EntityError}

theorem firstPolicy_ok_iff {found : Option Policy} :
    s.firstPolicy e access request w = .ok found ↔
      ∃ principal, s.caller = .ok principal ∧ principal.isLoginable = true ∧
        (w.guard.firstPolicy (Entity.toResource e) principal access request).value = found := by
  simp only [firstPolicy, bind_ok_iff, pure_ok_iff, EntityError.lift_ok_iff,
    Principal.requireLoginable_ok_iff]
  constructor
  · rintro ⟨principal, hc, _, hl, hp⟩
    exact ⟨principal, hc, hl, hp⟩
  · rintro ⟨principal, hc, hl, hp⟩
    exact ⟨principal, hc, (), hl, hp⟩

variable [Stored ε]

theorem getChecked_eq_map (s : Service ε) (id : EntityId) (access : AccessType)
    (request : AccessRequest) (w : World) :
    s.getChecked id access request w = (s.getGranted id access request w).map Prod.fst := by
  rw [getChecked]
  cases s.getGranted id access request w <;> rfl

theorem read_eq_map (s : Service ε) (id : EntityId) (access : AccessType)
    (request : AccessRequest) (w : World) :
    s.read id access request w = (s.getGranted id access request w).map fun granted =>
      granted.2.applyTo (Entity.toJson granted.1) := by
  rw [read]
  cases s.getGranted id access request w <;> rfl

theorem read_error_iff :
    s.read id access request w = .error cause ↔
      s.getChecked id access request w = .error cause := by
  rw [read_eq_map, getChecked_eq_map, map_error_iff, map_error_iff]

theorem read_of_getGranted {grant : Grant}
    (h : s.getGranted id access request w = .ok (e, grant)) :
    s.read id access request w = .ok (grant.applyTo (Entity.toJson e)) := by
  rw [read_eq_map, h]
  rfl

/-- The caller is told apart, and restricted to what policies say about the entity. -/
def Restricted (s : Service ε) (e : ε) : Prop :=
  ∃ principal, s.caller = .ok principal ∧ ¬ Guard.Unrestricted (Entity.toResource e) principal

/-- A stored entity that the caller only gets under a policy, which is the first to grant it. -/
structure ReadsUnder (s : Service ε) (p : Policy) (id : EntityId) (access : AccessType)
    (request : AccessRequest) (w : World) (e : ε) : Prop where
  stored : (Stored.repository w).find? id = some e
  restricted : s.Restricted e
  first : s.firstPolicy e access request w = .ok (some p)

theorem ReadsUnder.getGranted_eq (h : s.ReadsUnder p id access request w e) :
    s.getGranted id access request w = .ok (e, .policy p) := by
  obtain ⟨principal, hc, hu⟩ := h.restricted
  obtain ⟨other, hc', hl, hp⟩ := firstPolicy_ok_iff.mp h.first
  obtain rfl := Except.ok.inj (hc.symm.trans hc')
  have hgrant := (Guard.require_of_restricted hu).mpr ⟨hl, p, rfl, hp⟩
  exact getGranted_ok_iff.mpr ⟨h.stored, principal, hc, hgrant⟩

theorem ReadsUnder.read_eq (h : s.ReadsUnder p id access request w e) :
    s.read id access request w = .ok (Effect.applyAll p.effects (Entity.toJson e)) :=
  read_of_getGranted h.getGranted_eq

/-- Who gets an entity is shown all of it where access does not depend on policies, and what the
first granting policy leaves of it otherwise. -/
theorem read_of_getChecked (h : s.getChecked id access request w = .ok e) :
    ∃ principal, s.caller = .ok principal ∧
      (Guard.Unrestricted (Entity.toResource e) principal →
        s.read id access request w = .ok (Entity.toJson e)) ∧
      (¬ Guard.Unrestricted (Entity.toResource e) principal →
        ∃ p, s.ReadsUnder p id access request w e) := by
  obtain ⟨hf, principal, hc, grant, hg⟩ := getChecked_ok_iff.mp h
  have hgranted := getGranted_ok_iff.mpr ⟨hf, principal, hc, hg⟩
  refine ⟨principal, hc, fun hu => ?_, fun hu => ?_⟩
  · rw [read_of_getGranted hgranted, Grant.applyTo, Guard.effects_of_unrestricted hg hu]
    rfl
  · obtain ⟨hl, p, rfl, hp⟩ := (Guard.require_of_restricted hu).mp hg
    exact ⟨p, hf, ⟨principal, hc, hu⟩, firstPolicy_ok_iff.mpr ⟨principal, hc, hl, hp⟩⟩

end Service

namespace EntityKind

open Service

/-- Entities that the caller gets under one policy look the same to him when they differ in nothing
but what the policy redacts. -/
theorem read_alike {kind : EntityKind} {s : Service kind.Carrier} {p : Policy}
    {id id' : EntityId} {access : AccessType} {request : AccessRequest} {w w' : World}
    {e e' : kind.Carrier} {name : String} (hredact : .redact name ∈ p.effects)
    (h : s.ReadsUnder p id access request w e) (h' : s.ReadsUnder p id' access request w' e')
    (hbut : Entity.AgreeBut name e e') :
    s.read id access request w = s.read id' access request w' := by
  have hbeside := agreeBeside_of_agreeBut hbut
  rw [h.read_eq, h'.read_eq, Effect.applyAll_eq_of_agreeBeside hredact hbeside]

/-- Reading a view fails exactly when getting the entity does, and in the same way. Otherwise the
view is the whole of the entity that is stored, or, where access depends on policies, what the
effects of the first granting policy leave of it; and what such a policy redacts makes no difference
to what is seen. -/
theorem views_follow_grants (kind : EntityKind) (s : Service kind.Carrier) (access : AccessType)
    (request : AccessRequest) :
    (∀ (w : World) (id : EntityId),
      (∀ cause, s.read id access request w = .error cause ↔
        s.getChecked id access request w = .error cause) ∧
      ∀ e, s.getChecked id access request w = .ok e →
        (w.repositoryOf kind).find? id = some e ∧ ∃ principal, s.caller = .ok principal ∧
          (Guard.Unrestricted (Entity.toResource e) principal →
            s.read id access request w = .ok (Entity.toJson e)) ∧
          (¬ Guard.Unrestricted (Entity.toResource e) principal →
            ∃ p, s.firstPolicy e access request w = .ok (some p) ∧
              s.read id access request w = .ok (Effect.applyAll p.effects (Entity.toJson e)))) ∧
    ∀ (w w' : World) (id id' : EntityId) (e e' : kind.Carrier) (p : Policy) (name : String),
      .redact name ∈ p.effects → s.ReadsUnder p id access request w e →
      s.ReadsUnder p id' access request w' e' → Entity.AgreeBut name e e' →
      ∃ view, s.read id access request w = .ok view ∧ s.read id' access request w' = .ok view := by
  constructor
  · intro w id
    refine ⟨fun _ => read_error_iff, fun e he => ?_⟩
    obtain ⟨principal, hc, hopen, hpolicy⟩ := read_of_getChecked he
    refine ⟨(getChecked_ok_iff.mp he).1, principal, hc, hopen, fun hu => ?_⟩
    obtain ⟨p, hp⟩ := hpolicy hu
    exact ⟨p, hp.first, hp.read_eq⟩
  · intro w w' id id' e e' p name hredact h h' hbut
    exact ⟨_, h.read_eq, (read_alike hredact h h' hbut).symm.trans h.read_eq⟩

/-- Lets everyone read, except where a sensor belongs. -/
def withoutDepartment : Policy where
  id := .ofDigit 7
  name := "no department"
  accessTypes := .ofList [.read]
  condition := .composite .all []
  effects := [.redact "department"]

/-- A sensor of the first user, to which the policy is attached. -/
def lentSensor (department : String) : Sensor :=
  { Sensor.ofDevice (.ofDigit 3) "thermometer" "dht22" (.ofDigit 4) "C" with
    department := some department, owner := some (.ofDigit 1), policies := [.ofDigit 7] }

def lentWorld (department : String) : World :=
  (World.fresh 64 (.ofLimit 64)).run
    [.policies (.replaceAll [withoutDepartment]),
      .entities .sensor (EntityKind.sensor.serviceOf 1) (.create (lentSensor department))]

theorem lentSensor_readsUnder {department : String} (h : department ∈ ["lab", "archive"]) :
    ReadsUnder (ε := Sensor) (sensor.serviceOf 2) withoutDepartment (.ofDigit 3) .read .empty
      (lentWorld department) (lentSensor department) := by
  have hrestricted : Restricted (ε := Sensor) (sensor.serviceOf 2) (lentSensor department) := by
    refine ⟨_, rfl, ?_⟩
    rintro (hadmin | hnobody | howner)
    · cases hadmin
    · cases hnobody
    · cases howner
  have hdepartment : department = "lab" ∨ department = "archive" := by simpa using h
  rcases hdepartment with rfl | rfl
  · exact ⟨rfl, hrestricted, rfl⟩
  · exact ⟨rfl, hrestricted, rfl⟩

theorem lentSensor_agreeBut (department department' : String) :
    Entity.AgreeBut "department" (lentSensor department) (lentSensor department') := by
  refine ⟨_, _, rfl, rfl, fun other hne => ?_⟩
  simp only [NameMap.lookup_cons_if, hne, if_false]
  rfl

/-- The owner sees the department of his sensor, which nobody else can tell. -/
theorem department_unseen :
    Service.read (ε := Sensor) (sensor.serviceOf 1) (.ofDigit 3) .read .empty (lentWorld "lab") =
      .ok (Entity.toJson (lentSensor "lab")) ∧
    ∃ view,
      Service.read (ε := Sensor) (sensor.serviceOf 2) (.ofDigit 3) .read .empty (lentWorld "lab") =
        .ok view ∧
      Service.read (ε := Sensor) (sensor.serviceOf 2) (.ofDigit 3) .read .empty
        (lentWorld "archive") = .ok view := by
  have howner := (views_follow_grants sensor (sensor.serviceOf 1) .read .empty).1 (lentWorld "lab")
    (.ofDigit 3)
  obtain ⟨_, principal, hc, hwhole, _⟩ := howner.2 (lentSensor "lab") rfl
  obtain rfl := Except.ok.inj hc
  have hreader := (views_follow_grants sensor (sensor.serviceOf 2) .read .empty).2
  refine ⟨hwhole (.inr (.inr rfl)), ?_⟩
  apply hreader (lentWorld "lab") (lentWorld "archive") (.ofDigit 3) (.ofDigit 3)
    (lentSensor "lab") (lentSensor "archive") withoutDepartment "department"
  · exact List.mem_singleton.mpr rfl
  · exact lentSensor_readsUnder (by simp)
  · exact lentSensor_readsUnder (by simp)
  · exact lentSensor_agreeBut "lab" "archive"

end EntityKind

end AccessControl
