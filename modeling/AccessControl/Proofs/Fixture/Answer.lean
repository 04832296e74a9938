import AccessControl.Proofs.Fixture.Merging
import AccessControl.Proofs.Guard.Relevance
import Mathlib.Data.List.Nodup

/-!
What a fixture is answered. Every identifier stands for one policy at most, the fixture's own before
a shared one, and the answer is that of a guard over these policies. They may be loaded in any
order: whether there is an answer and what it is does not depend on it.
-/

namespace AccessControl

/-- How a decision about something with a view is reported. -/
inductive DecisionReport.Tells (view : Json) : Decision → DecisionReport → Prop
  | admin : Tells view (.allow .admin) { grantedBy := some "admin", view := some view }
  | owner : Tells view (.allow .owner) { grantedBy := some "owner", view := some view }
  | policy (p : Policy) : Tells view (.allow (.policy p))
      { grantedBy := some "policy"
        policyId := some p.id
        policyName := some p.name
        view := some (Effect.applyAll p.effects view) }
  | denied (resource : EntityId) (access : AccessType) : Tells view (.deny resource access) {}

theorem DecisionReport.tells_ofDecision (view : Json) (d : Decision) :
    Tells view d (.ofDecision view d) := by
  rcases d with (_ | _ | p) | ⟨resource, access⟩
  · exact .admin
  · exact .owner
  · exact .policy p
  · exact .denied resource access

theorem DecisionReport.Tells.isAllowed_eq {view : Json} {d : Decision} {r : DecisionReport}
    (h : Tells view d r) : r.isAllowed = d.isAllowed := by
  cases h <;> rfl

namespace Guard

/-- A guard decides by the policies that it finds, wherever it finds them. -/
theorem authorize_congr {policies policies' : PolicyLookup} (evaluator : Evaluator)
    (h : policies'.find? = policies.find?) (resource : Resource) (principal : Principal)
    (access : AccessType) (request : AccessRequest) :
    authorize ⟨policies', evaluator⟩ resource principal access request =
      authorize ⟨policies, evaluator⟩ resource principal access request := by
  have hcovering : ∀ id ∈ resource.policies,
      policies'.covering? access id = policies.covering? access id := by
    intro id _
    rw [PolicyLookup.covering?, PolicyLookup.covering?, h]
  have hfirst : firstPolicy ⟨policies', evaluator⟩ resource principal access request =
      firstPolicy ⟨policies, evaluator⟩ resource principal access request :=
    firstGranting_congr evaluator hcovering fun _ _ _ _ _ _ => rfl
  simp only [authorize, hfirst]

end Guard

namespace Fixture

variable {f : Fixture} {shared order : List Policy} {settings : AccessControlConfig}

/-- The policy that an identifier stands for: the last one of the fixture with it, or else the last
shared one. -/
def standing (f : Fixture) (shared : List Policy) (id : PolicyId) : Option Policy :=
  (f.policies.reverse.find? (·.id == id)).or (shared.reverse.find? (·.id == id))

theorem find?_ofList_eq_standing (f : Fixture) (shared : List Policy) :
    (PolicyLookup.ofList (shared ++ f.policies)).find? = f.standing shared := by
  funext id
  simp [PolicyLookup.ofList, PolicyLookup.ofFind, standing]

theorem id_of_standing {id : PolicyId} {p : Policy} (h : f.standing shared id = some p) :
    p.id = id := by
  rw [standing, Option.or_eq_some_iff] at h
  rcases h with h | ⟨_, h⟩
  · simpa using List.find?_some h
  · simpa using List.find?_some h

/-- All policies that stand for an identifier, each once, in some order. -/
structure Lists (f : Fixture) (shared order : List Policy) : Prop where
  nodup : order.Nodup
  mem_iff : ∀ p, p ∈ order ↔ f.standing shared p.id = some p

theorem lists_merged (f : Fixture) (shared : List Policy) :
    f.Lists shared (f.merged shared) where
  nodup := .of_map _ (nodup_id_merged f shared)
  mem_iff p := by rw [mem_merged_iff, find?_ofList_eq_standing]

theorem Lists.of_perm {order' : List Policy} (h : f.Lists shared order) (hp : order'.Perm order) :
    f.Lists shared order' where
  nodup := hp.nodup_iff.mpr h.nodup
  mem_iff p := by rw [hp.mem_iff, h.mem_iff]

theorem Lists.nodup_id (h : f.Lists shared order) : (order.map Policy.id).Nodup := by
  refine (List.nodup_map_iff_inj_on h.nodup).mpr ?_
  intro p hp q hq hid
  rw [h.mem_iff] at hp hq
  rw [hid, hq] at hp
  exact (Option.some.inj hp).symm

theorem Lists.find?_eq (h : f.Lists shared order) (limit : Nat) :
    (PolicyStore.mk limit order).toLookup.find? = f.standing shared := by
  funext id
  refine Option.ext fun p => ?_
  change Keyed.find? Policy.id id order = some p ↔ _
  rw [Keyed.find?_eq_some_iff h.nodup_id, h.mem_iff]
  constructor
  · rintro ⟨hp, rfl⟩
    exact hp
  · intro hp
    have hid := id_of_standing hp
    exact ⟨hid ▸ hp, hid⟩

/-- Nothing is wrong with any policy that stands for an identifier, and no two of them share a
name. -/
structure Sound (f : Fixture) (shared : List Policy) (limit : Nat) : Prop where
  valid : ∀ id p, f.standing shared id = some p → p.validate limit = .ok ()
  names : ∀ id id' p p', f.standing shared id = some p → f.standing shared id' = some p' →
    p.name = p'.name → id = id'

theorem Lists.sound_iff (h : f.Lists shared order) (limit : Nat) :
    f.Sound shared limit ↔
      (∀ p ∈ order, p.validate limit = .ok ()) ∧ (order.map Policy.name).Nodup := by
  rw [List.nodup_map_iff_inj_on h.nodup]
  constructor
  · intro hs
    refine ⟨fun p hp => hs.valid p.id p ((h.mem_iff p).mp hp), ?_⟩
    intro p hp q hq hname
    rw [h.mem_iff] at hp hq
    rw [hs.names p.id q.id p q hp hq hname, hq] at hp
    exact (Option.some.inj hp).symm
  · rintro ⟨hvalid, hnames⟩
    have hmem : ∀ id p, f.standing shared id = some p → p ∈ order := by
      intro id p hp
      rw [h.mem_iff, id_of_standing hp, hp]
    refine ⟨fun id p hp => hvalid p (hmem id p hp), ?_⟩
    intro id id' p p' hp hp' hname
    rw [← id_of_standing hp, ← id_of_standing hp',
      hnames p (hmem id p hp) p' (hmem id' p' hp') hname]

/-- The guard over the policies that stand for identifiers. -/
def standingGuard (f : Fixture) (shared : List Policy) (limit : Nat) : Guard :=
  ⟨.ofFind (f.standing shared), .ofLimit limit⟩

/-- In whatever order the policies are loaded, there is an answer when the request can be read,
nothing is wrong with the policies and the guard over them decides. -/
theorem Lists.answer_eq_ok_iff (h : f.Lists shared order) {report : DecisionReport} :
    f.answer order settings = .ok report ↔
      ∃ request decision, f.request? settings.accessRequestHeader = some request ∧
        f.Sound shared settings.maxConditionDepth ∧
        (f.standingGuard shared settings.maxConditionDepth).authorize f.resource.toResource
          f.principal f.access request = .ok decision ∧
        report = .ofDecision f.resource.view decision.value := by
  have hguard : ∀ request,
      Guard.authorize ⟨(PolicyStore.mk settings.maxConditionDepth order).toLookup,
        .ofLimit settings.maxConditionDepth⟩ f.resource.toResource f.principal f.access request =
      (f.standingGuard shared settings.maxConditionDepth).authorize f.resource.toResource
        f.principal f.access request := by
    intro request
    apply Guard.authorize_congr
    rw [h.find?_eq]
    rfl
  rw [Fixture.answer_eq_ok_iff]
  simp only [hguard, h.sound_iff, h.nodup_id, true_and, and_assoc]

/-- A fixture is answered by the guard over the policies that stand for identifiers. In whatever
order these are loaded, there is an answer exactly when the request can be read, nothing is wrong
with the policies and the principal may log in; it tells what the guard decides, and it is the same
one in every order. -/
theorem answer_follows_standing (f : Fixture) (shared : List Policy)
    (settings : AccessControlConfig) :
    f.Lists shared (f.merged shared) ∧
    ∀ order, f.Lists shared order →
      ((∃ report, f.answer order settings = .ok report) ↔
        (∃ request, f.request? settings.accessRequestHeader = some request) ∧
          f.Sound shared settings.maxConditionDepth ∧ f.principal.isLoginable = true) ∧
      (∀ request report, f.request? settings.accessRequestHeader = some request →
        f.answer order settings = .ok report →
        ∃ decision,
          (f.standingGuard shared settings.maxConditionDepth).verdict f.resource.toResource
            f.principal f.access request = .ok decision ∧
          report.isAllowed = decision.isAllowed ∧
          DecisionReport.Tells f.resource.view decision report) ∧
      ∀ report, f.answer order settings = .ok report ↔ f.evaluate shared settings = .ok report := by
  refine ⟨lists_merged f shared, fun order h => ⟨?_, ?_, ?_⟩⟩
  · simp only [h.answer_eq_ok_iff]
    constructor
    · rintro ⟨_, request, decision, hr, hs, hd, _⟩
      refine ⟨⟨request, hr⟩, hs, ?_⟩
      cases hl : f.principal.isLoginable with
      | true => rfl
      | false =>
        rw [Guard.authorize_of_not_loginable _ _ _ _ _ hl] at hd
        cases hd
    · rintro ⟨⟨request, hr⟩, hs, hl⟩
      exact ⟨_, request, _, hr, hs, Guard.authorize_of_loginable _ _ _ _ _ hl, rfl⟩
  · intro request report hr ha
    obtain ⟨request', decision, hr', _, hd, rfl⟩ := h.answer_eq_ok_iff.mp ha
    rw [hr, Option.some.injEq] at hr'
    subst hr'
    have htells := DecisionReport.tells_ofDecision f.resource.view decision.value
    refine ⟨decision.value, ?_, htells.isAllowed_eq, htells⟩
    rw [Guard.verdict, hd]
    rfl
  · intro report
    rw [evaluate, h.answer_eq_ok_iff, (lists_merged f shared).answer_eq_ok_iff]

/-- A policy that lets everyone read all but one field. -/
def hidingSerial (digit : Fin 16) (name : String) : Policy where
  id := .ofDigit digit
  name := name
  accessTypes := .ofList [.read]
  condition := .composite .all []
  effects := [.redact "serial"]

/-- Someone else's resource, and a policy that takes the place of the shared one attached to it. -/
def overriding : Fixture where
  policies := [hidingSerial 1 "own"]
  principal := { id := .ofDigit 11, username := "bob" }
  resource :=
    { id := .ofDigit 13
      owner := some (.ofDigit 10)
      policies := [.ofDigit 7, .ofDigit 1]
      view := .record [("serial", .text "x1"), ("name", .text "probe")] }
  access := .read

/-- Loaded back to front, the policies give the same answer. -/
theorem overriding_answered :
    overriding.Lists [hidingSerial 1 "shared", hidingSerial 2 "other"]
        [hidingSerial 2 "other", hidingSerial 1 "own"] ∧
      ∃ report, overriding.answer [hidingSerial 2 "other", hidingSerial 1 "own"] {} = .ok report ∧
        report.policyName = some "own" := by
  obtain ⟨hmerged, hlaw⟩ := answer_follows_standing overriding
    [hidingSerial 1 "shared", hidingSerial 2 "other"] {}
  have hlists : overriding.Lists [hidingSerial 1 "shared", hidingSerial 2 "other"]
      [hidingSerial 2 "other", hidingSerial 1 "own"] :=
    hmerged.of_perm (List.Perm.swap _ _ [])
  exact ⟨hlists, _, ((hlaw _ hlists).2.2 _).mpr rfl, rfl⟩

end Fixture

end AccessControl
