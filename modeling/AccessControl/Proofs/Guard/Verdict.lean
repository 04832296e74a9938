import AccessControl.Proofs.Guard.Attached
import AccessControl.Proofs.Guard.Decision
import AccessControl.Proofs.Outcome

/-!
Which outcome a question calls for: nothing for those who may not log in, then administrators, then
owners, then the attached policies. The guard decides what is called for, and requiring access turns
a denial into a refusal and nothing else.
-/

namespace AccessControl

/-- What a decision is, with no more of a granting policy than its identifier. -/
inductive Decision.Kind where
  | admin
  | owner
  | policy (id : PolicyId)
  | denied (resource : EntityId) (access : AccessType)

def Decision.kind : Decision → Decision.Kind
  | .allow .admin => .admin
  | .allow .owner => .owner
  | .allow (.policy p) => .policy p.id
  | .deny resource access => .denied resource access

namespace Guard

variable (g : Guard) (resource : Resource) (principal : Principal) (access : AccessType)
  (request : AccessRequest)

/-- The decision without what was looked up for it. -/
def verdict : Except AuthError Decision :=
  (g.authorize resource principal access request).map (·.value)

/-- The resource is the principal's own, or nobody's. -/
def OwnedOrUnowned (resource : Resource) (principal : Principal) : Prop :=
  resource.owner = none ∨ resource.owner = some principal.id

/-- The outcome that a question calls for. -/
inductive Due : Except AuthError Decision → Prop
  | notLoginable : principal.isLoginable = false → Due (.error .userNotLoginable)
  | admin : principal.isLoginable = true → principal.isAdmin = true → Due (.ok (.allow .admin))
  | owner : principal.isLoginable = true → principal.isAdmin = false →
      OwnedOrUnowned resource principal → Due (.ok (.allow .owner))
  | policy (p : Policy) : principal.isLoginable = true → principal.isAdmin = false →
      ¬ OwnedOrUnowned resource principal →
      g.FirstToGrant (.ofQuestion resource principal request) access resource.policies p →
      Due (.ok (.allow (.policy p)))
  | denied : principal.isLoginable = true → principal.isAdmin = false →
      ¬ OwnedOrUnowned resource principal →
      (∀ id ∈ resource.policies,
        g.PassesOver (.ofQuestion resource principal request) access id) →
      Due (.ok (.deny resource.id access))

/-- Every question calls for some outcome. -/
theorem exists_due : ∃ r, g.Due resource principal access request r := by
  by_cases hl : principal.isLoginable = true
  · by_cases ha : principal.isAdmin = true
    · exact ⟨_, .admin hl ha⟩
    · rw [Bool.not_eq_true] at ha
      by_cases ho : OwnedOrUnowned resource principal
      · exact ⟨_, .owner hl ha ho⟩
      · cases hp : (g.firstGranting (.ofQuestion resource principal request) access
            resource.policies).value with
        | none => exact ⟨_, .denied hl ha ho (firstGranting_eq_none_iff.mp hp)⟩
        | some p => exact ⟨_, .policy p hl ha ho (firstGranting_eq_some_iff.mp hp)⟩
  · exact ⟨_, .notLoginable (by simpa using hl)⟩

variable {g resource principal access request}

theorem isOwnedByOrUnowned_iff :
    resource.isOwnedByOrUnowned principal.id = true ↔ OwnedOrUnowned resource principal := by
  unfold Resource.isOwnedByOrUnowned OwnedOrUnowned
  cases resource.owner <;> simp

theorem verdict_of_not_loginable (h : principal.isLoginable = false) :
    g.verdict resource principal access request = .error .userNotLoginable := by
  rw [verdict, authorize_of_not_loginable g resource principal access request h]
  rfl

theorem verdict_of_loginable (h : principal.isLoginable = true) :
    g.verdict resource principal access request =
      .ok (g.decision resource principal access request).value := by
  rw [verdict, authorize_of_loginable g resource principal access request h]
  rfl

theorem decision_of_admin (h : principal.isAdmin = true) :
    (g.decision resource principal access request).value = .allow .admin := by
  simp [decision, h, Traced.pure]

theorem decision_of_owned (hadmin : principal.isAdmin = false)
    (h : OwnedOrUnowned resource principal) :
    (g.decision resource principal access request).value = .allow .owner := by
  simp [decision, hadmin, isOwnedByOrUnowned_iff.mpr h, Traced.pure]

theorem decision_of_not_owned (hadmin : principal.isAdmin = false)
    (h : ¬ OwnedOrUnowned resource principal) :
    (g.decision resource principal access request).value =
      decideBy resource access (g.firstPolicy resource principal access request).value := by
  rw [← isOwnedByOrUnowned_iff] at h
  simp [decision, hadmin, h]

/-- What is due is decided. -/
theorem Due.verdict_eq {r : Except AuthError Decision}
    (h : g.Due resource principal access request r) :
    g.verdict resource principal access request = r := by
  cases h with
  | notLoginable hl => exact verdict_of_not_loginable hl
  | admin hl ha => rw [verdict_of_loginable hl, decision_of_admin ha]
  | owner hl ha ho => rw [verdict_of_loginable hl, decision_of_owned ha ho]
  | policy p hl ha ho hp =>
    rw [verdict_of_loginable hl, decision_of_not_owned ha ho, firstPolicy,
      firstGranting_eq_some_iff.mpr hp]
    rfl
  | denied hl ha ho hn =>
    rw [verdict_of_loginable hl, decision_of_not_owned ha ho, firstPolicy,
      firstGranting_eq_none_iff.mpr hn]
    rfl

theorem verdict_eq_iff {r : Except AuthError Decision} :
    g.verdict resource principal access request = r ↔
      g.Due resource principal access request r := by
  constructor
  · rintro rfl
    obtain ⟨r, hr⟩ := g.exists_due resource principal access request
    rwa [hr.verdict_eq]
  · exact Due.verdict_eq

theorem require_eq :
    g.require resource principal access request =
      g.verdict resource principal access request >>= Decision.toGrant := by
  unfold require verdict
  cases g.authorize resource principal access request <;> rfl

theorem require_eq_ok_iff {grant : Grant} :
    g.require resource principal access request = .ok grant ↔
      g.verdict resource principal access request = .ok (.allow grant) := by
  rw [require_eq, Outcome.bind_ok_iff]
  constructor
  · rintro ⟨d | _, hd, hg⟩
    · rw [hd, Except.ok.inj hg]
    · cases hg
  · exact fun h => ⟨_, h, rfl⟩

/-- A denial names the resource and the access type that were asked for. -/
theorem eq_of_verdict_deny {id : EntityId} {access' : AccessType}
    (h : g.verdict resource principal access request = .ok (.deny id access')) :
    id = resource.id ∧ access' = access := by
  cases verdict_eq_iff.mp h
  exact ⟨rfl, rfl⟩

theorem require_eq_error_iff {refusal : AuthError} :
    g.require resource principal access request = .error refusal ↔
      g.verdict resource principal access request = .error refusal ∨
        g.verdict resource principal access request = .ok (.deny resource.id access) ∧
          refusal = .missingPermission resource.id access := by
  rw [require_eq]
  cases hv : g.verdict resource principal access request with
  | error e => simp [bind, Except.bind]
  | ok d =>
    cases d with
    | allow grant => simp [bind, Except.bind, Decision.toGrant]
    | deny id access' =>
      obtain ⟨rfl, rfl⟩ := eq_of_verdict_deny hv
      simp [bind, Except.bind, Decision.toGrant, eq_comm]

theorem kind_decideBy (found : Option Policy) :
    (decideBy resource access found).kind =
      ((found.map Policy.rule).map fun rule => Decision.Kind.policy rule.1).getD
        (.denied resource.id access) := by
  cases found <;> rfl

theorem verdict_kind {policies : PolicyLookup}
    (h : ∀ id, (policies.find? id).map Policy.rule = (g.policies.find? id).map Policy.rule) :
    (verdict ⟨policies, g.evaluator⟩ resource principal access request).map Decision.kind =
      (g.verdict resource principal access request).map Decision.kind := by
  by_cases hl : principal.isLoginable = true
  · rw [verdict_of_loginable hl, verdict_of_loginable hl]
    refine congrArg Except.ok ?_
    by_cases ha : principal.isAdmin = true
    · rw [decision_of_admin ha, decision_of_admin ha]
    · rw [Bool.not_eq_true] at ha
      by_cases ho : OwnedOrUnowned resource principal
      · rw [decision_of_owned ha ho, decision_of_owned ha ho]
      · rw [decision_of_not_owned ha ho, decision_of_not_owned ha ho, kind_decideBy, kind_decideBy,
          firstPolicy, firstPolicy, firstGranting_rule h]
  · rw [Bool.not_eq_true] at hl
    rw [verdict_of_not_loginable hl, verdict_of_not_loginable hl]

variable (g resource principal access request)

/-- The decision on a question is the one it calls for. Requiring access gives the grant of that
decision, or refuses for want of permission exactly where the decision is a denial. Neither what is
decided nor which policy grants changes when policies change in anything but their rule. -/
theorem verdict_exact :
    (∀ r, g.verdict resource principal access request = r ↔
      g.Due resource principal access request r) ∧
    (∀ grant, g.require resource principal access request = .ok grant ↔
      g.verdict resource principal access request = .ok (.allow grant)) ∧
    (∀ refusal, g.require resource principal access request = .error refusal ↔
      g.verdict resource principal access request = .error refusal ∨
        g.verdict resource principal access request = .ok (.deny resource.id access) ∧
          refusal = .missingPermission resource.id access) ∧
    ∀ policies : PolicyLookup,
      (∀ id, (policies.find? id).map Policy.rule = (g.policies.find? id).map Policy.rule) →
      (verdict ⟨policies, g.evaluator⟩ resource principal access request).map Decision.kind =
        (g.verdict resource principal access request).map Decision.kind :=
  ⟨fun _ => verdict_eq_iff, fun _ => require_eq_ok_iff, fun _ => require_eq_error_iff,
    fun _ => verdict_kind⟩

/-- A policy that lets everyone read. -/
def openToRead (name : String) (priority : Int) : Policy where
  id := .ofDigit 1
  name := name
  priority := priority
  accessTypes := .ofList [.read]
  condition := .composite .all []

/-- Someone else's resource; of the policies attached to it the first is gone. -/
def lentOut : Resource where
  id := .ofDigit 13
  owner := some (.ofDigit 10)
  policies := [.ofDigit 7, .ofDigit 1]
  attribute? _ := none

def visitor : Principal where
  id := .ofDigit 11
  username := "visitor"

/-- The policy grants whatever its name and priority. -/
theorem openToRead_grants_renamed :
    (∀ id, ((PolicyLookup.ofList [openToRead "last" 9]).find? id).map Policy.rule =
      ((PolicyLookup.ofList [openToRead "first" 0]).find? id).map Policy.rule) ∧
    (verdict ⟨.ofList [openToRead "last" 9], .ofLimit 64⟩ lentOut visitor .read .empty).map
      Decision.kind = .ok (.policy (.ofDigit 1)) := by
  have hrule : ∀ id, ((PolicyLookup.ofList [openToRead "last" 9]).find? id).map Policy.rule =
      ((PolicyLookup.ofList [openToRead "first" 0]).find? id).map Policy.rule := by
    intro id
    by_cases hid : Id.ofDigit 1 = id <;>
      simp [PolicyLookup.ofList, PolicyLookup.ofFind, openToRead, Policy.rule, hid]
  have hlaw := verdict_exact ⟨.ofList [openToRead "first" 0], .ofLimit 64⟩ lentOut visitor .read
    .empty
  exact ⟨hrule, (hlaw.2.2.2 _ hrule).trans rfl⟩

end Guard

end AccessControl
