import AccessControl.Proofs.Condition.References
import AccessControl.Proofs.Guard.Decision
import AccessControl.Proofs.Guard.Verdict

/-!
What a decision rests on: who the resource and the principal are, the attached policies that cover
the access type, and the attributes to which those policies refer. Whatever else is stored or sent
along has no part in it.
-/

namespace AccessControl

/-- The policy that an identifier stands for, if it covers the access type. -/
def PolicyLookup.covering? (policies : PolicyLookup) (access : AccessType) (id : PolicyId) :
    Option Policy :=
  (policies.find? id).filter (·.covers access)

/-- The names that a principal answers to whatever its profile says. -/
def Principal.fixedNames : List String :=
  ["id", "username", "is_admin", "is_system_user", "is_loginable"]

/-- Entries of a profile under fixed names are never looked up. -/
theorem Principal.attribute?_withProfile {p : Principal} {profile : NameMap AttributeValue}
    (h : ∀ name ∉ fixedNames, profile.get? name = p.profile.get? name) :
    attribute? { p with profile := profile } = p.attribute? := by
  funext name
  by_cases hfixed : name ∈ fixedNames
  · simp only [fixedNames, List.mem_cons, List.not_mem_nil, or_false] at hfixed
    rcases hfixed with rfl | rfl | rfl | rfl | rfl <;> rfl
  · have hname := h name hfixed
    simp only [fixedNames, List.mem_cons, List.not_mem_nil, or_false, not_or] at hfixed
    obtain ⟨hid, husername, hadmin, hsystem, hlogin⟩ := hfixed
    simp only [attribute?, hid, husername, hadmin, hsystem, hlogin, if_false, hname]

namespace Guard

variable {access : AccessType} {lookup lookup' : Lookup} {ids : List PolicyId}

/-- Only a policy that covers the access type is tried. -/
theorem firstGranting_cons (g : Guard) (lookup : Lookup) (access : AccessType) (id : PolicyId)
    (ids : List PolicyId) :
    g.firstGranting lookup access (id :: ids) =
      match g.policies.covering? access id with
      | none => g.firstGranting lookup access ids
      | some p => (p.condition.evaluate g.evaluator lookup).andThen fun granted =>
          if granted then .pure (some p) else g.firstGranting lookup access ids := by
  rw [firstGranting, PolicyLookup.covering?]
  cases g.policies.find? id with
  | none => rfl
  | some p =>
    cases hc : p.covers access with
    | true => simp [Policy.evaluate, Option.filter, hc]
    | false => simp [Policy.evaluate, Option.filter, hc]

theorem firstGranting_congr {policies policies' : PolicyLookup} (evaluator : Evaluator)
    (hp : ∀ id ∈ ids, policies'.covering? access id = policies.covering? access id)
    (hl : ∀ id ∈ ids, ∀ p, policies.covering? access id = some p →
      ∀ r ∈ p.condition.references, lookup' r = lookup r) :
    firstGranting ⟨policies', evaluator⟩ lookup' access ids =
      firstGranting ⟨policies, evaluator⟩ lookup access ids := by
  induction ids with
  | nil => rfl
  | cons id ids ih =>
    rw [List.forall_mem_cons] at hp hl
    have hrest := ih hp.2 hl.2
    rw [firstGranting_cons, firstGranting_cons, hrest]
    dsimp only
    rw [hp.1]
    cases hc : policies.covering? access id with
    | none => rfl
    | some p =>
      have hcondition := Condition.evaluate_congr evaluator (hl.1 p hc)
      dsimp only
      rw [hcondition]

/-- What a guard is asked: by which policies, on what, for whom and with which request. -/
structure Question where
  policies : PolicyLookup
  resource : Resource
  principal : Principal
  request : AccessRequest

namespace Question

def attributes (q : Question) : Lookup :=
  .ofQuestion q.resource q.principal q.request

/-- The decision on a question, with what was looked up for it. -/
def answer (q : Question) (evaluator : Evaluator) (access : AccessType) :
    Except AuthError (Traced Decision) :=
  Guard.authorize ⟨q.policies, evaluator⟩ q.resource q.principal access q.request

/-- An attached policy that covers the access type refers to the attribute. -/
def RefersTo (q : Question) (access : AccessType) (r : AttributeRef) : Prop :=
  ∃ id ∈ q.resource.policies, ∃ p, q.policies.covering? access id = some p ∧
    r ∈ p.condition.references

/-- The second question may differ from the first one in all that is not said here. -/
structure Alike (access : AccessType) (q q' : Question) : Prop where
  resource : q'.resource.id = q.resource.id
  owner : q'.resource.owner = q.resource.owner
  attached : q'.resource.policies = q.resource.policies
  principal : q'.principal.id = q.principal.id
  isAdmin : q'.principal.isAdmin = q.principal.isAdmin
  isLoginable : q'.principal.isLoginable = q.principal.isLoginable
  covering : ∀ id ∈ q.resource.policies,
    q'.policies.covering? access id = q.policies.covering? access id
  attributes : ∀ r, q.RefersTo access r → q'.attributes r = q.attributes r

variable {q q' : Question} {access : AccessType}

theorem Alike.firstPolicy_eq (h : q.Alike access q') (evaluator : Evaluator) :
    Guard.firstPolicy ⟨q'.policies, evaluator⟩ q'.resource q'.principal access q'.request =
      Guard.firstPolicy ⟨q.policies, evaluator⟩ q.resource q.principal access q.request := by
  rw [Guard.firstPolicy, Guard.firstPolicy, h.attached]
  apply Guard.firstGranting_congr evaluator h.covering
  intro id hid p hp r hr
  exact h.attributes r ⟨id, hid, p, hp, hr⟩

theorem Alike.decision_eq (h : q.Alike access q') (evaluator : Evaluator) :
    Guard.decision ⟨q'.policies, evaluator⟩ q'.resource q'.principal access q'.request =
      Guard.decision ⟨q.policies, evaluator⟩ q.resource q.principal access q.request := by
  have howned : q'.resource.isOwnedByOrUnowned q'.principal.id =
      q.resource.isOwnedByOrUnowned q.principal.id := by
    rw [Resource.isOwnedByOrUnowned, Resource.isOwnedByOrUnowned, h.owner, h.principal]
  have hdecide : Guard.decideBy q'.resource access = Guard.decideBy q.resource access := by
    funext found
    cases found with
    | none => rw [Guard.decideBy, Guard.decideBy, h.resource]
    | some p => rfl
  rw [Guard.decision, Guard.decision, h.isAdmin, howned, hdecide, h.firstPolicy_eq evaluator]

theorem Alike.answer_eq (h : q.Alike access q') (evaluator : Evaluator) :
    q'.answer evaluator access = q.answer evaluator access := by
  have hsame := h.isLoginable
  cases hl : q.principal.isLoginable with
  | true =>
    rw [hl] at hsame
    rw [answer, answer, Guard.authorize_of_loginable _ _ _ _ _ hsame,
      Guard.authorize_of_loginable _ _ _ _ _ hl, h.decision_eq evaluator]
  | false =>
    rw [hl] at hsame
    rw [answer, answer, Guard.authorize_of_not_loginable _ _ _ _ _ hsame,
      Guard.authorize_of_not_loginable _ _ _ _ _ hl]

/-- Other entries of a profile under fixed names leave the question as it was. -/
theorem alike_withProfile (q : Question) (access : AccessType) {profile : NameMap AttributeValue}
    (h : ∀ name ∉ Principal.fixedNames, profile.get? name = q.principal.profile.get? name) :
    q.Alike access { q with principal := { q.principal with profile := profile } } := by
  refine ⟨rfl, rfl, rfl, rfl, rfl, rfl, fun _ _ => rfl, fun r _ => ?_⟩
  obtain ⟨space, name⟩ := r
  cases space with
  | principal => exact congrFun (Principal.attribute?_withProfile h) name
  | _ => rfl

/-- Questions that are alike are answered alike, refusals, grants and what was looked up included.
So nothing comes of policies that are not attached or do not cover the access type, nor of
attributes to which no attached policy that does refers; and nothing at all comes of what a profile
says under a fixed name. -/
theorem answer_rests_on_alike (evaluator : Evaluator) (access : AccessType) :
    (∀ q q' : Question, q.Alike access q' →
      q'.answer evaluator access = q.answer evaluator access) ∧
    ∀ (q : Question) (profile : NameMap AttributeValue),
      (∀ name ∉ Principal.fixedNames, profile.get? name = q.principal.profile.get? name) →
      answer { q with principal := { q.principal with profile := profile } } evaluator access =
        q.answer evaluator access := by
  constructor
  · intro q q' h
    exact h.answer_eq evaluator
  · intro q profile h
    exact (q.alike_withProfile access h).answer_eq evaluator

/-- Lets those of the resource's department read. -/
def sameDepartment : Policy where
  id := .ofDigit 1
  name := "same department"
  accessTypes := .ofList [.read]
  condition := .comparison .equals (.attribute ⟨.principal, "department"⟩)
    (.attribute ⟨.resource, "department"⟩)

def fromLab : NameMap AttributeValue :=
  .ofList [("department", .text "lab")]

/-- A colleague asks to read, with only what the policy refers to at hand. -/
def plain : Question where
  policies := .ofList [sameDepartment]
  resource := { lentOut with attribute? := fromLab.get? }
  principal := { visitor with profile := fromLab }
  request := .empty

/-- The same under another user name, with one more policy, resource attribute, profile entry and
request attribute. -/
def crowded : Question where
  policies := .ofList [{ openToRead "unattached" 9 with id := .ofDigit 2 }, sameDepartment]
  resource := { lentOut with attribute? := (fromLab.insert "kind" (.text "sensor")).get? }
  principal :=
    { visitor with username := "guest", profile := fromLab.insert "team" (.text "night") }
  request := AccessRequest.empty.insert "reason" (.text "audit")

/-- The profile of the colleague who asks claims to be an administrator's. -/
def pretending : Question :=
  { plain with principal :=
      { plain.principal with profile := fromLab.insert "is_admin" (.boolean true) } }

theorem plain_alike_crowded : plain.Alike .read crowded := by
  have hids : ∀ id ∈ plain.resource.policies, id = .ofDigit 7 ∨ id = .ofDigit 1 := by
    intro id hid
    simpa [plain, lentOut] using hid
  refine ⟨rfl, rfl, rfl, rfl, rfl, rfl, ?_, ?_⟩
  · intro id hid
    rcases hids id hid with rfl | rfl <;> rfl
  · rintro r ⟨id, hid, p, hp, hr⟩
    rcases hids id hid with rfl | rfl
    · cases hp
    · cases hp
      have hr : r = ⟨.principal, "department"⟩ ∨ r = ⟨.resource, "department"⟩ := by
        simpa [sameDepartment, Condition.references, Operand.reference?] using hr
      rcases hr with rfl | rfl <;> rfl

theorem department_decides :
    crowded.answer (.ofLimit 64) .read = plain.answer (.ofLimit 64) .read ∧
      pretending.answer (.ofLimit 64) .read = plain.answer (.ofLimit 64) .read ∧
      (plain.answer (.ofLimit 64) .read).map (·.value.kind) = .ok (.policy (.ofDigit 1)) := by
  have hlaw := answer_rests_on_alike (.ofLimit 64) .read
  have hprofile : ∀ name ∉ Principal.fixedNames,
      (fromLab.insert "is_admin" (.boolean true)).get? name =
        plain.principal.profile.get? name := by
    intro name hname
    rw [NameMap.get?_insert, if_neg]
    · rfl
    · rintro rfl
      exact hname (by decide)
  exact ⟨hlaw.1 plain crowded plain_alike_crowded, hlaw.2 plain _ hprofile, rfl⟩

end Question

end Guard

end AccessControl
