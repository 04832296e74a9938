import AccessControl.Proofs.Guard.Allowance
import AccessControl.Proofs.PolicyStore.Listing

/-!
What is an author's own. Looking a policy up for its author, listing the author's policies and
deleting one of them go different ways through the store; where every policy stands under its own
identifier they come to the same. A deleted policy is as good as attached nowhere.
-/

namespace AccessControl

/-- A lookup that lacks one policy decides as the other one does without that policy attached. -/
structure PolicyLookup.Without (fewer more : PolicyLookup) (id : PolicyId) : Prop where
  gone : fewer.find? id = none
  kept : ∀ other, other ≠ id → fewer.find? other = more.find? other

namespace Guard

variable {fewer more : PolicyLookup} {id : PolicyId}

/-- Nothing is looked up for an identifier without a policy. -/
theorem firstGranting_without (h : fewer.Without more id) (evaluator : Evaluator) (lookup : Lookup)
    (access : AccessType) (ids : List PolicyId) :
    firstGranting ⟨fewer, evaluator⟩ lookup access ids =
      firstGranting ⟨more, evaluator⟩ lookup access (ids.filter (· ≠ id)) := by
  induction ids with
  | nil => rfl
  | cons other ids ih =>
    rw [firstGranting, List.filter_cons]
    by_cases hid : other = id
    · subst hid
      simpa [h.gone] using ih
    · simp only [hid, ne_eq, not_false_iff, decide_true, if_true]
      rw [firstGranting, h.kept other hid, ih]

theorem authorize_without (h : fewer.Without more id) (evaluator : Evaluator) (resource : Resource)
    (principal : Principal) (access : AccessType) (request : AccessRequest) :
    authorize ⟨fewer, evaluator⟩ resource principal access request =
      authorize ⟨more, evaluator⟩ (resource.attach (resource.policies.filter (· ≠ id))) principal
        access request := by
  have hlookup : Lookup.ofQuestion (resource.attach (resource.policies.filter (· ≠ id))) principal
      request = .ofQuestion resource principal request := by
    funext ⟨space, name⟩
    cases space <;> rfl
  unfold authorize firstPolicy
  rw [hlookup, firstGranting_without h]
  rfl

end Guard

namespace PolicyStore

variable {s after : PolicyStore} {id : PolicyId} {user : UserId} {p : Policy} {cause : AuthError}

/-- Why a policy is withheld from a user. -/
inductive Withheld (s : PolicyStore) (id : PolicyId) (user : UserId) : AuthError → Prop
  | notFound : s.find? id = none → Withheld s id user (.entityNotFound kind id)
  | notOwner {p : Policy} : s.find? id = some p → p.owner ≠ some user →
      Withheld s id user .missingOwnerPrivileges

theorem getOwned_eq_error_iff : s.getOwned id user = .error cause ↔ s.Withheld id user cause := by
  constructor
  · intro h
    cases hp : s.find? id with
    | none =>
      obtain rfl : .entityNotFound kind id = cause := by
        simpa [getOwned, get, hp, bind, Except.bind] using h
      exact .notFound hp
    | some p =>
      have ho : p.owner ≠ some user := by
        intro ho
        rw [getOwned_eq_ok_iff.mpr ⟨hp, ho⟩] at h
        cases h
      obtain rfl : .missingOwnerPrivileges = cause := by
        simpa [getOwned, get, hp, ho, bind, Except.bind] using h
      exact .notOwner hp ho
  · rintro (hnone | ⟨hp, ho⟩)
    · simp [getOwned, get, hnone, bind, Except.bind]
    · simp [getOwned, get, hp, ho, bind, Except.bind]

theorem delete_eq_error_iff : s.delete id user = .error cause ↔ s.Withheld id user cause := by
  rw [← getOwned_eq_error_iff, delete]
  cases s.getOwned id user <;> simp [bind, Except.bind, pure, Except.pure]

theorem Consistent.getOwned_eq_ok_iff_listed (h : s.Consistent) :
    s.getOwned id user = .ok p ↔ p ∈ s.allForOwner user ∧ p.id = id := by
  rw [getOwned_eq_ok_iff, h.find?_eq_some_iff, mem_allForOwner_iff, and_right_comm]

theorem Consistent.exists_delete_iff_listed (h : s.Consistent) :
    (∃ after, s.delete id user = .ok after) ↔ ∃ p ∈ s.allForOwner user, p.id = id := by
  simp only [delete_eq_ok_iff, ← getOwned_eq_ok_iff, h.getOwned_eq_ok_iff_listed]
  constructor
  · rintro ⟨_, hp, _⟩
    exact hp
  · exact fun hp => ⟨_, hp, rfl⟩

/-- A store that has lost the policy under an identifier and nothing else. -/
structure LacksOnly (after s : PolicyStore) (id : PolicyId) : Prop where
  policies : ∀ p, p ∈ after.policies ↔ p ∈ s.policies ∧ p.id ≠ id
  lookup : after.toLookup.Without s.toLookup id

theorem lacksOnly_of_delete (h : s.delete id user = .ok after) : after.LacksOnly s id := by
  obtain ⟨_, rfl⟩ := delete_eq_ok_iff.mp h
  have hfind other := Keyed.find?_remove Policy.id id other s.policies
  refine ⟨fun p => by simp [Keyed.remove], (hfind id).trans (if_pos rfl), fun other hne => ?_⟩
  exact (hfind other).trans (if_neg hne)

theorem LacksOnly.mem_allForOwner_iff (h : after.LacksOnly s id) (owner : UserId) :
    p ∈ after.allForOwner owner ↔ p ∈ s.allForOwner owner ∧ p.id ≠ id := by
  rw [PolicyStore.mem_allForOwner_iff, PolicyStore.mem_allForOwner_iff, h.policies, and_right_comm]

theorem LacksOnly.ne_of_verdict {evaluator : Evaluator} {resource : Resource}
    {principal : Principal} {access : AccessType} {request : AccessRequest}
    (h : after.LacksOnly s id)
    (hv : Guard.verdict ⟨after.toLookup, evaluator⟩ resource principal access request =
      .ok (.allow (.policy p))) : p.id ≠ id := by
  cases Guard.verdict_eq_iff.mp hv with
  | policy _ _ _ _ hfirst =>
    obtain ⟨_, attached, _, _, hp, _⟩ := hfirst
    exact ((h.policies p).mp (Keyed.find?_eq_some hp).1).2

/-- After any operations on an empty store, a user gets a policy as his own where it is among those
listed for him, and these are the ones that he may delete. Getting and deleting give the same reason
where they fail: there is no such policy, or it is not the user's. Once deleted, a policy is not
found, not listed and does not grant anything, and all others are what they were. Questions are
decided as they were before for the resource without that policy. -/
theorem ownership_paths_agree (limit : Nat) (ops : List Operation) (id : PolicyId) (user : UserId) :
    let s := (empty limit).run ops
    (∀ p, s.getOwned id user = .ok p ↔ p ∈ s.allForOwner user ∧ p.id = id) ∧
    ((∃ after, s.delete id user = .ok after) ↔ ∃ p ∈ s.allForOwner user, p.id = id) ∧
    (∀ cause, (s.getOwned id user = .error cause ↔ s.Withheld id user cause) ∧
      (s.delete id user = .error cause ↔ s.Withheld id user cause)) ∧
    ∀ after, s.delete id user = .ok after →
      after.find? id = none ∧
      (∀ other, other ≠ id → after.find? other = s.find? other) ∧
      (∀ p, p ∈ after.policies ↔ p ∈ s.policies ∧ p.id ≠ id) ∧
      (∀ owner p, p ∈ after.allForOwner owner ↔ p ∈ s.allForOwner owner ∧ p.id ≠ id) ∧
      ∀ evaluator resource principal access request,
        (∀ p, Guard.verdict ⟨after.toLookup, evaluator⟩ resource principal access request =
          .ok (.allow (.policy p)) → p.id ≠ id) ∧
        Guard.authorize ⟨after.toLookup, evaluator⟩ resource principal access request =
          Guard.authorize ⟨s.toLookup, evaluator⟩
            (resource.attach (resource.policies.filter (· ≠ id))) principal access request := by
  intro s
  have hs : s.Consistent := (consistent_empty limit).run ops
  refine ⟨fun _ => hs.getOwned_eq_ok_iff_listed, hs.exists_delete_iff_listed,
    fun _ => ⟨getOwned_eq_error_iff, delete_eq_error_iff⟩, fun after hdelete => ?_⟩
  have hlacks := lacksOnly_of_delete hdelete
  refine ⟨hlacks.lookup.gone, hlacks.lookup.kept, hlacks.policies,
    fun owner _ => hlacks.mem_allForOwner_iff owner,
    fun evaluator resource principal access request => ⟨fun _ => hlacks.ne_of_verdict, ?_⟩⟩
  exact Guard.authorize_without hlacks.lookup evaluator resource principal access request

/-- The policies of two authors, both stored anew, and one of nobody's. -/
def threePolicies : List Operation :=
  [.replaceAll [samplePolicy 5 "third"], .create (samplePolicy 0 "first") (sampleAuthor 1),
    .create (samplePolicy 3 "second") (sampleAuthor 2)]

theorem threePolicies_agree :
    ((empty 64).run threePolicies).delete (.ofDigit 5) (.ofDigit 1) =
      .error .missingOwnerPrivileges ∧
    (∃ p ∈ ((empty 64).run threePolicies).allForOwner (.ofDigit 1), p.id = .ofDigit 0) ∧
    ∃ after, ((empty 64).run threePolicies).delete (.ofDigit 0) (.ofDigit 1) = .ok after ∧
      after.find? (.ofDigit 0) = none ∧
      after.find? (.ofDigit 3) = ((empty 64).run threePolicies).find? (.ofDigit 3) := by
  have hrefused := (ownership_paths_agree 64 threePolicies (.ofDigit 5) (.ofDigit 1)).2.2.1
    .missingOwnerPrivileges
  obtain ⟨_, hlisted, _, hdeleted⟩ :=
    ownership_paths_agree 64 threePolicies (.ofDigit 0) (.ofDigit 1)
  obtain ⟨after, hdelete⟩ : ∃ after,
      ((empty 64).run threePolicies).delete (.ofDigit 0) (.ofDigit 1) = .ok after := ⟨_, rfl⟩
  obtain ⟨hgone, hkept, _⟩ := hdeleted after hdelete
  exact ⟨hrefused.2.mpr (.notOwner rfl (by decide)), hlisted.mp ⟨after, hdelete⟩, after, hdelete,
    hgone, hkept (.ofDigit 3) (by decide)⟩

end PolicyStore

end AccessControl
