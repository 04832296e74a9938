import AccessControl.Proofs.Guard.Verdict
import AccessControl.Proofs.PolicyStore.Run

/-!
Whether access is allowed at all, by whatever grant. Policies only ever add to that: where more of
them are found and more are attached, all stays allowed that was, and taking one away allows nothing
new.
-/

namespace AccessControl

/-- Whatever the second lookup finds, the first one finds too. -/
def PolicyLookup.Extends (more fewer : PolicyLookup) : Prop :=
  ∀ id p, fewer.find? id = some p → more.find? id = some p

/-- The resource with other policies attached to it. -/
def Resource.attach (resource : Resource) (ids : List PolicyId) : Resource :=
  { resource with policies := ids }

/-- A store from which a policy was deleted finds nothing that it did not find before. -/
theorem PolicyStore.extends_of_delete {s after : PolicyStore} {id : PolicyId} {owner : UserId}
    (h : s.delete id owner = .ok after) : s.toLookup.Extends after.toLookup := by
  obtain ⟨_, rfl⟩ := delete_eq_ok_iff.mp h
  intro other p hp
  have hremoved : (if other = id then none else s.find? other) = some p :=
    (Keyed.find?_remove Policy.id id other s.policies).symm.trans hp
  split at hremoved
  · cases hremoved
  · exact hremoved

namespace Guard

variable (g : Guard) (resource : Resource) (principal : Principal) (access : AccessType)
  (request : AccessRequest)

/-- The decision is to allow access, for whatever reason. -/
def Allows : Prop :=
  ∃ grant, g.verdict resource principal access request = .ok (.allow grant)

variable {g resource principal access request}

/-- For allowing access it does not matter which attached policy grants, only that one does. -/
theorem allows_iff :
    g.Allows resource principal access request ↔
      principal.isLoginable = true ∧
        (principal.isAdmin = true ∨ OwnedOrUnowned resource principal ∨
          ∃ id ∈ resource.policies, ∃ p, g.policies.find? id = some p ∧
            g.Grants (.ofQuestion resource principal request) access p) := by
  constructor
  · rintro ⟨grant, h⟩
    cases verdict_eq_iff.mp h with
    | admin hl ha => exact ⟨hl, .inl ha⟩
    | owner hl _ ho => exact ⟨hl, .inr (.inl ho)⟩
    | policy p hl _ _ hf =>
      obtain ⟨before, id, after, hids, hp, hg, _⟩ := hf
      have hid : id ∈ resource.policies := by simp [hids]
      exact ⟨hl, .inr (.inr ⟨id, hid, p, hp, hg⟩)⟩
  · rintro ⟨hl, h⟩
    obtain ⟨r, hr⟩ := g.exists_due resource principal access request
    have hv := hr.verdict_eq
    cases hr with
    | notLoginable hn =>
      rw [hl] at hn
      cases hn
    | admin => exact ⟨_, hv⟩
    | owner => exact ⟨_, hv⟩
    | policy => exact ⟨_, hv⟩
    | denied _ ha ho hn =>
      rcases h with h | h | ⟨id, hid, p, hp, hg⟩
      · rw [ha] at h
        cases h
      · exact absurd h ho
      · exact absurd hg (hn id hid p hp)

/-- Whoever may log in is denied what is not allowed, and a denial is always this one. -/
theorem verdict_eq_deny_iff :
    g.verdict resource principal access request = .ok (.deny resource.id access) ↔
      principal.isLoginable = true ∧ ¬ g.Allows resource principal access request := by
  constructor
  · intro h
    refine ⟨?_, ?_⟩
    · cases verdict_eq_iff.mp h with
      | denied hl => exact hl
    · rintro ⟨grant, hg⟩
      rw [h] at hg
      cases hg
  · rintro ⟨hl, hn⟩
    obtain ⟨r, hr⟩ := g.exists_due resource principal access request
    have hv := hr.verdict_eq
    cases hr with
    | notLoginable hl' =>
      rw [hl] at hl'
      cases hl'
    | denied => exact hv
    | admin => exact absurd ⟨_, hv⟩ hn
    | owner => exact absurd ⟨_, hv⟩ hn
    | policy => exact absurd ⟨_, hv⟩ hn

/-- Where all that is allowed in a second case is allowed in a first one, a denial in the first case
is one in the second. -/
theorem denied_of_allows_imp {g' : Guard} {request' : AccessRequest}
    (h : g'.Allows resource principal access request' → g.Allows resource principal access request)
    (hdenied : g.verdict resource principal access request = .ok (.deny resource.id access)) :
    g'.verdict resource principal access request' = .ok (.deny resource.id access) := by
  rw [verdict_eq_deny_iff] at hdenied ⊢
  exact ⟨hdenied.1, fun ha => hdenied.2 (h ha)⟩

/-- Unresolved and repeated identifiers may stand among the attached ones, and another policy may
come to grant first. -/
theorem Allows.extend {evaluator : Evaluator} {more fewer : PolicyLookup} {ids ids' : List PolicyId}
    (h : Allows ⟨fewer, evaluator⟩ (resource.attach ids) principal access request)
    (hfound : more.Extends fewer) (hattached : ids.Sublist ids') :
    Allows ⟨more, evaluator⟩ (resource.attach ids') principal access request := by
  obtain ⟨hl, hwhy⟩ := allows_iff.mp h
  refine allows_iff.mpr ⟨hl, ?_⟩
  rcases hwhy with ha | ho | ⟨id, hid, p, hp, hg⟩
  · exact .inl ha
  · exact .inr (.inl ho)
  · exact .inr (.inr ⟨id, hattached.subset hid, p, hfound id p hp, hg⟩)

/-- What comes after the first policy to grant is never tried. -/
theorem FirstToGrant.append {lookup : Lookup} {ids : List PolicyId} {p : Policy}
    (h : g.FirstToGrant lookup access ids p) (added : List PolicyId) :
    g.FirstToGrant lookup access (ids ++ added) p := by
  obtain ⟨before, id, after, rfl, hp, hg, hb⟩ := h
  exact ⟨before, id, after ++ added, by simp, hp, hg, hb⟩

theorem verdict_attach_append {grant : Grant}
    (h : g.verdict resource principal access request = .ok (.allow grant))
    (added : List PolicyId) :
    g.verdict (resource.attach (resource.policies ++ added)) principal access request =
      .ok (.allow grant) := by
  rw [verdict_eq_iff] at h ⊢
  cases h with
  | admin hl ha => exact .admin hl ha
  | owner hl ha ho => exact .owner hl ha ho
  | policy p hl ha ho hf => exact .policy p hl ha ho (hf.append added)

/-- Finding more policies, and attaching more of them anywhere, takes no access away. Attaching more
at the end does not even change the grant. So no deletion from a store turns a denial into
anything else. -/
theorem policies_only_add (evaluator : Evaluator) (resource : Resource) (principal : Principal)
    (access : AccessType) (request : AccessRequest) :
    (∀ fewer more : PolicyLookup, more.Extends fewer → ∀ ids ids' : List PolicyId,
      ids.Sublist ids' →
      Allows ⟨fewer, evaluator⟩ (resource.attach ids) principal access request →
      Allows ⟨more, evaluator⟩ (resource.attach ids') principal access request) ∧
    (∀ (policies : PolicyLookup) (ids added : List PolicyId) (grant : Grant),
      verdict ⟨policies, evaluator⟩ (resource.attach ids) principal access request =
        .ok (.allow grant) →
      verdict ⟨policies, evaluator⟩ (resource.attach (ids ++ added)) principal access request =
        .ok (.allow grant)) ∧
    ∀ (s after : PolicyStore) (id : PolicyId) (owner : UserId), s.delete id owner = .ok after →
      verdict ⟨s.toLookup, evaluator⟩ resource principal access request =
        .ok (.deny resource.id access) →
      verdict ⟨after.toLookup, evaluator⟩ resource principal access request =
        .ok (.deny resource.id access) := by
  refine ⟨?_, ?_, ?_⟩
  · intro fewer more hfound ids ids' hattached h
    exact h.extend hfound hattached
  · intro policies ids added grant h
    exact verdict_attach_append h added
  · intro s after id owner hdelete
    have hfound := PolicyStore.extends_of_delete hdelete
    refine denied_of_allows_imp fun h => ?_
    exact h.extend hfound (List.Sublist.refl resource.policies)

/-- A policy that lets everyone read, with an owner. -/
def readPolicy (digit : Fin 16) (owner : Fin 16) : Policy :=
  { openToRead "" 0 with id := .ofDigit digit, owner := some (.ofDigit owner) }

/-- Two policies of different authors. -/
def twoAuthors : PolicyStore :=
  ⟨64, [readPolicy 1 10, readPolicy 2 12]⟩

def firstAuthor : PolicyStore :=
  ⟨64, [readPolicy 1 10]⟩

/-- The visitor may read by the first policy alone, and still may with the second one stored too and
attached before it or after it. Deleting the second one leaves a denial to update as it is. -/
theorem twoAuthors_add :
    twoAuthors.delete (.ofDigit 2) (.ofDigit 12) = .ok firstAuthor ∧
      Allows ⟨twoAuthors.toLookup, .ofLimit 64⟩ (lentOut.attach [.ofDigit 2, .ofDigit 1]) visitor
        .read .empty ∧
      verdict ⟨firstAuthor.toLookup, .ofLimit 64⟩ (lentOut.attach [.ofDigit 1, .ofDigit 2]) visitor
        .read .empty = .ok (.allow (.policy (readPolicy 1 10))) ∧
      verdict ⟨firstAuthor.toLookup, .ofLimit 64⟩ lentOut visitor .update .empty =
        .ok (.deny (.ofDigit 13) .update) := by
  have hdelete : twoAuthors.delete (.ofDigit 2) (.ofDigit 12) = .ok firstAuthor := rfl
  have hsublist : [.ofDigit 1].Sublist [.ofDigit 2, (.ofDigit 1 : PolicyId)] :=
    .cons _ (List.Sublist.refl _)
  have hread : verdict ⟨firstAuthor.toLookup, .ofLimit 64⟩ (lentOut.attach [.ofDigit 1]) visitor
      .read .empty = .ok (.allow (.policy (readPolicy 1 10))) := rfl
  have hlaw := policies_only_add (.ofLimit 64) lentOut visitor
  refine ⟨hdelete, ?_, ?_, ?_⟩
  · exact (hlaw .read .empty).1 _ _ (PolicyStore.extends_of_delete hdelete) _ _ hsublist ⟨_, hread⟩
  · exact (hlaw .read .empty).2.1 _ [.ofDigit 1] [.ofDigit 2] _ hread
  · exact (hlaw .update .empty).2.2 _ _ _ _ hdelete rfl

end Guard

end AccessControl
