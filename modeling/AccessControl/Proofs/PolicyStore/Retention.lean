import AccessControl.Proofs.PolicyStore.Run

/-!
What makes a stored policy go. Its owner may delete it and a batch may take the place of everything;
besides that only creating a policy under the same identifier does, whoever the author is, for
names are compared before a policy is stored and identifiers are not.
-/

namespace AccessControl.PolicyStore

open Outcome

/-- The ways in which a policy is meant to go: its owner deletes it, or everything is replaced. -/
def Operation.Retires (p : Policy) : Operation → Prop
  | .create _ _ => False
  | .delete id owner => id = p.id ∧ p.owner = some owner
  | .replaceAll _ => True

def Operation.CreatesAt (id : PolicyId) : Operation → Prop
  | .create policy _ => policy.id = id
  | .delete _ _ => False
  | .replaceAll _ => False

variable {s after : PolicyStore} {policy stored p : Policy} {author : Principal}

theorem find?_create (h : s.create policy author = .ok (stored, after)) (id : PolicyId) :
    after.find? id = if policy.id = id then some stored else s.find? id := by
  obtain ⟨_, _, _, rfl, rfl⟩ := create_eq_ok_iff.mp h
  exact Keyed.find?_put Policy.id _ id s.policies

/-- The new policy is none of those stored before, since it differs from them in its name. -/
theorem ne_of_create (h : s.create policy author = .ok (stored, after)) (hp : p ∈ s.policies) :
    stored ≠ p := by
  obtain ⟨_, _, hn, rfl, _⟩ := create_eq_ok_iff.mp h
  intro he
  exact hn p hp (he ▸ rfl)

theorem find?_create_iff (h : s.create policy author = .ok (stored, after))
    (hp : s.find? p.id = some p) : after.find? p.id = some p ↔ policy.id ≠ p.id := by
  rw [find?_create h]
  by_cases hid : policy.id = p.id
  · have hne : stored ≠ p := ne_of_create h (Keyed.find?_eq_some hp).1
    simp [hid, hne]
  · simp [hid, hp]

/-- The store grows by one where the identifier is new, and keeps its size where it is not. -/
theorem size_create (h : s.create policy author = .ok (stored, after)) :
    after.size = if s.find? policy.id = none then s.size + 1 else s.size := by
  obtain ⟨_, _, _, rfl, rfl⟩ := create_eq_ok_iff.mp h
  have hlen := Keyed.length_put Policy.id { policy with owner := some author.id } s.policies
  have hnew : s.find? policy.id = none ↔ policy.id ∉ s.policies.map Policy.id :=
    Keyed.find?_eq_none_iff Policy.id policy.id s.policies
  by_cases hmem : policy.id ∈ s.policies.map Policy.id
  · rw [if_neg (mt hnew.mp (not_not_intro hmem))]
    exact hlen.trans (if_pos hmem)
  · rw [if_pos (hnew.mpr hmem)]
    exact hlen.trans (if_neg hmem)

theorem size_create_iff (h : s.create policy author = .ok (stored, after)) :
    after.size = s.size + 1 ↔ s.find? policy.id = none := by
  rw [size_create h]
  split <;> simp_all

/-- Of the operations by which a policy is not meant to go, exactly those that create one under
its identifier make it go. -/
theorem find?_perform_iff {op : Operation} (h : s.perform op = .ok after)
    (hp : s.find? p.id = some p) (hr : ¬ op.Retires p) :
    after.find? p.id = some p ↔ ¬ op.CreatesAt p.id := by
  cases op with
  | create policy author =>
    obtain ⟨stored, hc⟩ := create_eq_ok_of_perform h
    exact find?_create_iff hc hp
  | delete id owner =>
    obtain ⟨⟨q, hq, ho⟩, rfl⟩ := delete_eq_ok_iff.mp h
    -- Deleting succeeded, so whatever has this identifier belongs to the one who asked.
    have hid : p.id ≠ id := by
      rintro rfl
      obtain rfl := Option.some.inj (hp.symm.trans hq)
      exact hr ⟨rfl, ho⟩
    have hkept := Keyed.find?_remove Policy.id id p.id s.policies
    rw [if_neg hid] at hkept
    exact iff_of_true (hkept.trans hp) not_false
  | replaceAll batch => exact absurd trivial hr

/-- Through a run that retires it in neither way, a policy stays as long as nobody creates one
under its identifier. -/
theorem find?_states_iff (ops : List Operation) (hp : s.find? p.id = some p)
    (hr : ∀ op ∈ s.performed ops, ¬ op.Retires p) :
    (∀ t ∈ s.states ops, t.find? p.id = some p) ↔
      ∀ op ∈ s.performed ops, ¬ op.CreatesAt p.id := by
  induction ops generalizing s with
  | nil => simp [states, performed, hp]
  | cons op ops ih =>
    simp only [states, performed, step] at hr ⊢
    cases ho : s.perform op with
    | error e =>
      simp only [ho, List.forall_mem_cons] at hr ⊢
      rw [ih hp hr]
      exact and_iff_right hp
    | ok after =>
      simp only [ho, List.forall_mem_cons] at hr ⊢
      have hstep := find?_perform_iff ho hp hr.1
      constructor
      · rintro ⟨_, hall⟩
        have hafter : after.find? p.id = some p := by
          apply hall
          cases ops <;> simp [states]
        exact ⟨hstep.mp hafter, (ih hafter hr.2).mp hall⟩
      · rintro ⟨hc, hrest⟩
        exact ⟨hp, (ih (hstep.mpr hc) hr.2).mpr hrest⟩

/-- A policy stored at some point of a run stays under its identifier unchanged until its owner
deletes it or everything is replaced, if and only if nobody creates a policy under its identifier;
and creating adds a policy to the others exactly where the identifier is new. -/
theorem stays_iff_not_recreated (limit : Nat) (earlier : List Operation) :
    (∀ later p, ((empty limit).run earlier).find? p.id = some p →
      (∀ op ∈ ((empty limit).run earlier).performed later, ¬ op.Retires p) →
      ((∀ t ∈ ((empty limit).run earlier).states later, t.find? p.id = some p) ↔
        ∀ op ∈ ((empty limit).run earlier).performed later, ¬ op.CreatesAt p.id)) ∧
    ∀ policy author stored after,
      ((empty limit).run earlier).create policy author = .ok (stored, after) →
      (after.size = ((empty limit).run earlier).size + 1 ↔
        ((empty limit).run earlier).find? policy.id = none) ∧
      ∀ p, ((empty limit).run earlier).find? p.id = some p →
        (after.find? p.id = some p ↔ policy.id ≠ p.id) := by
  refine ⟨fun later p hp hr => find?_states_iff later hp hr, ?_⟩
  intro policy author stored after h
  exact ⟨size_create_iff h, fun p hp => find?_create_iff h hp⟩

/-- A policy that lets everyone read. -/
def samplePolicy (digit : Fin 16) (name : String) : Policy where
  id := .ofDigit digit
  name := name
  accessTypes := .ofList [.read]
  condition := .composite .all []

def sampleAuthor (digit : Fin 16) : Principal where
  id := .ofDigit digit
  username := ""

/-- Another author's policy under an identifier of its own, and an attempt by that author to delete
the first one, leave the first one where it is. -/
theorem stays_beside_another :
    ∀ t ∈ ((empty 64).run [.create (samplePolicy 0 "first") (sampleAuthor 1)]).states
        [.create (samplePolicy 3 "second") (sampleAuthor 2), .delete (.ofDigit 0) (.ofDigit 2)],
      t.find? (.ofDigit 0) = some { samplePolicy 0 "first" with owner := some (.ofDigit 1) } := by
  have hlaw := stays_iff_not_recreated 64 [.create (samplePolicy 0 "first") (sampleAuthor 1)]
  have hperformed :
      ((empty 64).run [.create (samplePolicy 0 "first") (sampleAuthor 1)]).performed
        [.create (samplePolicy 3 "second") (sampleAuthor 2), .delete (.ofDigit 0) (.ofDigit 2)] =
      [.create (samplePolicy 3 "second") (sampleAuthor 2)] := rfl
  have hiff := hlaw.1
    [.create (samplePolicy 3 "second") (sampleAuthor 2), .delete (.ofDigit 0) (.ofDigit 2)]
    { samplePolicy 0 "first" with owner := some (.ofDigit 1) } rfl
  rw [hperformed] at hiff
  refine (hiff ?_).mpr ?_
  · simp [Operation.Retires]
  · simp only [List.forall_mem_singleton, Operation.CreatesAt]
    decide

/-- Someone else creates a policy under an identifier in use. The first policy is gone without its
author's doing, and the store is no larger. -/
theorem recreated_by_another :
    ∃ first before second after,
      (empty 64).create (samplePolicy 0 "first") (sampleAuthor 1) = .ok (first, before) ∧
      before.find? first.id = some first ∧
      before.create (samplePolicy 0 "second") (sampleAuthor 2) = .ok (second, after) ∧
      after.find? first.id = some second ∧ first.owner ≠ second.owner ∧
      after.size = before.size :=
  ⟨_, _, _, _, rfl, rfl, rfl, rfl, by decide, rfl⟩

end AccessControl.PolicyStore
