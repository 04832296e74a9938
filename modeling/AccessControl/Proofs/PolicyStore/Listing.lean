import AccessControl.Proofs.PolicyStore.Consistency
import AccessControl.Proofs.PolicyStore.Retention

/-!
The policies of an author, by name. Distinct names leave only one ascending order, so the order in
which a store happens to hold its policies does not show.
-/

namespace AccessControl.PolicyStore

variable {s t : PolicyStore} {owner : UserId} {p : Policy}

theorem allForOwner_perm (s : PolicyStore) (owner : UserId) :
    (s.allForOwner owner).Perm (s.policies.filter (·.owner == some owner)) :=
  List.mergeSort_perm _ _

theorem mem_allForOwner_iff : p ∈ s.allForOwner owner ↔ p ∈ s.policies ∧ p.owner = some owner := by
  rw [(s.allForOwner_perm owner).mem_iff, List.mem_filter, beq_iff_eq]

theorem Consistent.names_allForOwner (h : s.Consistent) (owner : UserId) :
    ((s.allForOwner owner).map Policy.name).Nodup := by
  rw [((s.allForOwner_perm owner).map Policy.name).nodup_iff]
  exact h.names.sublist (List.filter_sublist.map Policy.name)

theorem Consistent.ascending_allForOwner (h : s.Consistent) (owner : UserId) :
    (s.allForOwner owner).Pairwise fun p q => Text.less p.name q.name = true := by
  have hsorted : (s.allForOwner owner).Pairwise fun p q =>
      Text.lessOrEqual p.name q.name = true := by
    apply List.pairwise_mergeSort
    · exact fun _ _ _ => Text.lessOrEqual_trans
    · exact fun p q => Text.lessOrEqual_total p.name q.name
  have hdistinct := List.pairwise_map.mp (h.names_allForOwner owner)
  exact hsorted.imp₂ (fun _ _ hle hne => Text.less_of_lessOrEqual hle hne) hdistinct

theorem Consistent.nodup_allForOwner (h : s.Consistent) (owner : UserId) :
    (s.allForOwner owner).Nodup :=
  List.Pairwise.of_map Policy.name (fun _ _ hne he => hne (congrArg Policy.name he))
    (h.names_allForOwner owner)

/-- Two ascending lists of the same policies are one. -/
theorem Consistent.allForOwner_eq_of_perm (hs : s.Consistent) (ht : t.Consistent)
    (h : s.policies.Perm t.policies) (owner : UserId) :
    s.allForOwner owner = t.allForOwner owner := by
  refine List.Perm.eq_of_pairwise ?_ (hs.ascending_allForOwner owner)
    (ht.ascending_allForOwner owner) ?_
  · intro p q _ _ hpq hqp
    rw [Text.less_asymm hpq] at hqp
    cases hqp
  · calc (s.allForOwner owner).Perm (s.policies.filter (·.owner == some owner)) :=
          s.allForOwner_perm owner
      List.Perm _ (t.policies.filter (·.owner == some owner)) := h.filter _
      List.Perm _ (t.allForOwner owner) := (t.allForOwner_perm owner).symm

theorem Consistent.of_perm (h : s.Consistent) {policies : List Policy}
    (hp : policies.Perm s.policies) : Consistent { s with policies := policies } where
  ids := (hp.map Policy.id).nodup_iff.mpr h.ids
  names := (hp.map Policy.name).nodup_iff.mpr h.names
  valid := fun p hm => h.valid p (hp.mem_iff.mp hm)

/-- After any operations on an empty store, failed ones included, every policy stands under its own
identifier, no two share a name, and the limit of the store admits each of them. The list of an
author's policies ascends strictly by name, has exactly that author's policies once each, and is
the same for every order in which the store may hold them. -/
theorem run_consistent_and_listed (limit : Nat) (ops : List Operation) :
    (∀ id p, ((empty limit).run ops).find? id = some p ↔
      p ∈ ((empty limit).run ops).policies ∧ p.id = id) ∧
    (((empty limit).run ops).policies.map Policy.name).Nodup ∧
    (∀ p ∈ ((empty limit).run ops).policies, p.validate limit = .ok ()) ∧
    ∀ owner,
      (((empty limit).run ops).allForOwner owner).Pairwise
        (fun p q => Text.less p.name q.name = true) ∧
      (((empty limit).run ops).allForOwner owner).Nodup ∧
      (∀ p, p ∈ ((empty limit).run ops).allForOwner owner ↔
        p ∈ ((empty limit).run ops).policies ∧ p.owner = some owner) ∧
      ∀ policies, policies.Perm ((empty limit).run ops).policies →
        PolicyStore.allForOwner { (empty limit).run ops with policies := policies } owner =
          ((empty limit).run ops).allForOwner owner := by
  have h : ((empty limit).run ops).Consistent := (consistent_empty limit).run ops
  refine ⟨fun _ _ => h.find?_eq_some_iff, h.names, fun _ => validate_of_mem_run, fun owner => ?_⟩
  refine ⟨h.ascending_allForOwner owner, h.nodup_allForOwner owner,
    fun _ => mem_allForOwner_iff, fun policies hp => ?_⟩
  exact (h.of_perm hp).allForOwner_eq_of_perm h hp owner

/-- Held the other way round, an author's two policies are listed alike; a third one that shares a
name with the first was refused. -/
theorem listed_alike_reversed :
    PolicyStore.allForOwner
        ⟨64, [{ samplePolicy 3 "first" with owner := some (.ofDigit 1) },
          { samplePolicy 0 "second" with owner := some (.ofDigit 1) }]⟩ (.ofDigit 1) =
      ((empty 64).run [.create (samplePolicy 0 "second") (sampleAuthor 1),
        .create (samplePolicy 3 "first") (sampleAuthor 1),
        .create (samplePolicy 4 "second") (sampleAuthor 1)]).allForOwner (.ofDigit 1) := by
  have hlaw := run_consistent_and_listed 64
    [.create (samplePolicy 0 "second") (sampleAuthor 1),
      .create (samplePolicy 3 "first") (sampleAuthor 1),
      .create (samplePolicy 4 "second") (sampleAuthor 1)]
  exact (hlaw.2.2.2 (.ofDigit 1)).2.2.2 _ (List.Perm.swap _ _ [])

end AccessControl.PolicyStore
