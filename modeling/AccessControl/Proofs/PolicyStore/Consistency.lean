import AccessControl.Proofs.PolicyStore.Run

/-!
What a policy store keeps to at every point of every run. Creating compares names and puts by
identifier, a batch is checked for both beforehand; either way no two stored policies share an
identifier or a name, and nothing is wrong with any of them.
-/

namespace AccessControl.PolicyStore

structure Consistent (s : PolicyStore) : Prop where
  ids : (s.policies.map Policy.id).Nodup
  names : (s.policies.map Policy.name).Nodup
  valid : ∀ p ∈ s.policies, p.validate s.maxConditionDepth = .ok ()

variable {s after : PolicyStore}

theorem consistent_empty (limit : Nat) : (empty limit).Consistent :=
  ⟨List.nodup_nil, List.nodup_nil, fun _ hp => nomatch hp⟩

/-- The new policy may take the place of another one with its identifier; its name is none of those
stored, so the names stay distinct even then. -/
theorem Consistent.create {policy stored : Policy} {author : Principal} (h : s.Consistent)
    (hc : s.create policy author = .ok (stored, after)) : after.Consistent := by
  obtain ⟨_, hv, hn, hstored, rfl⟩ := create_eq_ok_iff.mp hc
  have hname : stored.name ∉ s.policies.map Policy.name := by
    intro hm
    obtain ⟨p, hp, he⟩ := List.mem_map.mp hm
    rw [hstored] at he
    exact hn p hp he
  refine ⟨Keyed.nodup_key_put h.ids, Keyed.nodup_map_put h.names hname, ?_⟩
  intro p hp
  rcases Keyed.mem_put hp with rfl | hp
  · rw [hstored]
    exact hv
  · exact h.valid p hp

theorem Consistent.delete {id : PolicyId} {owner : UserId} (h : s.Consistent)
    (hd : s.delete id owner = .ok after) : after.Consistent := by
  obtain ⟨_, rfl⟩ := delete_eq_ok_iff.mp hd
  refine ⟨Keyed.nodup_map_remove h.ids, Keyed.nodup_map_remove h.names, ?_⟩
  intro p hp
  exact h.valid p (List.mem_filter.mp hp).1

/-- A batch brings everything with it; what was stored before does not matter. -/
theorem consistent_of_replaceAll {batch : List Policy} (hr : s.replaceAll batch = .ok after) :
    after.Consistent := by
  obtain ⟨hv, hi, hn, rfl⟩ := replaceAll_eq_ok_iff.mp hr
  exact ⟨hi, hn, hv⟩

theorem Consistent.perform {op : Operation} (h : s.Consistent) (hp : s.perform op = .ok after) :
    after.Consistent := by
  cases op with
  | create policy author =>
    obtain ⟨stored, hc⟩ := create_eq_ok_of_perform hp
    exact h.create hc
  | delete id owner => exact h.delete hp
  | replaceAll batch => exact consistent_of_replaceAll hp

theorem maxConditionDepth_of_perform {op : Operation} (hp : s.perform op = .ok after) :
    after.maxConditionDepth = s.maxConditionDepth := by
  cases op with
  | create policy author =>
    obtain ⟨stored, hc⟩ := create_eq_ok_of_perform hp
    obtain ⟨_, _, _, _, rfl⟩ := create_eq_ok_iff.mp hc
    rfl
  | delete id owner =>
    obtain ⟨_, rfl⟩ := delete_eq_ok_iff.mp hp
    rfl
  | replaceAll batch =>
    obtain ⟨_, _, _, rfl⟩ := replaceAll_eq_ok_iff.mp hp
    rfl

/-- What every operation that succeeds keeps, a run keeps. -/
theorem run_induction {P : PolicyStore → Prop}
    (hstep : ∀ s op after, P s → s.perform op = .ok after → P after) (hs : P s)
    (ops : List Operation) : P (s.run ops) := by
  induction ops generalizing s with
  | nil => exact hs
  | cons op ops ih =>
    apply ih
    unfold step
    split
    · rename_i after ha
      exact hstep s op after hs ha
    · exact hs

theorem Consistent.run (h : s.Consistent) (ops : List Operation) : (s.run ops).Consistent :=
  run_induction (fun _ _ _ h hp => h.perform hp) h ops

theorem maxConditionDepth_run (s : PolicyStore) (ops : List Operation) :
    (s.run ops).maxConditionDepth = s.maxConditionDepth :=
  run_induction (P := fun t => t.maxConditionDepth = s.maxConditionDepth)
    (fun _ _ _ h hp => (maxConditionDepth_of_perform hp).trans h) rfl ops

/-- From the empty store a run only ever meets policies that the store's limit admits. -/
theorem validate_of_mem_run {limit : Nat} {ops : List Operation} {p : Policy}
    (hp : p ∈ ((empty limit).run ops).policies) : p.validate limit = .ok () := by
  have h := ((consistent_empty limit).run ops).valid p hp
  rwa [maxConditionDepth_run] at h

theorem Consistent.find?_eq_some_iff (h : s.Consistent) {id : PolicyId} {p : Policy} :
    s.find? id = some p ↔ p ∈ s.policies ∧ p.id = id :=
  Keyed.find?_eq_some_iff h.ids

end AccessControl.PolicyStore
