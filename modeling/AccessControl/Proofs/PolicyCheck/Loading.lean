import AccessControl.PolicyCheck
import AccessControl.Proofs.PolicyStore.Consistency
import AccessControl.Proofs.PolicyStore.Retention
import Mathlib.Data.Fintype.Fin

/-!
A list of policies, checked and loaded. The check goes on to the end and finds every problem, the
store stops at the first one; both look for the same problems, and neither they nor what is stored
under an identifier depend on the order of the list.
-/

namespace AccessControl

namespace Keyed

variable {α κ : Type} [DecidableEq κ]

/-- The positions of a list with a key that came up before, among other things or at an earlier
position. -/
def recurringAfter (key : α → κ) (before xs : List α) : Finset (Fin xs.length) :=
  {i | key xs[i] ∈ before.map key ∨ ∃ k < i, key xs[k] = key xs[i]}

/-- The positions of a list with a key that an earlier one has. -/
def recurring (key : α → κ) (xs : List α) : Finset (Fin xs.length) :=
  {i | ∃ k < i, key xs[k] = key xs[i]}

theorem recurringAfter_nil (key : α → κ) (xs : List α) :
    recurringAfter key [] xs = recurring key xs := by
  simp [recurringAfter, recurring]

theorem card_recurringAfter_cons (key : α → κ) (before : List α) (x : α) (xs : List α) :
    (recurringAfter key before (x :: xs)).card =
      (if key x ∈ before.map key then 1 else 0) + (recurringAfter key (x :: before) xs).card := by
  -- Seen from a later position, the first thing is one of those before.
  have hlater : ∀ i : Fin xs.length,
      (key xs[i] ∈ before.map key ∨ ∃ k < i.succ, key (x :: xs)[k] = key xs[i]) ↔
        key xs[i] ∈ (x :: before).map key ∨ ∃ k < i, key xs[k] = key xs[i] := by
    intro i
    rw [Fin.exists_fin_succ, List.map_cons, List.mem_cons, or_assoc, or_left_comm, eq_comm]
    simp
  rw [recurringAfter, recurringAfter]
  simp only [List.length_cons]
  rw [Fin.card_filter_univ_succ']
  congr 1
  · simp
  · congr 1
    ext i
    simpa using hlater i

end Keyed

namespace PolicyCheck

open PolicyStore (FreshAfter freshAfter_cons)

variable {limit : Nat} {before policies : List Policy} {p : Policy}

theorem problemsOf_eq_nil_iff :
    problemsOf limit before p = [] ↔
      p.validate limit = .ok () ∧ p.id ∉ before.map Policy.id ∧
        p.name ∉ before.map Policy.name := by
  have hvalid : ((p.fault? limit).map (PolicyProblem.invalid p)).toList = [] ↔
      p.validate limit = .ok () := by
    unfold Policy.validate
    cases p.fault? limit <;> simp
  simp [problemsOf, hvalid]

theorem problemsAfter_eq_nil_iff :
    problemsAfter limit before policies = [] ↔
      (∀ p ∈ policies, p.validate limit = .ok ()) ∧ FreshAfter Policy.id before policies ∧
        FreshAfter Policy.name before policies := by
  induction policies generalizing before with
  | nil => simp [problemsAfter, FreshAfter]
  | cons p ps ih =>
    rw [problemsAfter, List.append_eq_nil_iff, problemsOf_eq_nil_iff, ih, freshAfter_cons,
      freshAfter_cons, List.forall_mem_cons]
    constructor
    · rintro ⟨⟨hv, hi, hn⟩, hvs, his, hns⟩
      exact ⟨⟨hv, hvs⟩, ⟨hi, his⟩, hn, hns⟩
    · rintro ⟨⟨hv, hvs⟩, ⟨hi, his⟩, hn, hns⟩
      exact ⟨⟨hv, hi, hn⟩, hvs, his, hns⟩

/-- A list passes the check when each of its policies is valid and no two of them share an
identifier or a name. -/
theorem isValid_ofPolicies_iff :
    (ofPolicies policies limit).isValid = true ↔
      (∀ p ∈ policies, p.validate limit = .ok ()) ∧ (policies.map Policy.id).Nodup ∧
        (policies.map Policy.name).Nodup := by
  rw [isValid, List.isEmpty_iff, ofPolicies, problemsAfter_eq_nil_iff]
  simp [FreshAfter]

/-- One policy gives at most one problem of each kind. -/
theorem length_problemsOf (limit : Nat) (before : List Policy) (p : Policy) :
    (problemsOf limit before p).length =
      (if (p.validate limit).isOk then 0 else 1) +
        (if p.id ∈ before.map Policy.id then 1 else 0) +
        (if p.name ∈ before.map Policy.name then 1 else 0) := by
  have hfault : ((p.fault? limit).map (PolicyProblem.invalid p)).toList.length =
      if (p.validate limit).isOk then 0 else 1 := by
    unfold Policy.validate
    cases p.fault? limit <;> rfl
  have hused : ∀ {κ : Type} [BEq κ] [LawfulBEq κ] [DecidableEq κ] (key : Policy → κ)
      (problem : PolicyProblem),
      (if before.any (fun q => key q == key p) then [problem] else []).length =
        if key p ∈ before.map key then 1 else 0 := by
    intro κ _ _ _ key problem
    have hiff : before.any (fun q => key q == key p) = true ↔ key p ∈ before.map key := by simp
    by_cases h : key p ∈ before.map key
    · rw [if_pos (hiff.mpr h), if_pos h, List.length_singleton]
    · rw [if_neg (mt hiff.mp h), if_neg h, List.length_nil]
  rw [problemsOf, List.length_append, List.length_append, hfault, hused Policy.id,
    hused Policy.name]

theorem length_problemsAfter (limit : Nat) (before policies : List Policy) :
    (problemsAfter limit before policies).length =
      policies.countP (fun p => !(p.validate limit).isOk) +
        (Keyed.recurringAfter Policy.id before policies).card +
        (Keyed.recurringAfter Policy.name before policies).card := by
  induction policies generalizing before with
  | nil => rfl
  | cons p ps ih =>
    have hcount : (p :: ps).countP (fun p => !(p.validate limit).isOk) =
        (if (p.validate limit).isOk then 0 else 1) +
          ps.countP (fun p => !(p.validate limit).isOk) := by
      rw [List.countP_cons]
      cases (p.validate limit).isOk <;> simp [Nat.add_comm]
    rw [problemsAfter, List.length_append, ih, length_problemsOf, hcount,
      Keyed.card_recurringAfter_cons, Keyed.card_recurringAfter_cons]
    omega

theorem passes_iff_loads {s : PolicyStore} :
    (ofPolicies policies s.maxConditionDepth).isValid = true ↔
      ∃ after, s.replaceAll policies = .ok after := by
  simp [isValid_ofPolicies_iff, PolicyStore.replaceAll_eq_ok_iff]

/-- A reordered list passes when the list does. -/
theorem isValid_ofPolicies_of_perm {other : List Policy} (h : policies.Perm other) (limit : Nat) :
    (ofPolicies other limit).isValid = true ↔ (ofPolicies policies limit).isValid = true := by
  rw [isValid_ofPolicies_iff, isValid_ofPolicies_iff, (h.map Policy.id).nodup_iff,
    (h.map Policy.name).nodup_iff]
  simp only [h.mem_iff]

/-- A store that has loaded a list holds its policies and nothing else, each under its identifier. -/
theorem find?_of_loads {s after : PolicyStore} (hload : s.replaceAll policies = .ok after)
    (id : PolicyId) (p : Policy) : after.find? id = some p ↔ p ∈ policies ∧ p.id = id := by
  obtain ⟨_, hids, _, rfl⟩ := PolicyStore.replaceAll_eq_ok_iff.mp hload
  exact Keyed.find?_eq_some_iff hids

/-- Loaded in another order, the same policy stands under every identifier. -/
theorem find?_eq_of_loads {s after after' : PolicyStore} {other : List Policy}
    (h : policies.Perm other) (hload : s.replaceAll policies = .ok after)
    (hload' : s.replaceAll other = .ok after') (id : PolicyId) :
    after'.find? id = after.find? id := by
  refine Option.ext fun p => ?_
  rw [find?_of_loads hload', find?_of_loads hload, h.mem_iff]

/-- A list passes the check exactly when a store with that limit loads it, whatever it holds, and a
store that has loaded it keeps its limit and holds the policies of the list, each under its
identifier, and no others. The check finds one problem for each policy that is not valid, one for
each position whose identifier came up earlier and one for each position whose name did. In another
order the list is loaded just as well, and leaves the same policy under every identifier. -/
theorem check_agrees_with_loading (s : PolicyStore) (policies : List Policy) :
    ((ofPolicies policies s.maxConditionDepth).isValid = true ↔
      ∃ after, s.replaceAll policies = .ok after) ∧
    (∀ after, s.replaceAll policies = .ok after →
      after.maxConditionDepth = s.maxConditionDepth ∧
        ∀ id p, after.find? id = some p ↔ p ∈ policies ∧ p.id = id) ∧
    (ofPolicies policies s.maxConditionDepth).problems.length =
      policies.countP (fun p => !(p.validate s.maxConditionDepth).isOk) +
        (Keyed.recurring Policy.id policies).card + (Keyed.recurring Policy.name policies).card ∧
    ∀ other, policies.Perm other →
      ((∃ after, s.replaceAll other = .ok after) ↔ ∃ after, s.replaceAll policies = .ok after) ∧
      ∀ after after', s.replaceAll policies = .ok after → s.replaceAll other = .ok after' →
        ∀ id, after'.find? id = after.find? id := by
  refine ⟨passes_iff_loads, fun after hload => ?_, ?_, fun other h => ⟨?_, ?_⟩⟩
  · have hperform : s.perform (.replaceAll policies) = .ok after := hload
    exact ⟨PolicyStore.maxConditionDepth_of_perform hperform, find?_of_loads hload⟩
  · rw [ofPolicies, length_problemsAfter, Keyed.recurringAfter_nil, Keyed.recurringAfter_nil]
  · rw [← passes_iff_loads, ← passes_iff_loads, isValid_ofPolicies_of_perm h]
  · intro after after' hload hload'
    exact find?_eq_of_loads h hload hload'

open PolicyStore (samplePolicy) in
/-- The third policy has the identifier of the first and the name of the second, which are two
problems; the first two alone can be loaded in either order and are found then. -/
theorem samples_loaded_reversed :
    (ofPolicies [samplePolicy 0 "first", samplePolicy 1 "second", samplePolicy 0 "second"]
        64).problems.length = 2 ∧
      [samplePolicy 0 "first", samplePolicy 1 "second"].Perm
        [samplePolicy 1 "second", samplePolicy 0 "first"] ∧
      ∃ after after',
        (PolicyStore.empty 64).replaceAll [samplePolicy 0 "first", samplePolicy 1 "second"] =
          .ok after ∧
        (PolicyStore.empty 64).replaceAll [samplePolicy 1 "second", samplePolicy 0 "first"] =
          .ok after' ∧
        after.find? (.ofDigit 1) = some (samplePolicy 1 "second") ∧
        ∀ id, after'.find? id = after.find? id := by
  have hperm : [samplePolicy 0 "first", samplePolicy 1 "second"].Perm
      [samplePolicy 1 "second", samplePolicy 0 "first"] := .swap _ _ []
  obtain ⟨-, hholds, -, hlaw⟩ := check_agrees_with_loading (PolicyStore.empty 64)
    [samplePolicy 0 "first", samplePolicy 1 "second"]
  have hfound := ((hholds _ rfl).2 (.ofDigit 1) (samplePolicy 1 "second")).mpr ⟨by simp, rfl⟩
  exact ⟨rfl, hperm, _, _, rfl, rfl, hfound, (hlaw _ hperm).2 _ _ rfl rfl⟩

end PolicyCheck

end AccessControl
