import AccessControl.Fixture
import AccessControl.Proofs.PolicyStore.Run

/-!
The policies that count for a fixture. They are put under their identifiers one after the other, so
the last one with an identifier is left and no identifier is left twice. A fixture has an answer
when these can be loaded and its principal may ask.
-/

namespace AccessControl

namespace Keyed

variable {α κ : Type} [DecidableEq κ] {key : α → κ} {done xs : List α}

/-- Of things put in one after the other the last one with a key is found. -/
theorem find?_foldl_put (key : α → κ) (k : κ) (xs done : List α) :
    find? key k (xs.foldl (fun done x => put key x done) done) =
      (find? key k xs.reverse).or (find? key k done) := by
  induction xs generalizing done with
  | nil => rfl
  | cons x xs ih =>
    rw [List.foldl_cons, ih, find?_put, List.reverse_cons]
    simp only [find?, List.find?_append, Option.or_assoc]
    by_cases h : key x = k <;> simp [h]

theorem nodup_key_foldl_put (h : (done.map key).Nodup) (xs : List α) :
    ((xs.foldl (fun done x => put key x done) done).map key).Nodup := by
  induction xs generalizing done with
  | nil => exact h
  | cons x xs ih => exact ih (nodup_key_put h)

/-- Things with different keys are put one behind the other. -/
theorem foldl_put_of_nodup (h : ((done ++ xs).map key).Nodup) :
    xs.foldl (fun done x => put key x done) done = done ++ xs := by
  induction xs generalizing done with
  | nil => simp
  | cons x xs ih =>
    have hfresh : ∀ y ∈ done, key y ≠ key x := by
      rw [List.map_append, List.nodup_append] at h
      intro y hy
      exact h.2.2 _ (List.mem_map_of_mem hy) _ (List.mem_map_of_mem List.mem_cons_self)
    rw [List.foldl_cons, put_of_forall_ne hfresh, ih (by simpa using h)]
    simp

end Keyed

namespace Fixture

open Outcome

variable {f : Fixture} {shared : List Policy} {settings : AccessControlConfig}

theorem nodup_id_merged (f : Fixture) (shared : List Policy) :
    ((f.merged shared).map Policy.id).Nodup := by
  apply Keyed.nodup_key_foldl_put
  exact List.nodup_nil

theorem mem_merged_iff {p : Policy} :
    p ∈ f.merged shared ↔ (PolicyLookup.ofList (shared ++ f.policies)).find? p.id = some p := by
  have hfind : Keyed.find? Policy.id p.id (f.merged shared) =
      (PolicyLookup.ofList (shared ++ f.policies)).find? p.id := by
    rw [merged, Keyed.find?_foldl_put]
    simp [Keyed.find?, PolicyLookup.ofList, PolicyLookup.ofFind, Bool.beq_eq_decide_eq]
  rw [← hfind, Keyed.find?_eq_some_iff (nodup_id_merged f shared)]
  simp

theorem merged_of_nodup (h : ((shared ++ f.policies).map Policy.id).Nodup) :
    f.merged shared = shared ++ f.policies :=
  Keyed.foldl_put_of_nodup h

/-- The policies that count can be loaded under a limit on the depth of conditions: each of them is
valid, and no two share a name. -/
structure Loads (f : Fixture) (shared : List Policy) (limit : Nat) : Prop where
  valid : ∀ p ∈ f.merged shared, p.validate limit = .ok ()
  names : ((f.merged shared).map Policy.name).Nodup

theorem replaceAll_merged_eq_ok_iff {limit : Nat} {store : PolicyStore} :
    (PolicyStore.empty limit).replaceAll (f.merged shared) = .ok store ↔
      f.Loads shared limit ∧ store = ⟨limit, f.merged shared⟩ := by
  rw [PolicyStore.replaceAll_eq_ok_iff]
  constructor
  · rintro ⟨hvalid, _, hnames, rfl⟩
    exact ⟨⟨hvalid, hnames⟩, rfl⟩
  · rintro ⟨⟨hvalid, hnames⟩, rfl⟩
    exact ⟨hvalid, nodup_id_merged f shared, hnames, rfl⟩

/-- The guard over the policies that count. -/
def guard (f : Fixture) (shared : List Policy) (limit : Nat) : Guard :=
  ⟨(PolicyStore.mk limit (f.merged shared)).toLookup, .ofLimit limit⟩

/-- A fixture has an answer when its request can be read, the policies are valid with distinct
identifiers and names, and the guard over them decides. -/
theorem answer_eq_ok_iff {policies : List Policy} {report : DecisionReport} :
    f.answer policies settings = .ok report ↔
      ∃ request decision, f.request? settings.accessRequestHeader = some request ∧
        (∀ p ∈ policies, p.validate settings.maxConditionDepth = .ok ()) ∧
        (policies.map Policy.id).Nodup ∧ (policies.map Policy.name).Nodup ∧
        Guard.authorize ⟨(PolicyStore.mk settings.maxConditionDepth policies).toLookup,
          .ofLimit settings.maxConditionDepth⟩ f.resource.toResource f.principal f.access request =
            .ok decision ∧
        report = .ofDecision f.resource.view decision.value := by
  rw [answer]
  cases f.request? settings.accessRequestHeader with
  | none => simp
  | some request =>
    dsimp only
    cases hs : (PolicyStore.empty settings.maxConditionDepth).replaceAll policies with
    | error cause =>
      have hrefused : ¬ ((∀ p ∈ policies, p.validate settings.maxConditionDepth = .ok ()) ∧
          (policies.map Policy.id).Nodup ∧ (policies.map Policy.name).Nodup) := by
        rintro ⟨hvalid, hids, hnames⟩
        rw [PolicyStore.replaceAll_eq_ok_iff.mpr ⟨hvalid, hids, hnames, rfl⟩] at hs
        cases hs
      constructor
      · intro h
        cases h
      · rintro ⟨_, _, _, hvalid, hids, hnames, _⟩
        exact absurd ⟨hvalid, hids, hnames⟩ hrefused
    | ok store =>
      obtain ⟨hvalid, hids, hnames, rfl⟩ := PolicyStore.replaceAll_eq_ok_iff.mp hs
      dsimp only [PolicyStore.empty] at hvalid ⊢
      cases hd : Guard.authorize ⟨(PolicyStore.mk settings.maxConditionDepth policies).toLookup,
          .ofLimit settings.maxConditionDepth⟩ f.resource.toResource f.principal f.access
          request with
      | error cause => simp [hd]
      | ok decision =>
        constructor
        · intro h
          exact ⟨request, decision, rfl, hvalid, hids, hnames, hd, (Except.ok.inj h).symm⟩
        · rintro ⟨_, _, ⟨⟩, _, _, _, hd', rfl⟩
          rw [hd, Except.ok.injEq] at hd'
          rw [hd']

/-- The policies that count have distinct identifiers to begin with. -/
theorem evaluate_eq_ok_iff {report : DecisionReport} :
    f.evaluate shared settings = .ok report ↔
      ∃ request decision, f.request? settings.accessRequestHeader = some request ∧
        f.Loads shared settings.maxConditionDepth ∧
        (f.guard shared settings.maxConditionDepth).authorize f.resource.toResource f.principal
          f.access request = .ok decision ∧
        report = .ofDecision f.resource.view decision.value := by
  rw [evaluate, answer_eq_ok_iff]
  constructor
  · rintro ⟨request, decision, hr, hvalid, _, hnames, hd⟩
    exact ⟨request, decision, hr, ⟨hvalid, hnames⟩, hd⟩
  · rintro ⟨request, decision, hr, ⟨hvalid, hnames⟩, hd⟩
    exact ⟨request, decision, hr, hvalid, nodup_id_merged f shared, hnames, hd⟩

end Fixture

end AccessControl
