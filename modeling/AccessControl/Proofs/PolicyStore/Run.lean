import AccessControl.PolicyStore
import AccessControl.Proofs.Outcome

/-!
Runs of a policy store: any operations in any order, those that fail included. Each operation that
changes the store has one lemma that says when it succeeds and what it leaves.
-/

namespace AccessControl.PolicyStore

open Outcome

/-- A policy is stored when its author may log in, nothing is wrong with it, and no stored policy
has its name. -/
theorem create_eq_ok_iff {s after : PolicyStore} {policy stored : Policy} {author : Principal} :
    s.create policy author = .ok (stored, after) ↔
      author.isLoginable = true ∧ policy.validate s.maxConditionDepth = .ok () ∧
        (∀ p ∈ s.policies, p.name ≠ policy.name) ∧
        stored = { policy with owner := some author.id } ∧
        after = { s with policies := Keyed.put Policy.id stored s.policies } := by
  simp only [create, bind_ok_iff, Principal.requireLoginable_ok_iff, refuse_or_ok_iff, pure_ok_iff,
    exists_const, Prod.mk.injEq, List.any_eq_true, beq_iff_eq, not_exists, not_and]
  constructor
  · rintro ⟨hl, ⟨⟩, hv, hn, rfl, rfl⟩
    exact ⟨hl, hv, hn, rfl, rfl⟩
  · rintro ⟨hl, hv, hn, rfl, rfl⟩
    exact ⟨hl, (), hv, hn, rfl, rfl⟩

theorem get_eq_ok_iff {s : PolicyStore} {id : PolicyId} {p : Policy} :
    s.get id = .ok p ↔ s.find? id = some p := by
  unfold get
  cases s.find? id <;> simp

theorem getOwned_eq_ok_iff {s : PolicyStore} {id : PolicyId} {owner : UserId} {p : Policy} :
    s.getOwned id owner = .ok p ↔ s.find? id = some p ∧ p.owner = some owner := by
  simp only [getOwned, bind_ok_iff, get_eq_ok_iff, ok_or_refuse_iff, pure_ok_iff]
  constructor
  · rintro ⟨q, hf, ho, rfl⟩
    exact ⟨hf, ho⟩
  · rintro ⟨hf, ho⟩
    exact ⟨p, hf, ho, rfl⟩

/-- A policy is deleted on behalf of its owner only. -/
theorem delete_eq_ok_iff {s after : PolicyStore} {id : PolicyId} {owner : UserId} :
    s.delete id owner = .ok after ↔
      (∃ p, s.find? id = some p ∧ p.owner = some owner) ∧
        after = { s with policies := Keyed.remove Policy.id id s.policies } := by
  simp only [delete, bind_ok_iff, pure_ok_iff, getOwned_eq_ok_iff]
  constructor
  · rintro ⟨p, hp, rfl⟩
    exact ⟨⟨p, hp⟩, rfl⟩
  · rintro ⟨⟨p, hp⟩, rfl⟩
    exact ⟨p, hp, rfl⟩

/-- Going on with a batch after other policies: its keys are distinct and none of them came up
before. -/
def FreshAfter {κ : Type} (key : Policy → κ) (done batch : List Policy) : Prop :=
  (batch.map key).Nodup ∧ ∀ p ∈ batch, key p ∉ done.map key

theorem freshAfter_cons {κ : Type} {key : Policy → κ} {p : Policy} {done batch : List Policy} :
    FreshAfter key done (p :: batch) ↔ key p ∉ done.map key ∧ FreshAfter key (p :: done) batch := by
  have hlater : key p ∉ batch.map key ↔ ∀ q ∈ batch, key q ≠ key p := by
    simp [List.mem_map]
  rw [FreshAfter, FreshAfter, List.map_cons, List.nodup_cons, List.forall_mem_cons, hlater,
    List.map_cons]
  simp only [List.mem_cons, not_or]
  constructor
  · rintro ⟨⟨hp, hn⟩, hd, hb⟩
    exact ⟨hd, hn, fun q hq => ⟨hp q hq, hb q hq⟩⟩
  · rintro ⟨hd, hn, hb⟩
    exact ⟨⟨fun q hq => (hb q hq).1, hn⟩, hd, fun q hq => (hb q hq).2⟩

/-- A batch is gone through to its end when nothing is wrong with any of its policies and both
identifiers and names are fresh. It is kept in its order. -/
theorem checkBatch_eq_ok_iff {limit : Nat} {done batch checked : List Policy} :
    checkBatch limit done batch = .ok checked ↔
      (∀ p ∈ batch, p.validate limit = .ok ()) ∧ FreshAfter Policy.id done batch ∧
        FreshAfter Policy.name done batch ∧ checked = done.reverse ++ batch := by
  induction batch generalizing done with
  | nil => simp [checkBatch, FreshAfter, eq_comm]
  | cons p ps ih =>
    -- Both searches through the policies gone through ask whether a key came up before.
    have hused : ∀ {κ : Type} [BEq κ] [LawfulBEq κ] (key : Policy → κ),
        ¬ done.any (fun q => key q == key p) = true ↔ key p ∉ done.map key := by
      intro κ _ _ key
      simp
    simp only [checkBatch, bind_ok_iff, refuse_or_ok_iff, hused, ih, freshAfter_cons,
      List.forall_mem_cons, List.reverse_cons, List.append_assoc, List.singleton_append]
    constructor
    · rintro ⟨⟨⟩, hv, hi, hn, hvs, his, hns, rfl⟩
      exact ⟨⟨hv, hvs⟩, ⟨hi, his⟩, ⟨hn, hns⟩, rfl⟩
    · rintro ⟨⟨hv, hvs⟩, ⟨hi, his⟩, ⟨hn, hns⟩, rfl⟩
      exact ⟨(), hv, hi, hn, hvs, his, hns, rfl⟩

/-- A batch takes the place of everything when nothing is wrong with any of its policies and no two
of them share an identifier or a name. -/
theorem replaceAll_eq_ok_iff {s after : PolicyStore} {batch : List Policy} :
    s.replaceAll batch = .ok after ↔
      (∀ p ∈ batch, p.validate s.maxConditionDepth = .ok ()) ∧ (batch.map Policy.id).Nodup ∧
        (batch.map Policy.name).Nodup ∧ after = { s with policies := batch } := by
  simp only [replaceAll, bind_ok_iff, pure_ok_iff, checkBatch_eq_ok_iff, FreshAfter, List.map_nil,
    List.not_mem_nil, not_false_iff, implies_true, and_true, List.reverse_nil, List.nil_append]
  constructor
  · rintro ⟨_, ⟨hv, hi, hn, rfl⟩, rfl⟩
    exact ⟨hv, hi, hn, rfl⟩
  · rintro ⟨hv, hi, hn, rfl⟩
    exact ⟨batch, ⟨hv, hi, hn, rfl⟩, rfl⟩

/-- What can be asked of a store that changes it. -/
inductive Operation where
  | create (policy : Policy) (author : Principal)
  | delete (id : PolicyId) (owner : UserId)
  | replaceAll (batch : List Policy)

def perform (s : PolicyStore) : Operation → Except AuthError PolicyStore
  | .create policy author => (s.create policy author).map (·.2)
  | .delete id owner => s.delete id owner
  | .replaceAll batch => s.replaceAll batch

/-- An operation that fails leaves the store as it is. -/
def step (s : PolicyStore) (op : Operation) : PolicyStore :=
  match s.perform op with
  | .ok after => after
  | .error _ => s

def run (s : PolicyStore) (ops : List Operation) : PolicyStore :=
  ops.foldl step s

/-- The stores that a run passes through, the first and the last included. -/
def states (s : PolicyStore) : List Operation → List PolicyStore
  | [] => [s]
  | op :: ops => s :: (s.step op).states ops

/-- The operations of a run that succeed. -/
def performed (s : PolicyStore) : List Operation → List Operation
  | [] => []
  | op :: ops =>
    match s.perform op with
    | .ok after => op :: after.performed ops
    | .error _ => s.performed ops

theorem create_eq_ok_of_perform {s after : PolicyStore} {policy : Policy} {author : Principal}
    (h : s.perform (.create policy author) = .ok after) :
    ∃ stored, s.create policy author = .ok (stored, after) := by
  obtain ⟨⟨stored, _⟩, hc, rfl⟩ := map_ok_iff.mp h
  exact ⟨stored, hc⟩

end AccessControl.PolicyStore
