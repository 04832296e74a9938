import AccessControl.Guard

/-!
Trying the policies attached to a resource. The first one counts that grants; identifiers without a
policy and policies that grant nothing are passed over. Of a policy only its identifier, what it
covers and its condition bear on that.
-/

namespace AccessControl

/-- The part of a policy that decides. -/
def Policy.rule (p : Policy) : PolicyId × AccessTypes × Condition :=
  (p.id, p.accessTypes, p.condition)

theorem Policy.evaluate_eq_of_rule_eq {p q : Policy} (h : p.rule = q.rule) (evaluator : Evaluator)
    (lookup : Lookup) (access : AccessType) :
    p.evaluate evaluator lookup access = q.evaluate evaluator lookup access := by
  simp only [rule, Prod.mk.injEq] at h
  unfold evaluate covers
  rw [h.2.1, h.2.2]

namespace Guard

variable (g : Guard) (lookup : Lookup) (access : AccessType)

def Grants (p : Policy) : Prop :=
  p.covers access = true ∧ (p.condition.evaluate g.evaluator lookup).value = true

/-- Nothing comes of an attached identifier. -/
def PassesOver (id : PolicyId) : Prop :=
  ∀ p, g.policies.find? id = some p → ¬ g.Grants lookup access p

/-- The policy stands at some place among the attached ones, grants, and all before it are passed
over. -/
def FirstToGrant (ids : List PolicyId) (p : Policy) : Prop :=
  ∃ before id after, ids = before ++ id :: after ∧ g.policies.find? id = some p ∧
    g.Grants lookup access p ∧ ∀ earlier ∈ before, g.PassesOver lookup access earlier

/-- The policy that an identifier stands for, if it grants. -/
def granting? (id : PolicyId) : Option Policy :=
  (g.policies.find? id).filter fun p => (p.evaluate g.evaluator lookup access).value

variable {g lookup access} {ids : List PolicyId} {id : PolicyId} {p : Policy}

theorem evaluate_value_iff :
    (p.evaluate g.evaluator lookup access).value = true ↔ g.Grants lookup access p := by
  unfold Policy.evaluate Grants
  cases p.covers access <;> simp [Traced.pure]

theorem granting?_eq_some_iff :
    g.granting? lookup access id = some p ↔
      g.policies.find? id = some p ∧ g.Grants lookup access p := by
  rw [granting?, Option.filter_eq_some_iff, evaluate_value_iff]

theorem granting?_eq_none_iff :
    g.granting? lookup access id = none ↔ g.PassesOver lookup access id := by
  simp only [Option.eq_none_iff_forall_ne_some, ne_eq, granting?_eq_some_iff, PassesOver, not_and]

theorem firstGranting_value :
    (g.firstGranting lookup access ids).value = ids.findSome? (g.granting? lookup access) := by
  induction ids with
  | nil => rfl
  | cons id ids ih =>
    rw [List.findSome?_cons, ← ih, granting?]
    cases hp : g.policies.find? id with
    | none => simp [firstGranting, hp]
    | some p =>
      cases hv : (p.evaluate g.evaluator lookup access).value with
      | true => simp [firstGranting, hp, hv, Traced.andThen, Traced.pure, Option.filter]
      | false => simp [firstGranting, hp, hv, Traced.andThen, Option.filter]

theorem firstGranting_eq_some_iff :
    (g.firstGranting lookup access ids).value = some p ↔
      g.FirstToGrant lookup access ids p := by
  rw [firstGranting_value, List.findSome?_eq_some_iff]
  simp only [granting?_eq_some_iff, granting?_eq_none_iff, FirstToGrant, and_assoc]

theorem firstGranting_eq_none_iff :
    (g.firstGranting lookup access ids).value = none ↔
      ∀ id ∈ ids, g.PassesOver lookup access id := by
  rw [firstGranting_value, List.findSome?_eq_none_iff]
  simp only [granting?_eq_none_iff]

theorem granting?_rule {policies : PolicyLookup}
    (h : (policies.find? id).map Policy.rule = (g.policies.find? id).map Policy.rule) :
    (granting? ⟨policies, g.evaluator⟩ lookup access id).map Policy.rule =
      (g.granting? lookup access id).map Policy.rule := by
  unfold granting?
  cases hp : policies.find? id with
  | none =>
    cases hq : g.policies.find? id with
    | none => rfl
    | some q => simp [hp, hq] at h
  | some p =>
    cases hq : g.policies.find? id with
    | none => simp [hp, hq] at h
    | some q =>
      have hrule : p.rule = q.rule := by simpa [hp, hq] using h
      simp only [Option.filter, Policy.evaluate_eq_of_rule_eq hrule]
      split
      · exact congrArg some hrule
      · rfl

/-- Policies found in another place grant alike as long as their rules are the same. -/
theorem firstGranting_rule {policies : PolicyLookup}
    (h : ∀ id, (policies.find? id).map Policy.rule = (g.policies.find? id).map Policy.rule) :
    (firstGranting ⟨policies, g.evaluator⟩ lookup access ids).value.map Policy.rule =
      (g.firstGranting lookup access ids).value.map Policy.rule := by
  simp only [firstGranting_value, List.map_findSome?]
  congr 1
  funext id
  exact granting?_rule (h id)

end Guard

end AccessControl
