import AccessControl.Proofs.Condition.Abandonment
import AccessControl.Proofs.PolicyStore.Consistency
import AccessControl.Proofs.PolicyStore.Retention

/-!
What validation buys. A condition that passes under some limit is never given up under that limit or
a higher one, so deciding it answers what it says; and a store takes no other conditions in.
-/

namespace AccessControl

namespace Condition

variable {limit limit' m : Nat} {lookup : Lookup} {c p : Condition}

/-- A higher limit makes nothing unfit. -/
theorem Offends.of_le (h : Offends limit' m p) (hle : limit ≤ limit') : Offends limit m p :=
  h.imp_left (Nat.lt_of_le_of_lt hle)

theorem verdict_of_validate (h : c.validate limit = .ok ()) (hle : limit ≤ limit') :
    verdict limit' lookup 1 c = some (holds lookup c) := by
  rcases verdict_eq_none_or_holds limit' lookup 1 c with hn | hs
  · obtain ⟨m, p, hr, ho⟩ := (verdict_eq_none_iff limit' lookup 1 c).mp hn
    exact absurd h ((validate_ne_ok_iff limit c).mpr ⟨m, p, hr.partAt, ho.of_le hle⟩)
  · exact hs

end Condition

/-- Nothing is wrong with a policy when its name shows, it covers something and its condition
passes. -/
theorem Policy.validate_eq_ok_iff {limit : Nat} {p : Policy} :
    p.validate limit = .ok () ↔
      Text.isBlank p.name = false ∧ p.accessTypes.isEmpty = false ∧
        p.condition.validate limit = .ok () := by
  rw [Condition.validate_eq_ok_iff]
  unfold validate fault?
  cases Text.isBlank p.name <;> cases p.accessTypes.isEmpty <;>
    cases p.condition.fault? limit <;> simp

theorem Evaluator.le_maxDepth_ofLimit (limit : Nat) : limit ≤ (ofLimit limit).maxDepth :=
  Nat.le_max_left limit 1

namespace Condition

/-- With a limit no lower than that of validation, a condition that passed is decided as it reads:
AND by all of its children, OR by some child, NOT by the contrary of its child, whatever the
attributes are. A store with the lower limit holds only policies whose conditions are never given
up. -/
theorem evaluate_validated {limit limit' : Nat} (hle : limit ≤ limit') :
    (∀ c, c.validate limit = .ok () → ∀ lookup,
      (c.evaluate (.ofLimit limit') lookup).value = holds lookup c) ∧
    ∀ ops, ∀ p ∈ ((PolicyStore.empty limit).run ops).policies, ∀ lookup,
      verdict (Evaluator.ofLimit limit').maxDepth lookup 1 p.condition =
        some (holds lookup p.condition) := by
  have hdepth : limit ≤ (Evaluator.ofLimit limit').maxDepth :=
    Nat.le_trans hle (Evaluator.le_maxDepth_ofLimit limit')
  constructor
  · intro c hc lookup
    rw [evaluate_value, verdict_of_validate hc hdepth, Option.getD_some]
  · intro ops p hp lookup
    have hvalid := Policy.validate_eq_ok_iff.mp (PolicyStore.validate_of_mem_run hp)
    exact verdict_of_validate hvalid.2.2 hdepth

/-- True is not false. -/
def unequal : Condition :=
  .composite .negation [.comparison .equals (.literal (.boolean true)) (.literal (.boolean false))]

def storeUnequal : PolicyStore.Operation :=
  .create { PolicyStore.samplePolicy 0 "unequal" with condition := unequal }
    (PolicyStore.sampleAuthor 1)

/-- As deep as the limit allows, alone and in a stored policy. -/
theorem unequal_decided :
    2 ≤ 3 ∧ unequal.validate 2 = .ok () ∧
      (unequal.evaluate (.ofLimit 3) fun _ => none).value = true ∧
      ((PolicyStore.empty 2).run [storeUnequal]).policies.map
        (fun p => verdict 3 (fun _ => none) 1 p.condition) = [some true] := by
  have hle : 2 ≤ 3 := by decide
  have hlaw := evaluate_validated hle
  refine ⟨hle, rfl, hlaw.1 unequal rfl fun _ => none, ?_⟩
  exact congrArg (fun v => [v]) (hlaw.2 [storeUnequal] _ List.mem_cons_self _)

end Condition

end AccessControl
