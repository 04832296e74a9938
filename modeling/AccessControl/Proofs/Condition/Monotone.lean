import AccessControl.Proofs.Condition.Validated

/-!
Conditions without a NOT. No comparison holds for want of an attribute, the negated ones included,
so whatever such a condition finds to hold it finds to hold when more attributes are available.
-/

namespace AccessControl

/-- Every attribute that the second lookup has, the first one has with the same value. -/
def Lookup.Extends (more fewer : Lookup) : Prop :=
  ∀ r v, fewer r = some v → more r = some v

variable {fewer more : Lookup}

theorem Operand.value?_extend (h : more.Extends fewer) {operand : Operand} {v : AttributeValue}
    (hv : operand.value? fewer = some v) : operand.value? more = some v := by
  rcases operand with reference | value
  · exact h reference v hv
  · exact hv

namespace Condition

mutual

/-- There is no NOT anywhere in a condition. -/
def isPositive : Condition → Bool
  | .comparison _ _ _ => true
  | .composite connective children => connective != .negation && arePositive children

def arePositive : List Condition → Bool
  | [] => true
  | c :: cs => isPositive c && arePositive cs

end

theorem arePositive_iff {cs : List Condition} :
    arePositive cs = true ↔ ∀ c ∈ cs, c.isPositive = true := by
  induction cs with
  | nil => simp [arePositive]
  | cons c cs ih => rw [arePositive, Bool.and_eq_true, ih, List.forall_mem_cons]

theorem isPositive_composite_iff {connective : Connective} {children : List Condition} :
    isPositive (.composite connective children) = true ↔
      connective ≠ .negation ∧ ∀ c ∈ children, c.isPositive = true := by
  rw [isPositive, Bool.and_eq_true, arePositive_iff, bne_iff_ne]

/-- Both sides of a comparison that holds are there. -/
theorem comparisonHolds_iff {lookup : Lookup} {function : Comparison} {left right : Operand} :
    comparisonHolds lookup function left right = true ↔
      ∃ l r, left.value? lookup = some l ∧ right.value? lookup = some r ∧
        function.apply l r = some true := by
  unfold comparisonHolds
  cases left.value? lookup <;> cases right.value? lookup <;> simp

theorem comparisonHolds_extend (h : more.Extends fewer) {function : Comparison}
    {left right : Operand} (hc : comparisonHolds fewer function left right = true) :
    comparisonHolds more function left right = true := by
  obtain ⟨l, r, hl, hr, ha⟩ := comparisonHolds_iff.mp hc
  exact comparisonHolds_iff.mpr
    ⟨l, r, Operand.value?_extend h hl, Operand.value?_extend h hr, ha⟩

theorem holds_extend (h : more.Extends fewer) {c : Condition} (hp : c.isPositive = true)
    (hc : holds fewer c = true) : holds more c = true := by
  induction c with
  | comparison function left right =>
    rw [holds] at hc ⊢
    exact comparisonHolds_extend h hc
  | composite connective children ih =>
    obtain ⟨hk, hchildren⟩ := isPositive_composite_iff.mp hp
    cases connective with
    | all =>
      rw [holds_all] at hc ⊢
      intro d hd
      exact ih d hd (hchildren d hd) (hc d hd)
    | any =>
      rw [holds_any] at hc ⊢
      obtain ⟨d, hd, hholds⟩ := hc
      exact ⟨d, hd, ih d hd (hchildren d hd) hholds⟩
    | negation => exact absurd rfl hk

/-- More attributes may lead deciding to other parts, and to parts that it did not come to before.
Validation sees to it that it is not given up there. -/
theorem evaluate_extend {evaluator : Evaluator} (h : more.Extends fewer) {c : Condition}
    (hp : c.isPositive = true) (hv : c.validate evaluator.maxDepth = .ok ())
    (hc : (c.evaluate evaluator fewer).value = true) :
    (c.evaluate evaluator more).value = true := by
  rw [evaluate_value, verdict_of_validate hv (Nat.le_refl _), Option.getD_some] at hc ⊢
  exact holds_extend h hp hc

end Condition

end AccessControl
