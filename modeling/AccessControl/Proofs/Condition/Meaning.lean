import AccessControl.Proofs.Condition.Deciding
import AccessControl.Proofs.Condition.Parts

/-!
What a condition says, read without levels and without an order among its children. Deciding a
condition either gives it up or answers what it says.
-/

namespace AccessControl

/-- The value of a side, however it was come by. -/
def Operand.value? (lookup : Lookup) : Operand → Option AttributeValue
  | .attribute reference => lookup reference
  | .literal value => some value

theorem Operand.resolve_value (lookup : Lookup) (operand : Operand) :
    (operand.resolve lookup).value = operand.value? lookup := by
  cases operand <;> rfl

namespace Condition

/-- A comparison has an answer and the answer is yes. -/
def comparisonHolds (lookup : Lookup) (function : Comparison) (left right : Operand) : Bool :=
  match left.value? lookup, right.value? lookup with
  | some l, some r => function.apply l r == some true
  | _, _ => false

mutual

/-- Whether a condition holds when it is read as it stands. A NOT without exactly one child says
nothing and does not hold. -/
def holds (lookup : Lookup) : Condition → Bool
  | .comparison function left right => comparisonHolds lookup function left right
  | .composite .all children => (holdsList lookup children).all id
  | .composite .any children => (holdsList lookup children).any id
  | .composite .negation [child] => !holds lookup child
  | .composite .negation _ => false

def holdsList (lookup : Lookup) : List Condition → List Bool
  | [] => []
  | c :: cs => holds lookup c :: holdsList lookup cs

end

theorem holdsList_eq_map (lookup : Lookup) (cs : List Condition) :
    holdsList lookup cs = cs.map (holds lookup) := by
  induction cs with
  | nil => simp [holdsList]
  | cons c cs ih => simp [holdsList, ih]

theorem holds_all (lookup : Lookup) (children : List Condition) :
    holds lookup (.composite .all children) = true ↔ ∀ c ∈ children, holds lookup c = true := by
  simp [holds, holdsList_eq_map]

theorem holds_any (lookup : Lookup) (children : List Condition) :
    holds lookup (.composite .any children) = true ↔ ∃ c ∈ children, holds lookup c = true := by
  simp [holds, holdsList_eq_map]

/-- AND holds like its children when all of them hold, OR when none does. -/
theorem holds_composite_of_passing {connective : Connective} {pass : Bool} (lookup : Lookup)
    (hk : connective.passing? = some pass) (children : List Condition) :
    holds lookup (.composite connective children) = pass ↔
      ∀ c ∈ children, holds lookup c = pass := by
  cases connective with
  | all =>
    cases hk
    exact holds_all lookup children
  | any =>
    cases hk
    rw [← Bool.not_eq_true, holds_any]
    simp
  | negation => cases hk

/-- The first of several verdicts that is not the one to go on with, or that one if none is. -/
def inTurn (pass : Bool) : List (Option Bool) → Option Bool
  | [] => some pass
  | v :: vs => if v = some pass then inTurn pass vs else v

theorem inTurn_eq_pass_iff (pass : Bool) (vs : List (Option Bool)) :
    inTurn pass vs = some pass ↔ ∀ v ∈ vs, v = some pass := by
  induction vs with
  | nil => simp [inTurn]
  | cons v vs ih =>
    by_cases hv : v = some pass
    · simp [inTurn, hv, ih]
    · simp [inTurn, hv]

/-- Where the verdicts do not all pass, the first one that does not is the answer. -/
theorem inTurn_split {pass : Bool} {vs : List (Option Bool)} (h : inTurn pass vs ≠ some pass) :
    ∃ before after, vs = before ++ inTurn pass vs :: after ∧ ∀ v ∈ before, v = some pass := by
  induction vs with
  | nil => exact absurd rfl h
  | cons v vs ih =>
    by_cases hv : v = some pass
    · rw [inTurn, if_pos hv] at h ⊢
      obtain ⟨before, after, he, hb⟩ := ih h
      refine ⟨v :: before, after, congrArg (v :: ·) he, ?_⟩
      intro w hw
      rcases List.mem_cons.mp hw with rfl | hw
      · exact hv
      · exact hb w hw
    · rw [inTurn, if_neg hv]
      exact ⟨[], vs, rfl, by simp⟩

theorem inTurn_mem {pass : Bool} {vs : List (Option Bool)} (h : inTurn pass vs ≠ some pass) :
    inTurn pass vs ∈ vs := by
  obtain ⟨before, after, he, _⟩ := inTurn_split h
  exact List.mem_iff_append.mpr ⟨before, after, he⟩

variable (limit : Nat) (lookup : Lookup) (level : Nat)

/-- The verdict on a condition without what was looked up for it. -/
def verdict (c : Condition) : Option Bool :=
  (decideAt limit lookup level c).value

theorem tracedInTurn_value (pass : Bool) (ts : List (Traced (Option Bool))) :
    (tracedInTurn pass ts).value = inTurn pass (ts.map Traced.value) := by
  induction ts with
  | nil => rfl
  | cons t ts ih =>
    rw [tracedInTurn, List.map_cons, inTurn]
    split
    · exact ih
    · rfl

theorem holdsBetween_value (function : Comparison) (left right : Operand) :
    (holdsBetween lookup function left right).value =
      comparisonHolds lookup function left right := by
  simp only [holdsBetween, comparisonHolds, Traced.andThen, Traced.map, Operand.resolve_value]
  cases left.value? lookup with
  | none => rfl
  | some l =>
    cases right.value? lookup with
    | none => rfl
    | some r =>
      change (function.apply l r).getD false = (function.apply l r == some true)
      rcases function.apply l r with _ | _ | _ <;> rfl

theorem verdict_comparison (function : Comparison) (left right : Operand) :
    verdict limit lookup level (.comparison function left right) =
      if limit < level then none else some (comparisonHolds lookup function left right) := by
  simp only [verdict, decideAt]
  split
  · rfl
  · simp [Traced.map, holdsBetween_value]

theorem verdict_of_passing {connective : Connective} {pass : Bool}
    (hk : connective.passing? = some pass) (children : List Condition) :
    verdict limit lookup level (.composite connective children) =
      if limit < level then none
      else inTurn pass (children.map (verdict limit lookup (level + 1))) := by
  rw [verdict, decideAt_of_passing limit lookup level hk]
  split
  · rfl
  · rw [tracedInTurn_value, List.map_map]
    rfl

theorem verdict_not (child : Condition) :
    verdict limit lookup level (.composite .negation [child]) =
      if limit < level then none else (verdict limit lookup (level + 1) child).map not := by
  rw [verdict, decideAt_not]
  split <;> rfl

theorem verdict_malformedNot {children : List Condition} (h : children.length ≠ 1) :
    verdict limit lookup level (.composite .negation children) = none :=
  congrArg Traced.value (decideAt_malformedNot limit lookup level h)

end Condition

end AccessControl
