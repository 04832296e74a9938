import AccessControl.Condition.Evaluation

/-!
Deciding composites, with what is looked up. AND and OR differ only in how a child has to come out
for them to go on; NOT turns the verdict on its one child around.
-/

namespace AccessControl

/-- How a child has to come out for AND or OR to go on to the next one. -/
def Connective.passing? : Connective → Option Bool
  | .all => some true
  | .any => some false
  | .negation => none

namespace Condition

/-- A composite takes its children in turn, or is a NOT of one child, or is a malformed NOT. -/
theorem composite_cases (connective : Connective) (children : List Condition) :
    (∃ pass, connective.passing? = some pass) ∨
      (connective = .negation ∧ ∃ d, children = [d]) ∨
      (connective = .negation ∧ children.length ≠ 1) := by
  cases connective with
  | all => exact .inl ⟨true, rfl⟩
  | any => exact .inl ⟨false, rfl⟩
  | negation =>
    by_cases h : children.length = 1
    · exact .inr (.inl ⟨rfl, List.length_eq_one_iff.mp h⟩)
    · exact .inr (.inr ⟨rfl, h⟩)

/-- Verdicts in turn, each with what is looked up for it; nothing is for those behind the first one
that does not pass. -/
def tracedInTurn (pass : Bool) : List (Traced (Option Bool)) → Traced (Option Bool)
  | [] => .pure (some pass)
  | t :: ts => if t.value = some pass then t.andThen fun _ => tracedInTurn pass ts else t

variable (limit : Nat) (lookup : Lookup) (level : Nat)

/-- Below the limit nothing is looked up. -/
theorem decideAt_of_limit_lt {limit level : Nat} (h : limit < level) (c : Condition) :
    decideAt limit lookup level c = .pure none := by
  cases c with
  | comparison function left right => rw [decideAt, if_pos h]
  | composite connective children =>
    cases connective with
    | all => rw [decideAt, if_pos h]
    | any => rw [decideAt, if_pos h]
    | negation =>
      match children with
      | [] => rfl
      | [_] => rw [decideAt, if_pos h]
      | _ :: _ :: _ => rfl

theorem decideAll_eq_inTurn (cs : List Condition) :
    decideAll limit lookup level cs =
      tracedInTurn true (cs.map (decideAt limit lookup level)) := by
  induction cs with
  | nil => rfl
  | cons c cs ih => simp only [decideAll, List.map_cons, tracedInTurn, ih]

theorem decideAny_eq_inTurn (cs : List Condition) :
    decideAny limit lookup level cs =
      tracedInTurn false (cs.map (decideAt limit lookup level)) := by
  induction cs with
  | nil => rfl
  | cons c cs ih => simp only [decideAny, List.map_cons, tracedInTurn, ih]

theorem decideAt_of_passing {connective : Connective} {pass : Bool}
    (hk : connective.passing? = some pass) (children : List Condition) :
    decideAt limit lookup level (.composite connective children) =
      if limit < level then .pure none
      else tracedInTurn pass (children.map (decideAt limit lookup (level + 1))) := by
  cases connective with
  | all =>
    cases hk
    rw [decideAt, decideAll_eq_inTurn]
  | any =>
    cases hk
    rw [decideAt, decideAny_eq_inTurn]
  | negation => cases hk

theorem decideAt_not (child : Condition) :
    decideAt limit lookup level (.composite .negation [child]) =
      if limit < level then .pure none
      else (decideAt limit lookup (level + 1) child).map (Option.map not) := by
  rw [decideAt]

theorem decideAt_malformedNot {children : List Condition} (h : children.length ≠ 1) :
    decideAt limit lookup level (.composite .negation children) = .pure none := by
  match children with
  | [] => rfl
  | [_] => exact absurd rfl h
  | _ :: _ :: _ => rfl

end Condition

end AccessControl
