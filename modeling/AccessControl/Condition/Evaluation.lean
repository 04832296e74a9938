import AccessControl.Attribute.Traced
import AccessControl.Condition.Basic

/-!
Deciding conditions. Attributes come from a lookup that may have no answer. A comparison holds only
when both sides are there and their kinds allow it. AND and OR go through their children from the
left and stop at the first one that settles the result. A tree that goes deeper than the limit, or
has a NOT without exactly one child, is given up as a whole where that shows, and does not hold.
-/

namespace AccessControl

/-- Where attributes come from. -/
abbrev Lookup := AttributeRef → Option AttributeValue

/-- Decides conditions down to a depth, which is one at least. -/
structure Evaluator where
  maxDepth : Nat
  one_le_maxDepth : 1 ≤ maxDepth

namespace Evaluator

/-- A limit of nothing counts as one, so that a single comparison can always be decided. -/
def ofLimit (limit : Nat) : Evaluator :=
  ⟨max limit 1, Nat.le_max_right limit 1⟩

end Evaluator

namespace Operand

/-- The value of a side; only an attribute is looked up. -/
def resolve (lookup : Lookup) : Operand → Traced (Option AttributeValue)
  | .attribute reference => ⟨lookup reference, [reference]⟩
  | .literal value => .pure (some value)

end Operand

namespace Condition

/-- Both sides are looked up, the left one first. -/
def holdsBetween (lookup : Lookup) (function : Comparison) (left right : Operand) : Traced Bool :=
  (left.resolve lookup).andThen fun l =>
    (right.resolve lookup).map fun r =>
      match l, r with
      | some l, some r => (function.apply l r).getD false
      | _, _ => false

mutual

/-- The verdict on a condition whose root lies at a level; none when the tree is given up. -/
def decideAt (limit : Nat) (lookup : Lookup) (level : Nat) : Condition → Traced (Option Bool)
  | .comparison function left right =>
    if limit < level then .pure none
    else (holdsBetween lookup function left right).map some
  | .composite .all children =>
    if limit < level then .pure none else decideAll limit lookup (level + 1) children
  | .composite .any children =>
    if limit < level then .pure none else decideAny limit lookup (level + 1) children
  | .composite .negation [child] =>
    if limit < level then .pure none
    else (decideAt limit lookup (level + 1) child).map (Option.map not)
  | .composite .negation _ => .pure none

/-- All of the conditions hold. -/
def decideAll (limit : Nat) (lookup : Lookup) (level : Nat) :
    List Condition → Traced (Option Bool)
  | [] => .pure (some true)
  | c :: cs =>
    let first := decideAt limit lookup level c
    if first.value = some true then first.andThen fun _ => decideAll limit lookup level cs
    else first

/-- One of the conditions holds. -/
def decideAny (limit : Nat) (lookup : Lookup) (level : Nat) :
    List Condition → Traced (Option Bool)
  | [] => .pure (some false)
  | c :: cs =>
    let first := decideAt limit lookup level c
    if first.value = some false then first.andThen fun _ => decideAny limit lookup level cs
    else first

end

/-- Whether a condition holds, with the attributes looked up for it. -/
def evaluate (evaluator : Evaluator) (lookup : Lookup) (c : Condition) : Traced Bool :=
  (decideAt evaluator.maxDepth lookup 1 c).map (·.getD false)

end Condition

end AccessControl
