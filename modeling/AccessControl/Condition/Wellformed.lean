import AccessControl.AuthError
import AccessControl.Condition.Basic

/-!
Which conditions a policy may carry: a NOT has one child, and no part lies deeper than a limit. The
fault reported is that of the first offending part, parents before children and children in order.
-/

namespace AccessControl.Condition

mutual

/-- The first fault in a condition whose root lies at a level. -/
def faultAt (limit level : Nat) : Condition → Option PolicyFault
  | .comparison _ _ _ => if limit < level then some (.nestedTooDeep limit) else none
  | .composite connective children =>
    if limit < level then some (.nestedTooDeep limit)
    else if connective = .negation ∧ children.length ≠ 1 then some (.malformedNot children.length)
    else faultAmong limit (level + 1) children

/-- The first fault in conditions whose roots lie at a level. -/
def faultAmong (limit level : Nat) : List Condition → Option PolicyFault
  | [] => none
  | c :: cs =>
    match faultAt limit level c with
    | some fault => some fault
    | none => faultAmong limit level cs

end

/-- The first fault of a condition under a depth limit. -/
def fault? (limit : Nat) (c : Condition) : Option PolicyFault :=
  faultAt limit 1 c

def validate (limit : Nat) (c : Condition) : Except AuthError Unit :=
  match c.fault? limit with
  | some fault => .error (.invalidPolicy fault)
  | none => .ok ()

end AccessControl.Condition
