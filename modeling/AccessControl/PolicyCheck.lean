import AccessControl.Policy

/-!
Checking a list of policies before it is used: each one has to be valid, and no identifier and no
name may come twice. All problems are found, in the order of the list.
-/

namespace AccessControl

inductive PolicyProblem where
  | invalid (policy : Policy) (fault : PolicyFault)
  | duplicateId (policy : Policy)
  | duplicateName (policy : Policy)

namespace PolicyProblem

def message : PolicyProblem → String
  | .invalid p fault =>
    "policy '" ++ p.name ++ "' (" ++ p.id.toText ++ "): " ++ (AuthError.invalidPolicy fault).message
  | .duplicateId p => "policy '" ++ p.name ++ "': duplicate id " ++ p.id.toText
  | .duplicateName p => "policy '" ++ p.name ++ "' (" ++ p.id.toText ++ "): duplicate name"

end PolicyProblem

structure PolicyCheck where
  checked : Nat
  problems : List PolicyProblem

namespace PolicyCheck

def isValid (c : PolicyCheck) : Bool :=
  c.problems.isEmpty

/-- The problems of one policy after those in `before`. -/
def problemsOf (limit : Nat) (before : List Policy) (p : Policy) : List PolicyProblem :=
  ((p.fault? limit).map (PolicyProblem.invalid p)).toList ++
    (if before.any (·.id == p.id) then [.duplicateId p] else []) ++
    (if before.any (·.name == p.name) then [.duplicateName p] else [])

/-- The problems of policies after those in `before`, which stand nearest first. -/
def problemsAfter (limit : Nat) (before : List Policy) : List Policy → List PolicyProblem
  | [] => []
  | p :: ps => problemsOf limit before p ++ problemsAfter limit (p :: before) ps

/-- Checks a list under a limit on the depth of conditions. -/
def ofPolicies (policies : List Policy) (limit : Nat) : PolicyCheck :=
  ⟨policies.length, problemsAfter limit [] policies⟩

def toJson (c : PolicyCheck) : Json :=
  .record [("checked", .nat c.checked),
    ("problems", .list (c.problems.map fun p => .text p.message))]

end PolicyCheck

end AccessControl
