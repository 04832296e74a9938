import AccessControl.Policy
import AccessControl.Resource

/-!
The decision for one principal, one resource and one access type. Someone who may not log in gets
none. Administrators are allowed everything, and so are the owner of a resource and everyone where
it has no owner. Otherwise the first attached policy decides that covers the access type and whose
condition holds; without one the answer is no.
-/

namespace AccessControl

/-- Where policies are found. -/
structure PolicyLookup where
  find? : PolicyId → Option Policy
  /-- One of the identifiers is that of a policy covering one of the access types. -/
  existsGrantingAny : List PolicyId → List AccessType → Bool

namespace PolicyLookup

/-- Looks every identifier up. -/
def ofFind (find? : PolicyId → Option Policy) : PolicyLookup where
  find? := find?
  existsGrantingAny ids accesses := (ids.filterMap find?).any fun p => accesses.any p.covers

/-- The last policy of a list with an identifier. -/
def ofList (policies : List Policy) : PolicyLookup :=
  ofFind fun id => policies.reverse.find? (·.id == id)

end PolicyLookup

/-- Why access was allowed. -/
inductive Grant where
  | admin
  | owner
  | policy (policy : Policy)

namespace Grant

def policy? : Grant → Option Policy
  | .policy p => some p
  | _ => none

/-- Only a policy has effects on what is shown. -/
def effects : Grant → List Effect
  | .policy p => p.effects
  | _ => []

/-- What of a view is shown under a grant. -/
def applyTo (g : Grant) (view : Json) : Json :=
  Effect.applyAll g.effects view

end Grant

inductive Decision where
  | allow (grant : Grant)
  | deny (resource : EntityId) (access : AccessType)

namespace Decision

def isAllowed : Decision → Bool
  | .allow _ => true
  | .deny _ _ => false

def toGrant : Decision → Except AuthError Grant
  | .allow grant => .ok grant
  | .deny resource access => .error (.missingPermission resource access)

end Decision

structure Guard where
  policies : PolicyLookup
  evaluator : Evaluator

namespace Guard

/-- The first of some policies that exists and grants access. -/
def firstGranting (g : Guard) (lookup : Lookup) (access : AccessType) :
    List PolicyId → Traced (Option Policy)
  | [] => .pure none
  | id :: ids =>
    match g.policies.find? id with
    | none => firstGranting g lookup access ids
    | some policy =>
      (policy.evaluate g.evaluator lookup access).andThen fun granted =>
        if granted then .pure (some policy) else firstGranting g lookup access ids

/-- The first policy attached to a resource that grants access. -/
def firstPolicy (g : Guard) (resource : Resource) (principal : Principal) (access : AccessType)
    (request : AccessRequest) : Traced (Option Policy) :=
  g.firstGranting (.ofQuestion resource principal request) access resource.policies

def authorize (g : Guard) (resource : Resource) (principal : Principal) (access : AccessType)
    (request : AccessRequest) : Except AuthError (Traced Decision) := do
  principal.requireLoginable
  if principal.isAdmin then return .pure (.allow .admin)
  else if resource.isOwnedByOrUnowned principal.id then return .pure (.allow .owner)
  else
    return (g.firstPolicy resource principal access request).map fun
      | some policy => .allow (.policy policy)
      | none => .deny resource.id access

/-- The grant of a decision; a denial is an error. -/
def require (g : Guard) (resource : Resource) (principal : Principal) (access : AccessType)
    (request : AccessRequest) : Except AuthError Grant := do
  let decision ← g.authorize resource principal access request
  decision.value.toGrant

/-- Whether an item of a collection is shown. Policies are only tried when one of them covers the
access type. -/
def shows (g : Guard) (principal : Principal) (access : AccessType) (request : AccessRequest)
    (resource : Resource) : Traced Bool :=
  if resource.isOwnedByOrUnowned principal.id then .pure true
  else if g.policies.existsGrantingAny resource.policies [access] then
    (g.firstPolicy resource principal access request).map (·.isSome)
  else .pure false

/-- Whether each item of a collection is shown, with what was looked up for it. Administrators are
shown all of them. -/
def inspect {α : Type} (g : Guard) (resourceOf : α → Resource) (items : List α)
    (principal : Principal) (access : AccessType) (request : AccessRequest) :
    Except AuthError (List (α × Traced Bool)) := do
  principal.requireLoginable
  if principal.isAdmin then return items.map fun item => (item, .pure true)
  else return items.map fun item => (item, g.shows principal access request (resourceOf item))

/-- The items that the principal may access, in order, each with what was looked up for it. -/
def filterTraced {α : Type} (g : Guard) (resourceOf : α → Resource) (items : List α)
    (principal : Principal) (access : AccessType) (request : AccessRequest) :
    Except AuthError (List (Traced α)) := do
  let inspected ← g.inspect resourceOf items principal access request
  return inspected.filterMap fun (item, shown) =>
    if shown.value then some (shown.map fun _ => item) else none

/-- The items that the principal may access, in order. -/
def filter {α : Type} (g : Guard) (resourceOf : α → Resource) (items : List α)
    (principal : Principal) (access : AccessType) (request : AccessRequest) :
    Except AuthError (List α) := do
  let shown ← g.filterTraced resourceOf items principal access request
  return shown.map (·.value)

end Guard

end AccessControl
