import AccessControl.AccessRequest
import AccessControl.Condition.Evaluation
import AccessControl.Principal

/-!
Protected resources as the guard sees them, and the place where the attributes of a decision come
from: the resource, the principal and the request.
-/

namespace AccessControl

structure Resource where
  id : EntityId
  /-- A resource that nobody owns is open to everyone. -/
  owner : Option UserId
  /-- The policies attached, in order. Some may not exist any more. -/
  policies : List PolicyId
  attribute? : String → Option AttributeValue

namespace Resource

/-- What a resource is called that says nothing else. -/
def kind : String :=
  "Entity"

def isOwnedByOrUnowned (r : Resource) (user : UserId) : Bool :=
  match r.owner with
  | none => true
  | some owner => owner == user

end Resource

/-- Looks up the attributes of one question: whether this principal may do this to that resource. -/
def Lookup.ofQuestion (resource : Resource) (principal : Principal) (request : AccessRequest) :
    Lookup
  | ⟨.resource, name⟩ => resource.attribute? name
  | ⟨.principal, name⟩ => principal.attribute? name
  | ⟨.context, name⟩ => request.get? name

end AccessControl
