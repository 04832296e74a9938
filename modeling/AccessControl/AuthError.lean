import AccessControl.AccessType
import AccessControl.Decimal.Layout
import AccessControl.Id

/-!
Why an operation was refused. Each cause has one text.
-/

namespace AccessControl

/-- What is wrong with a policy. -/
inductive PolicyFault where
  | blankName
  | grantsNothing (name : String)
  | nestedTooDeep (limit : Nat)
  | malformedNot (children : Nat)
deriving DecidableEq

def PolicyFault.message : PolicyFault → String
  | .blankName => "name must not be empty"
  | .grantsNothing name => "policy '" ++ name ++ "' grants no access types"
  | .nestedTooDeep limit =>
    "condition is nested deeper than " ++ Decimal.digitText limit ++ " levels"
  | .malformedNot children =>
    "NOT requires exactly one child, found " ++ Decimal.digitText children

inductive AuthError where
  | entityNotFound (kind : String) (id : Id)
  | entityAlreadyExists (kind : String) (name : String)
  | entityStillInUse (kind : String) (id : Id)
  | userNotLoginable
  | missingPermission (resource : EntityId) (access : AccessType)
  | missingAdminPrivileges
  | missingOwnerPrivileges
  | noSystemUser
  | invalidPolicy (fault : PolicyFault)
  | invalidAccessRequest
deriving DecidableEq

namespace AuthError

/-- The refusal comes from who the caller is or what he was granted, not from missing data. -/
def isForbidden : AuthError → Bool
  | .userNotLoginable | .missingPermission _ _ | .missingAdminPrivileges | .missingOwnerPrivileges
  | .noSystemUser => true
  | _ => false

def message : AuthError → String
  | .entityNotFound kind id => kind ++ " with id '" ++ id.toText ++ "' does not exist"
  | .entityAlreadyExists kind name => kind ++ " with name '" ++ name ++ "' exists already"
  | .entityStillInUse kind id => kind ++ " with id '" ++ id.toText ++ "' is still in use"
  | .userNotLoginable => "user is not allowed to log in"
  | .missingPermission resource access =>
    "missing permission '" ++ access.word ++ "' for entity '" ++ resource.toText ++ "'"
  | .missingAdminPrivileges => "admin privileges required"
  | .missingOwnerPrivileges => "owner privileges required"
  | .noSystemUser => "system user required"
  | .invalidPolicy fault => "invalid policy: " ++ fault.message
  | .invalidAccessRequest => "invalid access request: not a request in JSON"

end AuthError

end AccessControl
