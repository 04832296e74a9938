import AccessControl.AuthError

/-!
Why an operation on entities failed: it was refused, or the entity itself cannot be stored.
-/

namespace AccessControl

/-- What is wrong with an entity. -/
inductive EntityFault where
  | blankName (kind : String)
  | blankAddress
deriving DecidableEq

def EntityFault.message : EntityFault → String
  | .blankName kind => kind ++ " name must not be empty"
  | .blankAddress => "Device IP address must not be empty"

inductive EntityError where
  | refused (cause : AuthError)
  | invalid (fault : EntityFault)
deriving DecidableEq

namespace EntityError

def message : EntityError → String
  | .refused cause => cause.message
  | .invalid fault => "Validation failed: " ++ fault.message

/-- Passes a refusal on. -/
def lift {α : Type} : Except AuthError α → Except EntityError α
  | .ok value => .ok value
  | .error cause => .error (.refused cause)

end EntityError

end AccessControl
