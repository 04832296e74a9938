import AccessControl.Guard

/-!
The decision on its own, apart from the check that the principal may log in.
-/

namespace AccessControl.Guard

variable (g : Guard) (resource : Resource) (principal : Principal) (access : AccessType)
  (request : AccessRequest)

/-- The decision on a resource for the policy that grants access, if there is one. -/
def decideBy (resource : Resource) (access : AccessType) : Option Policy → Decision
  | some policy => .allow (.policy policy)
  | none => .deny resource.id access

/-- The decision for a principal who may log in. -/
def decision : Traced Decision :=
  if principal.isAdmin then .pure (.allow .admin)
  else if resource.isOwnedByOrUnowned principal.id then .pure (.allow .owner)
  else (g.firstPolicy resource principal access request).map (decideBy resource access)

theorem authorize_of_loginable (h : principal.isLoginable = true) :
    g.authorize resource principal access request =
      .ok (g.decision resource principal access request) := by
  have hok : principal.requireLoginable = .ok () := Principal.requireLoginable_ok_iff.mpr h
  simp only [authorize, hok, decision]
  change (if principal.isAdmin = true then _ else _) = _
  split
  · rfl
  · split <;> rfl

theorem authorize_of_not_loginable (h : principal.isLoginable = false) :
    g.authorize resource principal access request = .error .userNotLoginable := by
  simp [authorize, Principal.requireLoginable, h, bind, Except.bind]

theorem isAllowed_decideBy (found : Option Policy) :
    (decideBy resource access found).isAllowed = found.isSome := by
  cases found <;> rfl

end AccessControl.Guard
