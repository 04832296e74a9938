import AccessControl.Attribute.Value
import AccessControl.AuthError
import AccessControl.Json.Reader

/-!
The user on whose behalf something is asked. Its own attributes come before those of its profile.
-/

namespace AccessControl

structure Principal where
  id : UserId
  username : String
  isAdmin : Bool := false
  isSystemUser : Bool := false
  isLoginable : Bool := true
  profile : NameMap AttributeValue := NameMap.empty

namespace Principal

def requireLoginable (p : Principal) : Except AuthError Unit :=
  if p.isLoginable then .ok () else .error .userNotLoginable

theorem requireLoginable_ok_iff {p : Principal} {u : Unit} :
    p.requireLoginable = .ok u ↔ p.isLoginable = true := by
  unfold requireLoginable
  split <;> simp_all

def requireAdmin (p : Principal) : Except AuthError Unit :=
  if p.isAdmin then .ok () else .error .missingAdminPrivileges

def requireSystemUser (p : Principal) : Except AuthError Unit :=
  if p.isSystemUser then .ok () else .error .noSystemUser

/-- Looks up an attribute: a profile entry is hidden by a fixed attribute of the same name. -/
def attribute? (p : Principal) (name : String) : Option AttributeValue :=
  if name = "id" then some (.text p.id.toText)
  else if name = "username" then some (.text p.username)
  else if name = "is_admin" then some (.boolean p.isAdmin)
  else if name = "is_system_user" then some (.boolean p.isSystemUser)
  else if name = "is_loginable" then some (.boolean p.isLoginable)
  else p.profile.get? name

def shape : List Json.Field :=
  [⟨"id", false⟩, ⟨"username", false⟩, ⟨"is_admin", true⟩, ⟨"is_system_user", true⟩,
    ⟨"is_loginable", true⟩, ⟨"profile", true⟩]

def toJson (p : Principal) : Json :=
  .record [
    ("id", p.id.toJson),
    ("username", .text p.username),
    ("is_admin", .bool p.isAdmin),
    ("is_system_user", .bool p.isSystemUser),
    ("is_loginable", .bool p.isLoginable),
    ("profile", .record (p.profile.entries.map fun e => (e.1, e.2.toJson)))]

def ofJson? (j : Json) : Option Principal := do
  let fields ← j.fields? shape
  return {
    id := ← Json.required fields "id" Id.ofJson?
    username := ← Json.required fields "username" Json.text?
    isAdmin := ← Json.defaulted fields "is_admin" false Json.bool?
    isSystemUser := ← Json.defaulted fields "is_system_user" false Json.bool?
    isLoginable := ← Json.defaulted fields "is_loginable" true Json.bool?
    profile := ← Json.defaulted fields "profile" NameMap.empty (Json.map? AttributeValue.ofJson?) }

def outline : Json.Outline :=
  .record (shape.map fun f => (f.name, .whole))

/-- Reads a principal from JSON text. -/
def ofText? (text : String) : Option Principal :=
  (Json.read outline text).bind ofJson?

end Principal

end AccessControl
