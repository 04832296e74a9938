import AccessControl.Page
import AccessControl.World.Lifecycle

/-!
Operations on the entities of one kind on behalf of a caller. Reading answers from the world as it
is; creating and deleting also answer the world after it. Who the caller is may itself be unknown.
-/

namespace AccessControl

structure Service (ε : Type) where
  caller : Except AuthError Principal
  lifecycle : Lifecycle ε

namespace Service

variable {ε : Type} [Entity ε] [Stored ε]

def notFound (ε : Type) [Entity ε] (id : EntityId) : EntityError :=
  .refused (.entityNotFound (Entity.kind ε) id)

/-- An entity, whoever asks. -/
def get (_ : Service ε) (id : EntityId) (w : World) : Except EntityError ε :=
  match (Stored.repository (ε := ε) w).find? id with
  | some e => .ok e
  | none => .error (notFound ε id)

/-- An entity and the grant under which the caller gets it. -/
def getGranted (s : Service ε) (id : EntityId) (access : AccessType) (request : AccessRequest)
    (w : World) : Except EntityError (ε × Grant) := do
  let e ← s.get id w
  let principal ← EntityError.lift s.caller
  let grant ← EntityError.lift (w.guard.require (Entity.toResource e) principal access request)
  return (e, grant)

/-- An entity that the caller may access. -/
def getChecked (s : Service ε) (id : EntityId) (access : AccessType) (request : AccessRequest)
    (w : World) : Except EntityError ε := do
  let (e, _) ← s.getGranted id access request w
  return e

/-- All entities that the caller may access, by name. -/
def list (s : Service ε) (access : AccessType) (request : AccessRequest) (w : World) :
    Except EntityError (List ε) := do
  let principal ← EntityError.lift s.caller
  EntityError.lift
    (w.guard.filter Entity.toResource ((Stored.repository w).list .byName) principal access request)

/-- A page of the entities that the caller may access. -/
def page (s : Service ε) (access : AccessType) (request : AccessRequest) (pageable : Pageable)
    (w : World) : Except EntityError (Page ε) := do
  let visible ← s.list access request w
  return .ofList visible pageable

/-- The first policy that grants the caller access to an entity. -/
def firstPolicy (s : Service ε) (e : ε) (access : AccessType) (request : AccessRequest)
    (w : World) : Except EntityError (Option Policy) := do
  let principal ← EntityError.lift s.caller
  EntityError.lift principal.requireLoginable
  return (w.guard.firstPolicy (Entity.toResource e) principal access request).value

/-- The JSON view of an entity with the effects of the grant applied. -/
def read (s : Service ε) (id : EntityId) (access : AccessType) (request : AccessRequest)
    (w : World) : Except EntityError Json := do
  let (e, grant) ← s.getGranted id access request w
  return grant.applyTo (Entity.toJson e)

/-- The caller, where he may log in and an entity of that name may be stored. -/
def requireCreatable (s : Service ε) (name : String) (w : World) :
    Except EntityError Principal := do
  let principal ← EntityError.lift s.caller
  EntityError.lift principal.requireLoginable
  if (Stored.repository (ε := ε) w).existsByName name then
    .error (.refused (.entityAlreadyExists (Entity.kind ε) name))
  else return principal

/-- Stores a new entity, which then belongs to the caller. -/
def create (s : Service ε) (e : ε) (w : World) : Except EntityError ε × World :=
  match s.requireCreatable (Entity.name e) w with
  | .error error => (.error error, w)
  | .ok principal =>
    let e := Entity.setOwner principal.id e
    let (verdict, notes) := CreateValidator.run e s.lifecycle.createValidators
    let w := w.note notes
    match verdict with
    | .error error => (.error error, w)
    | .ok () =>
      let stored := Stored.setRepository ((Stored.repository w).save e) w
      (.ok e, CreateHandler.run e s.lifecycle.createHandlers stored)

/-- Deletes an entity where the caller may and no validator objects. It fails when a validator has
already taken the entity out. -/
def delete (s : Service ε) (id : EntityId) (request : AccessRequest) (w : World) :
    Except EntityError ε × World :=
  match s.getChecked id .delete request w with
  | .error error => (.error error, w)
  | .ok e =>
    match DeleteValidator.run e s.lifecycle.deleteValidators w with
    | (.error error, w) => (.error error, w)
    | (.ok (), w) =>
      let repository := Stored.repository (ε := ε) w
      if repository.contains id then (.ok e, Stored.setRepository (repository.delete id) w)
      else (.error (notFound ε id), w)

def requireAdmin (s : Service ε) : Except EntityError Principal := do
  let principal ← EntityError.lift s.caller
  EntityError.lift principal.requireAdmin
  return principal

def requireSystemUser (s : Service ε) : Except EntityError Principal := do
  let principal ← EntityError.lift s.caller
  EntityError.lift principal.requireSystemUser
  return principal

end Service

end AccessControl
