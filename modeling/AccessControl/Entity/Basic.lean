import AccessControl.Resource
import AccessControl.Json.Reader

/-!
Entities: protected things that are stored under an identifier and have a name. Every kind of entity
lists the attributes that conditions can refer to.
-/

namespace AccessControl

/-- The attributes that a kind of entity has, in order; one of them may have no value. -/
abbrev AttributeRegistry (ε : Type) := List (String × (ε → Option AttributeValue))

namespace AttributeRegistry

variable {ε : Type}

def names (registry : AttributeRegistry ε) : List String :=
  registry.map (·.1)

def contains (registry : AttributeRegistry ε) (name : String) : Bool :=
  registry.names.contains name

def get? (registry : AttributeRegistry ε) (entity : ε) (name : String) : Option AttributeValue :=
  (registry.lookup name).bind fun read => read entity

end AttributeRegistry

class Entity (ε : Type) where
  /-- What such an entity is called in messages. -/
  kind : String
  id : ε → EntityId
  name : ε → String
  owner : ε → Option UserId
  policies : ε → List PolicyId
  setOwner : UserId → ε → ε
  attributes : AttributeRegistry ε
  toJson : ε → Json
  shape : List Json.Field
  ofJson? : Json → Option ε
  id_setOwner : ∀ user e, id (setOwner user e) = id e
  name_setOwner : ∀ user e, name (setOwner user e) = name e
  owner_setOwner : ∀ user e, owner (setOwner user e) = some user

namespace Entity

variable {ε : Type} [Entity ε]

/-- An entity as the guard sees it. -/
def toResource (e : ε) : Resource where
  id := id e
  owner := owner e
  policies := policies e
  attribute? := (attributes (ε := ε)).get? e

/-- Reads an entity from JSON text. -/
def ofText? (text : String) : Option ε :=
  (Json.read (.record ((shape ε).map fun f => (f.name, .whole))) text).bind ofJson?

end Entity

/-- An identifier as an attribute is its text. -/
def AttributeValue.ofId (id : Id) : AttributeValue :=
  .text id.toText

/-- Identifiers of attached policies, in order. -/
def PolicyId.listToJson (ids : List PolicyId) : Json :=
  .list (ids.map Id.toJson)

end AccessControl
