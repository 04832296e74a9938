import AccessControl.Entity.Basic

/-!
Operators: pieces of stream processing that run a function by name.
-/

namespace AccessControl

structure Operator where
  id : EntityId
  name : String
  function : String
  description : String := ""
  owner : Option UserId
  policies : List PolicyId := []

namespace Operator

def ofFunction (id : EntityId) (name function : String) : Operator :=
  ⟨id, name, function, "", none, []⟩

def attributes : AttributeRegistry Operator :=
  [("id", fun o => some (.ofId o.id)),
    ("name", fun o => some (.text o.name)),
    ("function", fun o => some (.text o.function)),
    ("description", fun o => some (.text o.description))]

def toJson (o : Operator) : Json :=
  .record [
    ("id", o.id.toJson),
    ("name", .text o.name),
    ("function", .text o.function),
    ("description", .text o.description),
    ("owner_id", .ofOption Id.toJson o.owner),
    ("policy_ids", PolicyId.listToJson o.policies)]

def shape : List Json.Field :=
  [⟨"id", false⟩, ⟨"name", false⟩, ⟨"function", false⟩, ⟨"description", true⟩, ⟨"owner_id", false⟩,
    ⟨"policy_ids", true⟩]

def ofJson? (j : Json) : Option Operator := do
  let fields ← j.fields? shape
  return {
    id := ← Json.required fields "id" Id.ofJson?
    name := ← Json.required fields "name" Json.text?
    function := ← Json.required fields "function" Json.text?
    description := ← Json.defaulted fields "description" "" Json.text?
    owner := ← Json.optional fields "owner_id" Id.ofJson?
    policies := ← Json.defaulted fields "policy_ids" [] (Json.list? Id.ofJson?) }

instance : Entity Operator where
  kind := "Operator"
  id := Operator.id
  name := Operator.name
  owner := Operator.owner
  policies := Operator.policies
  setOwner user o := { o with owner := some user }
  attributes := attributes
  toJson := toJson
  shape := shape
  ofJson? := ofJson?
  id_setOwner _ _ := rfl
  name_setOwner _ _ := rfl
  owner_setOwner _ _ := rfl

end Operator

end AccessControl
