import AccessControl.Entity.Basic

/-!
Actuators: components of a device that can be controlled.
-/

namespace AccessControl

structure Actuator where
  id : EntityId
  name : String
  componentType : String
  device : EntityId
  department : Option String
  owner : Option UserId
  policies : List PolicyId := []

namespace Actuator

def ofDevice (id : EntityId) (name componentType : String) (device : EntityId) : Actuator :=
  ⟨id, name, componentType, device, none, none, []⟩

def attributes : AttributeRegistry Actuator :=
  [("id", fun a => some (.ofId a.id)),
    ("name", fun a => some (.text a.name)),
    ("component_type", fun a => some (.text a.componentType)),
    ("device_id", fun a => some (.ofId a.device)),
    ("department", fun a => a.department.map .text)]

def toJson (a : Actuator) : Json :=
  .record [
    ("id", a.id.toJson),
    ("name", .text a.name),
    ("component_type", .text a.componentType),
    ("device_id", a.device.toJson),
    ("department", .ofOption .text a.department),
    ("owner_id", .ofOption Id.toJson a.owner),
    ("policy_ids", PolicyId.listToJson a.policies)]

def shape : List Json.Field :=
  [⟨"id", false⟩, ⟨"name", false⟩, ⟨"component_type", false⟩, ⟨"device_id", false⟩,
    ⟨"department", false⟩, ⟨"owner_id", false⟩, ⟨"policy_ids", true⟩]

def ofJson? (j : Json) : Option Actuator := do
  let fields ← j.fields? shape
  return {
    id := ← Json.required fields "id" Id.ofJson?
    name := ← Json.required fields "name" Json.text?
    componentType := ← Json.required fields "component_type" Json.text?
    device := ← Json.required fields "device_id" Id.ofJson?
    department := ← Json.optional fields "department" Json.text?
    owner := ← Json.optional fields "owner_id" Id.ofJson?
    policies := ← Json.defaulted fields "policy_ids" [] (Json.list? Id.ofJson?) }

instance : Entity Actuator where
  kind := "Actuator"
  id := Actuator.id
  name := Actuator.name
  owner := Actuator.owner
  policies := Actuator.policies
  setOwner user a := { a with owner := some user }
  attributes := attributes
  toJson := toJson
  shape := shape
  ofJson? := ofJson?
  id_setOwner _ _ := rfl
  name_setOwner _ _ := rfl
  owner_setOwner _ _ := rfl

end Actuator

end AccessControl
