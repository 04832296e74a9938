import AccessControl.Entity.Basic

/-!
Sensors: components of a device that measure something.
-/

namespace AccessControl

structure Sensor where
  id : EntityId
  name : String
  componentType : String
  device : EntityId
  unit : String
  department : Option String
  /-- The last reading, in the sensor's unit. -/
  value : Option Float
  owner : Option UserId
  policies : List PolicyId := []

namespace Sensor

/-- A sensor that has not measured anything yet. -/
def ofDevice (id : EntityId) (name componentType : String) (device : EntityId) (unit : String) :
    Sensor :=
  ⟨id, name, componentType, device, unit, none, none, none, []⟩

def attributes : AttributeRegistry Sensor :=
  [("id", fun s => some (.ofId s.id)),
    ("name", fun s => some (.text s.name)),
    ("component_type", fun s => some (.text s.componentType)),
    ("device_id", fun s => some (.ofId s.device)),
    ("unit", fun s => some (.text s.unit)),
    ("department", fun s => s.department.map .text),
    ("value", fun s => s.value.map .number)]

def toJson (s : Sensor) : Json :=
  .record [
    ("id", s.id.toJson),
    ("name", .text s.name),
    ("component_type", .text s.componentType),
    ("device_id", s.device.toJson),
    ("unit", .text s.unit),
    ("department", .ofOption .text s.department),
    ("value", .ofOption .float s.value),
    ("owner_id", .ofOption Id.toJson s.owner),
    ("policy_ids", PolicyId.listToJson s.policies)]

def shape : List Json.Field :=
  [⟨"id", false⟩, ⟨"name", false⟩, ⟨"component_type", false⟩, ⟨"device_id", false⟩, ⟨"unit", false⟩,
    ⟨"department", false⟩, ⟨"value", false⟩, ⟨"owner_id", false⟩, ⟨"policy_ids", true⟩]

def ofJson? (j : Json) : Option Sensor := do
  let fields ← j.fields? shape
  return {
    id := ← Json.required fields "id" Id.ofJson?
    name := ← Json.required fields "name" Json.text?
    componentType := ← Json.required fields "component_type" Json.text?
    device := ← Json.required fields "device_id" Id.ofJson?
    unit := ← Json.required fields "unit" Json.text?
    department := ← Json.optional fields "department" Json.text?
    value := ← Json.optional fields "value" Json.float?
    owner := ← Json.optional fields "owner_id" Id.ofJson?
    policies := ← Json.defaulted fields "policy_ids" [] (Json.list? Id.ofJson?) }

instance : Entity Sensor where
  kind := "Sensor"
  id := Sensor.id
  name := Sensor.name
  owner := Sensor.owner
  policies := Sensor.policies
  setOwner user s := { s with owner := some user }
  attributes := attributes
  toJson := toJson
  shape := shape
  ofJson? := ofJson?
  id_setOwner _ _ := rfl
  name_setOwner _ _ := rfl
  owner_setOwner _ _ := rfl

end Sensor

end AccessControl
