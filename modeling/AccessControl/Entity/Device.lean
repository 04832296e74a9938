import AccessControl.Entity.Basic

/-!
Devices: machines in the network that carry sensors and actuators.
-/

namespace AccessControl

structure Device where
  id : EntityId
  name : String
  componentType : String
  ipAddress : String
  port : Nat
  macAddress : Option String
  department : Option String
  location : Option String
  owner : Option UserId
  policies : List PolicyId := []

namespace Device

/-- A device of which only this much is known. It is reached on the port of the secure shell. -/
def ofAddress (id : EntityId) (name componentType ipAddress : String) : Device :=
  ⟨id, name, componentType, ipAddress, 22, none, none, none, none, []⟩

def attributes : AttributeRegistry Device :=
  [("id", fun d => some (.ofId d.id)),
    ("name", fun d => some (.text d.name)),
    ("component_type", fun d => some (.text d.componentType)),
    ("ip_address", fun d => some (.text d.ipAddress)),
    ("port", fun d => some (.number (Float.ofNat d.port))),
    ("mac_address", fun d => d.macAddress.map .text),
    ("department", fun d => d.department.map .text),
    ("location", fun d => d.location.map .text)]

def toJson (d : Device) : Json :=
  .record [
    ("id", d.id.toJson),
    ("name", .text d.name),
    ("component_type", .text d.componentType),
    ("ip_address", .text d.ipAddress),
    ("port", .nat d.port),
    ("mac_address", .ofOption .text d.macAddress),
    ("department", .ofOption .text d.department),
    ("location", .ofOption .text d.location),
    ("owner_id", .ofOption Id.toJson d.owner),
    ("policy_ids", PolicyId.listToJson d.policies)]

def shape : List Json.Field :=
  [⟨"id", false⟩, ⟨"name", false⟩, ⟨"component_type", false⟩, ⟨"ip_address", false⟩,
    ⟨"port", false⟩, ⟨"mac_address", false⟩, ⟨"department", false⟩, ⟨"location", false⟩,
    ⟨"owner_id", false⟩, ⟨"policy_ids", true⟩]

def ofJson? (j : Json) : Option Device := do
  let fields ← j.fields? shape
  return {
    id := ← Json.required fields "id" Id.ofJson?
    name := ← Json.required fields "name" Json.text?
    componentType := ← Json.required fields "component_type" Json.text?
    ipAddress := ← Json.required fields "ip_address" Json.text?
    port := ← Json.required fields "port" (Json.nat? 16)
    macAddress := ← Json.optional fields "mac_address" Json.text?
    department := ← Json.optional fields "department" Json.text?
    location := ← Json.optional fields "location" Json.text?
    owner := ← Json.optional fields "owner_id" Id.ofJson?
    policies := ← Json.defaulted fields "policy_ids" [] (Json.list? Id.ofJson?) }

instance : Entity Device where
  kind := "Device"
  id := Device.id
  name := Device.name
  owner := Device.owner
  policies := Device.policies
  setOwner user d := { d with owner := some user }
  attributes := attributes
  toJson := toJson
  shape := shape
  ofJson? := ofJson?
  id_setOwner _ _ := rfl
  name_setOwner _ _ := rfl
  owner_setOwner _ _ := rfl

end Device

end AccessControl
