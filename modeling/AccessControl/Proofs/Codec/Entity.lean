import AccessControl.Entity.Actuator
import AccessControl.Entity.Device
import AccessControl.Entity.Operator
import AccessControl.Entity.Sensor
import AccessControl.Proofs.Codec.Policy

/-!
Entities read back from their JSON. What an entity may lack is written as null, and nothing it may
have is.
-/

namespace AccessControl

@[simp]
theorem PolicyId.list?_listToJson (ids : List PolicyId) :
    (listToJson ids).list? Id.ofJson? = some ids :=
  Json.list?_list fun id _ => id.ofJson?_toJson

/-- The port fits the machine word that holds it. -/
def Device.fits (d : Device) : Bool :=
  d.port < Word.bound 16

theorem Device.ofJson?_toJson {d : Device} (h : d.fits = true) : ofJson? d.toJson = some d := by
  have hport : d.port < Word.bound 16 := by simpa only [fits, decide_eq_true_iff] using h
  have hfields : Json.fields? shape d.toJson = some _ := Json.fields?_record rfl (by decide)
  simp [ofJson?, hfields, Json.text?, hport]

/-- The last reading, if there is one, is finite. -/
def Sensor.isFinite (s : Sensor) : Bool :=
  s.value.all Dyadic.isFinite

theorem Sensor.ofJson?_toJson {s : Sensor} (h : s.isFinite = true) : ofJson? s.toJson = some s := by
  have hvalue : ∀ x ∈ s.value, Dyadic.isFinite x = true := by
    intro x hx
    rwa [isFinite, hx] at h
  have hfields : Json.fields? shape s.toJson = some _ := Json.fields?_record rfl (by decide)
  simp [ofJson?, hfields, Json.text?, Json.optional_cons_float hvalue]

theorem Actuator.ofJson?_toJson (a : Actuator) : ofJson? a.toJson = some a := by
  have hfields : Json.fields? shape a.toJson = some _ := Json.fields?_record rfl (by decide)
  simp [ofJson?, hfields, Json.text?]

theorem Operator.ofJson?_toJson (o : Operator) : ofJson? o.toJson = some o := by
  have hfields : Json.fields? shape o.toJson = some _ := Json.fields?_record rfl (by decide)
  simp [ofJson?, hfields, Json.text?]

end AccessControl
