import AccessControl.Proofs.Codec.Entity

/-!
JSON is a faithful form of everything that is stored or asked: reading undoes writing, so two values
never share their JSON.
-/

namespace AccessControl

/-- Reading undoes writing on the admitted values, and their forms differ when they do. -/
structure Json.Faithful {α : Type} (Admits : α → Prop) (write : α → Json)
    (read : Json → Option α) : Prop where
  read_write : ∀ a, Admits a → read (write a) = some a
  injective : ∀ a b, Admits a → Admits b → write a = write b → a = b

theorem Json.Faithful.of_read_write {α : Type} {Admits : α → Prop} {write : α → Json}
    {read : Json → Option α} (h : ∀ a, Admits a → read (write a) = some a) :
    Faithful Admits write read where
  read_write := h
  injective a b ha hb heq := by
    have hread : some a = some b := by rw [← h a ha, ← h b hb, heq]
    exact Option.some.inj hread

/-- Every value whose numbers are finite and fit their machine words is faithfully written, and a
policy that was read back decides as the one that was written. -/
theorem Json.faithful_of_finite :
    Faithful (fun v : AttributeValue => v.isFinite = true) AttributeValue.toJson
        AttributeValue.ofJson? ∧
      (∀ place, Faithful (fun c : Condition => c.isFinite = true) Condition.toJson
        (Condition.ofJson? place)) ∧
      Faithful (fun e : Effect => e.fits = true) Effect.toJson Effect.ofJson? ∧
      Faithful (fun p : Policy => p.fits = true) Policy.toJson Policy.ofJson? ∧
      Faithful (fun p : Principal => p.isFinite = true) Principal.toJson Principal.ofJson? ∧
      Faithful (fun r : AccessRequest => r.isFinite = true) AccessRequest.toJson
        AccessRequest.ofJson? ∧
      Faithful (fun d : Device => d.fits = true) Device.toJson Device.ofJson? ∧
      Faithful (fun s : Sensor => s.isFinite = true) Sensor.toJson Sensor.ofJson? ∧
      Faithful (fun _ : Actuator => True) Actuator.toJson Actuator.ofJson? ∧
      Faithful (fun _ : Operator => True) Operator.toJson Operator.ofJson? ∧
      ∀ p : Policy, p.fits = true → ∃ q, Policy.ofJson? p.toJson = some q ∧
        (∀ evaluator lookup access,
          q.evaluate evaluator lookup access = p.evaluate evaluator lookup access) ∧
        ∀ view, Effect.applyAll q.effects view = Effect.applyAll p.effects view := by
  refine ⟨.of_read_write AttributeValue.ofJson?_toJson,
    fun place => .of_read_write (Condition.ofJson?_toJson place),
    .of_read_write fun _ => Effect.ofJson?_toJson, .of_read_write fun _ => Policy.ofJson?_toJson,
    .of_read_write fun _ => Principal.ofJson?_toJson,
    .of_read_write fun _ => AccessRequest.ofJson?_toJson,
    .of_read_write fun _ => Device.ofJson?_toJson, .of_read_write fun _ => Sensor.ofJson?_toJson,
    .of_read_write fun a _ => a.ofJson?_toJson, .of_read_write fun o _ => o.ofJson?_toJson, ?_⟩
  intro p h
  exact ⟨p, Policy.ofJson?_toJson h, fun _ _ _ => rfl, fun _ => rfl⟩

/-- A policy with every kind of part: nested conditions, a list of lists, effects, an owner. -/
def Policy.sampler : Policy where
  id := Id.ofDigit 4
  name := "sampler"
  priority := -3
  accessTypes := AccessTypes.ofList [.deleteValueLogs, .read]
  condition := .composite .all [
    .composite .negation [.comparison .lessThan (.attribute ⟨.context, "load"⟩)
      (.literal (.number 0.5))],
    .comparison .contains (.literal (.list [.text "", .list [.boolean true, .list []]]))
      (.attribute ⟨.resource, "unit"⟩),
    .composite .any []]
  effects := [.degradeAccuracy "value" 2, .redact "location"]
  owner := some (Id.ofDigit 7)

theorem Policy.sampler_read_back :
    Policy.sampler.fits = true ∧ Policy.ofJson? Policy.sampler.toJson = some Policy.sampler := by
  have hfits : Policy.sampler.fits = true := by decide +kernel
  exact ⟨hfits, Json.faithful_of_finite.2.2.2.1.read_write Policy.sampler hfits⟩

end AccessControl
