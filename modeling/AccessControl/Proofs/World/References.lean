import AccessControl.Proofs.Repository.Content
import AccessControl.Proofs.World.Changes

/-!
References of sensors and actuators to their device. Only deleting takes a device out, and it looks
for what belongs to the device first; storing under an identifier in use leaves a device there.
-/

namespace AccessControl

/-- A sensor or an actuator belongs to the device of that identifier. -/
def World.InUse (w : World) (device : EntityId) : Prop :=
  (∃ s ∈ w.sensors.entities, s.device = device) ∨ ∃ a ∈ w.actuators.entities, a.device = device

instance (w : World) (device : EntityId) : Decidable (w.InUse device) :=
  inferInstanceAs (Decidable (_ ∨ _))

/-- All that the hooks of devices check before a deletion. -/
theorem Lifecycle.run_deleteValidators_device (d : Device) (w : World) :
    DeleteValidator.run d Lifecycle.device.deleteValidators w =
      (if w.InUse d.id then .error (.refused (.entityStillInUse (Entity.kind Device) d.id))
        else .ok (), w) := by
  have hused : (w.sensors.entities.any (fun s => decide (s.device = d.id)) ||
      w.actuators.entities.any fun a => decide (a.device = d.id)) = true ↔ w.InUse d.id := by
    simp [World.InUse]
  simp only [Lifecycle.device, DeleteValidator.run, DeleteValidator.requireUnused, hused]
  by_cases hu : w.InUse d.id
  · simp only [if_pos hu]
  · simp only [if_neg hu]

namespace Service

variable {s : Service Device} {id : EntityId} {request : AccessRequest} {w : World} {d : Device}

theorem delete_device (hs : s.lifecycle = .device) (h : s.getChecked id .delete request w = .ok d) :
    s.delete id request w =
      if w.InUse id then (.error (.refused (.entityStillInUse (Entity.kind Device) id)), w)
      else (.ok d, { w with devices := w.devices.delete id }) := by
  obtain ⟨_, hid⟩ := Keyed.find?_eq_some (getChecked_ok_iff.mp h).1
  obtain rfl : d.id = id := hid
  have hrun := Lifecycle.run_deleteValidators_device d w
  rw [← hs] at hrun
  by_cases hu : w.InUse d.id
  · rw [if_pos hu] at hrun ⊢
    exact delete_of_objection h hrun
  · rw [if_neg hu] at hrun ⊢
    rw [delete_of_accepted h hrun, if_pos (contains_of_getChecked h)]
    rfl

end Service

namespace World

variable {w after : World} {device : EntityId}

theorem not_inUse_of_accepted {d : Device}
    (h : DeleteValidator.run d Lifecycle.device.deleteValidators w = (.ok (), after)) :
    ¬ w.InUse d.id := by
  intro hu
  rw [Lifecycle.run_deleteValidators_device, if_pos hu] at h
  cases h

theorem Change.contains_device (h : Change w after) (hu : w.InUse device)
    (hd : w.devices.contains device = true) : after.devices.contains device = true := by
  cases h with
  | none same =>
    have hsame : after.devices = w.devices := same .device
    rwa [hsame]
  | @stored kind e _ notes =>
    cases kind with
    | device => exact Repository.contains_save.mpr (.inl hd)
    | _ => exact hd
  | @removed kind id e found accepted =>
    cases kind with
    | device =>
      obtain ⟨_, rfl⟩ := Keyed.find?_eq_some found
      refine Repository.contains_delete.mpr ⟨hd, ?_⟩
      rintro rfl
      exact not_inUse_of_accepted accepted hu
    | _ => exact hd

theorem contains_device_states {ops : List Operation} (hops : ∀ op ∈ ops, op.Standard)
    (hd : w.devices.contains device = true) (hu : ∀ v ∈ w.states ops, v.InUse device) :
    ∀ v ∈ w.states ops, v.devices.contains device = true := by
  induction ops generalizing w with
  | nil => exact List.forall_mem_singleton.mpr hd
  | cons op ops ih =>
    rw [List.forall_mem_cons] at hops
    rw [states, List.forall_mem_cons] at hu ⊢
    exact ⟨hd, ih hops.2 ((change_step hops.1 w).contains_device hu.1 hd) hu.2⟩

/-- With the usual hooks no operation takes out a device that something belongs to, so the device
stays through any run for as long as something does. The caller who may delete a device is refused
exactly then; otherwise the device is gone. -/
theorem references_resolve :
    (∀ (w : World) (op : Operation) (device : EntityId), op.Standard → w.InUse device →
      w.devices.contains device = true → (w.step op).devices.contains device = true) ∧
    (∀ (w : World) (ops : List Operation) (device : EntityId), (∀ op ∈ ops, op.Standard) →
      w.devices.contains device = true → (∀ v ∈ w.states ops, v.InUse device) →
        ∀ v ∈ w.states ops, v.devices.contains device = true) ∧
    ∀ (s : Service Device) (w : World) (id : EntityId) (request : AccessRequest) (d : Device)
      (principal : Principal) (grant : Grant), s.lifecycle = .device →
      w.devices.find? id = some d → s.caller = .ok principal →
      w.guard.require (Entity.toResource d) principal .delete request = .ok grant →
        ((s.delete id request w).1 =
            .error (.refused (.entityStillInUse (Entity.kind Device) id)) ↔
          w.InUse id) ∧
        (¬ w.InUse id →
          s.delete id request w = (.ok d, { w with devices := w.devices.delete id })) := by
  refine ⟨?_, ?_, ?_⟩
  · intro w op device hop hu hd
    exact (change_step hop w).contains_device hu hd
  · intro w ops device hops hd hu
    exact contains_device_states hops hd hu
  · intro s w id request d principal grant hs hfound hcaller hgrant
    have hget : s.getChecked id .delete request w = .ok d :=
      Service.getChecked_ok_iff.mpr ⟨hfound, principal, hcaller, grant, hgrant⟩
    rw [Service.delete_device hs hget]
    refine ⟨?_, fun hu => if_neg hu⟩
    by_cases hu : w.InUse id <;> simp [hu]

/-- A device with a sensor, stored for one user. -/
def wired : World :=
  (fresh 64 (.ofLimit 64)).run
    [.entities .device (EntityKind.device.serviceOf 1)
        (.create (Device.ofAddress (.ofDigit 3) "gateway" "pi" "10.0.0.1")),
      .entities .sensor (EntityKind.sensor.serviceOf 1)
        (.create (Sensor.ofDevice (.ofDigit 4) "temp" "temperature" (.ofDigit 3) "celsius"))]

def removal : Operation :=
  .entities .device (EntityKind.device.serviceOf 1) (.delete (.ofDigit 3) .empty)

theorem wired_resolves :
    (wired.step removal).devices.contains (.ofDigit 3) = true ∧
    (∀ v ∈ wired.states [removal, removal], v.devices.contains (.ofDigit 3) = true) ∧
    (Service.delete (ε := Device) (EntityKind.device.serviceOf 1) (.ofDigit 3) .empty wired).1 =
      .error (.refused (.entityStillInUse (Entity.kind Device) (.ofDigit 3))) := by
  have hused : wired.InUse (.ofDigit 3) := by decide
  have hstored : wired.devices.contains (.ofDigit 3) = true := rfl
  obtain ⟨hstep, hstates, hrefused⟩ := references_resolve
  refine ⟨hstep wired removal _ rfl hused hstored, ?_, ?_⟩
  · refine hstates wired _ _ ?_ hstored ?_
    · simp only [List.forall_mem_cons]
      exact ⟨rfl, rfl, List.forall_mem_nil _⟩
    · simp only [states, List.forall_mem_cons]
      exact ⟨hused, by decide, by decide, List.forall_mem_nil _⟩
  · exact (hrefused (EntityKind.device.serviceOf 1) wired _ .empty
      { Device.ofAddress (.ofDigit 3) "gateway" "pi" "10.0.0.1" with owner := some (.ofDigit 1) }
      _ .owner rfl rfl rfl rfl).1.mpr hused

end World

end AccessControl
