import AccessControl.Proofs.Service.Access

/-!
Deleting on behalf of a caller. Validators run in order on the world that those before them left,
and what they did to it stays when one of them objects.
-/

namespace AccessControl

/-- What every handler keeps, handlers one after the other keep. -/
theorem CreateHandler.run_induction {ε : Type} {P : World → Prop} {e : ε}
    {handlers : List (CreateHandler ε)} (h : ∀ handle ∈ handlers, ∀ w, P w → P (handle e w))
    {w : World} (hw : P w) : P (CreateHandler.run e handlers w) := by
  induction handlers generalizing w with
  | nil => exact hw
  | cons handle handlers ih =>
    rw [List.forall_mem_cons] at h
    exact ih h.2 (h.1 w hw)

theorem DeleteValidator.run_induction {ε : Type} {P : World → Prop} {e : ε}
    {validators : List (DeleteValidator ε)}
    (h : ∀ validate ∈ validators, ∀ w, P w → P (validate e w).2) {w : World} (hw : P w) :
    P (DeleteValidator.run e validators w).2 := by
  induction validators generalizing w with
  | nil => exact hw
  | cons validate validators ih =>
    rw [List.forall_mem_cons] at h
    have hfirst := h.1 w hw
    rw [run]
    split
    · rename_i he
      rwa [he] at hfirst
    · rename_i he
      rw [he] at hfirst
      exact ih h.2 hfirst

/-- Objecting to a deletion or not, its validators leave the world alone. -/
def Lifecycle.Observing {ε : Type} (l : Lifecycle ε) : Prop :=
  ∀ validate ∈ l.deleteValidators, ∀ e w, (validate e w).2 = w

namespace Service

variable {ε : Type} [Entity ε] [Stored ε] {s : Service ε} {id : EntityId}
  {request : AccessRequest} {w after : World} {e : ε} {cause : EntityError}

theorem delete_of_not_granted (h : s.getChecked id .delete request w = .error cause) :
    s.delete id request w = (.error cause, w) := by
  rw [delete, h]

theorem delete_of_objection (h : s.getChecked id .delete request w = .ok e)
    (hv : DeleteValidator.run e s.lifecycle.deleteValidators w = (.error cause, after)) :
    s.delete id request w = (.error cause, after) := by
  rw [delete, h]
  simp only [hv]

theorem delete_of_accepted (h : s.getChecked id .delete request w = .ok e)
    (hv : DeleteValidator.run e s.lifecycle.deleteValidators w = (.ok (), after)) :
    s.delete id request w =
      if (Stored.repository (ε := ε) after).contains id then
        (.ok e, Stored.setRepository ((Stored.repository (ε := ε) after).delete id) after)
      else (.error (notFound ε id), after) := by
  rw [delete, h]
  simp only [hv]

theorem contains_of_getChecked {access : AccessType}
    (h : s.getChecked id access request w = .ok e) :
    (Stored.repository (ε := ε) w).contains id = true := by
  obtain ⟨hm, hid⟩ := Keyed.find?_eq_some (getChecked_ok_iff.mp h).1
  exact List.any_eq_true.mpr ⟨e, hm, decide_eq_true hid⟩

/-- With validators that leave the world alone, a deletion that fails changes nothing, and one that
succeeds takes out what the caller may delete, to which no validator objected. -/
theorem delete_cases (hl : s.lifecycle.Observing) (id : EntityId) (request : AccessRequest)
    (w : World) :
    (∃ cause, s.delete id request w = (.error cause, w)) ∨
      ∃ e, s.getChecked id .delete request w = .ok e ∧
        DeleteValidator.run e s.lifecycle.deleteValidators w = (.ok (), w) ∧
        s.delete id request w =
          (.ok e, Stored.setRepository ((Stored.repository (ε := ε) w).delete id) w) := by
  cases hg : s.getChecked id .delete request w with
  | error cause => exact .inl ⟨cause, delete_of_not_granted hg⟩
  | ok e =>
    have hsame : (DeleteValidator.run e s.lifecycle.deleteValidators w).2 = w := by
      apply DeleteValidator.run_induction (P := fun after => after = w) _ rfl
      rintro validate hv _ rfl
      exact hl validate hv e _
    rcases hv : DeleteValidator.run e s.lifecycle.deleteValidators w with ⟨verdict, after⟩
    rw [hv] at hsame
    obtain rfl : after = w := hsame
    cases verdict with
    | error cause => exact .inl ⟨cause, delete_of_objection hg hv⟩
    | ok u =>
      refine .inr ⟨e, rfl, hv, ?_⟩
      rw [delete_of_accepted hg hv, if_pos (contains_of_getChecked hg)]

end Service

end AccessControl
