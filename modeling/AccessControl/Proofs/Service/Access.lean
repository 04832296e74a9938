import AccessControl.Proofs.Guard.Filtering
import AccessControl.Proofs.Guard.Verdict
import AccessControl.Proofs.Service.Creation

/-!
Reading on behalf of a caller: when a single entity is handed out, and what a list holds.
-/

namespace AccessControl

open Outcome

namespace Guard

variable {g : Guard} {principal : Principal} {access : AccessType} {request : AccessRequest}

theorem filter_ok_iff {α : Type} {resourceOf : α → Resource} {items shown : List α}
    (h : g.policies.Faithful) :
    g.filter resourceOf items principal access request = .ok shown ↔
      principal.isLoginable = true ∧ shown = items.filter fun item =>
        (g.decision (resourceOf item) principal access request).value.isAllowed := by
  cases hl : principal.isLoginable with
  | true =>
    rw [filter_of_loginable g principal access request resourceOf items h hl]
    simp [eq_comm]
  | false =>
    rw [filter_of_not_loginable g principal access request resourceOf items hl]
    simp

theorem exists_require_ok_iff {resource : Resource} :
    (∃ grant, g.require resource principal access request = .ok grant) ↔
      principal.isLoginable = true ∧
        (g.decision resource principal access request).value.isAllowed = true := by
  simp only [require_eq_ok_iff]
  cases hl : principal.isLoginable with
  | true =>
    rw [verdict_of_loginable hl]
    cases (g.decision resource principal access request).value <;> simp [Decision.isAllowed]
  | false =>
    rw [verdict_of_not_loginable hl]
    simp

end Guard

theorem World.faithful_guard (w : World) : w.guard.policies.Faithful :=
  w.policies.existsGrantingAny_eq

namespace Service

variable {ε : Type} [Entity ε] [Stored ε] {s : Service ε} {id : EntityId} {access : AccessType}
  {request : AccessRequest} {w : World} {e : ε}

theorem get_ok_iff : s.get id w = .ok e ↔ (Stored.repository (ε := ε) w).find? id = some e := by
  unfold get
  cases (Stored.repository (ε := ε) w).find? id <;> simp

theorem getGranted_ok_iff {grant : Grant} :
    s.getGranted id access request w = .ok (e, grant) ↔
      (Stored.repository (ε := ε) w).find? id = some e ∧
        ∃ principal, s.caller = .ok principal ∧
          w.guard.require (Entity.toResource e) principal access request = .ok grant := by
  simp only [getGranted, bind_ok_iff, pure_ok_iff, get_ok_iff, EntityError.lift_ok_iff,
    Prod.mk.injEq]
  constructor
  · rintro ⟨_, hf, principal, hc, _, hg, rfl, rfl⟩
    exact ⟨hf, principal, hc, hg⟩
  · rintro ⟨hf, principal, hc, hg⟩
    exact ⟨e, hf, principal, hc, grant, hg, rfl, rfl⟩

theorem getChecked_ok_iff :
    s.getChecked id access request w = .ok e ↔
      (Stored.repository (ε := ε) w).find? id = some e ∧
        ∃ principal, s.caller = .ok principal ∧
          ∃ grant, w.guard.require (Entity.toResource e) principal access request = .ok grant := by
  simp only [getChecked, bind_ok_iff, pure_ok_iff]
  constructor
  · rintro ⟨⟨_, grant⟩, h, rfl⟩
    obtain ⟨hf, principal, hc, hg⟩ := getGranted_ok_iff.mp h
    exact ⟨hf, principal, hc, grant, hg⟩
  · rintro ⟨hf, principal, hc, grant, hg⟩
    exact ⟨(e, grant), getGranted_ok_iff.mpr ⟨hf, principal, hc, hg⟩, rfl⟩

theorem list_ok_iff {shown : List ε} :
    s.list access request w = .ok shown ↔
      ∃ principal, s.caller = .ok principal ∧ principal.isLoginable = true ∧
        shown = ((Stored.repository w).list .byName).filter fun e =>
          (w.guard.decision (Entity.toResource e) principal access request).value.isAllowed := by
  simp only [list, bind_ok_iff, EntityError.lift_ok_iff, Guard.filter_ok_iff w.faithful_guard]

theorem page_of_list {shown : List ε} (h : s.list access request w = .ok shown)
    (pageable : Pageable) : s.page access request pageable w = .ok (.ofList shown pageable) := by
  rw [page, h]
  rfl

end Service

end AccessControl
