import AccessControl.Proofs.Fixture.Merging
import AccessControl.Proofs.Guard.Decision
import AccessControl.Proofs.PolicyCheck.Loading
import Mathlib.Data.List.Nodup

/-!
Under which lists of policies a fixture is answered, against the check of the list. The check goes
through the list as it stands. A fixture asks under what is left of it once later policies have
taken the place of earlier ones with their identifiers, so it never sees an identifier twice.
-/

namespace AccessControl

namespace Fixture

variable {f : Fixture} {shared : List Policy} {settings : AccessControlConfig} {limit : Nat}

/-- The fixture brings no policies and no request of its own. -/
structure Bare (f : Fixture) : Prop where
  policies : f.policies = []
  context : f.context = none
  headers : f.headers = .empty

theorem Bare.request?_eq (hf : f.Bare) (header : String) : f.request? header = some .empty := by
  have hnone : f.header? header = none := by
    rw [header?, hf.headers]
    rfl
  rw [request?, hf.context, hnone]

/-- The policies that count are those that are found under their identifiers. -/
theorem loads_iff :
    f.Loads shared limit ↔
      ∀ p, (PolicyLookup.ofList (shared ++ f.policies)).find? p.id = some p →
        p.validate limit = .ok () ∧
        ∀ q, (PolicyLookup.ofList (shared ++ f.policies)).find? q.id = some q →
          p.name = q.name → p = q := by
  have hnodup : (f.merged shared).Nodup := .of_map _ (nodup_id_merged f shared)
  simp only [← mem_merged_iff]
  constructor
  · intro h p hp
    exact ⟨h.valid p hp, List.inj_on_of_nodup_map h.names hp⟩
  · intro h
    refine ⟨fun p hp => (h p hp).1, (List.nodup_map_iff_inj_on hnodup).mpr ?_⟩
    intro p hp q hq
    exact (h p hp).2 q hq

/-- With the policies in order, there is nothing more that could keep such a fixture from its
answer. -/
theorem Bare.exists_evaluate_iff (hf : f.Bare) (hl : f.principal.isLoginable = true) :
    (∃ report, f.evaluate shared settings = .ok report) ↔
      f.Loads shared settings.maxConditionDepth := by
  constructor
  · rintro ⟨report, h⟩
    obtain ⟨_, _, _, hloads, _⟩ := evaluate_eq_ok_iff.mp h
    exact hloads
  · intro hloads
    have hdecision := (f.guard shared settings.maxConditionDepth).authorize_of_loginable
      f.resource.toResource f.principal f.access .empty hl
    exact ⟨_, evaluate_eq_ok_iff.mpr ⟨_, _, hf.request?_eq _, hloads, hdecision, rfl⟩⟩

theorem Bare.invalidPolicies_of_error (hf : f.Bare) (hl : f.principal.isLoginable = true)
    {error : FixtureError} (h : f.evaluate shared settings = .error error) :
    ∃ cause, error = .invalidPolicies cause := by
  cases hs : (PolicyStore.empty settings.maxConditionDepth).replaceAll (f.merged shared) with
  | error cause =>
    simp only [evaluate, answer, hf.request?_eq, hs, Except.error.injEq] at h
    exact ⟨cause, h.symm⟩
  | ok store =>
    obtain ⟨hloads, _⟩ := replaceAll_merged_eq_ok_iff.mp hs
    obtain ⟨report, hreport⟩ := (hf.exists_evaluate_iff hl).mpr hloads
    rw [hreport] at h
    cases h

/-- Policies with different identifiers count as they stand. -/
theorem Bare.loads_of_nodup (hf : f.Bare) (h : (shared.map Policy.id).Nodup) :
    f.Loads shared limit ↔
      (∀ p ∈ shared, p.validate limit = .ok ()) ∧ (shared.map Policy.name).Nodup := by
  have hmerged : f.merged shared = shared := by
    rw [merged_of_nodup (by rwa [hf.policies, List.append_nil]), hf.policies, List.append_nil]
  constructor
  · intro hloads
    have hvalid := hloads.valid
    have hnames := hloads.names
    rw [hmerged] at hvalid hnames
    exact ⟨hvalid, hnames⟩
  · rintro ⟨hvalid, hnames⟩
    exact ⟨by rwa [hmerged], by rwa [hmerged]⟩

/-- A list that passes the check is one without repeated identifiers under which such a fixture has
an answer. Whether it has one is settled by the last policy of each identifier alone, so a list that
repeats one may fail the check and be answered under. -/
theorem check_passes_iff (hf : f.Bare) (hl : f.principal.isLoginable = true)
    (shared : List Policy) (settings : AccessControlConfig) :
    ((PolicyCheck.ofPolicies shared settings.maxConditionDepth).isValid = true ↔
      (shared.map Policy.id).Nodup ∧ ∃ report, f.evaluate shared settings = .ok report) ∧
    ((∃ report, f.evaluate shared settings = .ok report) ↔
      ∀ p, (PolicyLookup.ofList shared).find? p.id = some p →
        p.validate settings.maxConditionDepth = .ok () ∧
        ∀ q, (PolicyLookup.ofList shared).find? q.id = some q → p.name = q.name → p = q) ∧
    ∀ error, f.evaluate shared settings = .error error →
      ∃ cause, error = .invalidPolicies cause := by
  rw [hf.exists_evaluate_iff hl]
  refine ⟨?_, ?_, fun error => hf.invalidPolicies_of_error hl⟩
  · rw [PolicyCheck.isValid_ofPolicies_iff]
    constructor
    · rintro ⟨hvalid, hids, hnames⟩
      exact ⟨hids, (hf.loads_of_nodup hids).mpr ⟨hvalid, hnames⟩⟩
    · rintro ⟨hids, hloads⟩
      obtain ⟨hvalid, hnames⟩ := (hf.loads_of_nodup hids).mp hloads
      exact ⟨hvalid, hids, hnames⟩
  · rw [loads_iff, hf.policies, List.append_nil]

/-- Someone asks to read what nobody owns. -/
def unowned : Fixture where
  principal := { id := .ofDigit 11, username := "bob" }
  resource := { id := .ofDigit 13 }
  access := .read

theorem unowned_bare : unowned.Bare :=
  ⟨rfl, rfl, rfl⟩

/-- A policy that lets everyone read. -/
def readable (digit : Fin 16) (name : String) : Policy where
  id := .ofDigit digit
  name := name
  accessTypes := .ofList [.read]
  condition := .comparison .equals (.literal (.boolean true)) (.literal (.boolean true))

theorem differentIds_accepted :
    (PolicyCheck.ofPolicies [readable 1 "first", readable 2 "second"] 64).isValid = true ∧
      ∃ report, unowned.evaluate [readable 1 "first", readable 2 "second"] {} = .ok report := by
  have hlaw := (check_passes_iff unowned_bare rfl [readable 1 "first", readable 2 "second"] {}).1
  have hvalid : (PolicyCheck.ofPolicies [readable 1 "first", readable 2 "second"] 64).isValid =
    true := rfl
  exact ⟨hvalid, (hlaw.mp hvalid).2⟩

/-- Two policies under one identifier do not pass the check, and the fixture is answered all the
same. -/
theorem repeatedId_answered :
    (PolicyCheck.ofPolicies [readable 1 "first", readable 1 "second"] 64).isValid = false ∧
      unowned.Bare ∧ unowned.principal.isLoginable = true ∧
      ∃ report, unowned.evaluate [readable 1 "first", readable 1 "second"] {} = .ok report :=
  ⟨rfl, unowned_bare, rfl, _, rfl⟩

end Fixture

end AccessControl
