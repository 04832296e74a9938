import AccessControl.PolicyStore
import AccessControl.Proofs.Guard.Decision

/-!
Filtering a collection decides each item as a decision on it alone would. Before policies are tried
for an item it is asked whether one of them covers the access type at all; where none does, trying
them would find nothing and look nothing up.
-/

namespace AccessControl

/-- The places where policies are kept: a map from identifiers, or a store with a search of its
own. -/
inductive PolicySource where
  | map (find? : PolicyId → Option Policy)
  | store (s : PolicyStore)

def PolicySource.toLookup : PolicySource → PolicyLookup
  | .map find? => .ofFind find?
  | .store s => s.toLookup

/-- Decides by the policies of a source. -/
def PolicySource.guard (source : PolicySource) (evaluator : Evaluator) : Guard :=
  ⟨source.toLookup, evaluator⟩

/-- The lookup knows which of its policies cover an access type. -/
def PolicyLookup.Faithful (policies : PolicyLookup) : Prop :=
  ∀ ids accesses, policies.existsGrantingAny ids accesses =
    (PolicyLookup.ofFind policies.find?).existsGrantingAny ids accesses

theorem PolicyStore.existsGrantingAny_eq (s : PolicyStore) (ids : List PolicyId)
    (accesses : List AccessType) :
    s.existsGrantingAny ids accesses =
      (PolicyLookup.ofFind s.find?).existsGrantingAny ids accesses := by
  simp only [existsGrantingAny, PolicyLookup.ofFind, List.any_filterMap]
  congr 1
  funext id
  cases s.find? id <;> rfl

theorem PolicySource.faithful (source : PolicySource) : source.toLookup.Faithful := by
  intro ids accesses
  cases source with
  | map find? => rfl
  | store s => exact s.existsGrantingAny_eq ids accesses

theorem PolicyLookup.Faithful.not_covers {policies : PolicyLookup} (h : policies.Faithful)
    {ids : List PolicyId} {access : AccessType}
    (hnone : policies.existsGrantingAny ids [access] = false) :
    ∀ id ∈ ids, ∀ p, policies.find? id = some p → p.covers access = false := by
  intro id hid p hp
  rw [h, ofFind] at hnone
  simp only [List.any_eq_false, List.mem_filterMap] at hnone
  simpa using hnone p ⟨id, hid, hp⟩

namespace Guard

variable (g : Guard) (resource : Resource) (principal : Principal) (access : AccessType)
  (request : AccessRequest)

/-- Policies that do not cover the access type grant nothing, and nothing is looked up for them. -/
theorem firstGranting_of_not_covers (lookup : Lookup) (ids : List PolicyId)
    (h : ∀ id ∈ ids, ∀ p, g.policies.find? id = some p → p.covers access = false) :
    g.firstGranting lookup access ids = .pure none := by
  induction ids with
  | nil => rfl
  | cons id ids ih =>
    have hrest := ih fun j hj => h j (List.mem_cons_of_mem id hj)
    cases hp : g.policies.find? id with
    | none => simpa only [firstGranting, hp] using hrest
    | some p =>
      have hcovers := h id List.mem_cons_self p hp
      have hgranted : p.evaluate g.evaluator lookup access = .pure false := by
        simp [Policy.evaluate, hcovers]
      simp only [firstGranting, hp, hgranted, Traced.pure_andThen]
      exact hrest

/-- Asking first whether a policy covers the access type drops nothing that one would grant. -/
theorem existsGrantingAny_of_firstPolicy (h : g.policies.Faithful)
    (hfound : (g.firstPolicy resource principal access request).value.isSome = true) :
    g.policies.existsGrantingAny resource.policies [access] = true := by
  cases hnone : g.policies.existsGrantingAny resource.policies [access] with
  | true => rfl
  | false =>
    rw [firstPolicy, firstGranting_of_not_covers g access _ _ (h.not_covers hnone)] at hfound
    cases hfound

/-- An item is shown to one who is no administrator exactly where the decision on it allows access,
and the same is looked up. -/
theorem shows_eq_decision (h : g.policies.Faithful) (hadmin : principal.isAdmin = false) :
    g.shows principal access request resource =
      (g.decision resource principal access request).map Decision.isAllowed := by
  simp only [shows, decision, hadmin, Bool.false_eq_true, if_false]
  split
  · rfl
  · split
    · simp only [Traced.map_map, isAllowed_decideBy]
    · rename_i hnone
      rw [Bool.not_eq_true] at hnone
      rw [firstPolicy, firstGranting_of_not_covers g access _ _ (h.not_covers hnone)]
      rfl

theorem inspect_of_loginable {α : Type} (resourceOf : α → Resource) (items : List α)
    (h : g.policies.Faithful) (hl : principal.isLoginable = true) :
    g.inspect resourceOf items principal access request =
      .ok (items.map fun item =>
        (item, (g.decision (resourceOf item) principal access request).map Decision.isAllowed)) := by
  have hok : principal.requireLoginable = .ok () := Principal.requireLoginable_ok_iff.mpr hl
  simp only [inspect, hok]
  cases hadmin : principal.isAdmin with
  | true => simp [decision, hadmin, bind, Except.bind, pure, Except.pure, Decision.isAllowed]
  | false =>
    simp only [← shows_eq_decision g _ principal access request h hadmin]
    rfl

theorem inspect_of_not_loginable {α : Type} (resourceOf : α → Resource) (items : List α)
    (hl : principal.isLoginable = false) :
    g.inspect resourceOf items principal access request = .error .userNotLoginable := by
  simp [inspect, Principal.requireLoginable, hl, bind, Except.bind]

/-- The items whose verdict is yes, each with what was looked up for it. -/
theorem filterMap_verdicts {α : Type} (verdict : α → Traced Bool) (items : List α) :
    ((items.map fun item => (item, verdict item)).filterMap fun (item, shown) =>
      if shown.value then some (shown.map fun _ => item) else none) =
      (items.filter fun item => (verdict item).value).map fun item =>
        (verdict item).map fun _ => item := by
  induction items with
  | nil => rfl
  | cons item items ih =>
    rw [List.map_cons, List.filterMap_cons, List.filter_cons, ih]
    cases hv : (verdict item).value with
    | true => simp [hv]
    | false => simp [hv]

theorem filterTraced_of_loginable {α : Type} (resourceOf : α → Resource) (items : List α)
    (h : g.policies.Faithful) (hl : principal.isLoginable = true) :
    g.filterTraced resourceOf items principal access request =
      .ok ((items.filter fun item =>
          (g.decision (resourceOf item) principal access request).value.isAllowed).map fun item =>
        (g.decision (resourceOf item) principal access request).map fun _ => item) := by
  rw [filterTraced, inspect_of_loginable g principal access request resourceOf items h hl]
  exact congrArg Except.ok (filterMap_verdicts
    (fun item => (g.decision (resourceOf item) principal access request).map Decision.isAllowed)
    items)

theorem filter_of_loginable {α : Type} (resourceOf : α → Resource) (items : List α)
    (h : g.policies.Faithful) (hl : principal.isLoginable = true) :
    g.filter resourceOf items principal access request =
      .ok (items.filter fun item =>
        (g.decision (resourceOf item) principal access request).value.isAllowed) := by
  rw [filter, filterTraced_of_loginable g principal access request resourceOf items h hl]
  refine congrArg Except.ok ?_
  rw [List.map_map]
  exact List.map_id _

theorem filter_of_not_loginable {α : Type} (resourceOf : α → Resource) (items : List α)
    (hl : principal.isLoginable = false) :
    g.filter resourceOf items principal access request = .error .userNotLoginable := by
  rw [filter, filterTraced,
    inspect_of_not_loginable g principal access request resourceOf items hl]
  rfl

/-- Filtering fails exactly for a principal who may not log in. For any other it keeps, in order,
the items on which a single decision allows access, and looks up for every item what that decision
looks up. The search for a policy that covers the access type drops no item that one would grant,
and a store's own search finds what looking every identifier up finds. -/
theorem filter_agrees_with_authorize {α : Type} (source : PolicySource) (evaluator : Evaluator)
    (resourceOf : α → Resource) (items : List α) (principal : Principal) (access : AccessType)
    (request : AccessRequest) :
    (∀ refusal,
      (source.guard evaluator).filter resourceOf items principal access request =
          .error refusal ↔
        refusal = .userNotLoginable ∧ principal.isLoginable = false) ∧
    (principal.isLoginable = true → ∃ decision : Resource → Traced Decision,
      (∀ resource, (source.guard evaluator).authorize resource principal access request =
        .ok (decision resource)) ∧
      (source.guard evaluator).filter resourceOf items principal access request =
        .ok (items.filter fun item => (decision (resourceOf item)).value.isAllowed) ∧
      (source.guard evaluator).inspect resourceOf items principal access request =
        .ok (items.map fun item =>
          (item, (decision (resourceOf item)).map Decision.isAllowed))) ∧
    (∀ resource,
      ((source.guard evaluator).firstPolicy resource principal access
          request).value.isSome = true →
        source.toLookup.existsGrantingAny resource.policies [access] = true) ∧
    ∀ ids accesses, source.toLookup.existsGrantingAny ids accesses =
      (PolicyLookup.ofFind source.toLookup.find?).existsGrantingAny ids accesses := by
  have hfaithful : (source.guard evaluator).policies.Faithful := source.faithful
  refine ⟨fun refusal => ?_, fun hl => ?_, fun resource hfound => ?_, hfaithful⟩
  · cases hl : principal.isLoginable with
    | true =>
      rw [filter_of_loginable _ principal access request resourceOf items hfaithful hl]
      simp
    | false =>
      rw [filter_of_not_loginable _ principal access request resourceOf items hl]
      simp [eq_comm]
  · exact ⟨_, fun resource => authorize_of_loginable _ resource principal access request hl,
      filter_of_loginable _ principal access request resourceOf items hfaithful hl,
      inspect_of_loginable _ principal access request resourceOf items hfaithful hl⟩
  · exact existsGrantingAny_of_firstPolicy _ resource principal access request hfaithful hfound

end Guard

end AccessControl
