import AccessControl.Proofs.Condition.Monotone
import AccessControl.Proofs.Guard.Allowance

/-!
Requests that say less. Where no attached policy has a NOT in its condition, leaving attributes out
of a request gains no access.
-/

namespace AccessControl

/-- Every attribute that the second request carries, the first one carries with the same value. -/
def AccessRequest.Extends (more fewer : AccessRequest) : Prop :=
  ∀ name v, fewer.get? name = some v → more.get? name = some v

theorem AccessRequest.extends_empty (request : AccessRequest) : request.Extends .empty :=
  fun _ _ h => nomatch h

/-- An attribute under a new name hides none. -/
theorem AccessRequest.extends_insert {request : AccessRequest} {name : String}
    (h : request.get? name = none) (value : AttributeValue) :
    (request.insert name value).Extends request := by
  intro other v hv
  have hne : other ≠ name := by
    rintro rfl
    rw [h] at hv
    cases hv
  exact ((NameMap.get?_insert request.attributes name other value).trans (if_neg hne)).trans hv

namespace Guard

variable {g : Guard} {resource : Resource} {principal : Principal} {access : AccessType}
  {fewer more : AccessRequest}

/-- The policies attached to a resource that exist have conditions without a NOT, which pass
validation under the guard's limit. -/
def AttachesPositive (g : Guard) (resource : Resource) : Prop :=
  ∀ id ∈ resource.policies, ∀ p, g.policies.find? id = some p →
    p.condition.isPositive = true ∧ p.condition.validate g.evaluator.maxDepth = .ok ()

/-- The attributes of the resource and of the principal are the same whatever the request says. -/
theorem extends_ofQuestion (h : more.Extends fewer) (resource : Resource) (principal : Principal) :
    (Lookup.ofQuestion resource principal more).Extends
      (.ofQuestion resource principal fewer) := by
  rintro ⟨space, name⟩ v hv
  cases space with
  | resource => exact hv
  | principal => exact hv
  | context => exact h name v hv

theorem Allows.with_more (h : g.Allows resource principal access fewer)
    (hpositive : g.AttachesPositive resource) (hmore : more.Extends fewer) :
    g.Allows resource principal access more := by
  obtain ⟨hl, hwhy⟩ := allows_iff.mp h
  refine allows_iff.mpr ⟨hl, ?_⟩
  rcases hwhy with ha | ho | ⟨id, hid, p, hp, hcovers, hholds⟩
  · exact .inl ha
  · exact .inr (.inl ho)
  · obtain ⟨hpos, hvalid⟩ := hpositive id hid p hp
    have hattributes := extends_ofQuestion hmore resource principal
    have hstill := Condition.evaluate_extend hattributes hpos hvalid hholds
    exact .inr (.inr ⟨id, hid, p, hp, hcovers, hstill⟩)

/-- A validated condition without a NOT that holds goes on to hold as attributes are added, whatever
its comparisons. So leaving attributes out of a request turns no denial into anything else, as long
as only such conditions decide. -/
theorem withholding_gains_nothing :
    (∀ (evaluator : Evaluator) (c : Condition), c.isPositive = true →
      c.validate evaluator.maxDepth = .ok () → ∀ fewer more : Lookup, more.Extends fewer →
      (c.evaluate evaluator fewer).value = true → (c.evaluate evaluator more).value = true) ∧
    ∀ (g : Guard) (resource : Resource) (principal : Principal) (access : AccessType)
      (fewer more : AccessRequest), g.AttachesPositive resource → more.Extends fewer →
      g.verdict resource principal access more = .ok (.deny resource.id access) →
      g.verdict resource principal access fewer = .ok (.deny resource.id access) := by
  constructor
  · intro evaluator c hpositive hvalid fewer more hmore hc
    exact Condition.evaluate_extend hmore hpositive hvalid hc
  · intro g resource principal access fewer more hpositive hmore hdenied
    exact denied_of_allows_imp (fun h => h.with_more hpositive hmore) hdenied

/-- Lets those read who say that they ask from elsewhere than the lab. -/
def outsideLab : Policy :=
  { openToRead "outside the lab" 0 with
    condition := .composite .all [.compare .notEquals ⟨.context, "zone"⟩ (.text "lab")] }

def fromHall : AccessRequest :=
  AccessRequest.empty.insert "zone" (.text "hall")

def fromInsideLab : AccessRequest :=
  AccessRequest.empty.insert "zone" (.text "lab")

/-- Who asks from the lab gains nothing by not saying so, although what is not there is not the lab
either. -/
theorem outsideLab_withheld :
    (outsideLab.condition.evaluate (.ofLimit 64)
        (.ofQuestion lentOut visitor (fromHall.insert "reason" (.text "audit")))).value = true ∧
      verdict ⟨.ofList [outsideLab], .ofLimit 64⟩ lentOut visitor .read .empty =
        .ok (.deny (.ofDigit 13) .read) := by
  have hmore : (fromHall.insert "reason" (.text "audit")).Extends fromHall :=
    AccessRequest.extends_insert rfl _
  have hattached : AttachesPositive ⟨.ofList [outsideLab], .ofLimit 64⟩ lentOut := by
    intro id hid p hp
    have hids : id = .ofDigit 7 ∨ id = .ofDigit 1 := by simpa [lentOut] using hid
    rcases hids with rfl | rfl
    · cases hp
    · cases hp
      exact ⟨rfl, rfl⟩
  constructor
  · exact withholding_gains_nothing.1 (.ofLimit 64) outsideLab.condition rfl rfl _ _
      (extends_ofQuestion hmore lentOut visitor) rfl
  · exact withholding_gains_nothing.2 _ _ _ _ _ _ hattached
      (AccessRequest.extends_empty fromInsideLab) rfl

end Guard

end AccessControl
