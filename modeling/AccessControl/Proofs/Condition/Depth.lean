import AccessControl.Proofs.Condition.Parts

/-!
How deep a condition is: as a tree of levels, which the limit counts, and as JSON, where brackets
count.
-/

namespace AccessControl

/-- A boolean, a number or a text. -/
def AttributeValue.isScalar : AttributeValue → Bool
  | .list _ => false
  | _ => true

def Operand.isScalar : Operand → Bool
  | .attribute _ => true
  | .literal value => value.isScalar

namespace Condition

mutual

/-- No literal in a condition is a list. -/
def hasScalars : Condition → Bool
  | .comparison _ left right => left.isScalar && right.isScalar
  | .composite _ children => haveScalars children

def haveScalars : List Condition → Bool
  | [] => true
  | c :: cs => hasScalars c && haveScalars cs

end

end Condition

theorem AttributeValue.depth_toJson {v : AttributeValue} (h : v.isScalar = true) :
    v.toJson.depth = 0 := by
  rcases v with b | x | s | vs
  · rfl
  · rw [toJson, Json.float]
    split <;> rfl
  · rfl
  · cases h

theorem Operand.depth_toJson {o : Operand} (h : o.isScalar = true) : o.toJson.depth = 1 := by
  rcases o with r | v
  · rfl
  · simp [toJson, Json.depth, Json.depthEntries, AttributeValue.depth_toJson h]

namespace Condition

mutual

/-- The text of a condition nests twice as deep as the condition. -/
theorem depth_toJson : ∀ c : Condition, c.hasScalars = true → c.toJson.depth = 2 * c.depth
  | .comparison function left right, h => by
    obtain ⟨hleft, hright⟩ := (Bool.and_eq_true _ _).mp h
    simp [toJson, Comparison.toJson, Json.depth, Json.depthEntries, depth,
      Operand.depth_toJson hleft, Operand.depth_toJson hright]
  | .composite connective children, h => by
    have hchildren := depthList_toJsonList children h
    simp [toJson, Json.depth, Json.depthEntries, depth, hchildren]
    omega

theorem depthList_toJsonList : ∀ cs : List Condition, haveScalars cs = true →
    Json.depthList (toJsonList cs) = 2 * depthList cs
  | [], _ => rfl
  | c :: cs, h => by
    obtain ⟨hc, hcs⟩ := (Bool.and_eq_true _ _).mp h
    rw [toJsonList, Json.depthList, depth_toJson c hc, depthList_toJsonList cs hcs, depthList]
    omega

end

theorem one_le_depth (c : Condition) : 1 ≤ c.depth := by
  cases c <;> simp [depth]

theorem depthList_le_iff {cs : List Condition} {n : Nat} :
    depthList cs ≤ n ↔ ∀ c ∈ cs, c.depth ≤ n := by
  induction cs with
  | nil => simp [depthList]
  | cons c cs ih => rw [depthList, Nat.max_le, ih, List.forall_mem_cons]

/-- No part lies deeper than a limit exactly when the levels of the whole end within it. -/
theorem forall_level_le_iff {c : Condition} {limit level : Nat} :
    (∀ m p, PartAt level c m p → m ≤ limit) ↔ level + c.depth ≤ limit + 1 := by
  induction c generalizing level with
  | comparison function left right => simp [partAt_comparison_iff, depth]
  | composite connective children ih =>
    rw [depth]
    constructor
    · intro h
      have hlevel : level ≤ limit := h level _ .root
      have hdepth : depthList children ≤ limit - level := by
        refine depthList_le_iff.mpr ?_
        intro d hd
        have := (ih d hd).mp fun m p hp => h m p (.child hd hp)
        omega
      omega
    · intro h m p hp
      rcases partAt_composite_iff.mp hp with ⟨rfl, -⟩ | ⟨d, hd, hp⟩
      · omega
      · have := depthList_le_iff.mp (Nat.le_refl (depthList children)) d hd
        exact (ih d hd).mpr (by omega) m p hp

/-- A condition without a fault ends within the limit. -/
theorem depth_le_of_faultAt {c : Condition} {limit level : Nat} (h : faultAt limit level c = none) :
    level + c.depth ≤ limit + 1 := by
  refine forall_level_le_iff.mp fun m p hp => Nat.not_lt.mp ?_
  intro hlt
  exact (faultAt_eq_none_iff limit level c).mp h m p hp (.inl hlt)

end Condition

end AccessControl
