import AccessControl.Condition.Wellformed

/-!
The parts of a condition, the levels at which they lie and the order in which they are written. A
condition has a fault exactly when one of its parts offends, wherever that part stands, and the fault
is that of the first one.
-/

namespace AccessControl.Condition

/-- Induction with a hypothesis for every child of a composite. -/
@[induction_eliminator]
theorem ind {P : Condition → Prop}
    (comparison : ∀ function left right, P (.comparison function left right))
    (composite : ∀ connective children,
      (∀ c ∈ children, P c) → P (.composite connective children)) :
    ∀ c, P c := by
  refine @Condition.rec P (fun cs => ∀ c ∈ cs, P c) comparison composite ?_ ?_
  · intro c hc
    cases hc
  · intro d ds hd hds c hc
    rcases List.mem_cons.mp hc with rfl | hc
    · exact hd
    · exact hds c hc

/-- In a condition whose root lies at the first level, the second condition is a part and lies at
the second level. -/
inductive PartAt : Nat → Condition → Nat → Condition → Prop
  | root {level : Nat} {c : Condition} : PartAt level c level c
  | child {level m : Nat} {connective : Connective} {children : List Condition} {d p : Condition} :
    d ∈ children → PartAt (level + 1) d m p → PartAt level (.composite connective children) m p

def IsMalformedNot : Condition → Prop
  | .composite .negation children => children.length ≠ 1
  | _ => False

/-- What makes a part unfit at a level: it lies too deep, or it is a NOT without exactly one
child. -/
def Offends (limit level : Nat) (c : Condition) : Prop :=
  limit < level ∨ c.IsMalformedNot

variable {limit level m : Nat} {p : Condition}

theorem partAt_comparison_iff {function : Comparison} {left right : Operand} :
    PartAt level (.comparison function left right) m p ↔
      m = level ∧ p = .comparison function left right := by
  constructor
  · intro h
    cases h
    exact ⟨rfl, rfl⟩
  · rintro ⟨rfl, rfl⟩
    exact .root

theorem partAt_composite_iff {connective : Connective} {children : List Condition} :
    PartAt level (.composite connective children) m p ↔
      (m = level ∧ p = .composite connective children) ∨
        ∃ d ∈ children, PartAt (level + 1) d m p := by
  constructor
  · intro h
    cases h with
    | root => exact .inl ⟨rfl, rfl⟩
    | child hd hp => exact .inr ⟨_, hd, hp⟩
  · rintro (⟨rfl, rfl⟩ | ⟨d, hd, hp⟩)
    · exact .root
    · exact .child hd hp

mutual

/-- The parts of a condition whose root lies at a level, each with its own level: parents before
children and children in order. -/
def preorder (level : Nat) : Condition → List (Nat × Condition)
  | .comparison function left right => [(level, .comparison function left right)]
  | .composite connective children =>
    (level, .composite connective children) :: preorderList (level + 1) children

def preorderList (level : Nat) : List Condition → List (Nat × Condition)
  | [] => []
  | c :: cs => preorder level c ++ preorderList level cs

end

theorem mem_preorderList_iff {cs : List Condition} {q : Nat × Condition} :
    q ∈ preorderList level cs ↔ ∃ c ∈ cs, q ∈ preorder level c := by
  induction cs with
  | nil => simp [preorderList]
  | cons c cs ih => simp [preorderList, ih]

/-- The parts in order are the parts. -/
theorem mem_preorder_iff {c : Condition} :
    (m, p) ∈ preorder level c ↔ PartAt level c m p := by
  induction c generalizing level with
  | comparison function left right => simp [preorder, partAt_comparison_iff]
  | composite connective children ih =>
    rw [preorder, List.mem_cons, mem_preorderList_iff, partAt_composite_iff, Prod.mk.injEq]
    exact or_congr_right (exists_congr fun d => and_congr_right fun hd => ih d hd)

/-- What is wrong with a part itself, its level first. -/
def ownFault? (limit level : Nat) : Condition → Option PolicyFault
  | .comparison _ _ _ => if limit < level then some (.nestedTooDeep limit) else none
  | .composite connective children =>
    if limit < level then some (.nestedTooDeep limit)
    else if connective = .negation ∧ children.length ≠ 1 then some (.malformedNot children.length)
    else none

theorem isMalformedNot_iff :
    p.IsMalformedNot ↔ ∃ children, p = .composite .negation children ∧ children.length ≠ 1 := by
  rcases p with ⟨function, left, right⟩ | ⟨connective, children⟩
  · simp [IsMalformedNot]
  · cases connective <;> simp [IsMalformedNot]

/-- A part has a fault of its own where it offends: being too deep, whatever else is wrong with it,
or else being a malformed NOT. -/
theorem ownFault?_eq_some_iff {fault : PolicyFault} :
    ownFault? limit level p = some fault ↔
      (limit < level ∧ fault = .nestedTooDeep limit) ∨
        (level ≤ limit ∧ ∃ children, p = .composite .negation children ∧ children.length ≠ 1 ∧
          fault = .malformedNot children.length) := by
  by_cases h : limit < level
  · have hle : ¬ level ≤ limit := Nat.not_le.mpr h
    cases p <;> simp [ownFault?, h, hle, eq_comm]
  rcases p with ⟨function, left, right⟩ | ⟨connective, children⟩
  · simp [ownFault?, h]
  · by_cases hn : connective = .negation ∧ children.length ≠ 1
    · obtain ⟨rfl, hn⟩ := hn
      simp [ownFault?, h, hn, Nat.not_lt.mp h, eq_comm]
    · rw [ownFault?, if_neg h, if_neg hn]
      constructor
      · intro hnone
        cases hnone
      · rintro (⟨hlt, -⟩ | ⟨-, _, heq, hlength, -⟩)
        · exact absurd hlt h
        · cases heq
          exact absurd ⟨rfl, hlength⟩ hn

theorem offends_iff_ownFault? :
    Offends limit level p ↔ ∃ fault, ownFault? limit level p = some fault := by
  simp only [ownFault?_eq_some_iff, Offends, isMalformedNot_iff]
  constructor
  · rintro (h | ⟨children, rfl, hn⟩)
    · exact ⟨_, .inl ⟨h, rfl⟩⟩
    · by_cases h : limit < level
      · exact ⟨_, .inl ⟨h, rfl⟩⟩
      · exact ⟨_, .inr ⟨Nat.not_lt.mp h, children, rfl, hn, rfl⟩⟩
  · rintro ⟨_, ⟨h, -⟩ | ⟨-, children, rfl, hn, -⟩⟩
    · exact .inl h
    · exact .inr ⟨children, rfl, hn⟩

theorem ownFault?_eq_none_iff : ownFault? limit level p = none ↔ ¬ Offends limit level p := by
  rw [offends_iff_ownFault?, not_exists, Option.eq_none_iff_forall_ne_some]

mutual

/-- The fault of a condition is that of the first part with a fault of its own. -/
theorem faultAt_eq_findSome? (limit : Nat) : ∀ (level : Nat) (c : Condition),
    faultAt limit level c = (preorder level c).findSome? fun q => ownFault? limit q.1 q.2
  | level, .comparison _ _ _ => by
    rw [preorder, List.findSome?_singleton, faultAt, ownFault?]
  | level, .composite connective children => by
    rw [preorder, List.findSome?_cons, ← faultAmong_eq_findSome? limit (level + 1) children,
      faultAt, ownFault?]
    split
    · rfl
    · split <;> rfl

theorem faultAmong_eq_findSome? (limit : Nat) : ∀ (level : Nat) (cs : List Condition),
    faultAmong limit level cs = (preorderList level cs).findSome? fun q => ownFault? limit q.1 q.2
  | _, [] => rfl
  | level, c :: cs => by
    rw [preorderList, List.findSome?_append, ← faultAt_eq_findSome? limit level c,
      ← faultAmong_eq_findSome? limit level cs, faultAmong]
    cases faultAt limit level c <;> rfl

end

theorem faultAt_eq_none_iff (limit level : Nat) (c : Condition) :
    faultAt limit level c = none ↔ ∀ m p, PartAt level c m p → ¬ Offends limit m p := by
  simp only [faultAt_eq_findSome?, List.findSome?_eq_none_iff, ownFault?_eq_none_iff, Prod.forall,
    mem_preorder_iff]

theorem validate_eq_ok_iff (limit : Nat) (c : Condition) :
    c.validate limit = .ok () ↔ c.fault? limit = none := by
  unfold validate
  cases c.fault? limit <;> simp

/-- A condition is refused exactly when some part of it offends. -/
theorem validate_ne_ok_iff (limit : Nat) (c : Condition) :
    c.validate limit ≠ .ok () ↔ ∃ m p, PartAt 1 c m p ∧ Offends limit m p := by
  rw [Ne, validate_eq_ok_iff, fault?, faultAt_eq_none_iff]
  simp only [Classical.not_forall, Classical.not_not, exists_prop]

end AccessControl.Condition
