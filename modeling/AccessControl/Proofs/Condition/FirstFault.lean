import AccessControl.Proofs.Condition.Depth

/-!
What validation accepts, and what it objects to. The check goes down from the root and stops at the
first part that offends; the depth of a condition is counted from its leaves. They meet at the limit
exactly.
-/

namespace AccessControl.Condition

theorem validate_eq_error_iff (limit : Nat) (c : Condition) (error : AuthError) :
    c.validate limit = .error error ↔
      ∃ fault, c.fault? limit = some fault ∧ error = .invalidPolicy fault := by
  unfold validate
  cases c.fault? limit <;> simp [eq_comm]

/-- The fault is that of the first part that has one. -/
theorem fault?_eq_some_iff {limit : Nat} {c : Condition} {fault : PolicyFault} :
    c.fault? limit = some fault ↔
      ∃ before level p after, preorder 1 c = before ++ (level, p) :: after ∧
        (∀ q ∈ before, ¬ Offends limit q.1 q.2) ∧ ownFault? limit level p = some fault := by
  rw [fault?, faultAt_eq_findSome?, List.findSome?_eq_some_iff]
  simp only [ownFault?_eq_none_iff, Prod.exists]
  constructor
  · rintro ⟨before, level, p, after, hsplit, hfault, hbefore⟩
    exact ⟨before, level, p, after, hsplit, hbefore, hfault⟩
  · rintro ⟨before, level, p, after, hsplit, hbefore, hfault⟩
    exact ⟨before, level, p, after, hsplit, hfault, hbefore⟩

/-- Nothing offends when the levels end within the limit and every NOT has one child. -/
theorem fault?_eq_none_iff {limit : Nat} {c : Condition} :
    c.fault? limit = none ↔
      c.depth ≤ limit ∧
        ∀ level children, (level, .composite .negation children) ∈ preorder 1 c →
          children.length = 1 := by
  have hdepth : c.depth ≤ limit ↔ ∀ m p, PartAt 1 c m p → m ≤ limit := by
    rw [forall_level_le_iff]
    omega
  rw [fault?, faultAt_eq_none_iff, hdepth]
  constructor
  · intro h
    refine ⟨fun m p hp => Nat.not_lt.mp fun hlt => h m p hp (.inl hlt), ?_⟩
    intro level children hmem
    have hfit := h level _ (mem_preorder_iff.mp hmem)
    exact Decidable.not_not.mp fun hn => hfit (.inr hn)
  · rintro ⟨hlevels, hnots⟩ m p hp (hlt | hmalformed)
    · exact Nat.not_lt.mpr (hlevels m p hp) hlt
    · obtain ⟨children, rfl, hn⟩ := isMalformedNot_iff.mp hmalformed
      exact hn (hnots m children (mem_preorder_iff.mpr hp))

/-- Under any limit, validation accepts exactly the conditions that are no deeper and in which every
NOT, wherever it stands, has one child. What it reports otherwise is the fault of the first offending
part, parents before children and children in order: that it lies too deep, even if it is a malformed
NOT besides, or else how many children the NOT has. -/
theorem validate_exact (limit : Nat) (c : Condition) :
    (c.validate limit = .ok () ↔
      c.depth ≤ limit ∧
        ∀ level children, (level, .composite .negation children) ∈ preorder 1 c →
          children.length = 1) ∧
    ∀ error, c.validate limit = .error error ↔
      ∃ before level p after, preorder 1 c = before ++ (level, p) :: after ∧
        (∀ q ∈ before, ¬ Offends limit q.1 q.2) ∧
          ((limit < level ∧ error = .invalidPolicy (.nestedTooDeep limit)) ∨
            (level ≤ limit ∧ ∃ children, p = .composite .negation children ∧
              children.length ≠ 1 ∧ error = .invalidPolicy (.malformedNot children.length))) := by
  refine ⟨(validate_eq_ok_iff limit c).trans fault?_eq_none_iff, ?_⟩
  intro error
  rw [validate_eq_error_iff]
  simp only [fault?_eq_some_iff, ownFault?_eq_some_iff]
  constructor
  · rintro ⟨fault, ⟨before, level, p, after, hsplit, hbefore, hfault⟩, rfl⟩
    refine ⟨before, level, p, after, hsplit, hbefore, ?_⟩
    rcases hfault with ⟨hlt, rfl⟩ | ⟨hle, children, hp, hn, rfl⟩
    · exact .inl ⟨hlt, rfl⟩
    · exact .inr ⟨hle, children, hp, hn, rfl⟩
  · rintro ⟨before, level, p, after, hsplit, hbefore, ⟨hlt, rfl⟩ | ⟨hle, children, hp, hn, rfl⟩⟩
    · exact ⟨_, ⟨before, level, p, after, hsplit, hbefore, .inl ⟨hlt, rfl⟩⟩, rfl⟩
    · exact ⟨_, ⟨before, level, p, after, hsplit, hbefore, .inr ⟨hle, children, hp, hn, rfl⟩⟩, rfl⟩

/-- A malformed NOT below the limit is reported for where it lies. -/
example : (Condition.composite .negation [.composite .negation []]).validate 1 =
    .error (.invalidPolicy (.nestedTooDeep 1)) := rfl

end AccessControl.Condition
