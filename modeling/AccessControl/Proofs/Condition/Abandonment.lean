import AccessControl.Proofs.Condition.Meaning

/-!
When a condition is given up. AND and OR leave out the children after the first one that settles
them, so an offending part counts only where deciding comes to it: a tree that no policy may carry
can still be found to hold.
-/

namespace AccessControl.Condition

/-- The second condition is a part of the first one to which deciding comes when nothing before it
is given up. It lies at the second level when the whole lies at the first. -/
inductive Reached (lookup : Lookup) : Nat → Condition → Nat → Condition → Prop
  | root {level : Nat} {c : Condition} : Reached lookup level c level c
  | among {level m : Nat} {connective : Connective} {pass : Bool} {before after : List Condition}
    {d p : Condition} :
    connective.passing? = some pass → (∀ b ∈ before, holds lookup b = pass) →
      Reached lookup (level + 1) d m p →
      Reached lookup level (.composite connective (before ++ d :: after)) m p
  | negated {level m : Nat} {d p : Condition} :
    Reached lookup (level + 1) d m p → Reached lookup level (.composite .negation [d]) m p

variable {limit level m : Nat} {lookup : Lookup} {c p : Condition}

/-- A reached part is a part, wherever the others of its level stand. -/
theorem Reached.partAt (h : Reached lookup level c m p) : PartAt level c m p := by
  induction h with
  | root => exact .root
  | among _ _ _ ih => exact .child (List.mem_append_right _ List.mem_cons_self) ih
  | negated _ ih => exact .child List.mem_cons_self ih

theorem not_isMalformedNot {connective : Connective} {pass : Bool}
    (hk : connective.passing? = some pass) (children : List Condition) :
    ¬ IsMalformedNot (.composite connective children) := by
  cases connective with
  | all => exact id
  | any => exact id
  | negation => cases hk

theorem verdict_of_offends (h : Offends limit level c) : verdict limit lookup level c = none := by
  cases c with
  | comparison function left right =>
    rw [verdict_comparison, if_pos (h.resolve_right id)]
  | composite connective children =>
    rcases composite_cases connective children with ⟨pass, hk⟩ | ⟨rfl, d, rfl⟩ | ⟨rfl, hn⟩
    · rw [verdict_of_passing limit lookup level hk,
        if_pos (h.resolve_right (not_isMalformedNot hk children))]
    · rw [verdict_not, if_pos (h.resolve_right fun hn => hn rfl)]
    · exact verdict_malformedNot limit lookup level hn

/-- Several children in turn answer what the composite says, if each of them does that or is given
up. -/
theorem inTurn_eq_none_or_holds {connective : Connective} {pass : Bool} {children : List Condition}
    (hk : connective.passing? = some pass)
    (h : ∀ d ∈ children, verdict limit lookup level d = none ∨
      verdict limit lookup level d = some (holds lookup d)) :
    inTurn pass (children.map (verdict limit lookup level)) = none ∨
      inTurn pass (children.map (verdict limit lookup level)) =
        some (holds lookup (.composite connective children)) := by
  have hholds := holds_composite_of_passing lookup hk children
  by_cases hp : inTurn pass (children.map (verdict limit lookup level)) = some pass
  · right
    rw [hp, Option.some.injEq, eq_comm, hholds]
    intro d hd
    have hv := (inTurn_eq_pass_iff pass _).mp hp _ (List.mem_map_of_mem hd)
    rcases h d hd with hn | hs
    · rw [hn] at hv
      cases hv
    · rw [hs] at hv
      exact Option.some.inj hv
  · obtain ⟨d, hd, hv⟩ := List.mem_map.mp (inTurn_mem hp)
    rcases h d hd with hn | hs
    · exact .inl (hv.symm.trans hn)
    · right
      have hdp : holds lookup d ≠ pass := by
        intro hdp
        exact hp (hv.symm.trans (hs.trans (congrArg some hdp)))
      have hcp : holds lookup (.composite connective children) ≠ pass := by
        intro hcp
        exact hdp (hholds.mp hcp d hd)
      rw [← hv, hs, Bool.eq_not.mpr hdp, Bool.eq_not.mpr hcp]

/-- Nothing is answered but what the condition says. -/
theorem verdict_eq_none_or_holds (limit : Nat) (lookup : Lookup) (level : Nat) (c : Condition) :
    verdict limit lookup level c = none ∨
      verdict limit lookup level c = some (holds lookup c) := by
  induction c generalizing level with
  | comparison function left right =>
    rw [verdict_comparison]
    split
    · exact .inl rfl
    · exact .inr (by rw [holds])
  | composite connective children ih =>
    by_cases hlevel : limit < level
    · exact .inl (verdict_of_offends (.inl hlevel))
    rcases composite_cases connective children with ⟨pass, hk⟩ | ⟨rfl, d, rfl⟩ | ⟨rfl, hn⟩
    · rw [verdict_of_passing limit lookup level hk, if_neg hlevel]
      exact inTurn_eq_none_or_holds hk fun d hd => ih d hd (level + 1)
    · rw [verdict_not, if_neg hlevel, holds]
      rcases ih d List.mem_cons_self (level + 1) with h | h
      · exact .inl (by rw [h, Option.map_none])
      · exact .inr (by rw [h, Option.map_some])
    · exact .inl (verdict_malformedNot limit lookup level hn)

theorem holds_of_verdict {b : Bool} (h : verdict limit lookup level c = some b) :
    holds lookup c = b := by
  rcases verdict_eq_none_or_holds limit lookup level c with hn | hs
  · rw [hn] at h
    cases h
  · rw [hs] at h
    exact Option.some.inj h

/-- Going on past verdicts that pass or are given up, a condition given up ends it. -/
theorem inTurn_append_none {pass : Bool} {before : List (Option Bool)}
    (h : ∀ v ∈ before, v = none ∨ v = some pass) (after : List (Option Bool)) :
    inTurn pass (before ++ none :: after) = none := by
  induction before with
  | nil => simp [inTurn]
  | cons v before ih =>
    rcases h v List.mem_cons_self with rfl | rfl
    · simp [inTurn]
    · rw [List.cons_append, inTurn, if_pos rfl]
      exact ih fun w hw => h w (List.mem_cons_of_mem _ hw)

theorem verdict_of_reached (h : Reached lookup level c m p) (ho : Offends limit m p) :
    verdict limit lookup level c = none := by
  induction h with
  | root => exact verdict_of_offends ho
  | @among level m connective pass before after d p hk hb _ ih =>
    rw [verdict_of_passing limit lookup level hk, List.map_append, List.map_cons, ih ho]
    split
    · rfl
    -- A child before may be given up itself, since only what it says is known to pass.
    · apply inTurn_append_none
      intro v hv
      obtain ⟨b, hm, rfl⟩ := List.mem_map.mp hv
      rw [← hb b hm]
      exact verdict_eq_none_or_holds limit lookup (level + 1) b
  | negated _ ih =>
    rw [verdict_not, ih ho]
    simp

/-- A condition is given up exactly when deciding comes to a part that offends. -/
theorem verdict_eq_none_iff (limit : Nat) (lookup : Lookup) (level : Nat) (c : Condition) :
    verdict limit lookup level c = none ↔
      ∃ m p, Reached lookup level c m p ∧ Offends limit m p := by
  refine ⟨fun h => ?_, fun ⟨m, p, hr, ho⟩ => verdict_of_reached hr ho⟩
  induction c generalizing level with
  | comparison function left right =>
    rw [verdict_comparison] at h
    split at h
    · rename_i hlevel
      exact ⟨level, _, .root, .inl hlevel⟩
    · cases h
  | composite connective children ih =>
    by_cases hroot : Offends limit level (.composite connective children)
    · exact ⟨level, _, .root, hroot⟩
    have hlevel : ¬ limit < level := fun hl => hroot (.inl hl)
    rcases composite_cases connective children with ⟨pass, hk⟩ | ⟨rfl, d, rfl⟩ | ⟨rfl, hn⟩
    · rw [verdict_of_passing limit lookup level hk, if_neg hlevel] at h
      have hne : inTurn pass (children.map (verdict limit lookup (level + 1))) ≠ some pass := by
        rw [h]
        simp
      -- The verdict that ends the turn is none; what stands before it are passing verdicts, and
      -- by those the children before the culprit hold as `Reached` asks.
      obtain ⟨before, after, he, hb⟩ := inTurn_split hne
      rw [h] at he
      obtain ⟨bs, rest, rfl, rfl, hrest⟩ := List.map_eq_append_iff.mp he
      obtain ⟨d, ds, rfl, hd, _⟩ := List.map_eq_cons_iff.mp hrest
      obtain ⟨m, p, hr, ho⟩ :=
        ih d (List.mem_append_right _ List.mem_cons_self) (level + 1) hd
      refine ⟨m, p, .among hk ?_ hr, ho⟩
      intro b hm
      exact holds_of_verdict (hb _ (List.mem_map_of_mem hm))
    · rw [verdict_not, if_neg hlevel, Option.map_eq_none_iff] at h
      obtain ⟨m, p, hr, ho⟩ := ih d List.mem_cons_self (level + 1) h
      exact ⟨m, p, .negated hr, ho⟩
    · exact absurd (.inr hn) hroot

theorem evaluate_value (evaluator : Evaluator) (lookup : Lookup) (c : Condition) :
    (c.evaluate evaluator lookup).value =
      (verdict evaluator.maxDepth lookup 1 c).getD false := rfl

/-- A condition is refused for any part that offends, but deciding it answers no only where it
comes to such a part, or where the condition as it stands does not hold. -/
theorem evaluate_eq_false_iff_reached (evaluator : Evaluator) (lookup : Lookup) (c : Condition) :
    (c.validate evaluator.maxDepth ≠ .ok () ↔
      ∃ m p, PartAt 1 c m p ∧ Offends evaluator.maxDepth m p) ∧
    ((c.evaluate evaluator lookup).value = false ↔
      (∃ m p, Reached lookup 1 c m p ∧ Offends evaluator.maxDepth m p) ∨
        c.holds lookup = false) := by
  refine ⟨validate_ne_ok_iff evaluator.maxDepth c, ?_⟩
  rw [evaluate_value, ← verdict_eq_none_iff evaluator.maxDepth lookup 1 c]
  rcases verdict_eq_none_or_holds evaluator.maxDepth lookup 1 c with h | h
  · simp [h]
  · simp [h]

/-- True or else a NOT of nothing. -/
def trueOrMalformed : Condition :=
  .composite .any
    [.comparison .equals (.literal (.boolean true)) (.literal (.boolean true)),
      .composite .negation []]

/-- OR stops at its first child, and the NOT of nothing after it goes unnoticed. -/
theorem trueOrMalformed_refused_but_holds :
    trueOrMalformed.validate 64 = .error (.invalidPolicy (.malformedNot 0)) ∧
      (trueOrMalformed.evaluate (.ofLimit 64) fun _ => none).value = true :=
  ⟨rfl, rfl⟩

end AccessControl.Condition
