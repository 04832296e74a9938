import AccessControl.Proofs.Condition.Abandonment

/-!
The laws of NOT, for any children and under any limit. Both sides of De Morgan's laws come to each
child at the same level and go on past the same ones, so they are given up together and look up the
same. Only without children do they reach different levels.
-/

namespace AccessControl

namespace Condition

/-- The contrary of a condition. -/
def negate (c : Condition) : Condition :=
  .composite .negation [c]

theorem tracedInTurn_map_not (pass : Bool) (ts : List (Traced (Option Bool))) :
    (tracedInTurn pass ts).map (Option.map not) =
      tracedInTurn (!pass) (ts.map (Traced.map (Option.map not))) := by
  induction ts with
  | nil => rfl
  | cons t ts ih =>
    have hpass : (t.map (Option.map not)).value = some (!pass) ↔ t.value = some pass := by
      rw [Traced.value_map]
      cases t.value <;> simp
    rw [List.map_cons, tracedInTurn, tracedInTurn]
    by_cases h : t.value = some pass
    · rw [if_pos h, if_pos (hpass.mpr h), ← ih]
      rfl
    · rw [if_neg h, if_neg fun hnot => h (hpass.mp hnot)]

variable {limit level : Nat} {lookup : Lookup} {connective dual : Connective} {pass : Bool}

theorem decideAt_negate (h : level ≤ limit) (c : Condition) :
    decideAt limit lookup level (negate c) =
      (decideAt limit lookup (level + 1) c).map (Option.map not) := by
  rw [negate, decideAt_not, if_neg (Nat.not_lt.mpr h)]

/-- De Morgan's laws where there is room for the inner connective. -/
theorem decideAt_negate_composite (hk : connective.passing? = some pass)
    (hdual : dual.passing? = some (!pass)) (h : level < limit) (cs : List Condition) :
    decideAt limit lookup level (negate (.composite connective cs)) =
      decideAt limit lookup level (.composite dual (cs.map negate)) := by
  have hnots : (cs.map negate).map (decideAt limit lookup (level + 1)) =
      (cs.map (decideAt limit lookup (level + 2))).map (Traced.map (Option.map not)) := by
    rw [List.map_map, List.map_map]
    exact List.map_congr_left fun c _ => decideAt_negate h c
  have hlevel := Nat.le_of_lt h
  rw [decideAt_negate hlevel, decideAt_of_passing _ _ _ hk, if_neg (Nat.not_lt.mpr h),
    decideAt_of_passing _ _ _ hdual, if_neg (Nat.not_lt.mpr hlevel), hnots, tracedInTurn_map_not]

/-- At the limit nothing below is decided. -/
theorem decideAt_negate_at_limit (c : Condition) :
    decideAt limit lookup limit (negate c) = .pure none := by
  rw [decideAt_negate (Nat.le_refl limit), decideAt_of_limit_lt lookup (Nat.lt_succ_self limit),
    Traced.map_pure, Option.map_none]

theorem decideAt_composite_at_limit (hk : connective.passing? = some pass) (c : Condition)
    (cs : List Condition) :
    decideAt limit lookup limit (.composite connective (c :: cs)) = .pure none := by
  have hstop : (Traced.pure (none : Option Bool)).value ≠ some pass :=
    (Option.some_ne_none pass).symm
  rw [decideAt_of_passing _ _ _ hk, if_neg (Nat.lt_irrefl limit), List.map_cons,
    decideAt_of_limit_lt lookup (Nat.lt_succ_self limit), tracedInTurn, if_neg hstop]

theorem decideAt_composite_nil (hk : connective.passing? = some pass) (h : level ≤ limit) :
    decideAt limit lookup level (.composite connective []) = .pure (some pass) := by
  rw [decideAt_of_passing _ _ _ hk, if_neg (Nat.not_lt.mpr h), List.map_nil, tracedInTurn]

/-- Only how far a condition lies above the limit counts. -/
theorem decideAt_add (k : Nat) (c : Condition) :
    decideAt (limit + k) lookup (level + k) c = decideAt limit lookup level c := by
  induction c generalizing level with
  | comparison function left right =>
    rw [decideAt, decideAt]
    simp only [Nat.add_lt_add_iff_right]
  | composite connective children ih =>
    have hchildren : ∀ d ∈ children,
        decideAt (limit + k) lookup (level + k + 1) d = decideAt limit lookup (level + 1) d := by
      intro d hd
      rw [Nat.add_right_comm]
      exact ih d hd
    rcases composite_cases connective children with ⟨pass, hk⟩ | ⟨rfl, d, rfl⟩ | ⟨rfl, hn⟩
    · rw [decideAt_of_passing _ _ _ hk, decideAt_of_passing _ _ _ hk,
        List.map_congr_left hchildren]
      simp only [Nat.add_lt_add_iff_right]
    · rw [decideAt_not, decideAt_not, hchildren d List.mem_cons_self]
      simp only [Nat.add_lt_add_iff_right]
    · rw [decideAt_malformedNot _ _ _ hn, decideAt_malformedNot _ _ _ hn]

/-- Two NOTs cost two levels and leave the rest as it was. -/
theorem decideAt_negate_negate (h : level ≤ limit) (c : Condition) :
    decideAt (limit + 2) lookup level (negate (negate c)) = decideAt limit lookup level c := by
  have htwice : ∀ v : Option Bool, (v.map not).map not = v := by
    intro v
    cases v <;> simp
  rw [decideAt_negate (by omega), decideAt_negate (by omega), Traced.map_map, decideAt_add 2 c]
  simp only [htwice]
  rfl

/-- An AND or OR under a NOT against the other one over NOTs, from the first level: where the limit
leaves one level only, they part without children, as then the second one still has its say. -/
theorem evaluate_negate_composite (evaluator : Evaluator) (hk : connective.passing? = some pass)
    (hdual : dual.passing? = some (!pass)) (cs : List Condition) :
    (negate (.composite connective cs)).evaluate evaluator lookup =
        (composite dual (cs.map negate)).evaluate evaluator lookup ↔
      pass = true ∨ cs ≠ [] ∨ 2 ≤ evaluator.maxDepth := by
  rw [evaluate, evaluate]
  by_cases hdepth : 2 ≤ evaluator.maxDepth
  · simp [decideAt_negate_composite hk hdual hdepth, hdepth]
  -- Only the first level is left, where a NOT around anything is given up.
  have hone := evaluator.one_le_maxDepth
  have hlimit : evaluator.maxDepth = 1 := by omega
  rw [hlimit, decideAt_negate_at_limit]
  cases cs with
  | nil =>
    rw [List.map_nil, decideAt_composite_nil hdual (Nat.le_refl 1), Traced.map_pure,
      Traced.map_pure]
    cases pass <;> simp [Traced.pure]
  | cons c cs =>
    rw [List.map_cons, decideAt_composite_at_limit hdual]
    simp

/-- NOT of AND is OR of NOTs, and NOT of OR is AND of NOTs, for any children and limit, in what is
decided and in what is looked up; the second one only when there are children or the limit leaves
two levels. NOT of NOT is the condition itself under a limit that is lower by two. -/
theorem negation_laws (lookup : Lookup) :
    (∀ limit cs, (negate (.composite .all cs)).evaluate (.ofLimit limit) lookup =
      (composite .any (cs.map negate)).evaluate (.ofLimit limit) lookup) ∧
    (∀ limit cs, (negate (.composite .any cs)).evaluate (.ofLimit limit) lookup =
        (composite .all (cs.map negate)).evaluate (.ofLimit limit) lookup ↔
      cs ≠ [] ∨ 2 ≤ (Evaluator.ofLimit limit).maxDepth) ∧
    ∀ limit c, 1 ≤ limit → (negate (negate c)).evaluate (.ofLimit (limit + 2)) lookup =
      c.evaluate (.ofLimit limit) lookup := by
  refine ⟨?_, ?_, ?_⟩
  · intro limit cs
    exact (evaluate_negate_composite (.ofLimit limit) rfl rfl cs).mpr (.inl rfl)
  · intro limit cs
    have hlaw : (negate (.composite .any cs)).evaluate (.ofLimit limit) lookup =
        (composite .all (cs.map negate)).evaluate (.ofLimit limit) lookup ↔
          false = true ∨ cs ≠ [] ∨ 2 ≤ (Evaluator.ofLimit limit).maxDepth :=
      evaluate_negate_composite (.ofLimit limit) rfl rfl cs
    simpa using hlaw
  · intro limit c hlimit
    have hdeep : (Evaluator.ofLimit (limit + 2)).maxDepth = limit + 2 := Nat.max_eq_left (by omega)
    have hshallow : (Evaluator.ofLimit limit).maxDepth = limit := Nat.max_eq_left hlimit
    rw [evaluate, evaluate, hdeep, hshallow, decideAt_negate_negate hlimit c]

/-- A malformed part behind the child that settles an OR goes unnoticed under two NOTs as well. -/
theorem trueOrMalformed_twice_negated :
    1 ≤ 2 ∧ ((negate (negate trueOrMalformed)).evaluate (.ofLimit 4) fun _ => none) =
      ⟨true, []⟩ := by
  have hlimit : 1 ≤ 2 := by decide
  exact ⟨hlimit, (negation_laws fun _ => none).2.2 2 trueOrMalformed hlimit⟩

end Condition

end AccessControl
