import AccessControl.Proofs.Condition.Deciding
import AccessControl.Proofs.Condition.Parts

/-!
What was looked up settles a verdict. A lookup that gives the same answers to what deciding asked of
another one is asked the same, in the same order, and the verdict is the same.
-/

namespace AccessControl

variable {lookup lookup' : Lookup}

theorem Operand.resolve_eq_of_agree {operand : Operand}
    (h : ∀ r ∈ (operand.resolve lookup).reads, lookup' r = lookup r) :
    operand.resolve lookup' = operand.resolve lookup := by
  rcases operand with reference | value
  · have hr : lookup' reference = lookup reference := h reference (List.mem_singleton_self _)
    rw [resolve, resolve, hr]
  · rfl

namespace Condition

variable {limit level : Nat} {pass : Bool} {t : Traced (Option Bool)}
  {ts : List (Traced (Option Bool))}

/-- Both sides of a comparison are looked up, even where the left one is missing. -/
theorem holdsBetween_reads (lookup : Lookup) (function : Comparison) (left right : Operand) :
    (holdsBetween lookup function left right).reads =
      (left.resolve lookup).reads ++ (right.resolve lookup).reads := rfl

theorem holdsBetween_eq_of_agree {function : Comparison} {left right : Operand}
    (h : ∀ r ∈ (holdsBetween lookup function left right).reads, lookup' r = lookup r) :
    holdsBetween lookup' function left right = holdsBetween lookup function left right := by
  rw [holdsBetween_reads, List.forall_mem_append] at h
  have hleft := Operand.resolve_eq_of_agree h.1
  have hright := Operand.resolve_eq_of_agree h.2
  rw [holdsBetween, holdsBetween, hleft, hright]

theorem reads_tracedInTurn_of_passes (h : t.value = some pass) :
    (tracedInTurn pass (t :: ts)).reads = t.reads ++ (tracedInTurn pass ts).reads := by
  rw [tracedInTurn, if_pos h]
  rfl

theorem tracedInTurn_of_not_passes (h : t.value ≠ some pass) :
    tracedInTurn pass (t :: ts) = t := by
  rw [tracedInTurn, if_neg h]

/-- Going through conditions comes out alike where each one that it comes to does. -/
theorem tracedInTurn_eq_of_agree {decide decide' : Condition → Traced (Option Bool)}
    {cs : List Condition}
    (h : ∀ c ∈ cs, (∀ r ∈ (decide c).reads, lookup' r = lookup r) → decide' c = decide c)
    (hagree : ∀ r ∈ (tracedInTurn pass (cs.map decide)).reads, lookup' r = lookup r) :
    tracedInTurn pass (cs.map decide') = tracedInTurn pass (cs.map decide) := by
  induction cs with
  | nil => rfl
  | cons c cs ih =>
    obtain ⟨hc, hcs⟩ := List.forall_mem_cons.mp h
    rw [List.map_cons, List.map_cons] at *
    -- The first child is read for sure, so it comes out alike, and both go on from it or neither.
    by_cases hpass : (decide c).value = some pass
    · rw [reads_tracedInTurn_of_passes hpass, List.forall_mem_append] at hagree
      rw [tracedInTurn, tracedInTurn, hc hagree.1, ih hcs hagree.2]
    · rw [tracedInTurn_of_not_passes hpass] at hagree
      rw [hc hagree, tracedInTurn_of_not_passes hpass, tracedInTurn_of_not_passes hpass]

theorem decideAt_eq_of_agree {c : Condition}
    (h : ∀ r ∈ (decideAt limit lookup level c).reads, lookup' r = lookup r) :
    decideAt limit lookup' level c = decideAt limit lookup level c := by
  induction c generalizing level with
  | comparison function left right =>
    by_cases hlevel : limit < level
    · rw [decideAt_of_limit_lt lookup hlevel, decideAt_of_limit_lt lookup' hlevel]
    · rw [decideAt, if_neg hlevel] at h ⊢
      rw [decideAt, if_neg hlevel, holdsBetween_eq_of_agree h]
  | composite connective children ih =>
    by_cases hlevel : limit < level
    · rw [decideAt_of_limit_lt lookup hlevel, decideAt_of_limit_lt lookup' hlevel]
    rcases composite_cases connective children with ⟨pass, hk⟩ | ⟨rfl, d, rfl⟩ | ⟨rfl, hn⟩
    · rw [decideAt_of_passing limit lookup level hk, if_neg hlevel] at h ⊢
      rw [decideAt_of_passing limit lookup' level hk, if_neg hlevel]
      exact tracedInTurn_eq_of_agree (fun d hd => ih d hd) h
    · rw [decideAt_not, if_neg hlevel] at h ⊢
      rw [decideAt_not, if_neg hlevel, ih d List.mem_cons_self h]
    · rw [decideAt_malformedNot limit lookup level hn, decideAt_malformedNot limit lookup' level hn]

end Condition

end AccessControl
