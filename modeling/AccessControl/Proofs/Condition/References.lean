import AccessControl.Proofs.Condition.Lookups
import Mathlib.Data.List.Flatten

/-!
The attributes that a condition refers to. Deciding a condition looks up some of them, in the order
in which they are written and each at most once, and what it does not look up has no part in the
verdict.
-/

namespace AccessControl

namespace Condition

mutual

/-- All references in a condition as they are written, whether deciding comes to them or not. -/
def references : Condition → List AttributeRef
  | .comparison _ left right => left.reference?.toList ++ right.reference?.toList
  | .composite _ children => referencesList children

def referencesList : List Condition → List AttributeRef
  | [] => []
  | c :: cs => references c ++ referencesList cs

end

mutual

/-- The comparisons in a condition, from left to right. -/
def comparisons : Condition → List Condition
  | .comparison function left right => [.comparison function left right]
  | .composite _ children => comparisonsList children

def comparisonsList : List Condition → List Condition
  | [] => []
  | c :: cs => comparisons c ++ comparisonsList cs

end

mutual

/-- The references of a condition are those of its comparisons. -/
theorem references_eq_flatMap : ∀ c : Condition, c.references = c.comparisons.flatMap references
  | .comparison _ _ _ => by rw [comparisons, List.flatMap_singleton]
  | .composite _ children => referencesList_eq_flatMap children

theorem referencesList_eq_flatMap :
    ∀ cs : List Condition, referencesList cs = (comparisonsList cs).flatMap references
  | [] => rfl
  | c :: cs => by
    rw [referencesList, comparisonsList, List.flatMap_append, references_eq_flatMap c,
      referencesList_eq_flatMap cs]

end

/-- Some comparisons were visited, in their order, and both sides of each one were looked up. -/
def Visits (reads : List AttributeRef) (cs : List Condition) : Prop :=
  ∃ visited : List Condition, visited.Sublist cs ∧ reads = visited.flatMap references

variable {limit level : Nat} {lookup : Lookup} {pass : Bool} {reads more : List AttributeRef}
  {cs ds : List Condition}

theorem Visits.none (cs : List Condition) : Visits [] cs :=
  ⟨[], cs.nil_sublist, rfl⟩

theorem Visits.append (h : Visits reads cs) (hmore : Visits more ds) :
    Visits (reads ++ more) (cs ++ ds) := by
  obtain ⟨visited, hsub, rfl⟩ := h
  obtain ⟨later, hlater, rfl⟩ := hmore
  exact ⟨visited ++ later, hsub.append hlater, List.flatMap_append.symm⟩

theorem Visits.append_right (h : Visits reads cs) (ds : List Condition) :
    Visits reads (cs ++ ds) := by
  have happend := h.append (Visits.none ds)
  rwa [List.append_nil] at happend

theorem Visits.sublist {c : Condition} (h : Visits reads c.comparisons) :
    reads.Sublist c.references := by
  obtain ⟨visited, hsub, rfl⟩ := h
  rw [references_eq_flatMap c]
  exact hsub.flatMap references

theorem holdsBetween_reads_eq (function : Comparison) (left right : Operand) :
    (holdsBetween lookup function left right).reads =
      references (.comparison function left right) := by
  have hside : ∀ o : Operand, (o.resolve lookup).reads = o.reference?.toList := by
    intro o
    cases o <;> rfl
  rw [holdsBetween_reads, hside, hside, references]

theorem visits_tracedInTurn {decide : Condition → Traced (Option Bool)}
    (h : ∀ c ∈ cs, Visits (decide c).reads c.comparisons) :
    Visits (tracedInTurn pass (cs.map decide)).reads (comparisonsList cs) := by
  induction cs with
  | nil => exact .none _
  | cons c cs ih =>
    obtain ⟨hc, hcs⟩ := List.forall_mem_cons.mp h
    rw [List.map_cons, comparisonsList]
    by_cases hpass : (decide c).value = some pass
    · rw [reads_tracedInTurn_of_passes hpass]
      exact hc.append (ih hcs)
    · -- The rest of the children are written, but not visited.
      rw [tracedInTurn_of_not_passes hpass]
      exact hc.append_right _

theorem visits_decideAt (c : Condition) :
    Visits (decideAt limit lookup level c).reads c.comparisons := by
  induction c generalizing level with
  | comparison function left right =>
    by_cases hlevel : limit < level
    · rw [decideAt_of_limit_lt lookup hlevel]
      exact .none _
    · rw [decideAt, if_neg hlevel, comparisons]
      refine ⟨[.comparison function left right], List.Sublist.refl _, ?_⟩
      rw [List.flatMap_singleton]
      exact holdsBetween_reads_eq function left right
  | composite connective children ih =>
    by_cases hlevel : limit < level
    · rw [decideAt_of_limit_lt lookup hlevel]
      exact .none _
    rcases composite_cases connective children with ⟨pass, hk⟩ | ⟨rfl, d, rfl⟩ | ⟨rfl, hn⟩
    · rw [decideAt_of_passing limit lookup level hk, if_neg hlevel, comparisons]
      exact visits_tracedInTurn fun d hd => ih d hd
    · rw [decideAt_not, if_neg hlevel, comparisons, comparisonsList]
      exact (ih d List.mem_cons_self).append_right _
    · rw [decideAt_malformedNot limit lookup level hn]
      exact .none _

variable (evaluator : Evaluator)

theorem evaluate_eq_of_agree {lookup' : Lookup} {c : Condition}
    (h : ∀ r ∈ (c.evaluate evaluator lookup).reads, lookup' r = lookup r) :
    c.evaluate evaluator lookup' = c.evaluate evaluator lookup := by
  rw [evaluate, evaluate, decideAt_eq_of_agree h]

/-- Attributes that a condition does not refer to have no part in it. -/
theorem evaluate_congr {lookup' : Lookup} {c : Condition}
    (h : ∀ r ∈ references c, lookup r = lookup' r) :
    c.evaluate evaluator lookup = c.evaluate evaluator lookup' := by
  refine (evaluate_eq_of_agree evaluator ?_).symm
  intro r hr
  exact (h r ((visits_decideAt c).sublist.subset hr)).symm

/-- Deciding looks up some of the attributes that a condition refers to, in the order in which they
are written and no occurrence twice: those of the comparisons that it visits, both sides of each.
Any lookup that gives the same answers to these is asked for the same ones in the same order and
leads to the same result, whatever it answers elsewhere. -/
theorem evaluate_rests_on_reads (lookup : Lookup) (c : Condition) :
    (c.evaluate evaluator lookup).reads.Sublist c.references ∧
      (∃ visited : List Condition, visited.Sublist c.comparisons ∧
        (c.evaluate evaluator lookup).reads = visited.flatMap references) ∧
      ∀ lookup', (∀ r ∈ (c.evaluate evaluator lookup).reads, lookup' r = lookup r) →
        (c.evaluate evaluator lookup').reads = (c.evaluate evaluator lookup).reads ∧
          (c.evaluate evaluator lookup').value = (c.evaluate evaluator lookup).value := by
  have hvisits : Visits (c.evaluate evaluator lookup).reads c.comparisons := visits_decideAt c
  refine ⟨hvisits.sublist, hvisits, ?_⟩
  intro lookup' h
  have heq := evaluate_eq_of_agree evaluator h
  exact ⟨congrArg Traced.reads heq, congrArg Traced.value heq⟩

/-- Work in the lab, on a unit that is switched off. -/
def labWork : Condition :=
  .composite .all [
    compare .equals ⟨.principal, "department"⟩ (.text "Lab"),
    .composite .negation [compare .equals ⟨.resource, "running"⟩ (.boolean true)]]

/-- A visitor from another department, whatever there is to know besides. -/
def visitorOf (others : Option AttributeValue) : Lookup := fun r =>
  if r = ⟨.principal, "department"⟩ then some (.text "Office") else others

/-- The department settles it, so nobody asks whether the unit is running. -/
theorem labWork_unit_unread :
    (labWork.evaluate (.ofLimit 64) (visitorOf none)).reads = [⟨.principal, "department"⟩] ∧
      (labWork.evaluate (.ofLimit 64) (visitorOf (some (.boolean true)))).reads =
        (labWork.evaluate (.ofLimit 64) (visitorOf none)).reads ∧
      (labWork.evaluate (.ofLimit 64) (visitorOf (some (.boolean true)))).value =
        (labWork.evaluate (.ofLimit 64) (visitorOf none)).value := by
  have hreads :
      (labWork.evaluate (.ofLimit 64) (visitorOf none)).reads = [⟨.principal, "department"⟩] := rfl
  refine ⟨hreads, (evaluate_rests_on_reads (.ofLimit 64) (visitorOf none) labWork).2.2 _ ?_⟩
  rw [hreads]
  exact List.forall_mem_singleton.mpr rfl

end Condition

end AccessControl
