import AccessControl.Proofs.Codec.Text
import AccessControl.Proofs.Condition.Validated

/-!
Exporting what a store holds. The limit on the depth of conditions and that of the JSON reader do
not fit together: a condition as deep as the default limit allows can be stored and written out, and
no reader takes it back.
-/

namespace AccessControl

/-- Composites add no numbers of their own. -/
theorem Condition.numbers_wrap (connective : Connective) (c : Condition) :
    ∀ times, (wrap connective c times).toJson.numbers = c.toJson.numbers
  | 0 => rfl
  | times + 1 => by
    have ih := numbers_wrap connective c times
    simp only [wrap, toJson, toJsonList, Json.numbers, Json.itemNumbers, Json.entryNumbers,
      List.nil_append, List.append_nil, ih]

namespace Policy

/-- What a store with the default limit takes in, when its literals are finite scalars. -/
structure Storable (p : Policy) : Prop where
  accepted : p.validate 64 = .ok ()
  fits : p.fits = true
  scalars : p.condition.hasScalars = true

variable {p : Policy}

theorem Storable.depth_le (h : p.Storable) : p.condition.depth ≤ 64 := by
  have hvalid := (validate_eq_ok_iff.mp h.accepted).2.2
  have := Condition.depth_le_of_faultAt ((Condition.validate_eq_ok_iff 64 p.condition).mp hvalid)
  omega

theorem Storable.depth_toJson (h : p.Storable) : p.toJson.depth = 2 * p.condition.depth + 1 :=
  Policy.depth_toJson h.scalars

/-- The text of a condition at the default limit is too deep for every reader of policies. -/
theorem Storable.ofText?_eq_none (h : p.Storable) (hdepth : p.condition.depth = 64) :
    ofText? p.toJson.write = none := by
  have hdeep : Json.maxDepth < p.toJson.depth := by
    rw [h.depth_toJson, hdepth]
    decide
  rw [ofText?, Json.read_write_eq_none p.finite_toJson (covers_outline p) hdeep, Option.bind_none]

theorem Storable.comes_back_iff (h : p.Storable) :
    ofText? p.toJson.write = some p ↔
      p.condition.depth ≠ 64 ∧ ∀ n ∈ p.condition.toJson.numbers, n.reread? = some n := by
  have hlimit := h.depth_le
  have hdepth : p.toJson.depth ≤ Json.maxDepth ↔ p.condition.depth ≠ 64 := by
    rw [h.depth_toJson, Json.maxDepth]
    omega
  rw [ofText?_write_iff h.fits, hdepth]

/-- In a file, where a list stands around the policies, one level less is left. -/
theorem file_comes_back_iff {ps : List Policy} (h : ∀ p ∈ ps, p.Storable) :
    listOfText? (listToJson ps).write = some ps ↔
      ∀ p ∈ ps, p.condition.depth < 63 ∧
        ∀ n ∈ p.condition.toJson.numbers, n.reread? = some n := by
  rw [listOfText?_write_iff fun p hp => (h p hp).fits]
  refine forall₂_congr fun p hp => and_congr_left' ?_
  rw [(h p hp).depth_toJson, Json.maxDepth]
  omega

/-- A stored policy comes back from its own text exactly when its condition is not as deep as the
default limit allows and every number in it comes back from its text; at the limit the text is
refused. A file of stored policies comes back exactly when each stays two levels below the limit and
keeps its numbers. -/
theorem storable_come_back_iff {ps : List Policy} (h : ∀ p ∈ ps, p.Storable) :
    (∀ p ∈ ps,
      (ofText? p.toJson.write = some p ↔
        p.condition.depth ≠ 64 ∧ ∀ n ∈ p.condition.toJson.numbers, n.reread? = some n) ∧
      (p.condition.depth = 64 → ofText? p.toJson.write = none)) ∧
    (listOfText? (listToJson ps).write = some ps ↔
      ∀ p ∈ ps, p.condition.depth < 63 ∧
        ∀ n ∈ p.condition.toJson.numbers, n.reread? = some n) :=
  ⟨fun p hp => ⟨(h p hp).comes_back_iff, (h p hp).ofText?_eq_none⟩, file_comes_back_iff h⟩

theorem Storable.of_isNone (haccepted : (p.fault? 64).isNone = true) (hfits : p.fits = true)
    (hscalars : p.condition.hasScalars = true) : p.Storable :=
  ⟨by rw [validate, Option.isNone_iff_eq_none.mp haccepted], hfits, hscalars⟩

/-- A policy that asks for a load below a bound, under so many NOTs. -/
def below (bound : Float) (times : Nat) : Policy where
  id := .ofDigit 1
  name := "below"
  accessTypes := .ofList [.read]
  condition := .wrap .negation
    (.comparison .lessThan (.attribute ⟨.context, "load"⟩) (.literal (.number bound))) times

theorem storable_below_half : (below 0.5 62).Storable :=
  .of_isNone (by decide +kernel) (by decide +kernel) (by decide +kernel)

/-- One level below the limit, with a number that comes back. -/
theorem below_half_comes_back :
    (below 0.5 62).Storable ∧ ofText? (below 0.5 62).toJson.write = some (below 0.5 62) := by
  have hnumber : (Json.Number.float 0.5).reread? = some (.float 0.5) := by
    have hread := Json.Number.reread?_positional (x := 0.5) (by decide +kernel)
      (rfl : Json.NumberLiteral.ofChars? "0.5".toList = some ⟨false, ['0'], ['5'], none⟩)
      rfl nofun (by decide +kernel) (by decide +kernel)
    have hquotient : Float.ofNat 5 / Decimal.powerOfTen 1 = 0.5 := by decide +kernel
    exact hread.trans (congrArg (fun x => some (Json.Number.float x)) hquotient)
  have hnumbers : (below 0.5 62).condition.toJson.numbers = [.float 0.5] :=
    Condition.numbers_wrap ..
  have hall := storable_come_back_iff (List.forall_mem_singleton.mpr storable_below_half)
  refine ⟨storable_below_half, ((hall.1 _ List.mem_cons_self).1).mpr ⟨by decide +kernel, ?_⟩⟩
  rw [hnumbers]
  exact List.forall_mem_singleton.mpr hnumber

/-- At the limit the text is refused; and a number may come back as its neighbour. -/
theorem below_lost :
    ((below 0.5 63).Storable ∧ ofText? (below 0.5 63).toJson.write = none) ∧
      (below 2251799813685247.75 0).Storable ∧
        ofText? (below 2251799813685247.75 0).toJson.write ≠
          some (below 2251799813685247.75 0) := by
  have hdeep : (below 0.5 63).Storable :=
    .of_isNone (by decide +kernel) (by decide +kernel) (by decide +kernel)
  have hflat : (below 2251799813685247.75 0).Storable :=
    .of_isNone (by decide +kernel) (by decide +kernel) (by decide +kernel)
  refine ⟨⟨hdeep, hdeep.ofText?_eq_none (by decide +kernel)⟩, hflat, ?_⟩
  intro h
  have hsame := ((ofText?_write_iff hflat.fits).mp h).2 (.float 2251799813685247.75)
    (List.mem_singleton_self _)
  have hread := Json.Number.reread?_positional (x := 2251799813685247.75) (by decide +kernel)
    (rfl : Json.NumberLiteral.ofChars? "2251799813685247.8".toList =
      some ⟨false, "2251799813685247".toList, ['8'], none⟩)
    rfl nofun (by decide +kernel) (by decide +kernel)
  have hquotient : Float.ofNat 22517998136852478 / Decimal.powerOfTen 1 = 2251799813685247.75 :=
    Json.Number.float.inj (Option.some.inj (hread.symm.trans hsame))
  revert hquotient
  decide +kernel

end Policy

end AccessControl
