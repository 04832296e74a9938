import AccessControl.Id
import AccessControl.Proofs.Codec.Fields

/-!
The grouped form of an identifier reads back. Its hyphens stand where they are looked for, and
between them stand the digits.
-/

namespace AccessControl.Id

theorem digit?_digitChar : ∀ d : Fin 16, digit? (digitChar d) = some d := by
  decide

theorem ofPlain?_digits (id : Id) : ofPlain? (id.digits.map digitChar) = some id := by
  have hdigits : (id.digits.map digitChar).mapM digit? = some id.digits :=
    mapM_map_of_forall fun d _ => digit?_digitChar d
  simp [ofPlain?, hdigits, id.length_eq]

/-- What stands at the places of hyphens, in characters of which the first has some place. -/
def atHyphens (start : Nat) (cs : List Char) : List (Char × Nat) :=
  (cs.zipIdx start).filter fun p => isHyphenPlace p.2

/-- What stands at all other places. -/
def besideHyphens (start : Nat) (cs : List Char) : List Char :=
  ((cs.zipIdx start).filter fun p => !isHyphenPlace p.2).map (·.1)

theorem ofGrouped?_eq (cs : List Char) :
    ofGrouped? cs =
      if (atHyphens 0 cs).all (·.1 == '-') then ofPlain? (besideHyphens 0 cs) else none := rfl

/-- No hyphen has a place among so many places. -/
def Between (start length : Nat) : Prop :=
  ∀ i < length, isHyphenPlace (start + i) = false

instance (start length : Nat) : Decidable (Between start length) :=
  inferInstanceAs (Decidable (∀ i < length, isHyphenPlace (start + i) = false))

theorem Between.place {start : Nat} {group : List Char} (h : Between start group.length)
    {p : Char × Nat} (hp : p ∈ group.zipIdx start) : isHyphenPlace p.2 = false := by
  obtain ⟨hlow, hhigh, _⟩ := List.mem_zipIdx (x := p.1) (i := p.2) hp
  have hplace := h (p.2 - start) (by omega)
  rwa [Nat.add_sub_cancel' hlow] at hplace

theorem Between.atHyphens_eq {start : Nat} {group : List Char} (h : Between start group.length) :
    atHyphens start group = [] := by
  refine List.filter_eq_nil_iff.mpr ?_
  intro p hp
  simp [h.place hp]

theorem Between.besideHyphens_eq {start : Nat} {group : List Char}
    (h : Between start group.length) : besideHyphens start group = group := by
  have hall : (group.zipIdx start).filter (fun p => !isHyphenPlace p.2) = group.zipIdx start := by
    refine List.filter_eq_self.mpr ?_
    intro p hp
    simp [h.place hp]
  rw [besideHyphens, hall, List.zipIdx_map_fst]

variable {start length : Nat} {group rest : List Char}

/-- A group of digits up to the next hyphen. -/
theorem Between.atHyphens_append (h : Between start length) (hlength : group.length = length)
    (hplace : isHyphenPlace (start + length) = true) :
    atHyphens start (group ++ '-' :: rest) =
      ('-', start + length) :: atHyphens (start + length + 1) rest := by
  subst hlength
  have hgroup := h.atHyphens_eq
  rw [atHyphens] at *
  rw [List.zipIdx_append, List.filter_append, hgroup, List.zipIdx_cons, List.filter_cons, hplace]
  rfl

theorem Between.besideHyphens_append (h : Between start length) (hlength : group.length = length)
    (hplace : isHyphenPlace (start + length) = true) :
    besideHyphens start (group ++ '-' :: rest) =
      group ++ besideHyphens (start + length + 1) rest := by
  subst hlength
  have hgroup := h.besideHyphens_eq
  rw [besideHyphens] at *
  rw [List.zipIdx_append, List.filter_append, List.map_append, hgroup, List.zipIdx_cons,
    List.filter_cons, hplace]
  rfl

theorem take_append_drop_add (cs : List Char) (m n : Nat) :
    (cs.drop m).take n ++ cs.drop (m + n) = cs.drop m := by
  rw [← List.drop_drop, List.take_append_drop]

/-- The grouped form of characters. -/
def grouped (cs : List Char) : List Char :=
  cs.take 8 ++ '-' :: ((cs.drop 8).take 4 ++ '-' :: ((cs.drop 12).take 4 ++
    '-' :: ((cs.drop 16).take 4 ++ '-' :: cs.drop 20)))

theorem ofGrouped?_grouped {cs : List Char} (h : cs.length = 32) :
    ofGrouped? (grouped cs) = ofPlain? cs := by
  have h₁ : (cs.take 8).length = 8 := by simp [h]
  have h₂ : ((cs.drop 8).take 4).length = 4 := by simp [h]
  have h₃ : ((cs.drop 12).take 4).length = 4 := by simp [h]
  have h₄ : ((cs.drop 16).take 4).length = 4 := by simp [h]
  have h₅ : (cs.drop 20).length = 12 := by simp [h]
  have hlast : Between 24 (cs.drop 20).length := by
    rw [h₅]
    decide
  have hhyphens : (atHyphens 0 (grouped cs)).all (·.1 == '-') = true := by
    rw [grouped, Between.atHyphens_append (by decide) h₁ rfl,
      Between.atHyphens_append (by decide) h₂ rfl, Between.atHyphens_append (by decide) h₃ rfl,
      Between.atHyphens_append (by decide) h₄ rfl, hlast.atHyphens_eq]
    rfl
  have hdigits : besideHyphens 0 (grouped cs) = cs := by
    rw [grouped, Between.besideHyphens_append (by decide) h₁ rfl,
      Between.besideHyphens_append (by decide) h₂ rfl,
      Between.besideHyphens_append (by decide) h₃ rfl,
      Between.besideHyphens_append (by decide) h₄ rfl, hlast.besideHyphens_eq,
      take_append_drop_add cs 16 4, take_append_drop_add cs 12 4, take_append_drop_add cs 8 4,
      List.take_append_drop]
  rw [ofGrouped?_eq, if_pos hhyphens, hdigits]

/-- Reading the text of an identifier gives the identifier. -/
theorem ofText?_toText (id : Id) : ofText? id.toText = some id := by
  have hlength : (id.digits.map digitChar).length = 32 := by
    rw [List.length_map, id.length_eq]
  have hgrouped : id.toText.toList = grouped (id.digits.map digitChar) := by
    simp [toText, grouped]
  have htotal : (grouped (id.digits.map digitChar)).length = 36 := by
    simp [grouped, id.length_eq]
  rw [ofText?, hgrouped, htotal, if_neg (by decide), if_pos rfl, ofGrouped?_grouped hlength,
    ofPlain?_digits]

end AccessControl.Id
