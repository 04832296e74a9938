import AccessControl.Proofs.Effect.Position
import AccessControl.Proofs.Effect.Redaction
import Mathlib.Data.List.Infix

/-!
How far effects go. At every position of a view either null has come, there or further up, where a
redaction leads, or what stands there is as it was but for its items and entries, and for a number
that was rounded.
-/

namespace AccessControl

namespace Json

/-- What a value is without what its items and entries are. -/
inductive Surface where
  | null
  | bool (value : Bool)
  | number (value : Number)
  | text (value : String)
  | list (length : Nat)
  | record (names : List String)

def surface : Json → Surface
  | .null => .null
  | .bool value => .bool value
  | .number value => .number value
  | .text value => .text value
  | .list items => .list items.length
  | .record entries => .record (entries.map Prod.fst)

/-- A number rounded to some places after the other; all else stays. -/
def Surface.rounded (places : List Nat) : Surface → Surface
  | .number value => .number (places.foldl (fun n k => Effect.roundTo k n) value)
  | s => s

theorem Surface.rounded_nil (s : Surface) : s.rounded [] = s := by
  cases s <;> rfl

theorem Surface.rounded_append (first second : List Nat) (s : Surface) :
    s.rounded (first ++ second) = (s.rounded first).rounded second := by
  cases s <;> simp [rounded, List.foldl_append]

theorem eq_null_of_surface {j : Json} (h : j.surface = .null) : j = .null := by
  cases j <;> simp_all [surface]

theorem eq_number_of_surface {j : Json} {n : Number} (h : j.surface = .number n) :
    j = .number n := by
  cases j <;> simp_all [surface]

theorem rounded_surface {places : List Nat} {j : Json} (h : ∀ n, j ≠ .number n) :
    j.surface.rounded places = j.surface := by
  cases j with
  | number n => exact absurd rfl (h n)
  | _ => rfl

/-- A change further on leaves a list its length and a record its names. -/
theorem surface_updateAt (change : Json → Json) (name : String) (rest : List String) (v : Json) :
    (updateAt change (name :: rest) v).surface = v.surface := by
  cases v with
  | list items => rw [updateAt_list, surface, surface, List.length_map]
  | record entries => rw [updateAt_record, surface, surface, map_fst_updateEntry]
  | _ => simp only [updateAt]

end Json

namespace Effect

open Json

variable {e : Effect} {effects : List Effect} {v j k : Json} {p q : List Step}

/-- A redaction leads to the position. -/
def RedactedAt (effects : List Effect) (p : List Step) : Prop :=
  ∃ e ∈ effects, e.isRedaction = true ∧ Reaches e.path p

/-- A redaction leads to the position or to one above it. -/
def Hidden (effects : List Effect) (p : List Step) : Prop :=
  ∃ q, q <+: p ∧ RedactedAt effects q

/-- Some effect leads to the position or to one above it. -/
def Named (effects : List Effect) (p : List Step) : Prop :=
  ∃ q, q <+: p ∧ ∃ e ∈ effects, Reaches e.path q

/-- The positions above a position, and the position itself, are finitely many. -/
instance (effects : List Effect) (p : List Step) : Decidable (Hidden effects p) :=
  decidable_of_iff (∃ q ∈ p.inits, ∃ e ∈ effects, e.isRedaction = true ∧ Reaches e.path q)
    (by simp only [List.mem_inits, Hidden, RedactedAt])

instance (effects : List Effect) (p : List Step) : Decidable (Named effects p) :=
  decidable_of_iff (∃ q ∈ p.inits, ∃ e ∈ effects, Reaches e.path q)
    (by simp only [List.mem_inits, Named])

theorem Hidden.named (h : Hidden effects p) : Named effects p := by
  obtain ⟨q, hqp, e, he, _, hq⟩ := h
  exact ⟨q, hqp, e, he, hq⟩

/-- The places to which an effect rounds a number at a position. -/
def placesAt? (p : List Step) (e : Effect) : Option Nat :=
  match e with
  | .redact _ => none
  | .degradeAccuracy _ places => if Reaches e.path p then some places else none

/-- The places to which effects round a number at a position, in turn. -/
def placesAt (effects : List Effect) (p : List Step) : List Nat :=
  effects.filterMap (placesAt? p)

theorem placesAt_cons (e : Effect) (effects : List Effect) (p : List Step) :
    placesAt (e :: effects) p = placesAt [e] p ++ placesAt effects p :=
  List.filterMap_append (l := [e])

theorem placesAt_of_not_reaches (h : ∀ e ∈ effects, ¬ Reaches e.path p) :
    placesAt effects p = [] := by
  refine List.filterMap_eq_nil_iff.mpr fun e he => ?_
  cases e with
  | redact field => rfl
  | degradeAccuracy field places => exact if_neg (h _ he)

theorem RedactedAt.mono {effects' : List Effect} (h : RedactedAt effects p)
    (hsub : effects ⊆ effects') : RedactedAt effects' p := by
  obtain ⟨e, he, hred, hp⟩ := h
  exact ⟨e, hsub he, hred, hp⟩

theorem isFinite_roundTo {n : Number} (h : n.isFinite = true) (places : Nat) :
    (roundTo places n).isFinite = true := by
  unfold roundTo
  dsimp only
  split
  · split
    · assumption
    · exact h
  · exact h

theorem isFinite_rounded {n : Number} (h : n.isFinite = true) (places : List Nat) :
    (places.foldl (fun n k => roundTo k n) n).isFinite = true := by
  induction places generalizing n with
  | nil => exact h
  | cons k ks ih => exact ih (isFinite_roundTo h k)

/-- Only a number is changed by a degradation, and nothing is below a number. -/
theorem at?_transform_degradeAccuracy {field : String} {places : Nat} {s : Step}
    {r : List Step} (h : v.at? (s :: r) = some j) :
    (transform (.degradeAccuracy field places) v).at? (s :: r) = some j := by
  cases v with
  | number n => cases s <;> simp [at?] at h
  | _ => exact h

theorem surface_transform_degradeAccuracy (field : String) (places : Nat) (v : Json) :
    (transform (.degradeAccuracy field places) v).surface = v.surface.rounded [places] := by
  cases v <;> rfl

theorem at?_of_at?_transform {s : Step} {r : List Step}
    (h : (e.transform v).at? (s :: r) = some k) : v.at? (s :: r) = some k := by
  cases e with
  | redact field => cases s <;> simp [transform, at?] at h
  | degradeAccuracy field places =>
    cases v with
    | number n => cases s <;> simp [transform, at?] at h
    | _ => exact h

theorem at?_redact (field : String) (hp : Reaches (redact field).path p) (h : v.at? p = some j) :
    ((redact field).apply v).at? p = some .null := by
  rw [apply_redact, blank, at?_updateAt_of_onward hp, h, Option.map_some, updateAt_nil]

/-- What one effect does at a position. -/
theorem at?_apply (e : Effect) (h : v.at? p = some j) :
    (∃ q, q <+: p ∧ RedactedAt [e] q ∧ (e.apply v).at? q = some .null) ∨
      ∃ k, (e.apply v).at? p = some k ∧ k.surface = j.surface.rounded (placesAt [e] p) := by
  have hkept : ¬ Reaches e.path p → j.surface = j.surface.rounded (placesAt [e] p) := by
    intro hp
    rw [placesAt_of_not_reaches (List.forall_mem_singleton.mpr hp), Surface.rounded_nil]
  rcases at?_updateAt_cases e.transform e.path p v with
    ⟨rest, honward, hat⟩ | ⟨q, s, r, rfl, hq, hnot, hat⟩ | ⟨hnot, hat⟩
  · rw [h, Option.map_some] at hat
    cases rest with
    | nil =>
      rw [updateAt_nil] at hat
      cases e with
      | redact field =>
        exact .inl ⟨p, List.prefix_rfl, ⟨_, List.mem_singleton_self _, rfl, honward⟩, hat⟩
      | degradeAccuracy field places =>
        have hplaces : placesAt [.degradeAccuracy field places] p = [places] := by
          simp [placesAt, placesAt?, Reaches, honward]
        refine .inr ⟨_, hat, ?_⟩
        rw [surface_transform_degradeAccuracy, hplaces]
    | cons name rest =>
      refine .inr ⟨_, hat, ?_⟩
      rw [surface_updateAt]
      exact hkept (by simp [Reaches, honward])
  · rw [at?_append, Option.bind_eq_some_iff] at h
    obtain ⟨i, hi, hj⟩ := h
    cases e with
    | redact field =>
      exact .inl ⟨q, List.prefix_append q (s :: r), ⟨_, List.mem_singleton_self _, rfl, hq⟩,
        at?_redact field hq hi⟩
    | degradeAccuracy field places =>
      rw [hi, Option.bind_some, at?_transform_degradeAccuracy hj] at hat
      exact .inr ⟨j, hat, hkept hnot⟩
  · exact .inr ⟨j, hat.trans h, hkept hnot⟩

/-- No effect makes a position. -/
theorem at?_of_at?_apply (e : Effect) (h : (e.apply v).at? p = some k) :
    ∃ j, v.at? p = some j := by
  rcases at?_updateAt_cases e.transform e.path p v with
    ⟨rest, _, hat⟩ | ⟨q, s, r, rfl, _, _, hat⟩ | ⟨_, hat⟩
  · obtain ⟨j, hj, _⟩ := Option.map_eq_some_iff.mp (hat.symm.trans h)
    exact ⟨j, hj⟩
  · obtain ⟨i, hi, hk⟩ := Option.bind_eq_some_iff.mp (hat.symm.trans h)
    exact ⟨k, by rw [at?_append, hi, Option.bind_some, at?_of_at?_transform hk]⟩
  · exact ⟨k, hat.symm.trans h⟩

theorem at?_of_at?_applyAll (effects : List Effect) (h : (applyAll effects v).at? p = some k) :
    ∃ j, v.at? p = some j := by
  induction effects generalizing v with
  | nil => exact ⟨k, h⟩
  | cons e es ih =>
    obtain ⟨j, hj⟩ := ih h
    exact at?_of_at?_apply e hj

/-- What effects do at a position one after the other. Null that a redaction has left stays. -/
theorem at?_applyAll (effects : List Effect) (h : v.at? p = some j) :
    (∃ q, q <+: p ∧ RedactedAt effects q ∧ (applyAll effects v).at? q = some .null) ∨
      ∃ k, (applyAll effects v).at? p = some k ∧
        k.surface = j.surface.rounded (placesAt effects p) := by
  induction effects generalizing v p j with
  | nil => exact .inr ⟨j, h, (Surface.rounded_nil j.surface).symm⟩
  | cons e es ih =>
    have hsub : es ⊆ e :: es := List.subset_cons_self e es
    rcases at?_apply e h with ⟨q, hqp, hq, hnull⟩ | ⟨k, hk, hsurface⟩
    · rcases ih hnull with ⟨q', hq', hred, hnull'⟩ | ⟨k, hk, hsurface⟩
      · exact .inl ⟨q', hq'.trans hqp, hred.mono hsub, hnull'⟩
      · have hknull : k = .null := eq_null_of_surface hsurface
        exact .inl ⟨q, hqp, hq.mono (by simp), hknull ▸ hk⟩
    · rcases ih hk with ⟨q', hq', hred, hnull'⟩ | ⟨k', hk', hsurface'⟩
      · exact .inl ⟨q', hq', hred.mono hsub, hnull'⟩
      · refine .inr ⟨k', hk', ?_⟩
        rw [hsurface', hsurface, placesAt_cons e es p, Surface.rounded_append]

/-- Null stands wherever a redaction leads, if anything does. -/
theorem RedactedAt.eq_null (h : RedactedAt effects p)
    (hk : (applyAll effects v).at? p = some k) : k = .null := by
  obtain ⟨e, he, hred, hp⟩ := h
  obtain ⟨before, after, rfl⟩ := List.append_of_mem he
  cases e with
  | redact field =>
    rw [applyAll_split, apply_redact] at hk
    exact null_of_leads_applyAll after (fun _ => null_of_leads_blank) k
      (leads_iff_reaches.mpr ⟨p, hp, hk⟩)
  | degradeAccuracy field places => cases hred

theorem Hidden.exists_null (h : Hidden effects p) (hj : v.at? p = some j) :
    ∃ q, q <+: p ∧ RedactedAt effects q ∧ (applyAll effects v).at? q = some .null := by
  rcases at?_applyAll effects hj with hnull | ⟨k, hk, _⟩
  · exact hnull
  · obtain ⟨q, ⟨r, rfl⟩, hq⟩ := h
    rw [at?_append, Option.bind_eq_some_iff] at hk
    obtain ⟨i, hi, _⟩ := hk
    exact ⟨q, List.prefix_append q r, hq, hq.eq_null hi ▸ hi⟩

theorem placesAt_of_not_named (h : ¬ Named effects p) : placesAt effects p = [] :=
  placesAt_of_not_reaches fun e he hp => h ⟨p, List.prefix_rfl, e, he, hp⟩

theorem exists_surface_of_not_hidden (h : ¬ Hidden effects p) (hj : v.at? p = some j) :
    ∃ k, (applyAll effects v).at? p = some k ∧
      k.surface = j.surface.rounded (placesAt effects p) := by
  rcases at?_applyAll effects hj with ⟨q, hqp, hq, _⟩ | hkept
  · exact absurd ⟨q, hqp, hq⟩ h
  · exact hkept

/-- Effects make no position. At every position that there is they leave null, there or further up
where a redaction leads, or else what was there: a record with its names, a list with its length, a
number rounded by the degradations that lead to it, which is a number still, and all else the same.
This goes for the positions inside a value that is only degraded too. Nothing at all happens at
positions that no effect leads to or above. -/
theorem applyAll_touches_named (effects : List Effect) (view : Json) (p : List Step) :
    (∀ k, (applyAll effects view).at? p = some k → ∃ j, view.at? p = some j) ∧
    ∀ j, view.at? p = some j →
      (Hidden effects p →
        ∃ q, q <+: p ∧ RedactedAt effects q ∧ (applyAll effects view).at? q = some .null) ∧
      (¬ Hidden effects p → ∃ k, (applyAll effects view).at? p = some k ∧
        k.surface = j.surface.rounded (placesAt effects p) ∧
        ((∀ n, j ≠ .number n) → k.surface = j.surface) ∧
        ∀ n, j = .number n → n.isFinite = true → ∃ m, k = .number m ∧ m.isFinite = true) ∧
      (¬ Named effects p → ∃ k, (applyAll effects view).at? p = some k ∧
        k.surface = j.surface) := by
  refine ⟨fun k hk => at?_of_at?_applyAll effects hk, fun j hj => ⟨?_, ?_, ?_⟩⟩
  · exact fun hhidden => hhidden.exists_null hj
  · intro hnot
    obtain ⟨k, hk, hsurface⟩ := exists_surface_of_not_hidden hnot hj
    refine ⟨k, hk, hsurface, fun hother => ?_, fun n hn hfinite => ?_⟩
    · rw [hsurface, rounded_surface hother]
    · subst hn
      exact ⟨_, eq_number_of_surface hsurface, isFinite_rounded hfinite _⟩
  · intro hnot
    obtain ⟨k, hk, hsurface⟩ := exists_surface_of_not_hidden (fun h => hnot h.named) hj
    rw [placesAt_of_not_named hnot, Surface.rounded_nil] at hsurface
    exact ⟨k, hk, hsurface⟩

/-- A redaction below a list that is degraded itself, and a degradation of a number. -/
def mixedEffects : List Effect :=
  [.degradeAccuracy "level" 1, .redact "logs.value", .degradeAccuracy "logs" 0]

def mixedView : Json :=
  .record [("device", .text "d1"), ("level", .number (.int 21)),
    ("logs", .list [.record [("value", .list [.bool true]), ("unit", .text "C")]])]

theorem mixed_touched :
    (∃ k, (applyAll mixedEffects mixedView).at? [.entry "device"] = some k ∧
      k.surface = .text "d1") ∧
    (∃ m, (applyAll mixedEffects mixedView).at? [.entry "level"] = some (.number m) ∧
      m.isFinite = true) ∧
    (∃ k, (applyAll mixedEffects mixedView).at? [.entry "logs"] = some k ∧
      k.surface = .list 1) ∧
    ∃ q, q <+: [.entry "logs", .item 0, .entry "value", .item 0] ∧ RedactedAt mixedEffects q ∧
      (applyAll mixedEffects mixedView).at? q = some .null := by
  have hlaw := applyAll_touches_named mixedEffects mixedView
  refine ⟨?_, ?_, ?_, ?_⟩
  · exact ((hlaw [.entry "device"]).2 _ rfl).2.2 (by decide)
  · obtain ⟨k, hk, _, _, hnumber⟩ := ((hlaw [.entry "level"]).2 _ rfl).2.1 (by decide)
    obtain ⟨m, rfl, hm⟩ := hnumber _ rfl rfl
    exact ⟨m, hk, hm⟩
  · obtain ⟨k, hk, _, hother, _⟩ := ((hlaw [.entry "logs"]).2 _ rfl).2.1 (by decide)
    exact ⟨k, hk, hother fun n => nofun⟩
  · exact ((hlaw [.entry "logs", .item 0, .entry "value", .item 0]).2 _ rfl).1 (by decide)

end Effect

end AccessControl
