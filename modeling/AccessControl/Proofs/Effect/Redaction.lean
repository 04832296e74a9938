import AccessControl.Proofs.Effect.Path

/-!
A redaction hides its field. No effect carries anything out of the places that a path leads to, so
two views that agree beside the redacted path are shown alike; and once null stands in those places,
no later effect puts anything else there.
-/

namespace AccessControl.Effect

open Json

variable {e : Effect} {name : String} {path rest : List String} {v w t : Json}

def isRedaction : Effect → Bool
  | .redact _ => true
  | .degradeAccuracy _ _ => false

theorem updateAt_null (e : Effect) (path : List String) :
    updateAt e.transform path .null = .null := by
  cases path with
  | nil => cases e <;> rfl
  | cons name rest => rfl

/-- An effect makes no list and no record, so where a path leads on from its result it led
before. -/
theorem leads_of_leads_transform (h : Leads (name :: rest) (e.transform v) t) :
    Leads (name :: rest) v t := by
  cases e with
  | redact field => cases h
  | degradeAccuracy field places =>
    cases v with
    | number number => cases h
    | _ => exact h

theorem agreeBeside_transform (e : Effect) (h : AgreeBeside path v w) :
    AgreeBeside path (e.transform v) (e.transform w) := by
  cases e with
  | redact field => exact .same
  | degradeAccuracy field places =>
    cases h with
    | reached => exact .reached
    | same => exact .same
    | list hlength hitems => exact .list hlength hitems
    | record hb hjk => exact .record hb hjk

/-- Views that agree beside a path go on doing so under a change at any other one, be it a part of
the path, an extension of it, or apart from it. -/
theorem agreeBeside_updateAt (e : Effect) (h : AgreeBeside path v w) (route : List String) :
    AgreeBeside path (updateAt e.transform route v) (updateAt e.transform route w) := by
  induction h generalizing route with
  | reached => exact .reached
  | same => exact .same
  | list hlength hitems ih =>
    cases route with
    | nil =>
      rw [updateAt_nil, updateAt_nil]
      exact agreeBeside_transform e (.list hlength hitems)
    | cons other further =>
      rw [updateAt_list, updateAt_list]
      refine .list (by simpa using hlength) fun i hj hk => ?_
      simpa using ih i (by simpa using hj) (by simpa using hk) (other :: further)
  | @record name rest before after j k hb hjk ih =>
    cases route with
    | nil =>
      rw [updateAt_nil, updateAt_nil]
      exact agreeBeside_transform e (.record hb hjk)
    | cons other further =>
      rw [updateAt_record, updateAt_record]
      by_cases hne : other = name
      · subst hne
        rw [updateEntry_append_cons hb, updateEntry_append_cons hb]
        exact .record hb (ih further)
      -- Another entry is changed, and in both views in the same way.
      · obtain ⟨before', after', hb', he⟩ := updateEntry_of_ne hne after hb
        rw [he, he]
        exact .record hb' hjk

/-- What a path leads to after an effect was led to before, where it was the same or the effect has
changed it, by the rest of its own path if that goes further. -/
theorem leads_updateAt (e : Effect) {route : List String}
    (h : Leads path (updateAt e.transform route v) t) :
    ∃ u, Leads path v u ∧ (t = u ∨ ∃ onward, t = updateAt e.transform onward u) := by
  -- Along the path: the route ends before it, or enters the same item or entry, or parts from it.
  generalize hw : updateAt e.transform route v = w at h
  induction h generalizing route v with
  | here => exact ⟨v, .here, .inr ⟨route, hw.symm⟩⟩
  | @item name rest items j t hj hl ih =>
    cases route with
    | nil =>
      rw [updateAt_nil] at hw
      have ht : Leads (name :: rest) (e.transform v) t := hw ▸ .item hj hl
      exact ⟨t, leads_of_leads_transform ht, .inl rfl⟩
    | cons other further =>
      cases v with
      | list js =>
        rw [updateAt_list, Json.list.injEq] at hw
        subst hw
        obtain ⟨i, hi, rfl⟩ := List.mem_map.mp hj
        obtain ⟨u, hu, ht⟩ := ih rfl
        exact ⟨u, .item hi hu, ht⟩
      | _ => cases hw
  | @entry name rest entries j t hj hl ih =>
    cases route with
    | nil =>
      rw [updateAt_nil] at hw
      have ht : Leads (name :: rest) (e.transform v) t := hw ▸ .entry hj hl
      exact ⟨t, leads_of_leads_transform ht, .inl rfl⟩
    | cons other further =>
      cases v with
      | record es =>
        rw [updateAt_record, Json.record.injEq] at hw
        subst hw
        rw [lookup_updateEntry] at hj
        by_cases hne : name = other
        · subst hne
          rw [if_pos rfl, Option.map_eq_some_iff] at hj
          obtain ⟨i, hi, rfl⟩ := hj
          obtain ⟨u, hu, ht⟩ := ih rfl
          exact ⟨u, .entry hi hu, ht⟩
        · rw [if_neg hne] at hj
          exact ⟨t, .entry hj hl, .inl rfl⟩
      | _ => cases hw

theorem apply_redact (field : String) (v : Json) :
    (redact field).apply v = blank (redact field).path v :=
  rfl

theorem agreeBeside_applyAll (effects : List Effect) (h : AgreeBeside path v w) :
    AgreeBeside path (applyAll effects v) (applyAll effects w) := by
  induction effects generalizing v w with
  | nil => exact h
  | cons e es ih => exact ih (agreeBeside_updateAt e h e.path)

/-- Null is left as it is by every effect, however far its path goes. -/
theorem null_of_leads_applyAll (effects : List Effect) (h : ∀ t, Leads path v t → t = .null) :
    ∀ t, Leads path (applyAll effects v) t → t = .null := by
  induction effects generalizing v with
  | nil => exact h
  | cons e es ih =>
    refine ih fun t ht => ?_
    obtain ⟨u, hu, rfl | ⟨onward, rfl⟩⟩ := leads_updateAt e ht
    · exact h t hu
    · rw [h u hu, updateAt_null]

theorem applyAll_split (before after : List Effect) (e : Effect) (v : Json) :
    applyAll (before ++ e :: after) v = applyAll after (e.apply (applyAll before v)) := by
  rw [applyAll, List.foldl_append, List.foldl_cons]
  rfl

/-- From the redaction on there is one view. -/
theorem applyAll_eq_of_agreeBeside {effects : List Effect} {field : String}
    (h : redact field ∈ effects) (hvw : AgreeBeside (redact field).path v w) :
    applyAll effects v = applyAll effects w := by
  obtain ⟨before, after, rfl⟩ := List.append_of_mem h
  have hblank := (agreeBeside_applyAll before hvw).blank_eq
  rw [applyAll_split, applyAll_split, apply_redact, apply_redact, hblank]

/-- With a redaction anywhere among the effects, two views that agree beside its field are shown
alike, and in what is shown null stands wherever the field leads. -/
theorem applyAll_hides {effects : List Effect} {field : String} (h : redact field ∈ effects) :
    (∀ v w, AgreeBeside (redact field).path v w → applyAll effects v = applyAll effects w) ∧
    ∀ v t, Leads (redact field).path (applyAll effects v) t → t = .null := by
  refine ⟨fun v w hvw => applyAll_eq_of_agreeBeside h hvw, fun v t ht => ?_⟩
  obtain ⟨before, after, rfl⟩ := List.append_of_mem h
  rw [applyAll_split, apply_redact] at ht
  exact null_of_leads_applyAll after (fun _ => null_of_leads_blank) t ht

/-- A device with two readings in a list. -/
def readings (first second : Json) : Json :=
  .record [("device", .text "d1"),
    ("logs", .list [.record [("value", first)], .record [("value", second)]])]

/-- A redaction between effects on a part of its path and beyond it. -/
def sampleEffects : List Effect :=
  [.degradeAccuracy "logs" 1, .redact "logs.value", .degradeAccuracy "logs.value.raw" 0]

theorem readings_shown_alike :
    .redact "logs.value" ∈ sampleEffects ∧
      AgreeBeside (redact "logs.value").path
        (readings (.number (.int 21)) (.record [("raw", .bool true)]))
        (readings (.text "warm") (.list [])) ∧
      applyAll sampleEffects (readings (.number (.int 21)) (.record [("raw", .bool true)])) =
        applyAll sampleEffects (readings (.text "warm") (.list [])) := by
  have hmem : .redact "logs.value" ∈ sampleEffects := by simp [sampleEffects]
  have hagree : AgreeBeside (redact "logs.value").path
      (readings (.number (.int 21)) (.record [("raw", .bool true)]))
      (readings (.text "warm") (.list [])) := by
    have hpath : (redact "logs.value").path = ["logs", "value"] := by decide
    rw [hpath, agreeBeside_iff_blank_eq]
    simp [blank, readings, updateAt, updateItems, updateEntry]
  exact ⟨hmem, hagree, (applyAll_hides hmem).1 _ _ hagree⟩

end AccessControl.Effect
