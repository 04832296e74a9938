import AccessControl.Proofs.Effect.Redaction

/-!
The order of effects. Two effects may change places unless both degrade the accuracy of one field,
wherever their paths lead: one may be a part of the other one, or end in a list or a number where
the other one goes on. So of the order in which a policy has its effects, only that among the
degradations of each field shows.
-/

namespace AccessControl

namespace Json

variable {f g : Json → Json} {name other : String} {rest further : List String}

theorem updateEntry_updateEntry {entries : List (String × Json)}
    (h : ∀ e ∈ entries,
      updateAt f rest (updateAt g rest e.2) = updateAt (fun j => f (g j)) rest e.2) :
    updateEntry f name rest (updateEntry g name rest entries) =
      updateEntry (fun j => f (g j)) name rest entries := by
  induction entries with
  | nil => simp only [updateEntry]
  | cons e es ih =>
    obtain ⟨key, j⟩ := e
    rw [List.forall_mem_cons] at h
    by_cases hk : key = name
    · simp only [updateEntry, hk, if_true, h.1]
    · simp only [updateEntry, hk, if_false, ih h.2]

/-- Two changes of what a path leads to are one. -/
theorem updateAt_updateAt (f g : Json → Json) (path : List String) (v : Json) :
    updateAt f path (updateAt g path v) = updateAt (fun j => f (g j)) path v := by
  induction v generalizing path with
  | list items ih =>
    cases path with
    | nil => simp only [updateAt_nil]
    | cons name rest =>
      simp only [updateAt_list, List.map_map, Json.list.injEq]
      exact List.map_congr_left fun j hj => ih j hj (name :: rest)
  | record entries ih =>
    cases path with
    | nil => simp only [updateAt_nil]
    | cons name rest =>
      simp only [updateAt_record, Json.record.injEq]
      exact updateEntry_updateEntry fun e he => ih e he rest
  | _ => cases path <;> simp only [updateAt]

/-- Changes in a record meet only in an entry that both are for. -/
theorem updateEntry_comm {entries : List (String × Json)}
    (h : name = other → ∀ e ∈ entries,
      updateAt f rest (updateAt g further e.2) = updateAt g further (updateAt f rest e.2)) :
    updateEntry f name rest (updateEntry g other further entries) =
      updateEntry g other further (updateEntry f name rest entries) := by
  induction entries with
  | nil => simp only [updateEntry]
  | cons e es ih =>
    obtain ⟨key, j⟩ := e
    have hlater := ih fun hn d hd => h hn d (List.mem_cons_of_mem _ hd)
    by_cases hname : key = name
    · by_cases hother : key = other
      · have hhere := h (hname.symm.trans hother) (key, j) List.mem_cons_self
        simp only [updateEntry, if_pos hname, if_pos hother, hhere]
      · simp only [updateEntry, if_pos hname, if_neg hother]
    · by_cases hother : key = other
      · simp only [updateEntry, if_neg hname, if_pos hother]
      · simp only [updateEntry, if_neg hname, if_neg hother, hlater]

end Json

namespace Effect

open Json

variable {e d : Effect} {path route : List String}

/-- The effect degrades the accuracy of this field. -/
def degrades (field : String) : Effect → Bool
  | .degradeAccuracy other _ => other == field
  | .redact _ => false

/-- No field is degraded by both effects. -/
def Independent (e d : Effect) : Prop :=
  ∀ field, ¬ (e.degrades field = true ∧ d.degrades field = true)

theorem splitDots_eq_splitOn (cs : List Char) : splitDots cs = cs.splitOn '.' := by
  induction cs with
  | nil => rw [splitDots, List.splitOn_nil]
  | cons c cs ih =>
    rw [splitDots, List.splitOn_cons_eq_if_modifyHead, ih]
    by_cases hc : c = '.'
    · simp [hc]
    · obtain ⟨part, parts, hparts⟩ := List.exists_cons_of_ne_nil (List.splitOn_ne_nil '.' cs)
      simp [hc, hparts]

/-- Different fields are different paths. -/
theorem field_eq_of_path_eq (h : e.path = d.path) : e.field = d.field := by
  have hparts : splitDots e.field.toList = splitDots d.field.toList :=
    (List.map_inj_right fun _ _ heq => String.ofList_injective heq).mp h
  rw [splitDots_eq_splitOn, splitDots_eq_splitOn] at hparts
  have hchars := congrArg ['.'].intercalate hparts
  rw [List.intercalate_splitOn, List.intercalate_splitOn] at hchars
  exact String.toList_injective hchars

/-- What an effect makes of a value is for a path that goes on what the value was. -/
theorem transform_updateAt (e d : Effect) (name : String) (rest : List String) (v : Json) :
    e.transform (updateAt d.transform (name :: rest) v) =
      updateAt d.transform (name :: rest) (e.transform v) := by
  cases e with
  | redact field => simp only [transform, updateAt]
  | degradeAccuracy field places => cases v <;> simp only [transform, updateAt]

theorem transform_comm (h : e.isRedaction = true ∨ d.isRedaction = true) (v : Json) :
    e.transform (d.transform v) = d.transform (e.transform v) := by
  cases e <;> cases d <;> simp_all [isRedaction, transform]

theorem updateAt_comm_of_end
    (h : e.isRedaction = true ∨ d.isRedaction = true ∨ path ≠ route)
    (hend : path = [] ∨ route = []) (v : Json) :
    updateAt e.transform path (updateAt d.transform route v) =
      updateAt d.transform route (updateAt e.transform path v) := by
  match path, route with
  | [], [] =>
    simp only [updateAt_nil]
    exact transform_comm (by simpa using h) v
  | [], other :: further =>
    simp only [updateAt_nil]
    exact transform_updateAt e d other further v
  | name :: rest, [] =>
    simp only [updateAt_nil]
    exact (transform_updateAt d e name rest v).symm
  | _ :: _, _ :: _ => simp at hend

/-- The paths end in one place only if they are the same; then one of the effects leaves null there.
Elsewhere each of them finds its places as they are for it. -/
theorem updateAt_comm
    (h : e.isRedaction = true ∨ d.isRedaction = true ∨ path ≠ route) (v : Json) :
    updateAt e.transform path (updateAt d.transform route v) =
      updateAt d.transform route (updateAt e.transform path v) := by
  induction v generalizing path route with
  | list items ih =>
    match path, route with
    | [], _ => exact updateAt_comm_of_end h (.inl rfl) _
    | _ :: _, [] => exact updateAt_comm_of_end h (.inr rfl) _
    | name :: rest, other :: further =>
      simp only [updateAt_list, List.map_map, Json.list.injEq]
      exact List.map_congr_left fun j hj => ih j hj h
  | record entries ih =>
    match path, route with
    | [], _ => exact updateAt_comm_of_end h (.inl rfl) _
    | _ :: _, [] => exact updateAt_comm_of_end h (.inr rfl) _
    | name :: rest, other :: further =>
      simp only [updateAt_record, Json.record.injEq]
      refine updateEntry_comm fun hname entry hentry => ih entry hentry ?_
      -- Under one name the paths can only differ in what follows it.
      subst hname
      simpa using h
  | _ =>
    match path, route with
    | [], _ => exact updateAt_comm_of_end h (.inl rfl) _
    | _ :: _, [] => exact updateAt_comm_of_end h (.inr rfl) _
    | _ :: _, _ :: _ => simp only [updateAt]

theorem apply_comm (h : e.Independent d) (v : Json) :
    e.apply (d.apply v) = d.apply (e.apply v) := by
  refine updateAt_comm ?_ v
  cases e with
  | redact field => exact .inl rfl
  | degradeAccuracy field places =>
    cases d with
    | redact other => exact .inr (.inl rfl)
    | degradeAccuracy other places' =>
      refine .inr (.inr fun hpath => ?_)
      have hfield : field = other := field_eq_of_path_eq hpath
      exact h other (by simp [degrades, hfield])

theorem apply_redact_redact (field : String) (v : Json) :
    (redact field).apply ((redact field).apply v) = (redact field).apply v :=
  updateAt_updateAt _ _ _ v

/-- An effect goes to the front past effects that it may change places with. -/
theorem applyAll_move {before : List Effect} (h : ∀ d ∈ before, e.Independent d)
    (after : List Effect) (v : Json) :
    applyAll (before ++ e :: after) v = applyAll (before ++ after) (e.apply v) := by
  induction before generalizing v with
  | nil => rfl
  | cons d ds ih =>
    rw [List.forall_mem_cons] at h
    calc applyAll (d :: ds ++ e :: after) v
        = applyAll (ds ++ e :: after) (d.apply v) := rfl
      _ = applyAll (ds ++ after) (e.apply (d.apply v)) := ih h.2 (d.apply v)
      _ = applyAll (ds ++ after) (d.apply (e.apply v)) := by rw [apply_comm h.1]
      _ = applyAll (d :: ds ++ after) (e.apply v) := rfl

/-- The second list has the degradations of each field in the order of the first one. -/
def KeepsOrder (effects reordered : List Effect) : Prop :=
  ∀ field, reordered.filter (degrades field) = effects.filter (degrades field)

/-- No degradation of its field stands before the first one. -/
theorem KeepsOrder.independent {before after es : List Effect}
    (h : KeepsOrder (e :: es) (before ++ e :: after)) (hfirst : e ∉ before) :
    ∀ d ∈ before, e.Independent d := by
  rintro d hd field ⟨he, hdf⟩
  have hfield := h field
  rw [List.filter_append, List.filter_cons_of_pos he, List.filter_cons_of_pos he] at hfield
  cases hb : before.filter (degrades field) with
  | nil => exact List.filter_eq_nil_iff.mp hb d hd hdf
  | cons x xs =>
    rw [hb, List.cons_append, List.cons.injEq] at hfield
    have hx : x ∈ before.filter (degrades field) := hb ▸ List.mem_cons_self
    exact hfirst (hfield.1 ▸ (List.mem_filter.mp hx).1)

theorem KeepsOrder.rest {before after es : List Effect}
    (h : KeepsOrder (e :: es) (before ++ e :: after)) (hfirst : e ∉ before) :
    KeepsOrder es (before ++ after) := by
  intro field
  have hfield := h field
  rw [List.filter_append] at hfield ⊢
  by_cases he : e.degrades field = true
  · have hnone : before.filter (degrades field) = [] :=
      List.filter_eq_nil_iff.mpr fun d hd hdf => h.independent hfirst d hd field ⟨he, hdf⟩
    rw [hnone, List.filter_cons_of_pos he, List.filter_cons_of_pos he] at hfield
    rw [hnone]
    exact List.tail_eq_of_cons_eq hfield
  · rwa [List.filter_cons_of_neg he, List.filter_cons_of_neg he] at hfield

theorem applyAll_reordered {effects reordered : List Effect} (hperm : reordered.Perm effects)
    (horder : KeepsOrder effects reordered) (v : Json) :
    applyAll reordered v = applyAll effects v := by
  induction effects generalizing reordered v with
  | nil => rw [hperm.eq_nil]
  | cons e es ih =>
    -- What has to come first is brought to the front from where it first stands.
    obtain ⟨before, after, rfl, hfirst⟩ :=
      List.eq_append_cons_of_mem (hperm.mem_iff.mpr List.mem_cons_self)
    have hrest : (before ++ after).Perm es := (List.perm_middle.symm.trans hperm).cons_inv
    rw [applyAll_move (horder.independent hfirst), ih hrest (horder.rest hfirst)]
    rfl

/-- Two effects give the same in either order unless both degrade one field, and a redaction gives
no more when it is repeated. Any reordering that keeps the degradations of each field in their order
gives the same. -/
theorem order_shows_among_degradations :
    (∀ e d : Effect, e.Independent d → ∀ view, e.apply (d.apply view) = d.apply (e.apply view)) ∧
    (∀ (field : String) (view : Json),
      (redact field).apply ((redact field).apply view) = (redact field).apply view) ∧
    ∀ effects reordered : List Effect, reordered.Perm effects → KeepsOrder effects reordered →
      ∀ view, applyAll reordered view = applyAll effects view :=
  ⟨fun _ _ h => apply_comm h, apply_redact_redact, fun _ _ => applyAll_reordered⟩

/-- Two degradations of a field, with effects below it between and after them. -/
def overlapping : List Effect :=
  [.degradeAccuracy "value" 2, .redact "value.raw", .degradeAccuracy "value" 0,
    .degradeAccuracy "value.raw" 1]

/-- The effects below the field change places around the two degradations. -/
def overlappingReordered : List Effect :=
  [.degradeAccuracy "value.raw" 1, .degradeAccuracy "value" 2, .degradeAccuracy "value" 0,
    .redact "value.raw"]

theorem overlapping_shown_alike :
    overlappingReordered.Perm overlapping ∧ KeepsOrder overlapping overlappingReordered ∧
      applyAll overlappingReordered (.record [("value", .number (.int 21))]) =
        applyAll overlapping (.record [("value", .number (.int 21))]) ∧
      Independent (.degradeAccuracy "value" 2) (.degradeAccuracy "value.raw" 1) ∧
      (degradeAccuracy "value" 2).apply ((degradeAccuracy "value.raw" 1).apply
          (.record [("value", .record [("raw", .number (.int 21))])])) =
        (degradeAccuracy "value.raw" 1).apply ((degradeAccuracy "value" 2).apply
          (.record [("value", .record [("raw", .number (.int 21))])])) := by
  have hperm : overlappingReordered.Perm overlapping := by decide
  have horder : KeepsOrder overlapping overlappingReordered := by
    intro field
    by_cases hvalue : "value" = field
    · subst hvalue
      decide
    · simp [overlapping, overlappingReordered, List.filter_cons, degrades, hvalue]
  have hindependent :
      Independent (.degradeAccuracy "value" 2) (.degradeAccuracy "value.raw" 1) := by
    rintro field ⟨hvalue, hraw⟩
    have hfields : "value" = "value.raw" :=
      (beq_iff_eq.mp hvalue).trans (beq_iff_eq.mp hraw).symm
    exact absurd hfields (by decide)
  exact ⟨hperm, horder, order_shows_among_degradations.2.2 _ _ hperm horder _, hindependent,
    order_shows_among_degradations.1 _ _ hindependent _⟩

end Effect

end AccessControl
