import AccessControl.Effect
import AccessControl.Proofs.Json.Structure

/-!
Where a dotted path leads in a JSON view, and views that agree beside it. Blanking what a path leads
to makes two views equal exactly when they agree beside it.
-/

namespace AccessControl.Json

/-- The path leads from the first value to the second one. A list hands the path on to its items, a
record its rest to the entry of that name. -/
inductive Leads : List String → Json → Json → Prop
  | here {j : Json} : Leads [] j j
  | item {name : String} {rest : List String} {items : List Json} {j t : Json} :
    j ∈ items → Leads (name :: rest) j t → Leads (name :: rest) (.list items) t
  | entry {name : String} {rest : List String} {entries : List (String × Json)} {j t : Json} :
    entries.lookup name = some j → Leads rest j t → Leads (name :: rest) (.record entries) t

/-- The two values differ at most in what the path leads to, where anything may stand. -/
inductive AgreeBeside : List String → Json → Json → Prop
  | reached {j k : Json} : AgreeBeside [] j k
  | same {path : List String} {j : Json} : AgreeBeside path j j
  | list {name : String} {rest : List String} {js ks : List Json} : js.length = ks.length →
    (∀ (i : Nat) (hj : i < js.length) (hk : i < ks.length),
      AgreeBeside (name :: rest) js[i] ks[i]) →
    AgreeBeside (name :: rest) (.list js) (.list ks)
  | record {name : String} {rest : List String} {before after : List (String × Json)}
    {j k : Json} : (∀ e ∈ before, e.1 ≠ name) → AgreeBeside rest j k →
    AgreeBeside (name :: rest) (.record (before ++ (name, j) :: after))
      (.record (before ++ (name, k) :: after))

variable {change : Json → Json} {name other : String} {path rest : List String} {v w j k t : Json}

theorem updateAt_nil (change : Json → Json) (j : Json) : updateAt change [] j = change j := by
  rw [updateAt]

theorem updateItems_eq_map (change : Json → Json) (path : List String) (items : List Json) :
    updateItems change path items = items.map (updateAt change path) := by
  induction items with
  | nil => rw [updateItems, List.map_nil]
  | cons j js ih => rw [updateItems, ih, List.map_cons]

theorem updateAt_list (change : Json → Json) (name : String) (rest : List String)
    (items : List Json) :
    updateAt change (name :: rest) (.list items) =
      .list (items.map (updateAt change (name :: rest))) := by
  rw [updateAt, updateItems_eq_map]

theorem updateAt_record (change : Json → Json) (name : String) (rest : List String)
    (entries : List (String × Json)) :
    updateAt change (name :: rest) (.record entries) =
      .record (updateEntry change name rest entries) := by
  rw [updateAt]

theorem lookup_updateEntry (change : Json → Json) (name other : String) (rest : List String)
    (entries : List (String × Json)) :
    (updateEntry change name rest entries).lookup other =
      if other = name then (entries.lookup name).map (updateAt change rest)
      else entries.lookup other := by
  induction entries with
  | nil => simp [updateEntry]
  | cons e es ih =>
    obtain ⟨key, j⟩ := e
    rw [updateEntry]
    by_cases hk : key = name
    · subst hk
      by_cases ho : other = key <;> simp [NameMap.lookup_cons_if, ho]
    · rw [if_neg hk, NameMap.lookup_cons_if, ih]
      by_cases ho : other = name
      · subst ho
        simp [NameMap.lookup_cons_if, Ne.symm hk]
      · simp [NameMap.lookup_cons_if, ho]

theorem map_fst_updateEntry (change : Json → Json) (name : String) (rest : List String)
    (entries : List (String × Json)) :
    (updateEntry change name rest entries).map Prod.fst = entries.map Prod.fst := by
  induction entries with
  | nil => rw [updateEntry]
  | cons e es ih =>
    obtain ⟨key, j⟩ := e
    rw [updateEntry]
    split
    · rfl
    · rw [List.map_cons, List.map_cons, ih]

theorem updateEntry_of_forall_ne {entries : List (String × Json)}
    (h : ∀ e ∈ entries, e.1 ≠ name) : updateEntry change name rest entries = entries := by
  induction entries with
  | nil => rw [updateEntry]
  | cons e es ih =>
    obtain ⟨key, j⟩ := e
    rw [List.forall_mem_cons] at h
    rw [updateEntry, if_neg h.1, ih h.2]

/-- Only the first entry of the name is changed. -/
theorem updateEntry_append_cons {before after : List (String × Json)}
    (h : ∀ e ∈ before, e.1 ≠ name) :
    updateEntry change name rest (before ++ (name, j) :: after) =
      before ++ (name, updateAt change rest j) :: after := by
  induction before with
  | nil => rw [List.nil_append, updateEntry, if_pos rfl, List.nil_append]
  | cons e es ih =>
    obtain ⟨key, k⟩ := e
    rw [List.forall_mem_cons] at h
    rw [List.cons_append, updateEntry, if_neg h.1, ih h.2, List.cons_append]

/-- A change under another name does not see the value in this entry. -/
theorem updateEntry_of_ne (hne : other ≠ name) {before : List (String × Json)}
    (after : List (String × Json)) (h : ∀ e ∈ before, e.1 ≠ name) :
    ∃ before' after', (∀ e ∈ before', e.1 ≠ name) ∧ ∀ j,
      updateEntry change other rest (before ++ (name, j) :: after) =
        before' ++ (name, j) :: after' := by
  induction before with
  | nil =>
    refine ⟨[], updateEntry change other rest after, fun _ he => (nomatch he), fun j => ?_⟩
    rw [List.nil_append, updateEntry, if_neg hne.symm, List.nil_append]
  | cons e es ih =>
    obtain ⟨key, k⟩ := e
    rw [List.forall_mem_cons] at h
    by_cases hk : key = other
    · refine ⟨(key, updateAt change rest k) :: es, after,
        List.forall_mem_cons.mpr ⟨h.1, h.2⟩, fun j => ?_⟩
      rw [List.cons_append, updateEntry, if_pos hk, List.cons_append]
    · obtain ⟨before', after', hb, he⟩ := ih h.2
      refine ⟨(key, k) :: before', after', List.forall_mem_cons.mpr ⟨h.1, hb⟩, fun j => ?_⟩
      rw [List.cons_append, updateEntry, if_neg hk, he, List.cons_append]

/-- A record has no entry of a name, or a first one. -/
theorem forall_ne_or_split (name : String) (entries : List (String × Json)) :
    (∀ e ∈ entries, e.1 ≠ name) ∨
      ∃ before j after, entries = before ++ (name, j) :: after ∧ ∀ e ∈ before, e.1 ≠ name := by
  induction entries with
  | nil => exact .inl fun _ he => nomatch he
  | cons e es ih =>
    obtain ⟨key, j⟩ := e
    by_cases hk : key = name
    · subst hk
      exact .inr ⟨[], j, es, rfl, fun _ he => nomatch he⟩
    · rcases ih with h | ⟨before, k, after, rfl, h⟩
      · exact .inl (List.forall_mem_cons.mpr ⟨hk, h⟩)
      · exact .inr ⟨(key, j) :: before, k, after, rfl, List.forall_mem_cons.mpr ⟨hk, h⟩⟩

/-- After a change a path leads to what has become of the values it led to before. -/
theorem leads_updateAt_self (h : Leads path (updateAt change path v) t) :
    ∃ u, Leads path v u ∧ t = change u := by
  generalize hw : updateAt change path v = w at h
  induction h generalizing v with
  | here => exact ⟨v, .here, by rw [← hw, updateAt_nil]⟩
  | item hj _ ih =>
    cases v with
    | list items =>
      rw [updateAt_list, Json.list.injEq] at hw
      subst hw
      obtain ⟨i, hi, rfl⟩ := List.mem_map.mp hj
      obtain ⟨u, hu, ht⟩ := ih rfl
      exact ⟨u, .item hi hu, ht⟩
    | _ => cases hw
  | entry hj _ ih =>
    cases v with
    | record entries =>
      rw [updateAt_record, Json.record.injEq] at hw
      subst hw
      rw [lookup_updateEntry, if_pos rfl, Option.map_eq_some_iff] at hj
      obtain ⟨i, hi, rfl⟩ := hj
      obtain ⟨u, hu, ht⟩ := ih rfl
      exact ⟨u, .entry hi hu, ht⟩
    | _ => cases hw

/-- The first entry of a name is one place only. -/
theorem append_cons_inj {before before' after after' : List (String × Json)}
    (hb : ∀ e ∈ before, e.1 ≠ name) (hb' : ∀ e ∈ before', e.1 ≠ name)
    (h : before ++ (name, j) :: after = before' ++ (name, k) :: after') :
    before = before' ∧ j = k ∧ after = after' := by
  induction before generalizing before' with
  | nil =>
    cases before' with
    | nil =>
      simp only [List.nil_append, List.cons.injEq, Prod.mk.injEq, true_and] at h
      exact ⟨rfl, h⟩
    | cons d ds =>
      simp only [List.nil_append, List.cons_append, List.cons.injEq] at h
      exact absurd (congrArg Prod.fst h.1).symm (hb' d List.mem_cons_self)
  | cons e es ih =>
    rw [List.forall_mem_cons] at hb
    cases before' with
    | nil =>
      simp only [List.nil_append, List.cons_append, List.cons.injEq] at h
      exact absurd (congrArg Prod.fst h.1) hb.1
    | cons d ds =>
      rw [List.forall_mem_cons] at hb'
      simp only [List.cons_append, List.cons.injEq] at h
      obtain ⟨rfl, hj, ha⟩ := ih hb.2 hb'.2 h.2
      exact ⟨congrArg (· :: es) h.1, hj, ha⟩

/-- Puts null in the place of what a path leads to. -/
def blank (path : List String) : Json → Json :=
  updateAt (fun _ => .null) path

theorem null_of_leads_blank (h : Leads path (blank path v) t) : t = .null := by
  obtain ⟨_, _, ht⟩ := leads_updateAt_self h
  exact ht

theorem AgreeBeside.blank_eq (h : AgreeBeside path v w) : blank path v = blank path w := by
  unfold blank at *
  induction h with
  | reached => rw [updateAt_nil, updateAt_nil]
  | same => rfl
  | list hlength _ ih =>
    rw [updateAt_list, updateAt_list]
    refine congrArg Json.list (List.ext_getElem (by simpa using hlength) ?_)
    intro i hj hk
    simpa using ih i (by simpa using hj) (by simpa using hk)
  | record hb _ ih =>
    rw [updateAt_record, updateAt_record, updateEntry_append_cons hb, updateEntry_append_cons hb,
      ih]

/-- Two lists that are alike once their items are blanked agree item by item. -/
theorem agreeBeside_list {js ks : List Json}
    (ih : ∀ j ∈ js, ∀ k, blank (name :: rest) j = blank (name :: rest) k →
      AgreeBeside (name :: rest) j k)
    (h : js.map (blank (name :: rest)) = ks.map (blank (name :: rest))) :
    AgreeBeside (name :: rest) (.list js) (.list ks) := by
  have hlength : js.length = ks.length := by simpa using congrArg List.length h
  refine .list hlength fun i hj hk => ih _ (List.getElem_mem hj) _ ?_
  have hi := congrArg (fun items : List Json => items[i]?) h
  simpa [hj, hk] using hi

/-- Two records that are alike once the first entry of a name is blanked agree beside it. -/
theorem agreeBeside_record {es ds : List (String × Json)}
    (ih : ∀ e ∈ es, ∀ k, blank rest e.2 = blank rest k → AgreeBeside rest e.2 k)
    (h : updateEntry (fun _ => .null) name rest es = updateEntry (fun _ => .null) name rest ds) :
    AgreeBeside (name :: rest) (.record es) (.record ds) := by
  rcases forall_ne_or_split name es with he | ⟨before, j, after, rfl, he⟩
  · rw [updateEntry_of_forall_ne he] at h
    rcases forall_ne_or_split name ds with hd | ⟨before', k, after', rfl, hd⟩
    · rw [updateEntry_of_forall_ne hd] at h
      exact h ▸ .same
    · rw [updateEntry_append_cons hd] at h
      have hm : (name, updateAt (fun _ => .null) rest k) ∈ es := by simp [h]
      exact absurd rfl (he _ hm)
  · rw [updateEntry_append_cons he] at h
    rcases forall_ne_or_split name ds with hd | ⟨before', k, after', rfl, hd⟩
    · rw [updateEntry_of_forall_ne hd] at h
      have hm : (name, updateAt (fun _ => .null) rest j) ∈ ds := by simp [← h]
      exact absurd rfl (hd _ hm)
    · rw [updateEntry_append_cons hd] at h
      obtain ⟨rfl, hjk, rfl⟩ := append_cons_inj he hd h
      exact .record he (ih (name, j) (by simp) k hjk)

theorem agreeBeside_of_blank_eq (h : blank path v = blank path w) : AgreeBeside path v w := by
  induction v generalizing path w with
  | list js ih =>
    cases path with
    | nil => exact .reached
    | cons name rest =>
      cases w with
      | list ks =>
        simp only [blank, updateAt_list, Json.list.injEq] at h
        exact agreeBeside_list (fun j hj k => ih j hj) h
      | _ => simp [blank, updateAt] at h
  | record es ih =>
    cases path with
    | nil => exact .reached
    | cons name rest =>
      cases w with
      | record ds =>
        simp only [blank, updateAt_record, Json.record.injEq] at h
        exact agreeBeside_record (fun e he k => ih e he) h
      | _ => simp [blank, updateAt] at h
  | _ =>
    -- A path leads nowhere from anything else, which is left as it is.
    cases path with
    | nil => exact .reached
    | cons name rest =>
      cases w <;> cases h
      exact .same

theorem agreeBeside_iff_blank_eq : AgreeBeside path v w ↔ blank path v = blank path w :=
  ⟨AgreeBeside.blank_eq, agreeBeside_of_blank_eq⟩

end AccessControl.Json
