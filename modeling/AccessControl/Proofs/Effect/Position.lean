import AccessControl.Proofs.Effect.Path

/-!
Positions in a JSON value. A change at a dotted path shows at a position in one of three ways: not
at all where the path leads elsewhere, as the rest of the change on the way of the path, and as a
part of what is put in the place where the path has ended before.
-/

namespace AccessControl.Json

/-- A step down into a list or a record. -/
inductive Step where
  | item (index : Nat)
  | entry (name : String)
deriving DecidableEq

/-- The value at a position. Of the entries of one name the first one counts. -/
def at? : List Step → Json → Option Json
  | [], j => some j
  | .item i :: p, .list items => items[i]?.bind (at? p)
  | .entry name :: p, .record entries => (entries.lookup name).bind (at? p)
  | _ :: _, _ => none

/-- What is left of a path at a position. There is none where the path leads elsewhere or has ended
before; a list is only gone into by what is left. -/
def onward : List String → List Step → Option (List String)
  | path, [] => some path
  | [], _ :: _ => none
  | name :: rest, .item _ :: p => onward (name :: rest) p
  | name :: rest, .entry key :: p => if key = name then onward rest p else none

/-- The path ends at the position. -/
def Reaches (path : List String) (p : List Step) : Prop :=
  onward path p = some []

instance (path : List String) (p : List Step) : Decidable (Reaches path p) :=
  inferInstanceAs (Decidable (onward path p = some []))

variable {change : Json → Json} {name : String} {path rest : List String} {p q : List Step}
  {v j t : Json}

theorem at?_nil (v : Json) : v.at? [] = some v := by
  rw [at?]

theorem at?_append (v : Json) (p q : List Step) :
    v.at? (p ++ q) = (v.at? p).bind (at? q) := by
  induction p generalizing v with
  | nil => rw [List.nil_append, at?_nil, Option.bind_some]
  | cons s p ih =>
    cases s with
    | item i =>
      cases v with
      | list items => cases hi : items[i]? <;> simp [at?, hi, ih]
      | _ => rfl
    | entry key =>
      cases v with
      | record entries => cases hk : entries.lookup key <;> simp [at?, hk, ih]
      | _ => rfl

theorem at?_cons (v : Json) (s : Step) (p : List Step) :
    v.at? (s :: p) = (v.at? [s]).bind (at? p) :=
  at?_append v [s] p

theorem at?_item_updateAt (change : Json → Json) (name : String) (rest : List String) (v : Json)
    (i : Nat) (p : List Step) :
    (updateAt change (name :: rest) v).at? (.item i :: p) =
      (v.at? [.item i]).bind fun j => (updateAt change (name :: rest) j).at? p := by
  cases v with
  | list items => cases hi : items[i]? <;> simp [updateAt_list, at?, hi]
  | _ => simp [updateAt, at?]

theorem at?_entry_updateAt (change : Json → Json) (name : String) (rest : List String) (v : Json)
    (key : String) (p : List Step) :
    (updateAt change (name :: rest) v).at? (.entry key :: p) =
      (v.at? [.entry key]).bind fun j =>
        (if key = name then updateAt change rest j else j).at? p := by
  cases v with
  | record entries =>
    rw [updateAt_record, at?, lookup_updateEntry]
    by_cases hkey : key = name
    · subst hkey
      cases hj : entries.lookup key <;> simp only [at?, hj, if_true, Option.map_some,
        Option.map_none, Option.bind_some, Option.bind_none]
    · cases hj : entries.lookup key <;> simp only [at?, hj, hkey, if_false, Option.bind_some,
        Option.bind_none]
  | _ => simp [updateAt, at?]

/-- The paths to a value are those that end at a position of it. -/
theorem leads_iff_reaches : Leads path v t ↔ ∃ p, Reaches path p ∧ v.at? p = some t := by
  constructor
  · intro h
    induction h with
    | here => exact ⟨[], rfl, at?_nil _⟩
    | item hj _ ih =>
      obtain ⟨p, hp, ht⟩ := ih
      obtain ⟨i, hi⟩ := List.mem_iff_getElem?.mp hj
      exact ⟨.item i :: p, hp, by rw [at?, hi, Option.bind_some, ht]⟩
    | @entry name rest entries j t hj _ ih =>
      obtain ⟨p, hp, ht⟩ := ih
      refine ⟨.entry name :: p, ?_, by rw [at?, hj, Option.bind_some, ht]⟩
      rwa [Reaches, onward, if_pos rfl]
  · rintro ⟨p, hp, ht⟩
    induction p generalizing path v with
    | nil =>
      rw [Reaches, onward, Option.some.injEq] at hp
      rw [at?_nil, Option.some.injEq] at ht
      exact hp ▸ ht ▸ .here
    | cons s p ih =>
      match path, s, v with
      | name :: rest, .item i, .list items =>
        rw [at?, Option.bind_eq_some_iff] at ht
        obtain ⟨j, hj, ht⟩ := ht
        exact .item (List.mem_of_getElem? hj) (ih hp ht)
      | name :: rest, .entry key, .record entries =>
        rw [at?, Option.bind_eq_some_iff] at ht
        obtain ⟨j, hj, ht⟩ := ht
        rw [Reaches, onward] at hp
        split at hp
        · rename_i hkey
          exact .entry (hkey ▸ hj) (ih hp ht)
        · cases hp

/-- On its way a change is what is left of it. -/
theorem at?_updateAt_of_onward (h : onward path p = some rest) :
    (updateAt change path v).at? p = (v.at? p).map (updateAt change rest) := by
  induction p generalizing path v with
  | nil =>
    rw [onward, Option.some.injEq] at h
    rw [h, at?_nil, at?_nil, Option.map_some]
  | cons s p ih =>
    match path, s with
    | name :: further, .item i =>
      rw [at?_item_updateAt, at?_cons v (.item i) p, Option.map_bind]
      exact Option.bind_congr fun j _ => ih h
    | name :: further, .entry key =>
      rw [onward] at h
      split at h
      · rename_i hkey
        rw [at?_entry_updateAt, at?_cons v (.entry key) p, Option.map_bind]
        refine Option.bind_congr fun j _ => ?_
        rw [if_pos hkey]
        exact ih h
      · cases h

/-- Where a path leads elsewhere there is no change, unless it has ended on the way. -/
theorem at?_updateAt_of_none (h : onward path p = none)
    (hend : ∀ q s r, p = q ++ s :: r → ¬ Reaches path q) :
    (updateAt change path v).at? p = v.at? p := by
  induction p generalizing path v with
  | nil => cases h
  | cons s p ih =>
    match path, s with
    | [], s => exact absurd rfl (hend [] s p rfl)
    | name :: further, .item i =>
      rw [at?_item_updateAt, at?_cons v (.item i) p]
      refine Option.bind_congr fun j _ => ih h ?_
      rintro q s r rfl hq
      exact hend (.item i :: q) s r rfl hq
    | name :: further, .entry key =>
      rw [at?_entry_updateAt, at?_cons v (.entry key) p]
      refine Option.bind_congr fun j _ => ?_
      rw [onward] at h
      split at h
      · rename_i hkey
        rw [if_pos hkey]
        refine ih h ?_
        rintro q s r rfl hq
        refine hend (.entry key :: q) s r rfl ?_
        rwa [Reaches, onward, if_pos hkey]
      · rename_i hkey
        rw [if_neg hkey]

/-- All that a change can be at a position: on its way or at its end, above it, or elsewhere. -/
theorem at?_updateAt_cases (change : Json → Json) (path : List String) (p : List Step) (v : Json) :
    (∃ rest, onward path p = some rest ∧
      (updateAt change path v).at? p = (v.at? p).map (updateAt change rest)) ∨
    (∃ q s r, p = q ++ s :: r ∧ Reaches path q ∧ ¬ Reaches path p ∧
      (updateAt change path v).at? p = (v.at? q).bind fun j => (change j).at? (s :: r)) ∨
    (¬ Reaches path p ∧ (updateAt change path v).at? p = v.at? p) := by
  cases honward : onward path p with
  | some rest => exact .inl ⟨rest, rfl, at?_updateAt_of_onward honward⟩
  | none =>
    have hnot : ¬ Reaches path p := by simp [Reaches, honward]
    by_cases hended : ∃ q s r, p = q ++ s :: r ∧ Reaches path q
    · obtain ⟨q, s, r, rfl, hq⟩ := hended
      refine .inr (.inl ⟨q, s, r, rfl, hq, hnot, ?_⟩)
      rw [at?_append, at?_updateAt_of_onward hq, Option.bind_map]
      exact Option.bind_congr fun j _ => by rw [Function.comp_apply, updateAt_nil]
    · refine .inr (.inr ⟨hnot, at?_updateAt_of_none honward ?_⟩)
      exact fun q s r hp hq => hended ⟨q, s, r, hp, hq⟩

end AccessControl.Json
