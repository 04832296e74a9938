/-!
Lists of things that carry a key each, in the order in which their keys first came. Putting a thing
takes the place of the first one with its key.
-/

namespace AccessControl.Keyed

variable {α κ : Type} [DecidableEq κ]

/-- The first thing with a key. -/
def find? (key : α → κ) (k : κ) (xs : List α) : Option α :=
  xs.find? fun x => decide (key x = k)

/-- Puts a thing in the place of the first one with its key, or at the end. -/
def put (key : α → κ) (x : α) : List α → List α
  | [] => [x]
  | y :: ys => if key y = key x then x :: ys else y :: put key x ys

/-- Takes out everything with a key. -/
def remove (key : α → κ) (k : κ) (xs : List α) : List α :=
  xs.filter fun x => !decide (key x = k)

theorem find?_put (key : α → κ) (x : α) (k : κ) (xs : List α) :
    find? key k (put key x xs) = if key x = k then some x else find? key k xs := by
  induction xs with
  | nil => by_cases h : key x = k <;> simp [find?, put, h]
  | cons y ys ih =>
    by_cases hy : key y = key x
    · by_cases h : key x = k <;> simp [find?, put, hy, h]
    · by_cases h : key y = k
      · subst h
        have hx : key x ≠ key y := fun hx => hy hx.symm
        simp [find?, put, hy, hx]
      · simp only [find?] at ih
        simp [find?, put, hy, h, ih]

theorem mem_put {key : α → κ} {x y : α} {xs : List α} (h : y ∈ put key x xs) :
    y = x ∨ y ∈ xs := by
  induction xs with
  | nil => simpa [put] using h
  | cons z zs ih =>
    simp only [put] at h
    split at h
    · rcases List.mem_cons.mp h with h | h
      · exact .inl h
      · exact .inr (by simp [h])
    · rcases List.mem_cons.mp h with h | h
      · exact .inr (by simp [h])
      · rcases ih h with h | h
        · exact .inl h
        · exact .inr (by simp [h])

/-- A key that is new goes to the end. -/
theorem put_of_forall_ne {key : α → κ} {x : α} {xs : List α} (h : ∀ y ∈ xs, key y ≠ key x) :
    put key x xs = xs ++ [x] := by
  induction xs with
  | nil => rfl
  | cons y ys ih =>
    simp [put, h y (by simp), ih fun z hz => h z (by simp [hz])]

/-- The keys stay where they are; a new one comes last. -/
theorem map_key_put (key : α → κ) (x : α) (xs : List α) :
    (put key x xs).map key = if key x ∈ xs.map key then xs.map key else xs.map key ++ [key x] := by
  induction xs with
  | nil => simp [put]
  | cons y ys ih =>
    by_cases hy : key y = key x
    · simp [put, hy]
    · have hx : key x ≠ key y := fun h => hy h.symm
      simp only [put, hy, if_false, List.map_cons, ih, List.mem_cons, hx, false_or]
      split <;> simp

theorem length_put (key : α → κ) (x : α) (xs : List α) :
    (put key x xs).length = if key x ∈ xs.map key then xs.length else xs.length + 1 := by
  have h := congrArg List.length (map_key_put key x xs)
  rw [List.length_map] at h
  rw [h]
  split <;> simp

theorem find?_eq_none_iff (key : α → κ) (k : κ) (xs : List α) :
    find? key k xs = none ↔ k ∉ xs.map key := by
  simp [find?]

/-- What is found stands in the list and has the key. -/
theorem find?_eq_some {key : α → κ} {k : κ} {xs : List α} {x : α} (h : find? key k xs = some x) :
    x ∈ xs ∧ key x = k := by
  unfold find? at h
  exact ⟨List.mem_of_find?_eq_some h, by simpa using List.find?_some h⟩

/-- A key in use stays where it is, with the new thing in the place of the first one. -/
theorem put_of_find? {key : α → κ} {x y : α} {xs : List α} (h : find? key (key x) xs = some y) :
    ∃ before after, xs = before ++ y :: after ∧ put key x xs = before ++ x :: after := by
  induction xs with
  | nil => cases h
  | cons z zs ih =>
    by_cases hz : key z = key x
    · simp only [find?, List.find?_cons, hz, decide_true, Option.some.injEq] at h
      subst h
      exact ⟨[], zs, rfl, by simp [put, hz]⟩
    · simp only [find?, List.find?_cons, hz, decide_false] at h
      obtain ⟨before, after, rfl, hput⟩ := ih h
      exact ⟨z :: before, after, rfl, by simp [put, hz, hput]⟩

theorem find?_remove (key : α → κ) (k j : κ) (xs : List α) :
    find? key j (remove key k xs) = if j = k then none else find? key j xs := by
  induction xs with
  | nil => simp [find?, remove]
  | cons y ys ih =>
    simp only [find?, remove] at *
    by_cases hy : key y = k
    · by_cases hj : j = k
      · simp [hj]
      · have : k ≠ j := fun h => hj h.symm
        simpa [hy, hj, this] using ih
    · by_cases hyj : key y = j
      · subst hyj
        simp [hy]
      · simpa [hy, hyj] using ih

/-- A thing is found under its key alone where no two things share a key. -/
theorem find?_eq_some_iff {key : α → κ} {k : κ} {xs : List α} {x : α}
    (h : (xs.map key).Nodup) : find? key k xs = some x ↔ x ∈ xs ∧ key x = k := by
  refine ⟨find?_eq_some, ?_⟩
  rintro ⟨hx, rfl⟩
  obtain ⟨before, after, rfl⟩ := List.append_of_mem hx
  rw [List.map_append, List.map_cons, List.nodup_append] at h
  refine List.find?_eq_some_iff_append.mpr ⟨decide_eq_true rfl, before, after, rfl, ?_⟩
  intro y hy
  have hne : key y ≠ key x := h.2.2 _ (List.mem_map_of_mem hy) _ List.mem_cons_self
  simpa using hne

theorem nodup_key_put {key : α → κ} {x : α} {xs : List α} (h : (xs.map key).Nodup) :
    ((put key x xs).map key).Nodup := by
  rw [map_key_put]
  split
  · exact h
  · rename_i hx
    rw [List.nodup_append]
    refine ⟨h, by simp, ?_⟩
    rintro k hk _ hx' rfl
    exact hx (List.mem_singleton.mp hx' ▸ hk)

/-- Another property on which things differ stays so when the new thing differs from all. -/
theorem nodup_map_put {β : Type} {key : α → κ} {f : α → β} {x : α} {xs : List α}
    (h : (xs.map f).Nodup) (hx : f x ∉ xs.map f) : ((put key x xs).map f).Nodup := by
  induction xs with
  | nil => simp [put]
  | cons y ys ih =>
    rw [List.map_cons, List.nodup_cons] at h
    rw [List.map_cons, List.mem_cons, not_or] at hx
    rw [put]
    split
    · exact List.nodup_cons.mpr ⟨hx.2, h.2⟩
    · refine List.nodup_cons.mpr ⟨?_, ih h.2 hx.2⟩
      intro hy
      obtain ⟨z, hz, he⟩ := List.mem_map.mp hy
      rcases mem_put hz with rfl | hz
      · exact hx.1 he
      · exact h.1 (he ▸ List.mem_map_of_mem hz)

theorem nodup_map_remove {β : Type} {key : α → κ} {f : α → β} {k : κ} {xs : List α}
    (h : (xs.map f).Nodup) : ((remove key k xs).map f).Nodup :=
  h.sublist (List.filter_sublist.map f)

end AccessControl.Keyed
