import AccessControl.Proofs.Json.Parsing

/-!
Which values come back from their own text: those that do not nest past the limit of the reader and
whose numbers all come back from theirs.
-/

namespace AccessControl.Json

section Parts

variable {room : Nat} {j k : Json} {js ks : List Json} {name : String}
  {es fs : List (String × Json)}

theorem within?_list_eq_some :
    (list js).within? room = some k ↔
      room ≠ 0 ∧ ∃ ks, itemsWithin? (room - 1) js = some ks ∧ .list ks = k := by
  by_cases h : room = 0 <;> simp [within?, h]

theorem within?_record_eq_some :
    (record es).within? room = some k ↔
      room ≠ 0 ∧ ∃ fs, entriesWithin? (room - 1) es = some fs ∧ .record fs = k := by
  by_cases h : room = 0 <;> simp [within?, h]

theorem itemsWithin?_cons_eq_some :
    itemsWithin? room (j :: js) = some ks ↔
      ∃ value values, j.within? room = some value ∧ itemsWithin? room js = some values ∧
        value :: values = ks := by
  simp [itemsWithin?, Option.bind_eq_some_iff]

theorem entriesWithin?_cons_eq_some :
    entriesWithin? room ((name, j) :: es) = some fs ↔
      ∃ value values, j.within? room = some value ∧ entriesWithin? room es = some values ∧
        (name, value) :: values = fs := by
  simp [entriesWithin?, Option.bind_eq_some_iff]

end Parts

mutual

theorem depth_le_of_within? : ∀ (j : Json) {room : Nat} {k : Json},
    j.within? room = some k → j.depth ≤ room
  | .null, _, _, _ => Nat.zero_le _
  | .bool _, _, _, _ => Nat.zero_le _
  | .number _, _, _, _ => Nat.zero_le _
  | .text _, _, _, _ => Nat.zero_le _
  | .list items, room, _, h => by
    obtain ⟨hroom, _, hitems, -⟩ := within?_list_eq_some.mp h
    have := depthList_le_of_itemsWithin? items hitems
    rw [depth]
    omega
  | .record entries, room, _, h => by
    obtain ⟨hroom, _, hentries, -⟩ := within?_record_eq_some.mp h
    have := depthEntries_le_of_entriesWithin? entries hentries
    rw [depth]
    omega

theorem depthList_le_of_itemsWithin? : ∀ (js : List Json) {room : Nat} {ks : List Json},
    itemsWithin? room js = some ks → depthList js ≤ room
  | [], _, _, _ => Nat.zero_le _
  | j :: js, _, _, h => by
    obtain ⟨_, _, hj, hjs, -⟩ := itemsWithin?_cons_eq_some.mp h
    exact Nat.max_le.mpr ⟨depth_le_of_within? j hj, depthList_le_of_itemsWithin? js hjs⟩

theorem depthEntries_le_of_entriesWithin? : ∀ (es : List (String × Json)) {room : Nat}
    {fs : List (String × Json)}, entriesWithin? room es = some fs → depthEntries es ≤ room
  | [], _, _, _ => Nat.zero_le _
  | (_, j) :: es, _, _, h => by
    obtain ⟨_, _, hj, hes, -⟩ := entriesWithin?_cons_eq_some.mp h
    exact Nat.max_le.mpr ⟨depth_le_of_within? j hj, depthEntries_le_of_entriesWithin? es hes⟩

end

mutual

/-- Where there is room, a value is read as it is exactly when its numbers are. -/
theorem within?_self_iff : ∀ (j : Json) {room : Nat}, j.depth ≤ room →
    (j.within? room = some j ↔ ∀ n ∈ j.numbers, n.reread? = some n)
  | .null, _, _ => by simp [within?, numbers]
  | .bool _, _, _ => by simp [within?, numbers]
  | .number _, _, _ => by simp [within?, numbers]
  | .text _, _, _ => by simp [within?, numbers]
  | .list items, room, hdepth => by
    rw [depth] at hdepth
    have hitems := itemsWithin?_self_iff items (show depthList items ≤ room - 1 by omega)
    have hroom : room ≠ 0 := by omega
    simp [within?, numbers, hroom, hitems]
  | .record entries, room, hdepth => by
    rw [depth] at hdepth
    have hentries := entriesWithin?_self_iff entries (show depthEntries entries ≤ room - 1 by omega)
    have hroom : room ≠ 0 := by omega
    simp [within?, numbers, hroom, hentries]

theorem itemsWithin?_self_iff : ∀ (js : List Json) {room : Nat}, depthList js ≤ room →
    (itemsWithin? room js = some js ↔ ∀ n ∈ itemNumbers js, n.reread? = some n)
  | [], _, _ => by simp [itemsWithin?, itemNumbers]
  | j :: js, _, hdepth => by
    obtain ⟨hdepth, hdepths⟩ := Nat.max_le.mp hdepth
    rw [itemNumbers, List.forall_mem_append, ← within?_self_iff j hdepth,
      ← itemsWithin?_self_iff js hdepths]
    simp [itemsWithin?, Option.bind_eq_some_iff]

theorem entriesWithin?_self_iff : ∀ (es : List (String × Json)) {room : Nat},
    depthEntries es ≤ room →
      (entriesWithin? room es = some es ↔ ∀ n ∈ entryNumbers es, n.reread? = some n)
  | [], _, _ => by simp [entriesWithin?, entryNumbers]
  | (_, j) :: es, _, hdepth => by
    obtain ⟨hdepth, hdepths⟩ := Nat.max_le.mp hdepth
    rw [entryNumbers, List.forall_mem_append, ← within?_self_iff j hdepth,
      ← entriesWithin?_self_iff es hdepths]
    simp [entriesWithin?, Option.bind_eq_some_iff]

end

/-- A value whose numbers come back from their texts comes back as it was, if it does at all. -/
theorem eq_of_within? {j k : Json} {room : Nat} (h : j.within? room = some k)
    (hnumbers : ∀ n ∈ j.numbers, n.reread? = some n) : k = j :=
  Option.some.inj (h.symm.trans ((within?_self_iff j (depth_le_of_within? j h)).mpr hnumbers))

/-- Of entries around one whose numbers may change, only that one does. -/
theorem entriesWithin?_around {before after fs : List (String × Json)} {name : String} {j : Json}
    {room : Nat} (h : entriesWithin? room (before ++ (name, j) :: after) = some fs)
    (hbefore : ∀ n ∈ entryNumbers before, n.reread? = some n)
    (hafter : ∀ n ∈ entryNumbers after, n.reread? = some n) :
    ∃ k, j.within? room = some k ∧ before ++ (name, k) :: after = fs := by
  induction before generalizing fs with
  | nil =>
    obtain ⟨k, rest, hk, hrest, rfl⟩ := entriesWithin?_cons_eq_some.mp h
    have hdepth := depthEntries_le_of_entriesWithin? after hrest
    have hsame := (entriesWithin?_self_iff after hdepth).mpr hafter
    cases hrest.symm.trans hsame
    exact ⟨k, hk, rfl⟩
  | cons e es ih =>
    obtain ⟨first, i⟩ := e
    obtain ⟨hi, hes⟩ := List.forall_mem_append.mp hbefore
    obtain ⟨value, rest, hvalue, hrest, rfl⟩ := entriesWithin?_cons_eq_some.mp h
    obtain ⟨k, hk, rfl⟩ := ih hrest hes
    exact ⟨k, hk, by rw [eq_of_within? hvalue hi]; rfl⟩

/-- A value comes back from its own text exactly when it stays within the reader's depth and every
number in it comes back from its text. -/
theorem read_write_self_iff {o : Outline} {j : Json} (hfinite : ∀ n ∈ j.numbers, n.isFinite = true)
    (hcovers : o.Covers j) :
    read o j.write = some j ↔ j.depth ≤ maxDepth ∧ ∀ n ∈ j.numbers, n.reread? = some n := by
  rw [read_write hfinite hcovers]
  constructor
  · intro h
    have hdepth := depth_le_of_within? j h
    exact ⟨hdepth, (within?_self_iff j hdepth).mp h⟩
  · rintro ⟨hdepth, hnumbers⟩
    exact (within?_self_iff j hdepth).mpr hnumbers

theorem read_write_eq_none {o : Outline} {j : Json} (hfinite : ∀ n ∈ j.numbers, n.isFinite = true)
    (hcovers : o.Covers j) (hdepth : maxDepth < j.depth) : read o j.write = none := by
  rw [read_write hfinite hcovers, Option.eq_none_iff_forall_ne_some]
  intro k hk
  have := depth_le_of_within? j hk
  omega

/-- So does what the value was written for, when its reader undoes its writer and takes no other
reading of the text for it. -/
theorem bind_read_write_iff {α : Type} {o : Outline} {decode : Json → Option α} {a : α} {j : Json}
    (hfinite : ∀ n ∈ j.numbers, n.isFinite = true) (hcovers : o.Covers j)
    (hdecode : decode j = some a)
    (hself : ∀ k, j.within? maxDepth = some k → decode k = some a → k = j) :
    (read o j.write).bind decode = some a ↔
      j.depth ≤ maxDepth ∧ ∀ n ∈ j.numbers, n.reread? = some n := by
  rw [← read_write_self_iff hfinite hcovers]
  constructor
  · intro h
    obtain ⟨k, hk, hread⟩ := Option.bind_eq_some_iff.mp h
    rw [hk, hself k ((read_write hfinite hcovers).symm.trans hk) hread]
  · intro h
    rw [h, Option.bind_some, hdecode]

end AccessControl.Json
