import AccessControl.Entity.Operator
import AccessControl.Proofs.Repository.Content
import Mathlib.Data.List.Induction
import Mathlib.Data.List.Nodup

/-!
What a repository holds, told by its history alone. An entity is there when it was the last thing to
happen to its identifier, and it stands where its identifier came in: saving it again does not move
it, while deleting it in between does.
-/

namespace AccessControl.Repository

variable {ε : Type}

/-- What can be asked of a repository that changes it. -/
inductive Operation (ε : Type) where
  | save (e : ε)
  | delete (id : EntityId)

variable [Entity ε]

/-- The identifier that an operation is about. -/
def Operation.target : Operation ε → EntityId
  | .save e => Entity.id e
  | .delete id => id

def perform (r : Repository ε) : Operation ε → Repository ε
  | .save e => r.save e
  | .delete id => r.delete id

/-- The repository to which operations lead that begin with nothing stored. -/
def ofHistory (ops : List (Operation ε)) : Repository ε :=
  ops.foldl perform empty

/-- The last operation on the identifier saved the entity. -/
def LastSaved (ops : List (Operation ε)) (id : EntityId) (e : ε) : Prop :=
  ∃ before after, ops = before ++ .save e :: after ∧ Entity.id e = id ∧
    ∀ op ∈ after, op.target ≠ id

/-- The operation at the place saved an entity under the identifier when there was none, and no
later one deleted it. -/
def EnteredAt (ops : List (Operation ε)) (id : EntityId) (place : Nat) : Prop :=
  ∃ before e after, ops = before ++ .save e :: after ∧ before.length = place ∧
    Entity.id e = id ∧ (∀ x, ¬ LastSaved before id x) ∧ .delete id ∉ after

def EnteredBefore (ops : List (Operation ε)) (id other : EntityId) : Prop :=
  ∃ i j, EnteredAt ops id i ∧ EnteredAt ops other j ∧ i < j

/-- The entities that a history leaves, in the order in which their identifiers came in. -/
structure LeftBy (ops : List (Operation ε)) (entities : List ε) : Prop where
  ids : (entities.map Entity.id).Nodup
  current : ∀ e, e ∈ entities ↔ LastSaved ops (Entity.id e) e
  ordered : (entities.map Entity.id).Pairwise (EnteredBefore ops)

theorem ofHistory_concat (ops : List (Operation ε)) (op : Operation ε) :
    ofHistory (ops ++ [op]) = (ofHistory ops).perform op :=
  List.foldl_append

/-- The part after a place is empty, or it ends as the whole does. -/
theorem concat_eq_append_cons_iff {α : Type} {xs before after : List α} {x y : α} :
    xs ++ [x] = before ++ y :: after ↔
      (xs = before ∧ x = y ∧ after = []) ∨
        ∃ rest, after = rest ++ [x] ∧ xs = before ++ y :: rest := by
  constructor
  · intro h
    rcases List.eq_nil_or_concat after with rfl | ⟨rest, z, rfl⟩
    · obtain ⟨hxs, hx⟩ := List.append_inj' h rfl
      exact .inl ⟨hxs, List.singleton_inj.mp hx, rfl⟩
    · rw [List.concat_eq_append, ← List.cons_append, ← List.append_assoc] at h
      obtain ⟨hxs, hx⟩ := List.append_inj' h rfl
      obtain rfl := List.singleton_inj.mp hx
      exact .inr ⟨rest, by simp, hxs⟩
  · rintro (⟨rfl, rfl, rfl⟩ | ⟨rest, rfl, rfl⟩)
    · rfl
    · simp

variable {ops : List (Operation ε)} {op : Operation ε} {id other : EntityId} {e : ε}
  {place place' : Nat}

theorem LastSaved.id_eq (h : LastSaved ops id e) : Entity.id e = id := by
  obtain ⟨_, _, _, hid, _⟩ := h
  exact hid

theorem lastSaved_concat_iff :
    LastSaved (ops ++ [op]) id e ↔
      if op.target = id then op = .save e else LastSaved ops id e := by
  simp only [LastSaved, concat_eq_append_cons_iff]
  constructor
  · rintro ⟨before, after, ⟨rfl, rfl, rfl⟩ | ⟨rest, rfl, rfl⟩, hid, hafter⟩
    · have htarget : (Operation.save e).target = id := hid
      rw [if_pos htarget]
    · rw [if_neg (hafter op (by simp))]
      exact ⟨before, rest, rfl, hid, fun op' h => hafter op' (by simp [h])⟩
  · split
    · rintro rfl
      rename_i hid
      exact ⟨ops, [], .inl ⟨rfl, rfl, rfl⟩, hid, fun _ h => nomatch h⟩
    · rintro ⟨before, rest, hops, hid, hrest⟩
      rename_i hne
      refine ⟨before, rest ++ [op], .inr ⟨rest, rfl, hops⟩, hid, fun op' h => ?_⟩
      rcases List.mem_append.mp h with h | h
      · exact hrest op' h
      · rwa [List.mem_singleton.mp h]

theorem enteredAt_concat_iff :
    EnteredAt (ops ++ [op]) id place ↔
      (op ≠ .delete id ∧ EnteredAt ops id place) ∨
        ∃ e, op = .save e ∧ Entity.id e = id ∧ (∀ x, ¬ LastSaved ops id x) ∧
          ops.length = place := by
  simp only [EnteredAt, concat_eq_append_cons_iff]
  constructor
  · rintro ⟨before, e, after, ⟨rfl, rfl, rfl⟩ | ⟨rest, rfl, rfl⟩, hplace, hid, habsent, hafter⟩
    · exact .inr ⟨e, rfl, hid, habsent, hplace⟩
    · rw [List.mem_append, List.mem_singleton, not_or] at hafter
      exact .inl ⟨Ne.symm hafter.2, before, e, rest, rfl, hplace, hid, habsent, hafter.1⟩
  · rintro (⟨hne, before, e, rest, rfl, hplace, hid, habsent, hrest⟩ | ⟨e, rfl, hid, habsent, rfl⟩)
    · refine ⟨before, e, rest ++ [op], .inr ⟨rest, rfl, rfl⟩, hplace, hid, habsent, ?_⟩
      rw [List.mem_append, List.mem_singleton, not_or]
      exact ⟨hrest, Ne.symm hne⟩
    · exact ⟨ops, e, [], .inl ⟨rfl, rfl, rfl⟩, rfl, hid, habsent, fun h => nomatch h⟩

theorem EnteredAt.lt_length (h : EnteredAt ops id place) : place < ops.length := by
  obtain ⟨before, e, after, rfl, rfl, _⟩ := h
  simp

/-- What is there came in somewhere, and what came in and was not deleted is there. -/
theorem exists_enteredAt_iff : (∃ place, EnteredAt ops id place) ↔ ∃ e, LastSaved ops id e := by
  induction ops using List.reverseRecOn with
  | nil => simp [EnteredAt, LastSaved]
  | append_singleton ops op ih =>
    simp only [enteredAt_concat_iff, lastSaved_concat_iff]
    cases op with
    | delete gone =>
      by_cases hid : gone = id
      · simp [Operation.target, hid]
      · simpa [Operation.target, hid] using ih
    | save e =>
      by_cases hid : Entity.id e = id
      · by_cases hthere : ∃ x, LastSaved ops id x
        · obtain ⟨place, hplace⟩ := ih.mpr hthere
          simp only [Operation.target, hid, if_true]
          exact iff_of_true ⟨place, .inl ⟨nofun, hplace⟩⟩ ⟨e, rfl⟩
        · simp only [Operation.target, hid, if_true]
          exact iff_of_true ⟨_, .inr ⟨e, rfl, hid, not_exists.mp hthere, rfl⟩⟩ ⟨e, rfl⟩
      · simpa [Operation.target, hid] using ih

theorem EnteredAt.unique (h : EnteredAt ops id place) (h' : EnteredAt ops id place') :
    place = place' := by
  induction ops using List.reverseRecOn with
  | nil => cases h.lt_length
  | append_singleton ops op ih =>
    -- The last operation brings it in only where it was not there, so not beside an earlier one.
    rcases enteredAt_concat_iff.mp h with ⟨_, h⟩ | ⟨_, _, _, habsent, rfl⟩ <;>
      rcases enteredAt_concat_iff.mp h' with ⟨_, h'⟩ | ⟨_, _, _, habsent', rfl⟩
    · exact ih h h'
    · exact absurd (exists_enteredAt_iff.mp ⟨_, h⟩) (not_exists.mpr habsent')
    · exact absurd (exists_enteredAt_iff.mp ⟨_, h'⟩) (not_exists.mpr habsent)
    · rfl

/-- Coming in before another is an order, so the history leaves one list only. -/
theorem LeftBy.unique {xs ys : List ε} (hx : LeftBy ops xs) (hy : LeftBy ops ys) : xs = ys := by
  have hperm : xs.Perm ys := by
    rw [List.perm_ext_iff_of_nodup (.of_map _ hx.ids) (.of_map _ hy.ids)]
    exact fun e => (hx.current e).trans (hy.current e).symm
  refine hperm.eq_of_pairwise ?_ (List.pairwise_map.mp hx.ordered) (List.pairwise_map.mp hy.ordered)
  rintro e e' _ _ ⟨i, j, hi, hj, hlt⟩ ⟨j', i', hj', hi', hlt'⟩
  obtain rfl := hi.unique hi'
  obtain rfl := hj.unique hj'
  omega

theorem find?_ofHistory_iff : (ofHistory ops).find? id = some e ↔ LastSaved ops id e := by
  induction ops using List.reverseRecOn with
  | nil => simp [ofHistory, empty, find?, Keyed.find?, LastSaved]
  | append_singleton ops op ih =>
    rw [ofHistory_concat, lastSaved_concat_iff, ← ih]
    cases op with
    | save x =>
      rw [Operation.target, perform, find?_save]
      split
      · simp
      · rfl
    | delete gone =>
      rw [Operation.target, perform, find?_delete]
      by_cases hid : gone = id
      · simp [hid]
      · rw [if_neg (Ne.symm hid), if_neg hid]

theorem idsDistinct_ofHistory : (ofHistory ops).IdsDistinct := by
  induction ops using List.reverseRecOn with
  | nil => exact List.nodup_nil
  | append_singleton ops op ih =>
    rw [ofHistory_concat]
    cases op with
    | save e => exact ih.save e
    | delete id => exact ih.delete id

theorem mem_ofHistory_iff : e ∈ (ofHistory ops).entities ↔ LastSaved ops (Entity.id e) e := by
  rw [← find?_ofHistory_iff, idsDistinct_ofHistory.find?_eq_some_iff]
  exact (and_iff_left rfl).symm

theorem mem_ids_ofHistory_iff :
    id ∈ (ofHistory ops).entities.map Entity.id ↔ ∃ e, LastSaved ops id e := by
  simp only [← find?_ofHistory_iff, idsDistinct_ofHistory.find?_eq_some_iff, List.mem_map]

/-- An operation does not change the order of what came in before it and stays. -/
theorem EnteredBefore.concat (h : EnteredBefore ops id other) (hid : op ≠ .delete id)
    (hother : op ≠ .delete other) : EnteredBefore (ops ++ [op]) id other := by
  obtain ⟨i, j, hi, hj, hlt⟩ := h
  exact ⟨i, j, enteredAt_concat_iff.mpr (.inl ⟨hid, hi⟩),
    enteredAt_concat_iff.mpr (.inl ⟨hother, hj⟩), hlt⟩

/-- What comes in last comes in after all that is there. -/
theorem enteredBefore_save (h : ∃ x, LastSaved ops id x)
    (hnew : ∀ x, ¬ LastSaved ops (Entity.id e) x) :
    EnteredBefore (ops ++ [.save e]) id (Entity.id e) := by
  obtain ⟨i, hi⟩ := exists_enteredAt_iff.mpr h
  exact ⟨i, ops.length, enteredAt_concat_iff.mpr (.inl ⟨nofun, hi⟩),
    enteredAt_concat_iff.mpr (.inr ⟨e, rfl, rfl, hnew, rfl⟩), hi.lt_length⟩

theorem ordered_ofHistory :
    ((ofHistory ops).entities.map Entity.id).Pairwise (EnteredBefore ops) := by
  induction ops using List.reverseRecOn with
  | nil => exact List.Pairwise.nil
  | append_singleton ops op ih =>
    rw [ofHistory_concat]
    cases op with
    | save e =>
      have hkept : ((ofHistory ops).entities.map Entity.id).Pairwise
          (EnteredBefore (ops ++ [.save e])) := ih.imp fun h => h.concat nofun nofun
      rw [perform, save, Keyed.map_key_put]
      split
      · exact hkept
      · rename_i hnew
        rw [mem_ids_ofHistory_iff, not_exists] at hnew
        rw [List.pairwise_append]
        refine ⟨hkept, List.pairwise_singleton _ _, fun id hid new h => ?_⟩
        obtain rfl := List.mem_singleton.mp h
        exact enteredBefore_save (mem_ids_ofHistory_iff.mp hid) hnew
    | delete gone =>
      -- Of two that stay, neither is the one deleted, so both are where they came in.
      rw [perform, delete, Keyed.remove, List.pairwise_map, List.pairwise_filter]
      refine (List.pairwise_map.mp ih).imp fun h hid hother => h.concat ?_ ?_
      · rintro ⟨⟩
        simp at hid
      · rintro ⟨⟩
        simp at hother

theorem leftBy_ofHistory : LeftBy ops (ofHistory ops).entities where
  ids := idsDistinct_ofHistory
  current _ := mem_ofHistory_iff
  ordered := ordered_ofHistory

theorem size_delete_iff {r : Repository ε} :
    (r.delete id).size ≠ r.size ↔ r.contains id = true := by
  rw [size, size, delete, Keyed.remove, ne_eq, List.length_filter_eq_length_iff, contains]
  simp

/-- After any saving and deleting from nothing, what is found under an identifier is what was last
saved there and not deleted since. The entities stand in the order in which their identifiers came
in, each at one place of the history, and no other list has them so. Deleting takes something out
where something was found, and a name is in use where something of that name is. Sorted, those of
one name stay in that order, and descending is that list the other way round. -/
theorem refines_history (ops : List (Operation ε)) :
    (∀ id e, (ofHistory ops).find? id = some e ↔ LastSaved ops id e) ∧
    (∀ id, (∃ e, LastSaved ops id e) ↔ ∃! place, EnteredAt ops id place) ∧
    (∀ entities, LeftBy ops entities ↔ (ofHistory ops).list .stored = entities) ∧
    (∀ id, ((ofHistory ops).contains id = true ↔ ∃ e, LastSaved ops id e) ∧
      (((ofHistory ops).delete id).size ≠ (ofHistory ops).size ↔ ∃ e, LastSaved ops id e)) ∧
    (∀ name, (ofHistory ops).existsByName name = true ↔
      ∃ id e, LastSaved ops id e ∧ Entity.name e = name) ∧
    OrderedByName ((ofHistory ops).list .stored) ((ofHistory ops).list .byName) ∧
    (ofHistory ops).list .byNameDescending = ((ofHistory ops).list .byName).reverse := by
  have hcontains : ∀ id, (ofHistory ops).contains id = true ↔ ∃ e, LastSaved ops id e :=
    fun id => contains_iff.trans mem_ids_ofHistory_iff
  refine ⟨fun _ _ => find?_ofHistory_iff, fun id => ?_, fun entities => ?_, fun id => ?_,
    fun name => ?_, orderedByName_sortByName _, rfl⟩
  · rw [← exists_enteredAt_iff]
    exact ⟨fun ⟨place, h⟩ => ⟨place, h, fun _ h' => h'.unique h⟩, ExistsUnique.exists⟩
  · exact ⟨leftBy_ofHistory.unique, fun h => h ▸ leftBy_ofHistory⟩
  · exact ⟨hcontains id, size_delete_iff.trans (hcontains id)⟩
  · simp only [existsByName, List.any_eq_true, beq_iff_eq, mem_ofHistory_iff]
    constructor
    · rintro ⟨e, he, hname⟩
      exact ⟨_, e, he, hname⟩
    · rintro ⟨id, e, he, hname⟩
      obtain rfl := he.id_eq
      exact ⟨e, he, hname⟩

/-- An operator that is saved again keeps its place; deleted in between, it comes in anew. -/
example (sum max mean : Operator) :
    let sum := { sum with id := .ofDigit 1 }
    let max := { max with id := .ofDigit 2 }
    let mean := { mean with id := .ofDigit 1 }
    (ofHistory [.save sum, .save max, .save mean]).entities = [mean, max] ∧
      (ofHistory [.save sum, .save max, .delete (.ofDigit 1), .save mean]).entities =
        [max, mean] :=
  ⟨rfl, rfl⟩

end AccessControl.Repository
