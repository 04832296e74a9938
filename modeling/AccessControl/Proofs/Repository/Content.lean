import AccessControl.Proofs.Sorting
import AccessControl.Repository

/-!
What a repository holds: entities under identifiers that storing and deleting keep distinct. Listed
by name, those that share a name keep the order in which they stand.
-/

namespace AccessControl.Repository

variable {ε : Type} [Entity ε]

def IdsDistinct (r : Repository ε) : Prop :=
  (r.entities.map Entity.id).Nodup

variable {r : Repository ε}

theorem IdsDistinct.save (h : r.IdsDistinct) (e : ε) : (r.save e).IdsDistinct :=
  Keyed.nodup_key_put h

theorem IdsDistinct.delete (h : r.IdsDistinct) (id : EntityId) : (r.delete id).IdsDistinct :=
  Keyed.nodup_map_remove h

theorem IdsDistinct.find?_eq_some_iff (h : r.IdsDistinct) {id : EntityId} {e : ε} :
    r.find? id = some e ↔ e ∈ r.entities ∧ Entity.id e = id :=
  Keyed.find?_eq_some_iff h

theorem find?_save (r : Repository ε) (e : ε) (id : EntityId) :
    (r.save e).find? id = if Entity.id e = id then some e else r.find? id :=
  Keyed.find?_put Entity.id e id r.entities

theorem find?_delete (r : Repository ε) (gone id : EntityId) :
    (r.delete gone).find? id = if id = gone then none else r.find? id :=
  Keyed.find?_remove Entity.id gone id r.entities

theorem contains_iff {id : EntityId} : r.contains id = true ↔ id ∈ r.entities.map Entity.id := by
  simp [contains]

theorem contains_save {e : ε} {id : EntityId} :
    (r.save e).contains id = true ↔ r.contains id = true ∨ id = Entity.id e := by
  rw [contains_iff, contains_iff, save, Keyed.map_key_put]
  split
  · rename_i hused
    exact ⟨.inl, fun h => h.elim (fun hid => hid) (fun heq => heq ▸ hused)⟩
  · rw [List.mem_append, List.mem_singleton]

theorem contains_delete {id other : EntityId} :
    (r.delete other).contains id = true ↔ r.contains id = true ∧ id ≠ other := by
  simp only [contains_iff, delete, Keyed.remove, List.mem_map, List.mem_filter,
    Bool.not_eq_true', decide_eq_false_iff_not]
  constructor
  · rintro ⟨e, ⟨he, hne⟩, rfl⟩
    exact ⟨⟨e, he, rfl⟩, hne⟩
  · rintro ⟨⟨e, he, rfl⟩, hne⟩
    exact ⟨e, ⟨he, hne⟩, rfl⟩

def Ascending (s : List ε) : Prop :=
  s.Pairwise fun a b => Text.lessOrEqual (Entity.name a) (Entity.name b) = true

/-- The entities in ascending order of their names, each as often as before. -/
structure OrderedByName (entities sorted : List ε) : Prop where
  perm : sorted.Perm entities
  ascending : Ascending sorted
  stable : ∀ name, sorted.filter (fun e => Entity.name e == name) =
    entities.filter fun e => Entity.name e == name

theorem sortByName_perm (entities : List ε) : (sortByName entities).Perm entities :=
  List.mergeSort_perm _ _

theorem totalOrder_lessOrEqual : Sorting.TotalOrder Text.lessOrEqual where
  refl := Text.lessOrEqual_refl
  trans := Text.lessOrEqual_trans
  antisymm := Text.eq_of_lessOrEqual
  total := Text.lessOrEqual_total

theorem orderedByName_sortByName (entities : List ε) :
    OrderedByName entities (sortByName entities) where
  perm := sortByName_perm entities
  ascending := Sorting.pairwise_mergeSort totalOrder_lessOrEqual Entity.name entities
  stable := Sorting.filter_key_mergeSort totalOrder_lessOrEqual Entity.name entities

/-- The names and the order in which the entities stand leave no choice. -/
theorem OrderedByName.unique {entities s t : List ε} (hs : OrderedByName entities s)
    (ht : OrderedByName entities t) : s = t :=
  Sorting.eq_of_filter_key totalOrder_lessOrEqual hs.ascending ht.ascending fun name =>
    (hs.stable name).trans (ht.stable name).symm

end AccessControl.Repository
