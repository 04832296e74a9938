import AccessControl.Proofs.World.Writes
import Mathlib.Logic.ExistsUnique

/-!
Listing entities, page by page or all at once, against asking for each one alone. A list is sorted
and filtered as a whole; a single entity is found by its identifier, which no other one has.
-/

namespace AccessControl

/-- Those of some things that have a property, in their order and as often as they stand there. -/
def RestrictedTo {α : Type} (P : α → Prop) (xs ys : List α) : Prop :=
  ∃ keep : α → Bool, (∀ x ∈ xs, keep x = true ↔ P x) ∧ ys = xs.filter keep

namespace Service

variable {ε : Type} [Entity ε] [Stored ε] {s : Service ε} {access : AccessType}
  {request : AccessRequest} {w : World} {shown : List ε}

theorem list_restricted (hw : (Stored.repository (ε := ε) w).IdsDistinct)
    (h : s.list access request w = .ok shown) :
    RestrictedTo (fun e => s.getChecked (Entity.id e) access request w = .ok e)
      (Repository.sortByName (Stored.repository w).entities) shown := by
  obtain ⟨principal, hc, hl, rfl⟩ := list_ok_iff.mp h
  refine ⟨_, fun e he => ?_, rfl⟩
  have hm : e ∈ (Stored.repository w).entities := (Repository.sortByName_perm _).mem_iff.mp he
  have hfound := hw.find?_eq_some_iff.mpr ⟨hm, rfl⟩
  refine Iff.trans ?_ getChecked_ok_iff.symm
  constructor
  · intro hallowed
    exact ⟨hfound, principal, hc, Guard.exists_require_ok_iff.mpr ⟨hl, hallowed⟩⟩
  · rintro ⟨_, other, hother, hgrant⟩
    obtain rfl := Except.ok.inj (hc.symm.trans hother)
    exact (Guard.exists_require_ok_iff.mp hgrant).2

theorem list_distinct (hw : (Stored.repository (ε := ε) w).IdsDistinct)
    (h : s.list access request w = .ok shown) : (shown.map Entity.id).Nodup := by
  obtain ⟨_, _, _, rfl⟩ := list_ok_iff.mp h
  have hsorted : ((Repository.sortByName (Stored.repository (ε := ε) w).entities).map
      Entity.id).Nodup := ((Repository.sortByName_perm _).map Entity.id).nodup_iff.mpr hw
  exact hsorted.sublist (List.filter_sublist.map Entity.id)

end Service

namespace World

/-- The world comes from an empty one by operations whose hooks do nothing but write. -/
def Reached (w : World) : Prop :=
  ∃ maxConditionDepth evaluator ops, (∀ op ∈ ops, Operation.WritesOnly op) ∧
    (fresh maxConditionDepth evaluator).run ops = w

theorem Reached.idsDistinct {w : World} (h : w.Reached) : w.IdsDistinct := by
  obtain ⟨maxConditionDepth, evaluator, ops, hops, rfl⟩ := h
  exact idsDistinct_run hops (idsDistinct_fresh maxConditionDepth evaluator)

/-- After any operations on an empty world, with the hooks that entities come with or others that
write what they like, a list that is answered holds the stored entities by name, those of one name
as they are stored, as far as the caller gets them one by one; and a page holds its part of that
list. No list in memory is longer than a word counts. -/
theorem list_agrees_with_getChecked :
    (∀ kind : EntityKind, kind.lifecycle.WritesOnly) ∧
    ∀ (w : World) (kind : EntityKind) (s : Service kind.Carrier) (access : AccessType)
      (request : AccessRequest) (shown : List kind.Carrier), w.Reached →
      s.list access request w = .ok shown →
      (∃! sorted, Repository.OrderedByName (w.repositoryOf kind).entities sorted ∧
        RestrictedTo (fun e => s.getChecked (Entity.id e) access request w = .ok e)
          sorted shown) ∧
      (shown.map Entity.id).Nodup ∧
      ∀ pageable, ∃ page, s.page access request pageable w = .ok page ∧
        page.page = pageable.page ∧ page.size = pageable.size ∧ page.total = shown.length ∧
        (shown.length < Word.bound 64 → ∀ i, page.items[i]? =
          if i < pageable.size then shown[pageable.page * pageable.size + i]? else none) := by
  refine ⟨EntityKind.writesOnly_lifecycle, ?_⟩
  intro w kind s access request shown hw h
  have hids := hw.idsDistinct kind
  have hordered := Repository.orderedByName_sortByName (w.repositoryOf kind).entities
  refine ⟨⟨_, ⟨hordered, Service.list_restricted hids h⟩, fun _ ht => ht.1.unique hordered⟩,
    Service.list_distinct hids h, fun pageable => ?_⟩
  refine ⟨.ofList shown pageable, Service.page_of_list h pageable, rfl, rfl, rfl, ?_⟩
  exact fun hlength i => Page.getElem?_items_ofList hlength pageable i

/-- The operation of one user who stores an operator. -/
def operatorBy (caller digit : Fin 16) (name : String) : Operation :=
  .entities .operator (EntityKind.operator.serviceOf caller)
    (.create (Operator.ofFunction (.ofDigit digit) name "aggregate"))

/-- An operator as it is stored for a user. -/
def operatorOf (owner digit : Fin 16) (name : String) : Operator :=
  { Operator.ofFunction (.ofDigit digit) name "aggregate" with owner := some (.ofDigit owner) }

/-- Two operators of one user and one of another, stored in another order than by name. -/
def threeOperators : World :=
  (fresh 64 (.ofLimit 64)).run
    [operatorBy 1 3 "sum", operatorBy 2 4 "max", operatorBy 1 5 "mean"]

/-- The first user is shown only the two operators, and the later name on the second page. -/
theorem threeOperators_listed :
    Service.list (ε := Operator) (EntityKind.operator.serviceOf 1) .read .empty threeOperators =
      .ok [operatorOf 1 5 "mean", operatorOf 1 3 "sum"] ∧
    ∃ page, Service.page (ε := Operator) (EntityKind.operator.serviceOf 1) .read .empty ⟨1, 1⟩
        threeOperators = .ok page ∧
      page.total = 2 ∧ page.items[0]? = some (operatorOf 1 3 "sum") := by
  have hstored : threeOperators.operators.entities =
      [operatorOf 1 3 "sum", operatorOf 2 4 "max", operatorOf 1 5 "mean"] := rfl
  have hsorted : Repository.sortByName threeOperators.operators.entities =
      [operatorOf 2 4 "max", operatorOf 1 5 "mean", operatorOf 1 3 "sum"] := by
    rw [hstored, Repository.sortByName]
    simp +decide [List.mergeSort, List.MergeSort.Internal.splitInTwo]
  have hlist : Service.list (ε := Operator) (EntityKind.operator.serviceOf 1) .read .empty
      threeOperators = .ok [operatorOf 1 5 "mean", operatorOf 1 3 "sum"] := by
    refine Service.list_ok_iff.mpr ⟨_, rfl, rfl, ?_⟩
    change _ = (Repository.sortByName threeOperators.operators.entities).filter _
    rw [hsorted]
    rfl
  obtain ⟨hwrites, hlist_agrees⟩ := list_agrees_with_getChecked
  have hreached : threeOperators.Reached := by
    refine ⟨_, _, _, ?_, rfl⟩
    simp only [List.forall_mem_cons]
    exact ⟨hwrites .operator, hwrites .operator, hwrites .operator, List.forall_mem_nil _⟩
  obtain ⟨_, _, hpage⟩ := hlist_agrees threeOperators .operator (EntityKind.operator.serviceOf 1)
    .read .empty _ hreached hlist
  obtain ⟨page, hp, _, _, htotal, hitems⟩ := hpage ⟨1, 1⟩
  exact ⟨hlist, page, hp, htotal, hitems (by decide) 0⟩

end World

end AccessControl
