import AccessControl.Page
import Mathlib.Data.List.TakeDrop
import Mathlib.Order.Bounds.Defs

/-!
Pages as parts of the list they are cut from. A page holds the positions between two multiples of
its size, so the pages one after the other are the list, and as many as are counted are just enough.
-/

namespace AccessControl.Page

variable {α : Type}

/-- The items at the positions from one on and before another, in order. -/
def between (start stop : Nat) (all : List α) : List α :=
  (all.zipIdx.filter fun x => decide (start ≤ x.2 ∧ x.2 < stop)).map (·.1)

/-- The items of the first pages of a size, page after page. -/
def joined (all : List α) (size pages : Nat) : List α :=
  (List.range pages).flatMap fun page => (ofList all ⟨page, size⟩).items

/-- Behind the head every position is one less. -/
theorem between_cons (start stop : Nat) (a : α) (as : List α) :
    between start stop (a :: as) =
      if start = 0 ∧ 0 < stop then a :: between (start - 1) (stop - 1) as
      else between (start - 1) (stop - 1) as := by
  have hrest : ((as.zipIdx.map (Prod.map id (· + 1))).filter
      fun x => decide (start ≤ x.2 ∧ x.2 < stop)).map (·.1) =
        between (start - 1) (stop - 1) as := by
    rw [List.filter_map, List.map_map, between]
    congr 1
    apply List.filter_congr
    intro x _
    simp only [Function.comp_apply, Prod.map_snd, decide_eq_decide]
    omega
  rw [between, List.zipIdx_cons', List.filter_cons]
  by_cases hhead : start = 0 ∧ 0 < stop
  · have hin : decide (start ≤ 0 ∧ 0 < stop) = true := decide_eq_true (by omega)
    rw [if_pos hin, if_pos hhead, List.map_cons, hrest]
  · have hout : ¬ decide (start ≤ 0 ∧ 0 < stop) = true := by simpa using hhead
    rw [if_neg hout, if_neg hhead, hrest]

theorem between_eq (start stop : Nat) (all : List α) :
    between start stop all = (all.drop start).take (stop - start) := by
  induction all generalizing start stop with
  | nil => simp [between]
  | cons a as ih =>
    rw [between_cons, ih]
    cases start with
    | zero => cases stop <;> simp
    | succ start => simp [Nat.sub_sub, Nat.add_comm]

variable {all : List α}

theorem items_ofList (h : all.length < Word.bound 64) (p : Pageable) :
    (ofList all p).items = (all.drop (p.page * p.size)).take p.size := by
  apply List.ext_getElem?
  intro i
  rw [getElem?_items_ofList h, List.getElem?_take, List.getElem?_drop]

theorem items_eq_nil (h : all.length < Word.bound 64) {p : Pageable}
    (hpast : all.length ≤ p.page * p.size) : (ofList all p).items = [] := by
  rw [items_ofList h, List.drop_eq_nil_of_le hpast, List.take_nil]

theorem joined_eq_take (h : all.length < Word.bound 64) (size pages : Nat) :
    joined all size pages = all.take (pages * size) := by
  induction pages with
  | zero => simp [joined]
  | succ pages ih =>
    have hsplit : joined all size (pages + 1) =
        joined all size pages ++ (ofList all ⟨pages, size⟩).items := by
      simp [joined, List.range_succ]
    rw [hsplit, ih, items_ofList h, Nat.succ_mul, List.take_add]

theorem joined_eq_self_iff (h : all.length < Word.bound 64) (size pages : Nat) :
    joined all size pages = all ↔ all.length ≤ pages * size := by
  rw [joined_eq_take h, List.take_eq_self_iff]

theorem pageCount_le_iff (all : List α) {p : Pageable} (hsize : 1 ≤ p.size) (pages : Nat) :
    (ofList all p).pageCount ≤ pages ↔ all.length ≤ pages * p.size := by
  have hne : p.size ≠ 0 := by omega
  change (if p.size = 0 then 0 else (all.length + p.size - 1) / p.size) ≤ pages ↔ _
  rw [if_neg hne, Nat.div_le_iff_le_mul_add_pred hsize, Nat.mul_comm]
  omega

/-- A page holds the positions that its number and size name, and none where these are more than a
word counts. So many pages as are counted are the fewest that, one after the other, are the whole
list; there are no more of them than items, and those that come after them are empty. -/
theorem pages_partition (h : all.length < Word.bound 64) (p : Pageable) :
    (ofList all p).items = between (p.page * p.size) ((p.page + 1) * p.size) all ∧
    (Word.bound 64 ≤ p.page * p.size → (ofList all p).items = []) ∧
    (ofList all p).total = all.length ∧
    (1 ≤ p.size →
      IsLeast {pages | joined all p.size pages = all} (ofList all p).pageCount ∧
      (∀ pages, (ofList all p).pageCount ≤ pages ↔ all.length ≤ pages * p.size) ∧
      (ofList all p).pageCount ≤ all.length ∧
      ∀ page, (ofList all p).pageCount ≤ page → (ofList all ⟨page, p.size⟩).items = []) := by
  refine ⟨?_, fun hlarge => items_eq_nil h (by omega), rfl, fun hsize => ?_⟩
  · rw [items_ofList h, between_eq, Nat.succ_mul, Nat.add_sub_cancel_left]
  · have hcount := pageCount_le_iff all hsize
    refine ⟨⟨?_, fun pages hall => ?_⟩, hcount, ?_, fun page hpage => ?_⟩
    · exact (joined_eq_self_iff h _ _).mpr ((hcount _).mp (Nat.le_refl _))
    · exact (hcount pages).mpr ((joined_eq_self_iff h _ _).mp hall)
    · exact (hcount _).mpr (Nat.le_mul_of_pos_right _ hsize)
    · exact items_eq_nil h ((hcount page).mp hpage)

/-- Seven items on pages of two. The page asked for begins at the least number that a word does not
hold, and it is empty instead of being the first one again. -/
theorem sevenItems_paged :
    (ofList (List.range 7) ⟨Word.bound 63, 2⟩).items = [] ∧
      joined (List.range 7) 2 4 = List.range 7 ∧
      between (Word.bound 63 * 2) ((Word.bound 63 + 1) * 2) (List.range 7) = [] := by
  have hshort : (List.range 7).length < Word.bound 64 := by decide
  obtain ⟨hitems, hlarge, _, hcount⟩ := pages_partition hshort ⟨Word.bound 63, 2⟩
  have hempty := hlarge (by decide)
  exact ⟨hempty, (hcount (by decide)).1.1, hitems.symm.trans hempty⟩

end AccessControl.Page
