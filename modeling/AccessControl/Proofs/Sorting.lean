import Mathlib.Data.List.Pairwise

/-!
Sorting by a key. Things that share a key keep the order in which they stand, and that leaves no
choice: there is one sorted list with the same things under each key.
-/

namespace AccessControl.Sorting

/-- A test that is a total order. -/
structure TotalOrder {κ : Type} (le : κ → κ → Bool) : Prop where
  refl : ∀ k, le k k = true
  trans : ∀ {a b c}, le a b = true → le b c = true → le a c = true
  antisymm : ∀ {a b}, le a b = true → le b a = true → a = b
  total : ∀ a b, (le a b || le b a) = true

variable {α κ : Type} {le : κ → κ → Bool} {key : α → κ} {s t : List α}

theorem pairwise_mergeSort (h : TotalOrder le) (key : α → κ) (xs : List α) :
    (xs.mergeSort fun a b => le (key a) (key b)).Pairwise fun a b => le (key a) (key b) = true := by
  apply List.pairwise_mergeSort
  · exact fun _ _ _ => h.trans
  · exact fun a b => h.total (key a) (key b)

/-- No key in a sorted list comes before that of its head. -/
theorem le_head (h : TotalOrder le) {a b : α}
    (hs : (a :: s).Pairwise fun a b => le (key a) (key b) = true) (hb : b ∈ a :: s) :
    le (key a) (key b) = true := by
  rcases List.mem_cons.mp hb with rfl | hb
  · exact h.refl _
  · exact (List.pairwise_cons.mp hs).1 b hb

variable [BEq κ] [LawfulBEq κ]

/-- Those of one key are in order as they stand, so they stay a sublist. -/
theorem filter_key_mergeSort (h : TotalOrder le) (key : α → κ) (xs : List α) (k : κ) :
    (xs.mergeSort fun a b => le (key a) (key b)).filter (key · == k) = xs.filter (key · == k) := by
  have hclass : (xs.filter (key · == k)).Pairwise fun a b => le (key a) (key b) = true := by
    refine List.pairwise_of_forall_mem_list ?_
    intro a ha b hb
    have hka := beq_iff_eq.mp (List.mem_filter.mp ha).2
    have hkb := beq_iff_eq.mp (List.mem_filter.mp hb).2
    rw [hka, hkb]
    exact h.refl k
  have hsub : (xs.filter (key · == k)).Sublist (xs.mergeSort fun a b => le (key a) (key b)) := by
    refine List.sublist_mergeSort ?_ ?_ hclass List.filter_sublist
    · exact fun _ _ _ => h.trans
    · exact fun a b => h.total (key a) (key b)
  have hkept := hsub.filter (key · == k)
  simp only [List.filter_filter, Bool.and_self] at hkept
  have hperm := List.mergeSort_perm xs fun a b => le (key a) (key b)
  exact (hkept.eq_of_length (hperm.filter (key · == k)).length_eq.symm).symm

theorem mem_iff_of_filter_key (h : ∀ k, s.filter (key · == k) = t.filter (key · == k)) (a : α) :
    a ∈ s ↔ a ∈ t := by
  simpa using congrArg (a ∈ ·) (h (key a))

/-- Sorted lists that agree on each key alone are one list. -/
theorem eq_of_filter_key (h : TotalOrder le) (hs : s.Pairwise fun a b => le (key a) (key b) = true)
    (ht : t.Pairwise fun a b => le (key a) (key b) = true)
    (hclass : ∀ k, s.filter (key · == k) = t.filter (key · == k)) : s = t := by
  induction s generalizing t with
  | nil =>
    have hnone : ∀ a, a ∉ t := fun a ha => nomatch (mem_iff_of_filter_key hclass a).mpr ha
    exact (List.eq_nil_iff_forall_not_mem.mpr hnone).symm
  | cons a s ih =>
    have hmem := mem_iff_of_filter_key hclass
    cases t with
    | nil => exact nomatch (hmem a).mp List.mem_cons_self
    | cons b t =>
      have hkey : key a = key b := by
        have hab := le_head h hs ((hmem b).mpr List.mem_cons_self)
        have hba := le_head h ht ((hmem a).mp List.mem_cons_self)
        exact h.antisymm hab hba
      have hhead := hclass (key b)
      simp only [List.filter_cons, hkey, beq_self_eq_true, if_true, List.cons.injEq] at hhead
      obtain ⟨rfl, _⟩ := hhead
      have htail : ∀ k, s.filter (key · == k) = t.filter (key · == k) := by
        intro k
        have hk := hclass k
        rw [List.filter_cons, List.filter_cons] at hk
        split at hk
        · exact (List.cons.inj hk).2
        · exact hk
      exact congrArg (a :: ·) (ih hs.of_cons ht.of_cons htail)

end AccessControl.Sorting
