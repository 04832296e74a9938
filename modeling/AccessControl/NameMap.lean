import AccessControl.Text.Order

/-!
Finite maps from names, kept in ascending order of the names. Two maps with the same entries are
equal, whatever the order in which the entries were put in.
-/

namespace AccessControl

/-- The names of the entries ascend, so none occurs twice. -/
def NameMap.Ascending {α : Type} (entries : List (String × α)) : Prop :=
  entries.Pairwise fun a b => Text.less a.1 b.1 = true

structure NameMap (α : Type) where
  entries : List (String × α)
  ascending : NameMap.Ascending entries

namespace NameMap

variable {α : Type}

def empty : NameMap α := ⟨[], List.Pairwise.nil⟩

/-- Puts an entry at its place, over the one with the same name. -/
def insertEntry (name : String) (value : α) : List (String × α) → List (String × α)
  | [] => [(name, value)]
  | e :: es =>
    if Text.less name e.1 then (name, value) :: e :: es
    else if Text.less e.1 name then e :: insertEntry name value es
    else (name, value) :: es

/-- Every name after an insertion is the new one or was there. -/
theorem mem_insertEntry {name : String} {value : α} {es : List (String × α)} {e : String × α}
    (h : e ∈ insertEntry name value es) : e = (name, value) ∨ e ∈ es := by
  induction es with
  | nil => simp only [insertEntry, List.mem_singleton] at h; exact .inl h
  | cons d ds ih =>
    simp only [insertEntry] at h
    split at h
    · simpa using h
    · split at h
      · rcases List.mem_cons.mp h with h | h
        · exact .inr (by simp [h])
        · rcases ih h with h | h
          · exact .inl h
          · exact .inr (by simp [h])
      · rcases List.mem_cons.mp h with h | h
        · exact .inl h
        · exact .inr (by simp [h])

theorem ascending_insertEntry {name : String} {value : α} {es : List (String × α)}
    (h : Ascending es) : Ascending (insertEntry name value es) := by
  induction es with
  | nil => exact List.pairwise_singleton _ _
  | cons d ds ih =>
    have hd := List.pairwise_cons.mp h
    simp only [insertEntry]
    split
    · rename_i hl
      refine List.pairwise_cons.mpr ⟨?_, h⟩
      intro e he
      rcases List.mem_cons.mp he with rfl | he
      · exact hl
      · exact Text.less_trans hl (hd.1 e he)
    · split
      · rename_i hr
        refine List.pairwise_cons.mpr ⟨?_, ih hd.2⟩
        intro e he
        rcases mem_insertEntry he with rfl | he
        · exact hr
        · exact hd.1 e he
      · rename_i hl hr
        have heq : name = d.1 := Text.eq_of_not_less (by simpa using hl) (by simpa using hr)
        refine List.pairwise_cons.mpr ⟨?_, hd.2⟩
        intro e he
        simpa [heq] using hd.1 e he

/-- Adds an entry; an earlier one with the same name gives way. -/
def insert (m : NameMap α) (name : String) (value : α) : NameMap α :=
  ⟨insertEntry name value m.entries, ascending_insertEntry m.ascending⟩

/-- The entries put in one by one, so that the last one of each name stays. -/
def ofList (entries : List (String × α)) : NameMap α :=
  entries.foldl (fun m e => m.insert e.1 e.2) empty

def get? (m : NameMap α) (name : String) : Option α :=
  m.entries.lookup name

def size (m : NameMap α) : Nat :=
  m.entries.length

def isEmpty (m : NameMap α) : Bool :=
  m.entries.isEmpty

@[ext] theorem ext {m n : NameMap α} (h : m.entries = n.entries) : m = n := by
  cases m; cases n; cases h; rfl

theorem lookup_cons_if (name : String) (e : String × α) (es : List (String × α)) :
    (e :: es).lookup name = if name = e.1 then some e.2 else es.lookup name := by
  obtain ⟨key, value⟩ := e
  by_cases h : name = key
  · simp [h]
  · have hb : (name == key) = false := by simpa using h
    simp [List.lookup_cons, h, hb]

theorem lookup_insertEntry (name other : String) (value : α) (es : List (String × α)) :
    (insertEntry name value es).lookup other =
      if other = name then some value else es.lookup other := by
  induction es with
  | nil => simp [insertEntry, lookup_cons_if]
  | cons d ds ih =>
    simp only [insertEntry]
    split
    · rw [lookup_cons_if]
    · split
      · rename_i hr
        rw [lookup_cons_if, lookup_cons_if, ih]
        have hne : d.1 ≠ name := Text.ne_of_less hr
        by_cases h : other = d.1
        · subst h; simp [hne]
        · simp [h]
      · rename_i hl hr
        have heq : name = d.1 := Text.eq_of_not_less (by simpa using hl) (by simpa using hr)
        subst heq
        rw [lookup_cons_if, lookup_cons_if]
        by_cases h : other = d.1 <;> simp [h]

/-- Looking up after an insertion. -/
theorem get?_insert (m : NameMap α) (name other : String) (value : α) :
    (m.insert name value).get? other = if other = name then some value else m.get? other :=
  lookup_insertEntry name other value m.entries

end NameMap

end AccessControl
