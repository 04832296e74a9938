import AccessControl.Json.Fields
import Mathlib.Data.List.Forall2

/-!
Taking out of a record what was put into it: each declared entry once, under its name. Readers of
lists, maps and words undo their writers when the readers of the parts do.
-/

namespace AccessControl

theorem mapM_of_forall₂ {α β : Type} {read : α → Option β} {xs : List α} {ys : List β}
    (h : List.Forall₂ (fun x y => read x = some y) xs ys) : xs.mapM read = some ys := by
  induction h with
  | nil => rfl
  | cons hx _ ih =>
    rw [List.mapM_cons, hx, ih]
    rfl

theorem forall₂_of_mapM {α β : Type} {read : α → Option β} {xs : List α} {ys : List β}
    (h : xs.mapM read = some ys) : List.Forall₂ (fun x y => read x = some y) xs ys := by
  induction xs generalizing ys with
  | nil =>
    rw [List.mapM_nil] at h
    obtain rfl := Option.some.inj h
    exact .nil
  | cons x xs ih =>
    rw [List.mapM_cons] at h
    obtain ⟨y, hy, h⟩ := Option.bind_eq_some_iff.mp h
    obtain ⟨rest, hrest, h⟩ := Option.bind_eq_some_iff.mp h
    obtain rfl := Option.some.inj h
    exact .cons hy (ih hrest)

/-- One thing that is not read is enough for nothing to be read. -/
theorem isSome_mapM_iff {α β : Type} {read : α → Option β} {xs : List α} :
    (xs.mapM read).isSome = true ↔ ∀ x ∈ xs, (read x).isSome = true := by
  induction xs with
  | nil => simp
  | cons x xs ih =>
    rw [List.mapM_cons, List.forall_mem_cons, ← ih]
    cases hx : read x <;> cases hxs : xs.mapM read <;> simp

theorem mapM_map_of_forall {α β : Type} {write : α → β} {read : β → Option α} {xs : List α}
    (h : ∀ x ∈ xs, read (write x) = some x) : (xs.map write).mapM read = some xs :=
  mapM_of_forall₂ (List.forall₂_map_left_iff.mpr (List.forall₂_same.mpr h))

namespace Json

variable {α : Type} {shape : List Field} {entries : List (String × Json)} {name other : String}
  {j : Json} {place : Place}

theorem declared_iff (shape : List Field) (name : String) :
    shape.any (·.name == name) = true ↔ name ∈ shape.map (·.name) := by
  simp

theorem filter_declared (hnames : entries.map (·.1) = shape.map (·.name)) :
    entries.filter (fun e => shape.any (·.name == e.1)) = entries :=
  List.filter_eq_self.mpr fun e he =>
    (declared_iff shape e.1).mpr (hnames ▸ List.mem_map_of_mem he)

/-- A record that has just the declared entries, in their order, is taken as it stands. -/
theorem fields?_record (hnames : entries.map (·.1) = shape.map (·.name))
    (hnodup : (shape.map (·.name)).Nodup) : fields? shape (.record entries) = some entries := by
  rw [fields?, filter_declared hnames, if_pos (hnames ▸ hnodup)]

/-- Where no name occurs twice, the order makes no difference. -/
theorem lookup_eq_of_perm {fields known : List (String × Json)} (hperm : fields.Perm known)
    (hnodup : (known.map (·.1)).Nodup) (name : String) : fields.lookup name = known.lookup name := by
  induction hperm with
  | nil => rfl
  | cons e _ ih =>
    rw [NameMap.lookup_cons_if, NameMap.lookup_cons_if, ih (List.nodup_cons.mp hnodup).2]
  | swap d e rest =>
    have hne : d.1 ≠ e.1 := List.ne_of_not_mem_cons (List.nodup_cons.mp hnodup).1
    simp only [NameMap.lookup_cons_if]
    by_cases h : name = d.1
    · simp [h, hne]
    · simp [h]
  | trans _ hperm' ih ih' =>
    rw [ih ((hperm'.map _).nodup_iff.mpr hnodup), ih' hnodup]

/-- The declared entries may stand in any order, with others among them. -/
theorem fields?_of_perm {known others : List (String × Json)}
    (hperm : entries.Perm (known ++ others)) (hnames : known.map (·.1) = shape.map (·.name))
    (hnodup : (shape.map (·.name)).Nodup) (hothers : ∀ e ∈ others, e.1 ∉ shape.map (·.name)) :
    ∃ fields, fields? shape (.record entries) = some fields ∧ fields.Perm known := by
  have hnone : others.filter (fun e => shape.any (·.name == e.1)) = [] :=
    List.filter_eq_nil_iff.mpr fun e he h => hothers e he ((declared_iff shape e.1).mp h)
  have hfields := hperm.filter fun e => shape.any (·.name == e.1)
  rw [List.filter_append, filter_declared hnames, hnone, List.append_nil] at hfields
  refine ⟨_, ?_, hfields⟩
  rw [fields?, if_pos ((hfields.map _).nodup_iff.mpr (hnames ▸ hnodup))]

theorem lookup_cons_self (name : String) (j : Json) (entries : List (String × Json)) :
    ((name, j) :: entries).lookup name = some j := by
  simp

theorem lookup_cons_of_ne (j : Json) (entries : List (String × Json)) (h : name ≠ other) :
    ((other, j) :: entries).lookup name = entries.lookup name := by
  simp [List.lookup_cons, beq_eq_false_iff_ne.mpr h]

@[simp]
theorem required_cons_self (read : Json → Option α) :
    required ((name, j) :: entries) name read = read j := by
  simp [required]

@[simp]
theorem required_cons_of_ne (read : Json → Option α) (h : name ≠ other) :
    required ((other, j) :: entries) name read = required entries name read := by
  simp [required, lookup_cons_of_ne j entries h]

@[simp]
theorem defaulted_cons_self (default : α) (read : Json → Option α) :
    defaulted ((name, j) :: entries) name default read = read j := by
  simp [defaulted]

@[simp]
theorem defaulted_cons_of_ne (default : α) (read : Json → Option α) (h : name ≠ other) :
    defaulted ((other, j) :: entries) name default read = defaulted entries name default read := by
  simp [defaulted, lookup_cons_of_ne j entries h]

@[simp]
theorem optional_cons_of_ne (read : Json → Option α) (h : name ≠ other) :
    optional ((other, j) :: entries) name read = optional entries name read := by
  simp [optional, lookup_cons_of_ne j entries h]

/-- What is there is read; null stands for what is not there, so a writer may not use it. -/
theorem optional_cons_ofOption {write : α → Json} {read : Json → Option α} {value : Option α}
    (hread : ∀ a ∈ value, read (write a) = some a) (hnull : ∀ a ∈ value, write a ≠ .null) :
    optional ((name, .ofOption write value) :: entries) name read = some value := by
  cases value with
  | none => simp [optional, ofOption]
  | some a =>
    rw [optional, lookup_cons_self, ofOption]
    cases hw : write a with
    | null => exact absurd hw (hnull a rfl)
    | _ => simp [← hw, hread a rfl]

@[simp]
theorem optional_cons_text (value : Option String) :
    optional ((name, .ofOption .text value) :: entries) name text? = some value :=
  optional_cons_ofOption (fun _ _ => rfl) fun _ _ => nofun

theorem optional_cons_float {value : Option Float} (h : ∀ x ∈ value, Dyadic.isFinite x = true) :
    optional ((name, .ofOption .float value) :: entries) name float? = some value := by
  have hfloat : ∀ x ∈ value, float x = .number (.float x) := fun x hx => if_pos (h x hx)
  refine optional_cons_ofOption ?_ ?_
  · intro x hx
    rw [hfloat x hx]
    rfl
  · intro x hx
    simp [hfloat x hx]

theorem list?_list {write : α → Json} {read : Json → Option α} {xs : List α}
    (hread : ∀ a ∈ xs, read (write a) = some a) : list? read (.list (xs.map write)) = some xs :=
  mapM_map_of_forall hread

@[simp]
theorem nat?_nat {bits n : Nat} (h : n < Word.bound bits) : nat? bits (.nat n) = some n := by
  have hfits : 0 ≤ (n : Int) ∧ (n : Int) < Word.bound bits := ⟨Int.natCast_nonneg n, by omega⟩
  simp only [nat?, Json.nat, hfits, and_self, if_true, Int.toNat_natCast]

@[simp]
theorem int?_int {bits : Nat} {n : Int} (h : Word.fitsSigned bits n = true) :
    int? bits (.number (.int n)) = some n := by
  simp [int?, h]

/-- A tag in front is taken off where no other entry has its name. -/
theorem tagged?_record {tagName word : String} {words : List (String × α)} {a : α}
    (hword : words.lookup word = some a) (hrest : ∀ e ∈ entries, e.1 ≠ tagName) :
    tagged? place tagName words (.record ((tagName, .text word) :: entries)) =
      some (a, .record entries) := by
  have hothers : entries.filter (·.1 == tagName) = [] :=
    List.filter_eq_nil_iff.mpr fun e he => by simpa using hrest e he
  have hkept : entries.filter (·.1 != tagName) = entries :=
    List.filter_eq_self.mpr fun e he => by simpa using hrest e he
  simp [tagged?, hothers, hkept, tag?, hword]

end Json

namespace NameMap

variable {α : Type}

/-- A name that comes after all others is put at the end. -/
theorem insertEntry_of_forall_less {name : String} {value : α} {es : List (String × α)}
    (h : ∀ e ∈ es, Text.less e.1 name = true) :
    insertEntry name value es = es ++ [(name, value)] := by
  induction es with
  | nil => rfl
  | cons e es ih =>
    obtain ⟨he, hes⟩ := List.forall_mem_cons.mp h
    rw [insertEntry, Text.less_asymm he, he, ih hes]
    simp

/-- The entries of a map make the map again. -/
theorem ofList_entries (m : NameMap α) : ofList m.entries = m := by
  have hfold : ∀ (es : List (String × α)) (done : NameMap α), Ascending (done.entries ++ es) →
      (es.foldl (fun m e => m.insert e.1 e.2) done).entries = done.entries ++ es := by
    intro es
    induction es with
    | nil => simp
    | cons e es ih =>
      intro done h
      have hlast : ∀ d ∈ done.entries, Text.less d.1 e.1 = true := by
        intro d hd
        exact (List.pairwise_append.mp h).2.2 d hd e List.mem_cons_self
      have hinsert : (done.insert e.1 e.2).entries = done.entries ++ [e] :=
        insertEntry_of_forall_less hlast
      rw [List.foldl_cons, ih _ (by rw [hinsert]; simpa using h), hinsert]
      simp
  ext1
  exact hfold m.entries empty m.ascending

/-- What a map has after entries were put in: the last one of the name, or what it had. -/
theorem get?_foldl_insert (es : List (String × α)) (m : NameMap α) (name : String) :
    (es.foldl (fun m e => m.insert e.1 e.2) m).get? name =
      (es.reverse.lookup name).or (m.get? name) := by
  induction es generalizing m with
  | nil => rfl
  | cons e es ih =>
    rw [List.foldl_cons, ih, get?_insert, List.reverse_cons, List.lookup_append, Option.or_assoc,
      lookup_cons_if]
    by_cases h : name = e.1 <;> simp [h]

theorem get?_ofList (es : List (String × α)) (name : String) :
    (ofList es).get? name = es.reverse.lookup name := by
  rw [ofList, get?_foldl_insert]
  exact Option.or_none

theorem mem_of_mem_foldl_insert {es : List (String × α)} {m : NameMap α} {e : String × α}
    (h : e ∈ (es.foldl (fun m e => m.insert e.1 e.2) m).entries) : e ∈ m.entries ∨ e ∈ es := by
  induction es generalizing m with
  | nil => exact .inl h
  | cons d es ih =>
    rcases ih h with hinserted | htail
    · rcases mem_insertEntry hinserted with rfl | hm
      · exact .inr List.mem_cons_self
      · exact .inl hm
    · exact .inr (List.mem_cons_of_mem d htail)

theorem mem_of_mem_ofList {es : List (String × α)} {e : String × α}
    (h : e ∈ (ofList es).entries) : e ∈ es :=
  (mem_of_mem_foldl_insert h).resolve_left List.not_mem_nil

end NameMap

/-- Entries are read one by one, and the last one of a name stands. -/
theorem Json.map?_of_forall₂ {α : Type} {read : Json → Option α} {entries : List (String × Json)}
    {pairs : List (String × α)}
    (h : List.Forall₂ (fun e p => e.1 = p.1 ∧ read e.2 = some p.2) entries pairs) :
    map? read (.record entries) = some (.ofList pairs) := by
  have hentries : entries.mapM (fun e => (read e.2).map fun value => (e.1, value)) = some pairs := by
    refine mapM_of_forall₂ (h.imp ?_)
    rintro e p ⟨hname, hvalue⟩
    rw [hvalue, hname]
    rfl
  rw [map?, hentries, Option.map_some]

theorem Json.isSome_map?_iff {α : Type} {read : Json → Option α} {entries : List (String × Json)} :
    (map? read (.record entries)).isSome = true ↔ ∀ e ∈ entries, (read e.2).isSome = true := by
  rw [map?, Option.isSome_map, isSome_mapM_iff]
  simp only [Option.isSome_map]

theorem Json.map?_record {α : Type} {write : α → Json} {read : Json → Option α} {m : NameMap α}
    (hread : ∀ e ∈ m.entries, read (write e.2) = some e.2) :
    map? read (.record (m.entries.map fun e => (e.1, write e.2))) = some m := by
  have hentries : List.Forall₂ (fun e p => e.1 = p.1 ∧ read (write e.2) = some p.2) m.entries
      m.entries := List.forall₂_same.mpr fun e he => ⟨rfl, hread e he⟩
  rw [map?_of_forall₂ (List.forall₂_map_left_iff.mpr hentries), NameMap.ofList_entries]

end AccessControl
