import AccessControl.Proofs.Effect.Redaction
import AccessControl.Proofs.World.Run

/-!
The JSON views of entities. Every kind writes one record, always under the same names, each of which
is a path of its own. So entities that differ under one name only have views that agree beside it.
-/

namespace AccessControl

namespace Json

variable {name : String} {entries entries' : List (String × Json)}

/-- Entries under different names are what is looked up under them, in the order of the names. -/
theorem eq_map_lookup (entries : List (String × Json)) (h : (entries.map Prod.fst).Nodup) :
    entries = (entries.map Prod.fst).map fun name => (name, (entries.lookup name).getD .null) := by
  induction entries with
  | nil => rfl
  | cons e es ih =>
    obtain ⟨key, j⟩ := e
    obtain ⟨hkey, hes⟩ := List.nodup_cons.mp h
    have hrest : ∀ name ∈ es.map Prod.fst, ((key, j) :: es).lookup name = es.lookup name := by
      intro name hname
      have hne : name ≠ key := fun heq => hkey (heq ▸ hname)
      rw [NameMap.lookup_cons_if, if_neg hne]
    rw [List.map_cons, List.map_cons, NameMap.lookup_cons_if, if_pos rfl]
    refine congrArg ((key, j) :: ·) ((ih hes).trans (List.map_congr_left ?_))
    intro name hname
    rw [hrest name hname]

/-- The same names in the same order with the same values under them are the same entries. -/
theorem eq_of_lookup_eq (hnames : entries.map Prod.fst = entries'.map Prod.fst)
    (hnodup : (entries.map Prod.fst).Nodup)
    (h : ∀ name ∈ entries.map Prod.fst,
      (entries.lookup name).getD .null = (entries'.lookup name).getD .null) :
    entries = entries' := by
  have hnodup' : (entries'.map Prod.fst).Nodup := hnames ▸ hnodup
  have hvalues : (entries.map Prod.fst).map (fun name => (name, (entries.lookup name).getD .null)) =
      (entries'.map Prod.fst).map fun name => (name, (entries'.lookup name).getD .null) := by
    rw [← hnames]
    exact List.map_congr_left fun name hname => congrArg (Prod.mk name) (h name hname)
  exact (eq_map_lookup entries hnodup).trans (hvalues.trans (eq_map_lookup entries' hnodup').symm)

/-- Records under the same names that differ in one entry only agree beside it. -/
theorem agreeBeside_of_lookup_eq (hnames : entries.map Prod.fst = entries'.map Prod.fst)
    (hnodup : (entries.map Prod.fst).Nodup)
    (h : ∀ other, other ≠ name → entries.lookup other = entries'.lookup other) :
    AgreeBeside [name] (.record entries) (.record entries') := by
  rw [agreeBeside_iff_blank_eq, blank, updateAt_record, updateAt_record]
  refine congrArg Json.record (eq_of_lookup_eq ?_ ?_ ?_)
  · rwa [map_fst_updateEntry, map_fst_updateEntry]
  · rwa [map_fst_updateEntry]
  · intro other _
    rw [lookup_updateEntry, lookup_updateEntry]
    split
    -- Under the name both records have null now, or nothing, which counts as null.
    · cases entries.lookup name <;> cases entries'.lookup name <;> simp [updateAt_nil]
    · rename_i hne
      rw [h other hne]

end Json

/-- The views of two entities have the same entries, but for what stands under one name. -/
def Entity.AgreeBut {ε : Type} [Entity ε] (name : String) (e e' : ε) : Prop :=
  ∃ entries entries', Entity.toJson e = .record entries ∧ Entity.toJson e' = .record entries' ∧
    ∀ other, other ≠ name → entries.lookup other = entries'.lookup other

namespace EntityKind

/-- The names under which a kind of entity is written. -/
def names (kind : EntityKind) : List String :=
  (Entity.shape kind.Carrier).map (·.name)

theorem toJson_names (kind : EntityKind) (e : kind.Carrier) :
    ∃ entries, Entity.toJson e = .record entries ∧ entries.map Prod.fst = kind.names := by
  cases kind <;> exact ⟨_, rfl, rfl⟩

theorem names_nodup (kind : EntityKind) : kind.names.Nodup := by
  cases kind <;> decide

theorem path_redact {kind : EntityKind} {name : String} (h : name ∈ kind.names) :
    (Effect.redact name).path = [name] := by
  have hpath : ∀ kind : EntityKind, ∀ name ∈ kind.names, (Effect.redact name).path = [name] := by
    intro kind
    cases kind <;> decide
  exact hpath kind name h

theorem agreeBeside_of_agreeBut {kind : EntityKind} {name : String} {e e' : kind.Carrier}
    (h : Entity.AgreeBut name e e') :
    Json.AgreeBeside (Effect.redact name).path (Entity.toJson e) (Entity.toJson e') := by
  obtain ⟨entries, entries', hj, hj', hother⟩ := h
  obtain ⟨_, hk, hnames⟩ := kind.toJson_names e
  obtain ⟨_, hk', hnames'⟩ := kind.toJson_names e'
  obtain rfl := Json.record.inj (hj.symm.trans hk)
  obtain rfl := Json.record.inj (hj'.symm.trans hk')
  have hnodup : (entries.map Prod.fst).Nodup := hnames ▸ kind.names_nodup
  rw [hj, hj']
  by_cases hmem : name ∈ kind.names
  · rw [path_redact hmem]
    exact Json.agreeBeside_of_lookup_eq (hnames.trans hnames'.symm) hnodup hother
  -- A name that is not written at all leaves no difference.
  · have hsame : entries = entries' := by
      refine Json.eq_of_lookup_eq (hnames.trans hnames'.symm) hnodup fun other hmem' => ?_
      have hne : other ≠ name := fun heq => hmem (hnames ▸ heq ▸ hmem')
      rw [hother other hne]
    rw [hsame]
    exact .same

end EntityKind

end AccessControl
