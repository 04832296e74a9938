import AccessControl.Proofs.Codec.Policy
import AccessControl.Proofs.Codec.Rereading
import AccessControl.Proofs.Condition.Depth

/-!
Policies as text. Every level of a condition costs two brackets, and the policy around it one more;
so how deep a condition may be for its policy to come back is decided by the depth of the reader.
-/

namespace AccessControl

theorem Effect.reread?_toJson {e : Effect} (h : e.fits = true) :
    ∀ n ∈ e.toJson.numbers, n.reread? = some n := by
  rcases e with ⟨field, places⟩ | field
  · have hplaces : places < Word.bound 32 := by simpa only [fits, decide_eq_true_iff] using h
    exact List.forall_mem_singleton.mpr (Json.Number.reread?_of_lt hplaces)
  · exact fun _ hn => absurd hn List.not_mem_nil

theorem AccessTypes.numbers_toJson (s : AccessTypes) : s.toJson.numbers = [] := by
  rw [toJson, Json.numbers, Json.itemNumbers_eq_flatMap, List.flatMap_map]
  exact List.flatMap_eq_nil_iff.mpr fun _ _ => rfl

theorem AccessTypes.depth_toJson_le (s : AccessTypes) : s.toJson.depth ≤ 1 := by
  refine Nat.succ_le_succ (Json.depthList_le_iff.mpr ?_)
  intro j hj
  obtain ⟨t, -, rfl⟩ := List.mem_map.mp hj
  exact Nat.le_refl 0

theorem Effect.depth_toJson_le (e : Effect) : e.toJson.depth ≤ 1 := by
  rcases e with ⟨field, places⟩ | field <;> exact Nat.le_refl 1

namespace Policy

variable {p : Policy}

theorem covers_outline (p : Policy) : outline.Covers p.toJson := by
  refine Json.Outline.covers_record ?_
  intro e he
  exact List.mem_map_of_mem he

theorem numbers_before (p : Policy) : Json.entryNumbers p.entriesBefore = [.int p.priority] := by
  have hid : p.id.toJson.numbers = [] := rfl
  simp [entriesBefore, Json.numbers, Json.entryNumbers, hid, AccessTypes.numbers_toJson]

theorem numbers_after (p : Policy) :
    Json.entryNumbers p.entriesAfter = p.effects.flatMap fun e => e.toJson.numbers := by
  have howner : (Json.ofOption Id.toJson p.owner).numbers = [] := by
    cases p.owner <;> rfl
  simp [entriesAfter, Json.numbers, Json.entryNumbers, howner, Json.itemNumbers_eq_flatMap,
    List.flatMap_map]

theorem numbers_toJson (p : Policy) :
    p.toJson.numbers = Json.entryNumbers p.entriesBefore ++
      (p.condition.toJson.numbers ++ Json.entryNumbers p.entriesAfter) := by
  rw [← toJsonAround_condition, toJsonAround, Json.numbers, Json.entryNumbers_append,
    Json.entryNumbers]

theorem finite_toJson (p : Policy) : ∀ n ∈ p.toJson.numbers, n.isFinite = true := by
  have heffects : ∀ n ∈ p.effects.flatMap fun e => e.toJson.numbers, n.isFinite = true := by
    intro n hn
    obtain ⟨e, -, hn⟩ := List.mem_flatMap.mp hn
    rcases e with ⟨field, places⟩ | field
    · exact List.eq_of_mem_singleton hn ▸ rfl
    · cases hn
  rw [numbers_toJson, numbers_before, numbers_after]
  exact List.forall_mem_append.mpr ⟨List.forall_mem_singleton.mpr rfl,
    List.forall_mem_append.mpr ⟨p.condition.finite_toJson, heffects⟩⟩

/-- Beside its condition there are only integers in a policy. -/
theorem reread?_beside (h : p.fits = true) :
    (∀ n ∈ Json.entryNumbers p.entriesBefore, n.reread? = some n) ∧
      ∀ n ∈ Json.entryNumbers p.entriesAfter, n.reread? = some n := by
  obtain ⟨hpriority, -, heffects⟩ := fits_iff.mp h
  rw [numbers_before, numbers_after]
  refine ⟨List.forall_mem_singleton.mpr (Json.Number.reread?_of_fitsSigned hpriority), ?_⟩
  intro n hn
  obtain ⟨e, he, hn⟩ := List.mem_flatMap.mp hn
  exact Effect.reread?_toJson (heffects e he) n hn

theorem depth_toJson (h : p.condition.hasScalars = true) :
    p.toJson.depth = 2 * p.condition.depth + 1 := by
  have hid : ∀ id : Id, id.toJson.depth = 0 := fun _ => rfl
  have howner : (Json.ofOption Id.toJson p.owner).depth = 0 := by
    cases p.owner <;> rfl
  have htypes := p.accessTypes.depth_toJson_le
  have heffects : Json.depthList (p.effects.map Effect.toJson) ≤ 1 := by
    refine Json.depthList_le_iff.mpr ?_
    intro j hj
    obtain ⟨e, -, rfl⟩ := List.mem_map.mp hj
    exact e.depth_toJson_le
  have hcondition := p.condition.one_le_depth
  simp only [toJson, Json.depth, Json.depthEntries, hid, howner, Condition.depth_toJson _ h]
  omega

/-- A text that is read as the policy it was written for has the policy's own JSON in it. -/
theorem eq_toJson_of_reread (hfits : p.fits = true) {room : Nat} {k : Json}
    (h : p.toJson.within? room = some k) (hread : ofJson? k = some p) : k = p.toJson := by
  obtain ⟨hpriority, -, heffects⟩ := fits_iff.mp hfits
  obtain ⟨hbefore, hafter⟩ := reread?_beside hfits
  rw [← toJsonAround_condition] at h
  obtain ⟨-, fs, hfs, rfl⟩ := Json.within?_record_eq_some.mp h
  obtain ⟨c, hc, rfl⟩ := Json.entriesWithin?_around hfs hbefore hafter
  obtain ⟨d, hd, heq⟩ := Option.map_eq_some_iff.mp
    ((ofJson?_toJsonAround hpriority heffects c).symm.trans hread)
  have hcondition : d = p.condition := congrArg Policy.condition heq
  rw [p.condition.eq_toJson_of_reread hc (hcondition ▸ hd)]
  rfl

theorem reread?_toJson_iff (h : p.fits = true) :
    (∀ n ∈ p.toJson.numbers, n.reread? = some n) ↔
      ∀ n ∈ p.condition.toJson.numbers, n.reread? = some n := by
  have hbeside := reread?_beside h
  rw [numbers_toJson, List.forall_mem_append, List.forall_mem_append]
  exact ⟨fun h => h.2.1, fun h => ⟨hbeside.1, h, hbeside.2⟩⟩

/-- A policy comes back from its text exactly when its JSON does. -/
theorem ofText?_write_iff (hfits : p.fits = true) :
    ofText? p.toJson.write = some p ↔
      p.toJson.depth ≤ Json.maxDepth ∧ ∀ n ∈ p.condition.toJson.numbers, n.reread? = some n := by
  rw [← reread?_toJson_iff hfits]
  exact Json.bind_read_write_iff p.finite_toJson (covers_outline p) (ofJson?_toJson hfits)
    fun k hk hread => eq_toJson_of_reread hfits hk hread

/-- The JSON of a file of policies. -/
def listToJson (ps : List Policy) : Json :=
  .list (ps.map toJson)

theorem eq_listToJson_of_reread {ps : List Policy} (hfits : ∀ p ∈ ps, p.fits = true) {room : Nat}
    {ks : List Json} (h : Json.itemsWithin? room (ps.map toJson) = some ks)
    (hread : ks.mapM ofJson? = some ps) : ks = ps.map toJson := by
  induction ps generalizing ks with
  | nil => exact (Option.some.inj h).symm
  | cons p ps ih =>
    obtain ⟨hp, hps⟩ := List.forall_mem_cons.mp hfits
    obtain ⟨k, rest, hk, hrest, rfl⟩ := Json.itemsWithin?_cons_eq_some.mp h
    rw [List.mapM_cons] at hread
    obtain ⟨q, hq, hread⟩ := Option.bind_eq_some_iff.mp hread
    obtain ⟨qs, hqs, hread⟩ := Option.bind_eq_some_iff.mp hread
    cases hread
    rw [List.map_cons, eq_toJson_of_reread hp hk hq, ih hps hrest hqs]

theorem numbers_listToJson (ps : List Policy) :
    (listToJson ps).numbers = ps.flatMap fun p => p.toJson.numbers := by
  rw [listToJson, Json.numbers, Json.itemNumbers_eq_flatMap, List.flatMap_map]

theorem covers_listToJson (ps : List Policy) :
    (Json.Outline.list outline).Covers (listToJson ps) := by
  refine .list rfl ?_
  intro j hj _
  obtain ⟨p, -, rfl⟩ := List.mem_map.mp hj
  exact covers_outline p

/-- Policies come back from a file exactly when each one does with room for one bracket more. -/
theorem listOfText?_write_iff {ps : List Policy} (hfits : ∀ p ∈ ps, p.fits = true) :
    listOfText? (listToJson ps).write = some ps ↔
      ∀ p ∈ ps, p.toJson.depth < Json.maxDepth ∧
        ∀ n ∈ p.condition.toJson.numbers, n.reread? = some n := by
  have hfinite : ∀ n ∈ (listToJson ps).numbers, n.isFinite = true := by
    rw [numbers_listToJson, List.forall_mem_flatMap]
    exact fun p _ => p.finite_toJson
  have hdecode : Json.list? ofJson? (listToJson ps) = some ps :=
    Json.list?_list fun p hp => ofJson?_toJson (hfits p hp)
  have hself : ∀ k, (listToJson ps).within? Json.maxDepth = some k →
      Json.list? ofJson? k = some ps → k = listToJson ps := by
    intro k hk hread
    obtain ⟨-, ks, hks, rfl⟩ := Json.within?_list_eq_some.mp hk
    exact congrArg Json.list (eq_listToJson_of_reread hfits hks hread)
  have hdepth : (listToJson ps).depth ≤ Json.maxDepth ↔
      ∀ p ∈ ps, p.toJson.depth < Json.maxDepth := by
    rw [listToJson, Json.depth, Json.maxDepth, Nat.succ_le_succ_iff, Json.depthList_le_iff,
      List.forall_mem_map]
    exact forall₂_congr fun p _ => Nat.lt_succ_iff.symm
  have hnumbers : (∀ n ∈ (listToJson ps).numbers, n.reread? = some n) ↔
      ∀ p ∈ ps, ∀ n ∈ p.condition.toJson.numbers, n.reread? = some n := by
    rw [numbers_listToJson, List.forall_mem_flatMap]
    exact forall₂_congr fun p hp => reread?_toJson_iff (hfits p hp)
  rw [listOfText?, Json.bind_read_write_iff hfinite (covers_listToJson ps) hdecode hself, hdepth,
    hnumbers]
  exact forall₂_and.symm

end Policy

end AccessControl
