import AccessControl.Proofs.Codec.Condition
import AccessControl.Proofs.Json.RoundTrip

/-!
Literals and conditions read back from text. A number may come back as its neighbour, but then what
is read is not what was written: a text that gives back the same condition holds the same JSON.
-/

namespace AccessControl

namespace Json

theorem finite_float (x : Float) : ∀ n ∈ (float x).numbers, n.isFinite = true := by
  unfold float
  split
  · rename_i h
    exact List.forall_mem_singleton.mpr h
  · nofun

end Json

namespace AttributeValue

mutual

/-- What is no number in JSON is not written as one. -/
theorem finite_toJson : ∀ v : AttributeValue, ∀ n ∈ v.toJson.numbers, n.isFinite = true
  | .boolean _ => nofun
  | .number value => Json.finite_float value
  | .text _ => nofun
  | .list items => finite_toJsonList items

theorem finite_toJsonList :
    ∀ vs : List AttributeValue, ∀ n ∈ Json.itemNumbers (toJsonList vs), n.isFinite = true
  | [] => nofun
  | v :: vs => List.forall_mem_append.mpr ⟨finite_toJson v, finite_toJsonList vs⟩

end

mutual

/-- A text that is read as the value it was written for has the value's own JSON in it. -/
theorem eq_toJson_of_reread : ∀ (v : AttributeValue) {room : Nat} {k : Json},
    v.toJson.within? room = some k → ofJson? k = some v → k = v.toJson
  | .boolean _, _, _, h, _ => (Option.some.inj h).symm
  | .text _, _, _, h, _ => (Option.some.inj h).symm
  | .number value, _, k, h, hread => by
    rw [toJson, Json.float] at h ⊢
    split at h
    · rename_i hfinite
      obtain ⟨n, hn, rfl⟩ := Option.map_eq_some_iff.mp h
      obtain ⟨x, rfl⟩ := Json.Number.reread?_float hfinite hn
      cases hread
      rw [if_pos hfinite]
      rfl
    · cases h
      cases hread
  | .list items, _, k, h, hread => by
    obtain ⟨-, ks, hks, rfl⟩ := Json.within?_list_eq_some.mp h
    obtain ⟨vs, hvs, heq⟩ := Option.map_eq_some_iff.mp hread
    cases heq
    rw [toJson, eq_toJsonList_of_reread items hks hvs]

theorem eq_toJsonList_of_reread : ∀ (vs : List AttributeValue) {room : Nat} {ks : List Json},
    Json.itemsWithin? room (toJsonList vs) = some ks → ofJsonList? ks = some vs →
      ks = toJsonList vs
  | [], _, _, h, _ => (Option.some.inj h).symm
  | v :: vs, _, _, h, hread => by
    obtain ⟨k, ks, hk, hks, rfl⟩ := Json.itemsWithin?_cons_eq_some.mp h
    obtain ⟨w, hw, hread⟩ := Option.bind_eq_some_iff.mp hread
    obtain ⟨ws, hws, hread⟩ := Option.bind_eq_some_iff.mp hread
    cases hread
    rw [toJsonList, eq_toJson_of_reread v hk hw, eq_toJsonList_of_reread vs hks hws]

end

end AttributeValue

namespace Operand

theorem finite_toJson (o : Operand) : ∀ n ∈ o.toJson.numbers, n.isFinite = true := by
  rcases o with r | v
  · nofun
  · simpa [toJson, Json.numbers, Json.entryNumbers] using v.finite_toJson

theorem eq_toJson_of_reread {o : Operand} {room : Nat} {k : Json}
    (h : o.toJson.within? room = some k) (hread : ofJson? .inner k = some o) : k = o.toJson := by
  rcases o with r | v
  · exact Json.eq_of_within? h nofun
  · obtain ⟨-, _, hentries, rfl⟩ := Json.within?_record_eq_some.mp h
    obtain ⟨_, _, hkind, hrest, rfl⟩ := Json.entriesWithin?_cons_eq_some.mp hentries
    obtain ⟨value, _, hvalue, hnone, rfl⟩ := Json.entriesWithin?_cons_eq_some.mp hrest
    cases hkind
    cases hnone
    rw [ofJson?_literal] at hread
    obtain ⟨w, hw, heq⟩ := Option.map_eq_some_iff.mp hread
    cases heq
    rw [toJson, v.eq_toJson_of_reread hvalue hw]

end Operand

namespace Condition

mutual

theorem finite_toJson : ∀ c : Condition, ∀ n ∈ c.toJson.numbers, n.isFinite = true
  | .comparison _ left right => by
    have hleft := left.finite_toJson
    have hright := right.finite_toJson
    simp only [toJson, Comparison.toJson, Json.numbers, Json.entryNumbers, List.nil_append,
      List.append_nil]
    exact List.forall_mem_append.mpr ⟨hleft, hright⟩
  | .composite _ children => by
    simp only [toJson, Json.numbers, Json.entryNumbers, List.nil_append, List.append_nil]
    exact finite_toJsonList children

theorem finite_toJsonList :
    ∀ cs : List Condition, ∀ n ∈ Json.itemNumbers (toJsonList cs), n.isFinite = true
  | [] => nofun
  | c :: cs => List.forall_mem_append.mpr ⟨finite_toJson c, finite_toJsonList cs⟩

end

mutual

theorem eq_toJson_of_reread : ∀ (c : Condition) {place : Json.Place} {room : Nat} {k : Json},
    c.toJson.within? room = some k → ofJson? place k = some c → k = c.toJson
  | .comparison function left right, place, room, k, h, hread => by
    obtain ⟨-, _, hentries, rfl⟩ := Json.within?_record_eq_some.mp h
    obtain ⟨_, _, htype, hrest, rfl⟩ := Json.entriesWithin?_cons_eq_some.mp hentries
    obtain ⟨_, _, hfunction, hsides, rfl⟩ := Json.entriesWithin?_cons_eq_some.mp hrest
    obtain ⟨l, _, hl, hlast, rfl⟩ := Json.entriesWithin?_cons_eq_some.mp hsides
    obtain ⟨r, _, hr, hnone, rfl⟩ := Json.entriesWithin?_cons_eq_some.mp hlast
    cases htype
    cases hfunction
    cases hnone
    rw [ofJson?_comparison] at hread
    obtain ⟨function', -, hread⟩ := Option.bind_eq_some_iff.mp hread
    obtain ⟨left', hleft, hread⟩ := Option.bind_eq_some_iff.mp hread
    obtain ⟨right', hright, hread⟩ := Option.bind_eq_some_iff.mp hread
    cases hread
    rw [toJson, Operand.eq_toJson_of_reread hl hleft, Operand.eq_toJson_of_reread hr hright]
    rfl
  | .composite connective children, place, room, k, h, hread => by
    obtain ⟨-, _, hentries, rfl⟩ := Json.within?_record_eq_some.mp h
    obtain ⟨_, _, htype, hrest, rfl⟩ := Json.entriesWithin?_cons_eq_some.mp hentries
    obtain ⟨_, _, hoperator, hlast, rfl⟩ := Json.entriesWithin?_cons_eq_some.mp hrest
    obtain ⟨_, _, hchildren, hnone, rfl⟩ := Json.entriesWithin?_cons_eq_some.mp hlast
    obtain ⟨-, ks, hks, rfl⟩ := Json.within?_list_eq_some.mp hchildren
    cases htype
    cases hoperator
    cases hnone
    rw [ofJson?_composite] at hread
    obtain ⟨connective', -, hread⟩ := Option.bind_eq_some_iff.mp hread
    obtain ⟨cs, hcs, hread⟩ := Option.bind_eq_some_iff.mp hread
    cases hread
    rw [toJson, eq_toJsonList_of_reread children hks hcs]

theorem eq_toJsonList_of_reread : ∀ (cs : List Condition) {room : Nat} {ks : List Json},
    Json.itemsWithin? room (toJsonList cs) = some ks → ofJsonList? ks = some cs →
      ks = toJsonList cs
  | [], _, _, h, _ => (Option.some.inj h).symm
  | c :: cs, _, _, h, hread => by
    obtain ⟨k, ks, hk, hks, rfl⟩ := Json.itemsWithin?_cons_eq_some.mp h
    obtain ⟨d, hd, hread⟩ := Option.bind_eq_some_iff.mp hread
    obtain ⟨ds, hds, hread⟩ := Option.bind_eq_some_iff.mp hread
    cases hread
    rw [toJsonList, eq_toJson_of_reread c hk hd, eq_toJsonList_of_reread cs hks hds]

end

end Condition

end AccessControl
