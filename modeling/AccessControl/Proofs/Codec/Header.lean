import AccessControl.Proofs.Codec.Policy
import AccessControl.Proofs.Json.RoundTrip

/-!
The two forms of a request header. Pairs of a name and a value, given as a record or as a list of
entries, with any blanks around, are read as the request that they are put into one by one; and a
request comes back from its own record.
-/

namespace AccessControl

namespace Json

/-- A number that is not finite is written as null, and null is not read as a number. -/
theorem Number.isFinite_of_reread? {n m : Number} (h : n.reread? = some m) : n.isFinite = true := by
  rcases n with z | x
  · rfl
  · by_contra hfinite
    have hnull : write (.float x) = "null" := by
      have hx : ¬ Dyadic.isFinite x = true := hfinite
      rw [write, Decimal.writeFloat, if_neg hx]
      split
      · rfl
      · split <;> rfl
    rw [reread?, literal?, hnull] at h
    cases h

theorem read_empty (o : Outline) : read o "" = none := by
  simp [read, Lexeme.ofText?, scan, run]

theorem trim_parenthesize {opening closing : String} {first last : Char}
    (hopening : opening.toList = [first]) (hclosing : closing.toList = [last])
    (hfirst : Text.isBlankChar first = false) (hlast : Text.isBlankChar last = false)
    (parts : List String) :
    Text.trim (parenthesize opening parts closing) = parenthesize opening parts closing := by
  have htext : (parenthesize opening parts closing).toList =
      first :: (String.intercalate "," parts).toList ++ [last] := by
    simp [parenthesize, hopening, hclosing]
  rw [Text.trim, htext, Text.trimChars_bracketed hfirst hlast, ← htext, String.ofList_toList]

end Json

namespace AccessRequest

/-- An entry of the record form. -/
def Denotes (entry : String × Json) (pair : String × AttributeValue) : Prop :=
  entry.1 = pair.1 ∧ AttributeValue.ofJson? entry.2 = some pair.2

/-- An entry of the list form: the name and the value, in any order, with any others among them. -/
def GivesPair (entries : List (String × Json)) (pair : String × AttributeValue) : Prop :=
  ∃ value others, AttributeValue.ofJson? value = some pair.2 ∧
    entries.Perm ([("key", .text pair.1), ("value", value)] ++ others) ∧
    ∀ e ∈ others, e.1 ≠ "key" ∧ e.1 ≠ "value"

/-- What may be sent for some pairs. -/
inductive HeaderForm (pairs : List (String × AttributeValue)) : Json → Prop
  | record {entries : List (String × Json)} :
    List.Forall₂ Denotes entries pairs → HeaderForm pairs (.record entries)
  | list {items : List (List (String × Json))} :
    List.Forall₂ GivesPair items pairs → HeaderForm pairs (.list (items.map .record))

theorem entry?_of_givesPair {entries : List (String × Json)} {pair : String × AttributeValue}
    (h : GivesPair entries pair) : entry? (.record entries) = some pair := by
  obtain ⟨value, others, hvalue, hperm, hothers⟩ := h
  have hundeclared : ∀ e ∈ others, e.1 ∉ entryShape.map (·.name) := by
    simpa [entryShape] using hothers
  obtain ⟨fields, hfields, hknown⟩ := Json.fields?_of_perm hperm rfl (by decide) hundeclared
  -- The two entries may have come in either order; by name they are found alike.
  have hlookup := Json.lookup_eq_of_perm hknown (by simp)
  have hkey : Json.required fields "key" Json.text? = some pair.1 := by
    rw [Json.required, hlookup]
    rfl
  have hgiven : Json.required fields "value" AttributeValue.ofJson? = some pair.2 := by
    rw [Json.required, hlookup]
    exact hvalue
  unfold entry?
  rw [hfields]
  simp [hkey, hgiven]

variable {pairs : List (String × AttributeValue)} {j : Json}

namespace HeaderForm

theorem ofPayload?_eq (h : HeaderForm pairs j) : ofPayload? j = some (ofEntries pairs) := by
  cases h with
  | record hentries =>
    rw [ofPayload?, ofJson?, Json.map?_of_forall₂ hentries]
    rfl
  | list hitems =>
    have hread := hitems.imp fun _ _ => entry?_of_givesPair
    rw [ofPayload?, mapM_of_forall₂ (List.forall₂_map_left_iff.mpr hread)]
    rfl

/-- Both forms are written in brackets, so nothing of them is trimmed. -/
theorem trim_write (h : HeaderForm pairs j) : Text.trim j.write = j.write := by
  cases h with
  | record => exact Json.trim_parenthesize rfl rfl rfl rfl _
  | list => exact Json.trim_parenthesize rfl rfl rfl rfl _

/-- The record of what the values are written as. -/
theorem record_of_finite (h : ∀ p ∈ pairs, p.2.isFinite = true) :
    HeaderForm pairs (.record (pairs.map fun p => (p.1, p.2.toJson))) := by
  refine .record (List.forall₂_map_left_iff.mpr (List.forall₂_same.mpr ?_))
  intro p hp
  exact ⟨rfl, AttributeValue.ofJson?_toJson p.2 (h p hp)⟩

theorem list_of_finite (h : ∀ p ∈ pairs, p.2.isFinite = true) :
    HeaderForm pairs
      (.list (pairs.map fun p => .record [("key", .text p.1), ("value", p.2.toJson)])) := by
  have hgives : List.Forall₂ GivesPair
      (pairs.map fun p => [("key", .text p.1), ("value", p.2.toJson)]) pairs := by
    refine List.forall₂_map_left_iff.mpr (List.forall₂_same.mpr ?_)
    intro p hp
    exact ⟨p.2.toJson, [], AttributeValue.ofJson?_toJson p.2 (h p hp), .refl _, nofun⟩
  have hform := HeaderForm.list hgives
  rwa [List.map_map] at hform

end HeaderForm

theorem ofHeader?_of_read {text : String} (h : Json.read .whole (Text.trim text) = some j) :
    ofHeader? text = ofPayload? j := by
  have hne : (Text.trim text).isEmpty = false := by
    by_contra hblank
    have hempty : Text.trim text = "" := by simpa using hblank
    rw [hempty, Json.read_empty] at h
    cases h
  simp only [ofHeader?, hne, h]
  rfl

theorem ofHeader?_of_blank {text : String} (h : Text.isBlank text = true) :
    ofHeader? text = some empty := by
  rw [ofHeader?, Text.trim_eq_empty_iff.mpr h]
  rfl

/-- Either form, with blanks around, is read as the pairs put in one by one. -/
theorem ofHeader?_of_form (h : HeaderForm pairs j) (hdepth : j.depth ≤ Json.maxDepth)
    (hnumbers : ∀ n ∈ j.numbers, n.reread? = some n) {before after : String}
    (hbefore : Text.isBlank before = true) (hafter : Text.isBlank after = true) :
    ofHeader? (before ++ j.write ++ after) = some (ofEntries pairs) := by
  have hfinite : ∀ n ∈ j.numbers, n.isFinite = true :=
    fun n hn => Json.Number.isFinite_of_reread? (hnumbers n hn)
  have hread : Json.read .whole j.write = some j :=
    (Json.read_write_self_iff hfinite (Json.Outline.covers_whole j)).mpr ⟨hdepth, hnumbers⟩
  have htrim : Text.trim (before ++ j.write ++ after) = j.write :=
    (Text.trim_surrounded hbefore hafter _).trans h.trim_write
  rw [← htrim] at hread
  rw [ofHeader?_of_read hread, h.ofPayload?_eq]

theorem ofEntries_eq_foldl (pairs : List (String × AttributeValue)) :
    ofEntries pairs = pairs.foldl (fun r p => r.insert p.1 p.2) empty :=
  (List.foldl_hom AccessRequest.mk fun _ _ => rfl).symm

/-- A request comes back from its own record. -/
theorem ofHeader?_write_toJson {r : AccessRequest}
    (hvalues : ∀ e ∈ r.attributes.entries, e.2.isFinite = true ∧
      e.2.toJson.depth < Json.maxDepth ∧ ∀ n ∈ e.2.toJson.numbers, n.reread? = some n) :
    ofHeader? r.toJson.write = some r := by
  have hform : HeaderForm r.attributes.entries r.toJson := .record_of_finite fun e he => (hvalues e he).1
  have hdepth : r.toJson.depth ≤ Json.maxDepth := by
    refine Nat.succ_le_succ (Json.depthEntries_le_iff.mpr (List.forall_mem_map.mpr ?_))
    intro e he
    exact Nat.le_of_lt_succ (hvalues e he).2.1
  have hnumbers : ∀ n ∈ r.toJson.numbers, n.reread? = some n := by
    rw [toJson, Json.numbers, Json.entryNumbers_eq_flatMap, List.flatMap_map,
      List.forall_mem_flatMap]
    exact fun e he => (hvalues e he).2.2
  have hread : ofHeader? ("" ++ r.toJson.write ++ "") = some (ofEntries r.attributes.entries) :=
    ofHeader?_of_form hform hdepth hnumbers rfl rfl
  simpa [ofEntries, NameMap.ofList_entries] using hread

/-- Pairs of names and values that are sent as a record, or as a list of entries with any other
names among them, with any blanks around, are read as the request that they are put into one by one,
in which the last value of a name stands; pairs of finite values can be sent in both forms. Blanks
alone are read as the empty request; and the request comes back from its own record. The reader's
depth and the numbers that are not read as they were written are all that stands against it. -/
theorem header_forms_agree (pairs : List (String × AttributeValue)) :
    ofEntries pairs = pairs.foldl (fun r p => r.insert p.1 p.2) empty ∧
    (∀ name, (ofEntries pairs).get? name = pairs.reverse.lookup name) ∧
    (∀ j, HeaderForm pairs j → j.depth ≤ Json.maxDepth → (∀ n ∈ j.numbers, n.reread? = some n) →
      ∀ before after, Text.isBlank before = true → Text.isBlank after = true →
        ofHeader? (before ++ j.write ++ after) = some (ofEntries pairs)) ∧
    ((∀ p ∈ pairs, p.2.isFinite = true) →
      HeaderForm pairs (.record (pairs.map fun p => (p.1, p.2.toJson))) ∧
        HeaderForm pairs
          (.list (pairs.map fun p => .record [("key", .text p.1), ("value", p.2.toJson)]))) ∧
    (∀ text, Text.isBlank text = true → ofHeader? text = some empty) ∧
    ((∀ p ∈ pairs, p.2.isFinite = true ∧ p.2.toJson.depth < Json.maxDepth ∧
        ∀ n ∈ p.2.toJson.numbers, n.reread? = some n) →
      ofHeader? (ofEntries pairs).toJson.write = some (ofEntries pairs)) := by
  refine ⟨ofEntries_eq_foldl pairs, NameMap.get?_ofList pairs, ?_, ?_,
    fun _ => ofHeader?_of_blank, ?_⟩
  · intro j hform hdepth hnumbers before after hbefore hafter
    exact ofHeader?_of_form hform hdepth hnumbers hbefore hafter
  · intro hfinite
    exact ⟨.record_of_finite hfinite, .list_of_finite hfinite⟩
  · intro hpairs
    exact ofHeader?_write_toJson fun e he => hpairs e (NameMap.mem_of_mem_ofList he)

/-- A unit that is given twice. -/
def unitTwice : List (String × AttributeValue) :=
  [("unit", .text "lab"), ("threshold", .number 0.5), ("unit", .list [.text "ward", .boolean true])]

def unitTwiceListed : List (List (String × Json)) :=
  [[("key", .text "unit"), ("value", .text "lab")],
    [("value", .number (.float 0.5)), ("note", .null), ("key", .text "threshold")],
    [("note", .list []), ("key", .text "unit"), ("value", .list [.text "ward", .bool true])]]

theorem unitTwice_listed : List.Forall₂ GivesPair unitTwiceListed unitTwice := by
  refine .cons ⟨.text "lab", [], rfl, .refl _, nofun⟩ (.cons ?_ (.cons ?_ .nil))
  · refine ⟨.number (.float 0.5), [("note", .null)], rfl, ?_, by decide⟩
    exact List.perm_append_singleton _ [_, _]
  · refine ⟨.list [.text "ward", .bool true], [("note", .list [])], rfl, ?_, by decide⟩
    exact (List.perm_append_singleton _ [_, _]).symm

theorem unitTwice_readable : ∀ p ∈ unitTwice, p.2.isFinite = true ∧
    p.2.toJson.depth < Json.maxDepth ∧ ∀ n ∈ p.2.toJson.numbers, n.reread? = some n := by
  have hjson : (AttributeValue.number 0.5).toJson = .number (.float 0.5) := by
    rw [AttributeValue.toJson, Json.float, if_pos (by decide +kernel)]
  have hdepth : (AttributeValue.number 0.5).toJson.depth < Json.maxDepth := by
    rw [hjson]
    decide
  have hnumbers : ∀ n ∈ (AttributeValue.number 0.5).toJson.numbers, n.reread? = some n := by
    rw [hjson]
    exact List.forall_mem_singleton.mpr Json.Number.reread?_half
  rw [unitTwice, List.forall_mem_cons, List.forall_mem_cons, List.forall_mem_singleton]
  exact ⟨⟨rfl, by decide, nofun⟩, ⟨by decide +kernel, hdepth, hnumbers⟩, rfl, by decide, nofun⟩

theorem unitTwice_agree :
    HeaderForm unitTwice (.list (unitTwiceListed.map .record)) ∧
      ofHeader? ("\n\u00a0" ++ (Json.list (unitTwiceListed.map .record)).write ++ "\u3000") =
        some (ofEntries unitTwice) ∧
      ofHeader? (ofEntries unitTwice).toJson.write = some (ofEntries unitTwice) := by
  have hform := HeaderForm.list unitTwice_listed
  have hnumbers : ∀ n ∈ (Json.list (unitTwiceListed.map .record)).numbers, n.reread? = some n :=
    List.forall_mem_singleton.mpr Json.Number.reread?_half
  obtain ⟨-, -, hforms, -, -, hself⟩ := header_forms_agree unitTwice
  refine ⟨hform, ?_, hself unitTwice_readable⟩
  exact hforms _ hform (by decide) hnumbers _ _ (by decide) (by decide)

end AccessRequest

end AccessControl
