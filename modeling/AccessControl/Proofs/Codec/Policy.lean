import AccessControl.AccessRequest
import AccessControl.Policy
import AccessControl.Principal
import AccessControl.Proofs.Codec.Condition
import AccessControl.Proofs.Codec.Identifier

/-!
Policies, and what a question about one consists of, read back from their JSON. A set of access
types is written as a list in the order of all access types, so the list makes the same set again.
-/

namespace AccessControl

@[simp]
theorem Id.ofJson?_toJson (id : Id) : ofJson? id.toJson = some id := by
  rw [ofJson?, toJson, Json.text?, Option.bind_some, ofText?_toText]

@[simp]
theorem Id.optional_cons {name : String} {entries : List (String × Json)} (id : Option Id) :
    Json.optional ((name, .ofOption toJson id) :: entries) name ofJson? = some id :=
  Json.optional_cons_ofOption (fun id _ => id.ofJson?_toJson) fun _ _ => nofun

theorem AccessType.ofJson?_toJson (place : Json.Place) (t : AccessType) :
    ofJson? place t.toJson = some t := by
  cases t <;> rfl

theorem AccessTypes.ofList_toList (s : AccessTypes) : ofList s.toList = s := by
  have hcontains : ∀ t, s.toList.contains t = s.contains t := by
    intro t
    rw [Bool.eq_iff_iff, List.contains_iff_mem, toList, List.mem_filter]
    exact and_iff_right (AccessType.mem_all t)
  rw [ofList, funext hcontains]

@[simp]
theorem AccessTypes.ofJson?_toJson (s : AccessTypes) : ofJson? s.toJson = some s := by
  have hlist : s.toJson.list? (AccessType.ofJson? .direct) = some s.toList :=
    Json.list?_list fun t _ => AccessType.ofJson?_toJson .direct t
  rw [ofJson?, hlist, Option.map_some, ofList_toList]

/-- The decimal places fit the machine word that holds them. -/
def Effect.fits : Effect → Bool
  | .degradeAccuracy _ places => places < Word.bound 32
  | .redact _ => true

theorem Effect.ofJson?_toJson {e : Effect} (h : e.fits = true) : ofJson? e.toJson = some e := by
  rcases e with ⟨field, places⟩ | field
  · have hplaces : places < Word.bound 32 := by simpa only [fits, decide_eq_true_iff] using h
    have htagged : Json.tagged? .direct "type" kinds (toJson (.degradeAccuracy field places)) =
        some (false, .record [("field", .text field), ("decimal_places", .nat places)]) :=
      Json.tagged?_record rfl (by simp)
    have hfields : Json.fields? [⟨"field", false⟩, ⟨"decimal_places", false⟩]
        (.record [("field", .text field), ("decimal_places", .nat places)]) =
        some [("field", .text field), ("decimal_places", .nat places)] :=
      Json.fields?_record rfl (by decide)
    -- One bind at a time: the kernel would unfold the reader of the number to check them together.
    rw [ofJson?, htagged, Option.bind_eq_bind, Option.bind_some]
    simp only [Bool.false_eq_true, if_false]
    rw [hfields, Option.bind_eq_bind, Option.bind_some]
    simp [Json.text?, hplaces]
  · have htagged : Json.tagged? .direct "type" kinds (toJson (.redact field)) =
        some (true, .record [("field", .text field)]) :=
      Json.tagged?_record rfl (by simp)
    have hfields : Json.fields? [⟨"field", false⟩] (.record [("field", .text field)]) =
        some [("field", .text field)] :=
      Json.fields?_record rfl (by decide)
    simp [ofJson?, htagged, hfields, Json.text?]

namespace Policy

/-- Every number in a policy is finite and fits the machine word that holds it. -/
def fits (p : Policy) : Bool :=
  Word.fitsSigned 31 p.priority && p.condition.isFinite && p.effects.all Effect.fits

theorem fits_iff {p : Policy} :
    p.fits = true ↔
      Word.fitsSigned 31 p.priority = true ∧ p.condition.isFinite = true ∧
        ∀ e ∈ p.effects, e.fits = true := by
  simp [fits, and_assoc]

/-- The entries of a policy's JSON in front of its condition. -/
def entriesBefore (p : Policy) : List (String × Json) :=
  [("id", p.id.toJson), ("name", .text p.name), ("description", .text p.description),
    ("priority", .number (.int p.priority)), ("access_types", p.accessTypes.toJson)]

def entriesAfter (p : Policy) : List (String × Json) :=
  [("effects", .list (p.effects.map Effect.toJson)), ("owner_id", .ofOption Id.toJson p.owner)]

/-- A policy's JSON with something in the place of its condition. -/
def toJsonAround (p : Policy) (condition : Json) : Json :=
  .record (p.entriesBefore ++ ("condition", condition) :: p.entriesAfter)

theorem toJsonAround_condition (p : Policy) : p.toJsonAround p.condition.toJson = p.toJson := rfl

/-- Whether a policy is read back is up to its condition. -/
theorem ofJson?_toJsonAround {p : Policy} (hpriority : Word.fitsSigned 31 p.priority = true)
    (heffects : ∀ e ∈ p.effects, e.fits = true) (condition : Json) :
    ofJson? (p.toJsonAround condition) =
      (Condition.ofJson? .direct condition).map fun c => { p with condition := c } := by
  have hfields : Json.fields? shape (p.toJsonAround condition) = some _ :=
    Json.fields?_record rfl (by decide)
  have hlist : Json.list? Effect.ofJson? (.list (p.effects.map Effect.toJson)) = some p.effects :=
    Json.list?_list fun e he => Effect.ofJson?_toJson (heffects e he)
  rw [ofJson?, hfields]
  simp only [entriesBefore, entriesAfter]
  cases hcondition : Condition.ofJson? .direct condition <;>
    simp [Json.text?, hpriority, hlist, hcondition]

theorem ofJson?_toJson {p : Policy} (h : p.fits = true) : ofJson? p.toJson = some p := by
  obtain ⟨hpriority, hcondition, heffects⟩ := fits_iff.mp h
  rw [← toJsonAround_condition, ofJson?_toJsonAround hpriority heffects,
    Condition.ofJson?_toJson .direct p.condition hcondition, Option.map_some]

end Policy

/-- Every number in a request is finite. -/
def AccessRequest.isFinite (r : AccessRequest) : Bool :=
  r.attributes.entries.all fun e => e.2.isFinite

theorem AccessRequest.ofJson?_toJson {r : AccessRequest} (h : r.isFinite = true) :
    ofJson? r.toJson = some r := by
  have hmap : r.toJson.map? AttributeValue.ofJson? = some r.attributes :=
    Json.map?_record fun e he => AttributeValue.ofJson?_toJson e.2 (List.all_eq_true.mp h e he)
  rw [ofJson?, hmap, Option.map_some]

/-- Every number in a profile is finite. -/
def Principal.isFinite (p : Principal) : Bool :=
  p.profile.entries.all fun e => e.2.isFinite

theorem Principal.ofJson?_toJson {p : Principal} (h : p.isFinite = true) :
    ofJson? p.toJson = some p := by
  have hfields : Json.fields? shape p.toJson = some _ := Json.fields?_record rfl (by decide)
  have hmap : Json.map? AttributeValue.ofJson?
      (.record (p.profile.entries.map fun e => (e.1, e.2.toJson))) = some p.profile :=
    Json.map?_record fun e he => AttributeValue.ofJson?_toJson e.2 (List.all_eq_true.mp h e he)
  simp [ofJson?, hfields, Json.text?, Json.bool?, hmap]

end AccessControl
