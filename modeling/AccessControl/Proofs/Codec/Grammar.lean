import AccessControl.AccessRequest
import AccessControl.Proofs.Codec.Fields
import AccessControl.Proofs.Decimal.Magnitude
import AccessControl.Proofs.Json.Structure

/-!
The JSON that stands for an attribute value: any in which neither null nor a record occurs, in lists
of any nesting. What is read from it is the same JSON with every number a double.
-/

namespace AccessControl

namespace Json

/-- The first value is the second one or stands inside it, in lists of any nesting. -/
inductive OccursIn : Json → Json → Prop
  | self (j : Json) : OccursIn j j
  | item {part j : Json} {items : List Json} (hj : j ∈ items) (h : OccursIn part j) :
      OccursIn part (.list items)

/-- Null and records stand for no attribute value. -/
inductive Foreign : Json → Prop
  | null : Foreign .null
  | record (entries : List (String × Json)) : Foreign (.record entries)

theorem foreign_iff {j : Json} : Foreign j ↔ j = .null ∨ ∃ entries, j = .record entries := by
  constructor
  · rintro (_ | entries)
    · exact .inl rfl
    · exact .inr ⟨entries, rfl⟩
  · rintro (rfl | ⟨entries, rfl⟩)
    · exact .null
    · exact .record entries

/-- Nothing in the value, in lists of any nesting, stands for no attribute value. -/
def Plain (j : Json) : Prop :=
  ∀ part, OccursIn part j → ¬ Foreign part

theorem plain_iff_not_foreign {j : Json} (h : ∀ items, j ≠ .list items) :
    j.Plain ↔ ¬ Foreign j := by
  constructor
  · exact fun hplain => hplain j (.self j)
  · rintro hj part (_ | _)
    · exact hj
    · exact absurd rfl (h _)

theorem plain_list_iff {items : List Json} : Plain (.list items) ↔ ∀ j ∈ items, j.Plain := by
  constructor
  · exact fun h j hj part hpart => h part (.item hj hpart)
  · rintro h part (_ | ⟨hj, hpart⟩)
    · nofun
    · exact h _ hj part hpart

mutual

/-- The value with every number, in lists of any nesting, as the double that it is read as. -/
def asDoubles : Json → Json
  | .null => .null
  | .bool value => .bool value
  | .number n => .number (.float n.toFloat)
  | .text value => .text value
  | .list items => .list (asDoublesList items)
  | .record entries => .record entries

def asDoublesList : List Json → List Json
  | [] => []
  | j :: js => asDoubles j :: asDoublesList js

end

/-- The word for the kind of a value. -/
def kind : Json → String
  | .null => "null"
  | .bool _ => "boolean"
  | .number _ => "number"
  | .text _ => "text"
  | .list _ => "list"
  | .record _ => "record"

/-- A number as JSON text has it: an integer of a 64-bit word, signed or not, or a finite double. -/
inductive Number.Fits : Number → Prop
  | int (value : Int) (hlower : -(Word.bound 63 : Int) ≤ value) (hupper : value < Word.bound 64) :
      Fits (.int value)
  | float (value : Float) (h : Dyadic.isFinite value = true) : Fits (.float value)

theorem Number.Fits.isFinite_toFloat {n : Number} (h : n.Fits) :
    Dyadic.isFinite n.toFloat = true := by
  cases h with
  | int value hlower hupper =>
    have hwide : (Word.bound 63 : Int) < Word.bound 64 := by decide
    exact Dyadic.isFinite_ofInt (by omega) hupper
  | float value h => exact h

end Json

namespace AttributeValue

variable {j : Json} {v : AttributeValue}

theorem ofJsonList?_eq_mapM (js : List Json) : ofJsonList? js = js.mapM ofJson? := by
  induction js with
  | nil => rfl
  | cons j js ih => rw [ofJsonList?, ih, List.mapM_cons]

theorem isSome_ofJson?_iff : (ofJson? j).isSome = true ↔ j.Plain := by
  induction j with
  | list items ih =>
    rw [ofJson?, Option.isSome_map, ofJsonList?_eq_mapM, isSome_mapM_iff, Json.plain_list_iff]
    exact forall₂_congr ih
  | _ => simp [ofJson?, Json.plain_iff_not_foreign, Json.foreign_iff]

theorem kind_of_ofJson? (h : ofJson? j = some v) : v.kind = j.kind := by
  cases j with
  | list items =>
    obtain ⟨vs, -, rfl⟩ := Option.map_eq_some_iff.mp h
    rfl
  | _ => cases h <;> rfl

theorem toJsonList_of_forall₂ {js : List Json} {vs : List AttributeValue}
    (h : List.Forall₂ (fun j v => v.toJson = j.asDoubles) js vs) :
    toJsonList vs = Json.asDoublesList js := by
  induction h with
  | nil => rfl
  | cons hv _ ih => rw [toJsonList, Json.asDoublesList, hv, ih]

/-- What was read is written as it stood there, but for the form of its numbers. -/
theorem toJson_of_ofJson? (hread : ofJson? j = some v) (hnumbers : ∀ n ∈ j.numbers, n.Fits) :
    v.toJson = j.asDoubles := by
  induction j generalizing v with
  | list items ih =>
    obtain ⟨vs, hvs, rfl⟩ := Option.map_eq_some_iff.mp hread
    rw [ofJsonList?_eq_mapM] at hvs
    rw [Json.numbers, Json.itemNumbers_eq_flatMap] at hnumbers
    -- The items were read each by itself, so the hypothesis holds of each with what it was read as.
    have hitems : ∀ k ∈ items, ∀ w, ofJson? k = some w → w.toJson = k.asDoubles :=
      fun k hk w hw => ih k hk hw fun n hn => hnumbers n (List.mem_flatMap.mpr ⟨k, hk, hn⟩)
    have hboth := (List.forall₂_and_left _ _).mpr ⟨hitems, forall₂_of_mapM hvs⟩
    exact congrArg Json.list (toJsonList_of_forall₂ (hboth.imp fun k w h => h.1 w h.2))
  | number n =>
    obtain rfl := Option.some.inj hread
    rw [toJson, Json.float, if_pos (hnumbers n (List.mem_singleton_self n)).isFinite_toFloat]
    rfl
  | _ => cases hread <;> rfl

/-- An attribute value is read from plain JSON and from no other, and keeps everything in it. A
record is a request exactly if each of its values is one. -/
theorem ofJson?_exact (j : Json) (entries : List (String × Json)) :
    ((ofJson? j).isSome = true ↔ j.Plain) ∧
    (∀ v, ofJson? j = some v →
      v.kind = j.kind ∧ ((∀ n ∈ j.numbers, n.Fits) → v.toJson = j.asDoubles)) ∧
    ((AccessRequest.ofJson? (.record entries)).isSome = true ↔ ∀ e ∈ entries, e.2.Plain) ∧
    (∀ e ∈ entries, ∀ part : Json, part.OccursIn e.2 → part.Foreign →
      AccessRequest.ofPayload? (.record entries) = none) := by
  have hrequest : (AccessRequest.ofJson? (.record entries)).isSome = true ↔
      ∀ e ∈ entries, e.2.Plain := by
    rw [AccessRequest.ofJson?, Option.isSome_map, Json.isSome_map?_iff]
    simp only [isSome_ofJson?_iff]
  refine ⟨isSome_ofJson?_iff, fun v hread => ⟨kind_of_ofJson? hread, toJson_of_ofJson? hread⟩,
    hrequest, fun e he part hpart hforeign => ?_⟩
  rw [AccessRequest.ofPayload?, ← Option.not_isSome_iff_eq_none, hrequest]
  exact fun hplain => hplain e he part hpart hforeign

/-- A list in a list, with the greatest integer that there is in JSON. -/
def greatest : Json :=
  .list [.list [.number (.int 18446744073709551615), .bool true], .text "on"]

/-- The integer becomes a double. Beside a null two lists deep, it is not read at all. -/
theorem ofJson?_exact_greatest :
    ofJson? greatest = some (.list [.list [.number (Float.ofInt 18446744073709551615),
      .boolean true], .text "on"]) ∧
    (∀ n ∈ greatest.numbers, n.Fits) ∧
    toJson (.list [.list [.number (Float.ofInt 18446744073709551615), .boolean true], .text "on"]) =
      .list [.list [.number (.float (Float.ofInt 18446744073709551615)), .bool true], .text "on"] ∧
    AccessRequest.ofPayload? (.record [("level", greatest), ("zone", .list [.list [.null]])]) =
      none := by
  have hnumbers : ∀ n ∈ greatest.numbers, n.Fits :=
    List.forall_mem_singleton.mpr (.int _ (by decide) (by decide))
  obtain ⟨-, hread, -, hbad⟩ :=
    ofJson?_exact greatest [("level", greatest), ("zone", .list [.list [.null]])]
  refine ⟨rfl, hnumbers, (hread _ rfl).2 hnumbers, ?_⟩
  exact hbad ("zone", .list [.list [.null]]) (by simp) .null
    (.item (List.mem_singleton_self _) (.item (List.mem_singleton_self _) (.self _))) .null

end AttributeValue

end AccessControl
