import AccessControl.Condition.Basic
import AccessControl.Proofs.Codec.Fields

/-!
Attribute values and conditions read back from their JSON, by recursion on the value: each kind of
value is told from the others by the shape or the tag of what is written for it. Only a number that
is not finite is lost.
-/

namespace AccessControl

namespace AttributeValue

mutual

/-- Every number in a value is finite. -/
def isFinite : AttributeValue → Bool
  | .boolean _ => true
  | .number value => Dyadic.isFinite value
  | .text _ => true
  | .list items => areFinite items

def areFinite : List AttributeValue → Bool
  | [] => true
  | v :: vs => isFinite v && areFinite vs

end

mutual

theorem ofJson?_toJson : ∀ v : AttributeValue, v.isFinite = true → ofJson? v.toJson = some v
  | .boolean _, _ => rfl
  | .number value, h => by
    have hfinite : Dyadic.isFinite value = true := h
    rw [toJson, Json.float, if_pos hfinite]
    rfl
  | .text _, _ => rfl
  | .list items, h => by
    rw [toJson, ofJson?, ofJsonList?_toJsonList items h]
    rfl

theorem ofJsonList?_toJsonList :
    ∀ vs : List AttributeValue, areFinite vs = true → ofJsonList? (toJsonList vs) = some vs
  | [], _ => rfl
  | v :: vs, h => by
    obtain ⟨hv, hvs⟩ := (Bool.and_eq_true _ _).mp h
    rw [toJsonList, ofJsonList?, ofJson?_toJson v hv, ofJsonList?_toJsonList vs hvs]
    rfl

end

end AttributeValue

@[simp]
theorem Comparison.ofJson?_toJson (place : Json.Place) (f : Comparison) :
    ofJson? place f.toJson = some f := by
  cases f <;> rfl

@[simp]
theorem Connective.ofJson?_word (place : Json.Place) (c : Connective) :
    ofJson? place (.text c.word) = some c := by
  cases c <;> rfl

@[simp]
theorem AttributeNamespace.ofJson?_word (place : Json.Place) (n : AttributeNamespace) :
    ofJson? place (.text n.word) = some n := by
  cases n <;> rfl

theorem AttributeRef.ofJson?_toJson (place : Json.Place) (r : AttributeRef) :
    ofJson? place r.toJson = some r := by
  have hfields : Json.fields? shape r.toJson = some r.entries :=
    Json.fields?_record rfl (by decide)
  simp [ofJson?, hfields, entries, Json.text?]

/-- Every number in a side of a comparison is finite. -/
def Operand.isFinite : Operand → Bool
  | .attribute _ => true
  | .literal value => value.isFinite

theorem Operand.ofJson?_attribute (place : Json.Place) (r : AttributeRef) :
    ofJson? place (toJson (.attribute r)) = some (.attribute r) := by
  have htagged : Json.tagged? place "kind" kinds (toJson (.attribute r)) = some (true, r.toJson) :=
    Json.tagged?_record rfl (by simp [AttributeRef.entries])
  simp [ofJson?, htagged, AttributeRef.ofJson?_toJson]

theorem Operand.ofJson?_literal (place : Json.Place) (value : Json) :
    ofJson? place (.record [("kind", .text "literal"), ("value", value)]) =
      (AttributeValue.ofJson? value).map .literal := by
  have htagged : Json.tagged? place "kind" kinds
      (.record [("kind", .text "literal"), ("value", value)]) =
      some (false, .record [("value", value)]) :=
    Json.tagged?_record rfl (by simp)
  have hfields : Json.fields? [⟨"value", false⟩] (.record [("value", value)]) =
      some [("value", value)] :=
    Json.fields?_record rfl (by decide)
  cases hvalue : AttributeValue.ofJson? value <;> simp [ofJson?, htagged, hfields, hvalue]

theorem Operand.ofJson?_toJson (place : Json.Place) {o : Operand} (h : o.isFinite = true) :
    ofJson? place o.toJson = some o := by
  rcases o with r | v
  · exact ofJson?_attribute place r
  · rw [toJson, ofJson?_literal, AttributeValue.ofJson?_toJson v h, Option.map_some]

namespace Condition

mutual

/-- Every number in a condition is finite. -/
def isFinite : Condition → Bool
  | .comparison _ left right => left.isFinite && right.isFinite
  | .composite _ children => areFinite children

def areFinite : List Condition → Bool
  | [] => true
  | c :: cs => isFinite c && areFinite cs

end

theorem ofJson?_comparison (place : Json.Place) (function left right : Json) :
    ofJson? place (.record [("type", .text "simple"), ("function", function), ("left", left),
        ("right", right)]) = do
      let function ← Comparison.ofJson? .inner function
      let left ← Operand.ofJson? .inner left
      let right ← Operand.ofJson? .inner right
      return .comparison function left right := by
  have htagged : Json.tagged? place "type" kinds (.record [("type", .text "simple"),
        ("function", function), ("left", left), ("right", right)]) =
      some (true, .record [("function", function), ("left", left), ("right", right)]) :=
    Json.tagged?_record rfl (by simp)
  have hfields : Json.fields? comparisonShape
        (.record [("function", function), ("left", left), ("right", right)]) =
      some [("function", function), ("left", left), ("right", right)] :=
    Json.fields?_record rfl (by decide)
  rw [ofJson?, htagged]
  simp [comparison?, hfields]

theorem ofJson?_composite (place : Json.Place) (operator children : Json) :
    ofJson? place (.record [("type", .text "composite"), ("operator", operator),
        ("children", children)]) = do
      let connective ← Connective.ofJson? .inner operator
      let children ← children? children
      return .composite connective children := by
  have htagged : Json.tagged? place "type" kinds (.record [("type", .text "composite"),
        ("operator", operator), ("children", children)]) =
      some (false, .record [("operator", operator), ("children", children)]) :=
    Json.tagged?_record rfl (by simp)
  have hfields : Json.fields? compositeShape
        (.record [("operator", operator), ("children", children)]) =
      some [("operator", operator), ("children", children)] :=
    Json.fields?_record rfl (by decide)
  rw [ofJson?, htagged]
  simp [connective?, hfields, childrenIn?]

mutual

theorem ofJson?_toJson (place : Json.Place) :
    ∀ c : Condition, c.isFinite = true → ofJson? place c.toJson = some c
  | .comparison function left right, h => by
    obtain ⟨hleft, hright⟩ := (Bool.and_eq_true _ _).mp h
    rw [toJson, ofJson?_comparison, Operand.ofJson?_toJson .inner hleft,
      Operand.ofJson?_toJson .inner hright, Comparison.ofJson?_toJson]
    rfl
  | .composite connective children, h => by
    rw [toJson, ofJson?_composite, Connective.ofJson?_word, children?,
      ofJsonList?_toJsonList children h]
    rfl

theorem ofJsonList?_toJsonList :
    ∀ cs : List Condition, areFinite cs = true → ofJsonList? (toJsonList cs) = some cs
  | [], _ => rfl
  | c :: cs, h => by
    obtain ⟨hc, hcs⟩ := (Bool.and_eq_true _ _).mp h
    rw [toJsonList, ofJsonList?, ofJson?_toJson .inner c hc, ofJsonList?_toJsonList cs hcs]
    rfl

end

end Condition

end AccessControl
