import AccessControl.Decimal.Basic
import AccessControl.Json.Fields

/-!
Effects: what a policy does to the JSON view of a resource before it is shown. The field of an
effect is a dotted path. A list that is met before the path is used up has the rest of the path
applied to each of its items; a record is entered by name, and a path that leads nowhere changes
nothing.
-/

namespace AccessControl

inductive Effect where
  /-- Rounds a number to so many decimal places; halves go up. -/
  | degradeAccuracy (field : String) (places : Nat)
  /-- Replaces a value by null. -/
  | redact (field : String)
deriving DecidableEq, Inhabited

namespace Effect

def field : Effect → String
  | .degradeAccuracy field _ => field
  | .redact field => field

/-- A double times a power of another, by squaring. Every product is rounded. -/
def timesPower (x base : Float) (exponent : Nat) : Float :=
  if exponent = 0 then x
  else timesPower (if exponent % 2 = 1 then x * base else x) (base * base) (exponent / 2)
termination_by exponent
decreasing_by omega

/-- A number rounded to decimal places. It stays as it is where the power of ten or the result is
not finite. -/
def roundTo (places : Nat) (number : Json.Number) : Json.Number :=
  let factor := timesPower 1.0 10.0 places
  if Dyadic.isFinite factor then
    let rounded := (number.toFloat * factor + 0.5).floor / factor
    if Dyadic.isFinite rounded then .float rounded else number
  else number

/-- What an effect does to the value its path leads to. -/
def transform : Effect → Json → Json
  | .degradeAccuracy _ places, .number number => .number (roundTo places number)
  | .degradeAccuracy _ _, j => j
  | .redact _, _ => .null

end Effect

namespace Json

mutual

/-- Changes every value that a path leads to. -/
def updateAt (change : Json → Json) : List String → Json → Json
  | [], j => change j
  | _ :: _, .null => .null
  | _ :: _, .bool value => .bool value
  | _ :: _, .number value => .number value
  | _ :: _, .text value => .text value
  | name :: rest, .list items => .list (updateItems change (name :: rest) items)
  | name :: rest, .record entries => .record (updateEntry change name rest entries)

/-- The same path for every item. -/
def updateItems (change : Json → Json) (path : List String) : List Json → List Json
  | [] => []
  | j :: js => updateAt change path j :: updateItems change path js

/-- The rest of a path for the entry it goes on with. -/
def updateEntry (change : Json → Json) (name : String) (rest : List String) :
    List (String × Json) → List (String × Json)
  | [] => []
  | (key, j) :: es =>
    if key = name then (key, updateAt change rest j) :: es
    else (key, j) :: updateEntry change name rest es

end

end Json

namespace Effect

/-- The parts of a text between its dots; there is one part at least. -/
def splitDots : List Char → List (List Char)
  | [] => [[]]
  | c :: cs =>
    if c = '.' then [] :: splitDots cs
    else
      match splitDots cs with
      | part :: parts => (c :: part) :: parts
      | [] => [[c]]

/-- The names that an effect's field consists of. -/
def path (e : Effect) : List String :=
  (splitDots e.field.toList).map String.ofList

def apply (e : Effect) (view : Json) : Json :=
  view.updateAt e.transform e.path

/-- Applies effects one after the other. -/
def applyAll (effects : List Effect) (view : Json) : Json :=
  effects.foldl (fun view e => e.apply view) view

def toJson : Effect → Json
  | .degradeAccuracy field places =>
    .record [("type", .text "NUMERIC_ACCURACY_DEGRADATION"), ("field", .text field),
      ("decimal_places", .nat places)]
  | .redact field => .record [("type", .text "FIELD_REDACTION"), ("field", .text field)]

/-- The two kinds of effect: true for a redaction. -/
def kinds : List (String × Bool) :=
  [("NUMERIC_ACCURACY_DEGRADATION", false), ("FIELD_REDACTION", true)]

def ofJson? (j : Json) : Option Effect := do
  let (isRedaction, body) ← Json.tagged? .direct "type" kinds j
  if isRedaction then
    let fields ← body.fields? [⟨"field", false⟩]
    let field ← Json.required fields "field" Json.text?
    return .redact field
  else
    let fields ← body.fields? [⟨"field", false⟩, ⟨"decimal_places", false⟩]
    let field ← Json.required fields "field" Json.text?
    let places ← Json.required fields "decimal_places" (Json.nat? 32)
    return .degradeAccuracy field places

end Effect

end AccessControl
