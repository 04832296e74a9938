import AccessControl.Attribute.Comparison
import AccessControl.Attribute.Reference

/-!
Conditions: trees with comparisons at the leaves and AND, OR and NOT above them. A tree is read as
it stands, well formed or not; `Condition.Wellformed` says which trees a policy may carry.
-/

namespace AccessControl

inductive Connective where
  | all
  | any
  | negation
deriving DecidableEq, Inhabited

namespace Connective

def word : Connective → String
  | .all => "AND"
  | .any => "OR"
  | .negation => "NOT"

def words : List (String × Connective) :=
  [.all, .any, .negation].map fun c => (word c, c)

def ofJson? (place : Json.Place) (j : Json) : Option Connective :=
  Json.oneOf? place words j

end Connective

/-- One side of a comparison. -/
inductive Operand where
  | attribute (reference : AttributeRef)
  | literal (value : AttributeValue)
deriving Inhabited

inductive Condition where
  | comparison (function : Comparison) (left right : Operand)
  | composite (connective : Connective) (children : List Condition)
deriving Inhabited

namespace Operand

def display : Operand → String
  | .attribute reference => reference.display
  | .literal value => value.display

/-- The attribute that has to be looked up for this side, if it is one. -/
def reference? : Operand → Option AttributeRef
  | .attribute reference => some reference
  | .literal _ => none

def toJson : Operand → Json
  | .attribute reference => .record (("kind", .text "attribute") :: reference.entries)
  | .literal value => .record [("kind", .text "literal"), ("value", value.toJson)]

/-- The two kinds of operand: true for an attribute. -/
def kinds : List (String × Bool) :=
  [("attribute", true), ("literal", false)]

def ofJson? (place : Json.Place) (j : Json) : Option Operand := do
  let (isAttribute, body) ← Json.tagged? place "kind" kinds j
  if isAttribute then
    let reference ← AttributeRef.ofJson? .inner body
    return .attribute reference
  else
    let fields ← body.fields? [⟨"value", false⟩]
    let value ← Json.required fields "value" AttributeValue.ofJson?
    return .literal value

end Operand

namespace Condition

/-- An attribute compared with a fixed value. -/
def compare (function : Comparison) (reference : AttributeRef) (value : AttributeValue) :
    Condition :=
  .comparison function (.attribute reference) (.literal value)

/-- A condition under so many composites of one child. -/
def wrap (connective : Connective) (c : Condition) : Nat → Condition
  | 0 => c
  | times + 1 => .composite connective [wrap connective c times]

mutual

/-- The number of levels; a comparison has one. -/
def depth : Condition → Nat
  | .comparison _ _ _ => 1
  | .composite _ children => 1 + depthList children

/-- The levels of the deepest of several conditions. -/
def depthList : List Condition → Nat
  | [] => 0
  | c :: cs => max (depth c) (depthList cs)

end

mutual

/-- A condition in words. -/
def describe : Condition → String
  | .comparison function left right =>
    left.display ++ " " ++ function.symbol ++ " " ++ right.display
  | .composite .negation children => "NOT (" ++ (describeList children).headD "" ++ ")"
  | .composite .all children => "(" ++ String.intercalate " AND " (describeList children) ++ ")"
  | .composite .any children => "(" ++ String.intercalate " OR " (describeList children) ++ ")"

def describeList : List Condition → List String
  | [] => []
  | c :: cs => describe c :: describeList cs

end

mutual

def toJson : Condition → Json
  | .comparison function left right =>
    .record [("type", .text "simple"), ("function", function.toJson), ("left", left.toJson),
      ("right", right.toJson)]
  | .composite connective children =>
    .record [("type", .text "composite"), ("operator", .text connective.word),
      ("children", .list (toJsonList children))]

def toJsonList : List Condition → List Json
  | [] => []
  | c :: cs => toJson c :: toJsonList cs

end

/-- The two kinds of condition: true for a comparison. -/
def kinds : List (String × Bool) :=
  [("simple", true), ("composite", false)]

def comparisonShape : List Json.Field :=
  [⟨"function", false⟩, ⟨"left", false⟩, ⟨"right", false⟩]

/-- Reads a comparison without its tag. -/
def comparison? (body : Json) : Option Condition := do
  let fields ← body.fields? comparisonShape
  let function ← Json.required fields "function" (Comparison.ofJson? .inner)
  let left ← Json.required fields "left" (Operand.ofJson? .inner)
  let right ← Json.required fields "right" (Operand.ofJson? .inner)
  return .comparison function left right

def compositeShape : List Json.Field :=
  [⟨"operator", false⟩, ⟨"children", false⟩]

/-- Reads the connective of a composite without its tag. -/
def connective? (body : Json) : Option Connective := do
  let fields ← body.fields? compositeShape
  Json.required fields "operator" (Connective.ofJson? .inner)

mutual

def ofJson? (place : Json.Place) : Json → Option Condition
  | .record entries => do
    let (isComparison, body) ← Json.tagged? place "type" kinds (.record entries)
    if isComparison then comparison? body
    else
      let connective ← connective? body
      let children ← childrenIn? entries
      return .composite connective children
  | .list [tag, operator, children] => do
    let (isComparison, body) ← Json.tagged? place "type" kinds (.list [tag, operator, children])
    if isComparison then comparison? body
    else
      let connective ← connective? body
      let children ← children? children
      return .composite connective children
  | .list items => do
    let (isComparison, body) ← Json.tagged? place "type" kinds (.list items)
    if isComparison then comparison? body else none
  | _ => none

/-- The children among the entries of a composite. -/
def childrenIn? : List (String × Json) → Option (List Condition)
  | [] => none
  | (name, j) :: es => if name = "children" then children? j else childrenIn? es

def children? : Json → Option (List Condition)
  | .list items => ofJsonList? items
  | _ => none

def ofJsonList? : List Json → Option (List Condition)
  | [] => some []
  | j :: js => do
    let c ← ofJson? .inner j
    let cs ← ofJsonList? js
    return c :: cs

end

end Condition

end AccessControl
