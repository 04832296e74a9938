import AccessControl.Decimal.Layout
import AccessControl.Json.Fields

/-!
Attribute values: booleans, numbers, texts, and lists of attribute values. In JSON they stand for
themselves; null and records are no attribute values, at any depth.
-/

namespace AccessControl

inductive AttributeValue where
  | boolean (value : Bool)
  | number (value : Float)
  | text (value : String)
  | list (items : List AttributeValue)
deriving Inhabited

namespace AttributeValue

/-- The word for the kind of a value. -/
def kind : AttributeValue → String
  | .boolean _ => "boolean"
  | .number _ => "number"
  | .text _ => "text"
  | .list _ => "list"

def asNumber? : AttributeValue → Option Float
  | .number value => some value
  | _ => none

def asText? : AttributeValue → Option String
  | .text value => some value
  | _ => none

mutual

/-- The value as it stands in messages. -/
def display : AttributeValue → String
  | .boolean value => if value then "true" else "false"
  | .number value => Decimal.writeFloat .message value
  | .text value => "'" ++ value ++ "'"
  | .list items => "[" ++ String.intercalate ", " (displayList items) ++ "]"

def displayList : List AttributeValue → List String
  | [] => []
  | v :: vs => display v :: displayList vs

end

mutual

def toJson : AttributeValue → Json
  | .boolean value => .bool value
  | .number value => .float value
  | .text value => .text value
  | .list items => .list (toJsonList items)

def toJsonList : List AttributeValue → List Json
  | [] => []
  | v :: vs => toJson v :: toJsonList vs

end

mutual

def ofJson? : Json → Option AttributeValue
  | .bool value => some (.boolean value)
  | .number value => some (.number value.toFloat)
  | .text value => some (.text value)
  | .list items => (ofJsonList? items).map .list
  | .null => none
  | .record _ => none

def ofJsonList? : List Json → Option (List AttributeValue)
  | [] => some []
  | j :: js => do
    let v ← ofJson? j
    let vs ← ofJsonList? js
    return v :: vs

end

end AttributeValue

end AccessControl
