import AccessControl.Decimal.Basic
import AccessControl.NameMap

/-!
JSON values. Numbers keep the form they were written in: an integer that fits a 64-bit word, signed
or not, is an integer, and every other number is a double. Records keep their entries as written.
-/

namespace AccessControl

inductive Json.Number where
  | int (value : Int)
  | float (value : Float)
deriving Inhabited

inductive Json where
  | null
  | bool (value : Bool)
  | number (value : Json.Number)
  | text (value : String)
  | list (items : List Json)
  | record (entries : List (String × Json))
deriving Inhabited

namespace Json

/-- The double nearest to a number. -/
def Number.toFloat : Number → Float
  | .int value => Float.ofInt value
  | .float value => value

mutual

/-- Every record with its names ascending, the last entry of each name standing for all. -/
def canonical : Json → Json
  | .null => .null
  | .bool value => .bool value
  | .number value => .number value
  | .text value => .text value
  | .list items => .list (canonicalList items)
  | .record entries => .record (NameMap.ofList (canonicalEntries entries)).entries

def canonicalList : List Json → List Json
  | [] => []
  | j :: js => canonical j :: canonicalList js

def canonicalEntries : List (String × Json) → List (String × Json)
  | [] => []
  | (name, j) :: es => (name, canonical j) :: canonicalEntries es

end

mutual

/-- How many lists and records lie around the deepest value, the value's own included. -/
def depth : Json → Nat
  | .list items => depthList items + 1
  | .record entries => depthEntries entries + 1
  | _ => 0

def depthList : List Json → Nat
  | [] => 0
  | j :: js => max (depth j) (depthList js)

def depthEntries : List (String × Json) → Nat
  | [] => 0
  | (_, j) :: es => max (depth j) (depthEntries es)

end

/-- A text, or null when there is none. -/
def ofOption {α : Type} (write : α → Json) : Option α → Json
  | none => .null
  | some value => write value

def nat (n : Nat) : Json :=
  .number (.int n)

/-- An infinity and NaN have no JSON form but null. -/
def float (x : Float) : Json :=
  if Dyadic.isFinite x then .number (.float x) else .null

end Json

end AccessControl
