import AccessControl.Json.Basic
import AccessControl.Word

/-!
Taking values out of JSON. A record is given by name, or as a list of its values in their declared
order; entries nobody declared are passed over, and a declared one may not come twice. Each reader
answers nothing when the value has another shape.
-/

namespace AccessControl.Json

/-- A declared entry of a record. -/
structure Field where
  name : String
  /-- The list form may end before it. -/
  droppable : Bool := false

/-- The declared entries that are there. -/
def fields? (shape : List Field) : Json → Option (List (String × Json))
  | .record entries =>
    let known := entries.filter fun e => shape.any (·.name == e.1)
    if (known.map (·.1)).Nodup then some known else none
  | .list items =>
    if items.length ≤ shape.length && (shape.drop items.length).all (·.droppable) then
      some ((shape.map (·.name)).zip items)
    else none
  | _ => none

/-- An entry that has to be there. -/
def required {α : Type} (fields : List (String × Json)) (name : String)
    (read : Json → Option α) : Option α :=
  (fields.lookup name).bind read

/-- An entry that may be missing or null. -/
def optional {α : Type} (fields : List (String × Json)) (name : String)
    (read : Json → Option α) : Option (Option α) :=
  match fields.lookup name with
  | none => some none
  | some .null => some none
  | some j => (read j).map some

/-- An entry with a value that stands in when it is missing; null is not missing. -/
def defaulted {α : Type} (fields : List (String × Json)) (name : String) (default : α)
    (read : Json → Option α) : Option α :=
  match fields.lookup name with
  | none => some default
  | some j => read j

def bool? : Json → Option Bool
  | .bool value => some value
  | _ => none

def text? : Json → Option String
  | .text value => some value
  | _ => none

def float? : Json → Option Float
  | .number value => some value.toFloat
  | _ => none

/-- An integer that fits a signed word of so many bits and one more. A number with decimals or an
exponent is none. -/
def int? (bits : Nat) : Json → Option Int
  | .number (.int value) => if Word.fitsSigned bits value then some value else none
  | _ => none

/-- A natural number that fits a word of so many bits. -/
def nat? (bits : Nat) : Json → Option Nat
  | .number (.int value) => if 0 ≤ value ∧ value < Word.bound bits then some value.toNat else none
  | _ => none

def list? {α : Type} (read : Json → Option α) : Json → Option (List α)
  | .list items => items.mapM read
  | _ => none

/-- A map from names; the last entry of a name stands. -/
def map? {α : Type} (read : Json → Option α) : Json → Option (NameMap α)
  | .record entries =>
    (entries.mapM fun e => (read e.2).map fun value => (e.1, value)).map NameMap.ofList
  | _ => none

/-- Where a value stands when it is read: by itself, or inside a value that was taken in whole
before its kind was known. The second place lets a few more spellings through. -/
inductive Place where
  | direct
  | inner
deriving DecidableEq

/-- A word, or a record with the word as its only name and nothing under it. -/
def word? (place : Place) : Json → Option String
  | .text value => some value
  | .record [(name, .null)] => some name
  | .record [(name, .record [])] => if place = .inner then some name else none
  | _ => none

/-- One of several words, with what it stands for. -/
def oneOf? {α : Type} (place : Place) (words : List (String × α)) (j : Json) : Option α :=
  (word? place j).bind fun word => words.lookup word

/-- The alternative that a tag names: by its word, and inside another value also by its number. -/
def tag? {α : Type} (place : Place) (words : List (String × α)) : Json → Option α
  | .text value => words.lookup value
  | .number (.int value) =>
    if place = .inner ∧ 0 ≤ value then words[value.toNat]?.map (·.2) else none
  | _ => none

/-- Splits a tagged record into what its tag stands for and the rest. In the list form the tag comes
first. -/
def tagged? {α : Type} (place : Place) (tagName : String) (words : List (String × α)) :
    Json → Option (α × Json)
  | .record entries =>
    match entries.filter (·.1 == tagName) with
    | [(_, tag)] => do
      let alternative ← tag? place words tag
      some (alternative, .record (entries.filter (·.1 != tagName)))
    | _ => none
  | .list (tag :: items) => do
    let alternative ← tag? place words tag
    some (alternative, .list items)
  | _ => none

end AccessControl.Json
