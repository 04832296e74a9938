import AccessControl.Config.Basic
import AccessControl.Json.Fields
import AccessControl.Toml.Reader

/-!
The layer that a configuration file makes, written in TOML, and the same layer written in JSON. In
TOML a section may also be a list of its settings in their order, in which more items do no harm.
-/

namespace AccessControl

namespace LogFormat

def words : List (String × LogFormat) :=
  [.pretty, .json].map fun f => (word f, f)

end LogFormat

namespace Toml

/-- The settings of a section: its names, and the value of each name that is there. -/
def section? (names : List String) : Toml → Option (List (String × Toml))
  | .table _ entries => some entries
  | .list items => some (names.zip items)
  | .tables items => some (names.zip (items.map (.table .header)))
  | .moment _ => some []
  | _ => none

/-- A setting that may be missing. -/
def setting {α : Type} (entries : List (String × Toml)) (name : String) (read : Toml → Option α) :
    Option (Option α) :=
  match entries.lookup name with
  | none => some none
  | some value => (read value).map some

def asText? : Toml → Option String
  | .text value => some value
  | _ => none

def asNat? : Toml → Option Nat
  | .integer value => if 0 ≤ value then some value.toNat else none
  | _ => none

/-- A word, or a table with the word as its only name and nothing under it. -/
def asWord? : Toml → Option String
  | .text value => some value
  | .table _ [(name, .list [])] => some name
  | .table _ [(name, .table _ [])] => some name
  | _ => none

end Toml

namespace AccessControlLayer

def names : List String :=
  ["max_condition_depth", "access_request_header", "policy_file"]

def ofToml? (t : Toml) : Option AccessControlLayer := do
  let entries ← t.section? names
  return {
    maxConditionDepth := ← Toml.setting entries "max_condition_depth" Toml.asNat?
    accessRequestHeader := ← Toml.setting entries "access_request_header" Toml.asText?
    policyFile := ← Toml.setting entries "policy_file" Toml.asText? }

def ofJson? (j : Json) : Option AccessControlLayer := do
  let fields ← j.fields? (names.map (⟨·, true⟩))
  return {
    maxConditionDepth := ← Json.optional fields "max_condition_depth" (Json.nat? 64)
    accessRequestHeader := ← Json.optional fields "access_request_header" Json.text?
    policyFile := ← Json.optional fields "policy_file" Json.text? }

end AccessControlLayer

namespace LoggingLayer

def names : List String :=
  ["level", "format"]

def ofToml? (t : Toml) : Option LoggingLayer := do
  let entries ← t.section? names
  return {
    level := ← Toml.setting entries "level" Toml.asText?
    format := ← Toml.setting entries "format" fun t =>
      t.asWord?.bind fun word => LogFormat.words.lookup word }

def ofJson? (j : Json) : Option LoggingLayer := do
  let fields ← j.fields? (names.map (⟨·, true⟩))
  return {
    level := ← Json.optional fields "level" Json.text?
    format := ← Json.optional fields "format" (Json.oneOf? .direct LogFormat.words) }

end LoggingLayer

namespace ConfigLayer

def names : List String :=
  ["access_control", "logging"]

def ofToml? (t : Toml) : Option ConfigLayer := do
  let entries ← t.section? names
  return {
    accessControl := ← Toml.setting entries "access_control" AccessControlLayer.ofToml?
    logging := ← Toml.setting entries "logging" LoggingLayer.ofToml? }

def ofJson? (j : Json) : Option ConfigLayer := do
  let fields ← j.fields? (names.map (⟨·, true⟩))
  return {
    accessControl := ← Json.optional fields "access_control" AccessControlLayer.ofJson?
    logging := ← Json.optional fields "logging" LoggingLayer.ofJson? }

end ConfigLayer

/-- What is found under the path of a configuration file. -/
inductive ConfigFile where
  | missing
  /-- A directory, or bytes that are no text. -/
  | unreadable
  | text (content : String)

namespace ConfigFile

/-- A file that is missing leaves everything open. -/
def layer : ConfigFile → Except ConfigError ConfigLayer
  | .missing => .ok {}
  | .unreadable => .error .unreadableFile
  | .text content =>
    match (Toml.ofText? content).bind ConfigLayer.ofToml? with
    | some layer => .ok layer
    | none => .error .malformedFile

end ConfigFile

end AccessControl
