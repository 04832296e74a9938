import AccessControl.Attribute.Value
import AccessControl.Json.Reader

/-!
References to attributes: a name in one of three namespaces.
-/

namespace AccessControl

/-- Where an attribute is looked up. -/
inductive AttributeNamespace where
  /-- On the protected resource. -/
  | resource
  /-- On the principal who asks. -/
  | principal
  /-- In the access request that comes with the question. -/
  | context
deriving DecidableEq, Inhabited

namespace AttributeNamespace

def word : AttributeNamespace → String
  | .resource => "resource"
  | .principal => "principal"
  | .context => "context"

def words : List (String × AttributeNamespace) :=
  [.resource, .principal, .context].map fun n => (word n, n)

def ofJson? (place : Json.Place) (j : Json) : Option AttributeNamespace :=
  Json.oneOf? place words j

end AttributeNamespace

structure AttributeRef where
  space : AttributeNamespace
  name : String
deriving DecidableEq, Inhabited

namespace AttributeRef

def display (r : AttributeRef) : String :=
  r.space.word ++ "." ++ r.name

/-- The text for an attribute that could not be found. -/
def unavailableMessage (r : AttributeRef) : String :=
  "attribute " ++ r.display ++ " is not available"

def shape : List Json.Field :=
  [⟨"namespace", false⟩, ⟨"name", false⟩]

def entries (r : AttributeRef) : List (String × Json) :=
  [("namespace", .text r.space.word), ("name", .text r.name)]

def toJson (r : AttributeRef) : Json :=
  .record r.entries

def ofJson? (place : Json.Place) (j : Json) : Option AttributeRef := do
  let fields ← j.fields? shape
  return {
    space := ← Json.required fields "namespace" (AttributeNamespace.ofJson? place)
    name := ← Json.required fields "name" Json.text? }

/-- Reads a reference from JSON text. -/
def ofText? (text : String) : Option AttributeRef :=
  (Json.read (.record (shape.map fun f => (f.name, .whole))) text).bind (ofJson? .direct)

end AttributeRef

end AccessControl
