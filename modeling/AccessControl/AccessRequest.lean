import AccessControl.Attribute.Value
import AccessControl.Json.Reader
import AccessControl.Text.Blank

/-!
The attributes that a caller sends along with a request. They come in a header as JSON: one record
of names and values, or a list of entries with a key and a value each, of which the last one for a
key stands. A blank header is an empty request.
-/

namespace AccessControl

structure AccessRequest where
  attributes : NameMap AttributeValue

namespace AccessRequest

def empty : AccessRequest :=
  ⟨NameMap.empty⟩

def insert (r : AccessRequest) (name : String) (value : AttributeValue) : AccessRequest :=
  ⟨r.attributes.insert name value⟩

def ofEntries (entries : List (String × AttributeValue)) : AccessRequest :=
  ⟨NameMap.ofList entries⟩

def get? (r : AccessRequest) (name : String) : Option AttributeValue :=
  r.attributes.get? name

def size (r : AccessRequest) : Nat :=
  r.attributes.size

def isEmpty (r : AccessRequest) : Bool :=
  r.attributes.isEmpty

def toJson (r : AccessRequest) : Json :=
  .record (r.attributes.entries.map fun e => (e.1, e.2.toJson))

def ofJson? (j : Json) : Option AccessRequest :=
  (j.map? AttributeValue.ofJson?).map AccessRequest.mk

def entryShape : List Json.Field :=
  [⟨"key", false⟩, ⟨"value", false⟩]

/-- One entry of the list form. -/
def entry? (j : Json) : Option (String × AttributeValue) := do
  let fields ← j.fields? entryShape
  let key ← Json.required fields "key" Json.text?
  let value ← Json.required fields "value" AttributeValue.ofJson?
  return (key, value)

/-- The request that a header's JSON stands for, in either form. -/
def ofPayload? : Json → Option AccessRequest
  | .record entries => ofJson? (.record entries)
  | .list items => (items.mapM entry?).map ofEntries
  | _ => none

/-- Reads a header. -/
def ofHeader? (header : String) : Option AccessRequest :=
  let header := Text.trim header
  if header.isEmpty then some empty
  else (Json.read .whole header).bind ofPayload?

end AccessRequest

end AccessControl
