import AccessControl.Condition.Evaluation
import AccessControl.Condition.Wellformed
import AccessControl.Effect
import AccessControl.Json.Reader
import AccessControl.Text.Blank

/-!
Policies: named rules that grant access types under a condition. The priority is kept but decides
nothing; policies count in the order in which they are attached.
-/

namespace AccessControl

structure Policy where
  id : PolicyId
  name : String
  description : String := ""
  priority : Int := 0
  accessTypes : AccessTypes
  condition : Condition
  effects : List Effect := []
  owner : Option UserId := none

namespace Policy

def covers (p : Policy) (access : AccessType) : Bool :=
  p.accessTypes.contains access

/-- What is wrong with a policy, if anything: its name, what it covers, its condition. -/
def fault? (limit : Nat) (p : Policy) : Option PolicyFault :=
  if Text.isBlank p.name then some .blankName
  else if p.accessTypes.isEmpty then some (.grantsNothing p.name)
  else p.condition.fault? limit

def validate (limit : Nat) (p : Policy) : Except AuthError Unit :=
  match p.fault? limit with
  | some fault => .error (.invalidPolicy fault)
  | none => .ok ()

/-- The policy covers the access type and its condition holds. The condition is left alone when the
access type is not covered. -/
def evaluate (evaluator : Evaluator) (lookup : Lookup) (access : AccessType) (p : Policy) :
    Traced Bool :=
  if p.covers access then p.condition.evaluate evaluator lookup else .pure false

def toJson (p : Policy) : Json :=
  .record [
    ("id", p.id.toJson),
    ("name", .text p.name),
    ("description", .text p.description),
    ("priority", .number (.int p.priority)),
    ("access_types", p.accessTypes.toJson),
    ("condition", p.condition.toJson),
    ("effects", .list (p.effects.map Effect.toJson)),
    ("owner_id", .ofOption Id.toJson p.owner)]

def shape : List Json.Field :=
  [⟨"id", false⟩, ⟨"name", false⟩, ⟨"description", true⟩, ⟨"priority", true⟩,
    ⟨"access_types", false⟩, ⟨"condition", false⟩, ⟨"effects", true⟩, ⟨"owner_id", true⟩]

def ofJson? (j : Json) : Option Policy := do
  let fields ← j.fields? shape
  return {
    id := ← Json.required fields "id" Id.ofJson?
    name := ← Json.required fields "name" Json.text?
    description := ← Json.defaulted fields "description" "" Json.text?
    priority := ← Json.defaulted fields "priority" 0 (Json.int? 31)
    accessTypes := ← Json.required fields "access_types" AccessTypes.ofJson?
    condition := ← Json.required fields "condition" (Condition.ofJson? .direct)
    effects := ← Json.defaulted fields "effects" [] (Json.list? Effect.ofJson?)
    owner := ← Json.optional fields "owner_id" Id.ofJson? }

def outline : Json.Outline :=
  .record (shape.map fun f => (f.name, .whole))

/-- Reads a policy from JSON text. -/
def ofText? (text : String) : Option Policy :=
  (Json.read outline text).bind ofJson?

/-- Reads a list of policies from JSON text. -/
def listOfText? (text : String) : Option (List Policy) :=
  (Json.read (.list outline) text).bind (Json.list? ofJson?)

end Policy

end AccessControl
