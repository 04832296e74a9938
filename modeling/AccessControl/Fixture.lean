import AccessControl.Config.Basic
import AccessControl.Json.Writer
import AccessControl.PolicyStore

/-!
Fixtures: one question with everything it needs, and policies of its own beside shared ones. Its
answer is a report: whether access is allowed, by what, and what is shown.
-/

namespace AccessControl

/-- A resource that is nothing but data. -/
structure FixtureResource where
  id : EntityId
  owner : Option UserId := none
  policies : List PolicyId := []
  attributes : NameMap AttributeValue := NameMap.empty
  /-- What is shown when access is allowed. -/
  view : Json := .null

namespace FixtureResource

/-- What such a resource is called in messages. -/
def kind : String :=
  "Resource"

def toResource (r : FixtureResource) : Resource where
  id := r.id
  owner := r.owner
  policies := r.policies
  attribute? := r.attributes.get?

def shape : List Json.Field :=
  [⟨"id", false⟩, ⟨"owner_id", true⟩, ⟨"policy_ids", true⟩, ⟨"attributes", true⟩, ⟨"view", true⟩]

def ofJson? (j : Json) : Option FixtureResource := do
  let fields ← j.fields? shape
  return {
    id := ← Json.required fields "id" Id.ofJson?
    owner := ← Json.optional fields "owner_id" Id.ofJson?
    policies := ← Json.defaulted fields "policy_ids" [] (Json.list? Id.ofJson?)
    attributes :=
      ← Json.defaulted fields "attributes" NameMap.empty (Json.map? AttributeValue.ofJson?)
    view := ← Json.defaulted fields "view" .null fun j => some j.canonical }

end FixtureResource

structure Fixture where
  policies : List Policy := []
  principal : Principal
  resource : FixtureResource
  access : AccessType
  /-- The request, as the text of a header or written out. -/
  context : Option Json := none
  /-- Headers as a caller would send them. -/
  headers : NameMap String := NameMap.empty

/-- Why a fixture has no answer. -/
inductive FixtureError where
  | invalidRequest
  | invalidPolicies (cause : AuthError)
  | refused (cause : AuthError)
deriving DecidableEq

namespace FixtureError

/-- The refusal at the root of an error. -/
def cause : FixtureError → AuthError
  | .invalidRequest => .invalidAccessRequest
  | .invalidPolicies cause => cause
  | .refused cause => cause

def message : FixtureError → String
  | .invalidRequest => "invalid access-request context: " ++ AuthError.invalidAccessRequest.message
  | .invalidPolicies cause => "invalid policy: " ++ cause.message
  | .refused cause => cause.message

end FixtureError

/-- The answer to a fixture. -/
structure DecisionReport where
  /-- Who or what allowed access; nobody did when it was denied. -/
  grantedBy : Option String := none
  policyId : Option PolicyId := none
  policyName : Option String := none
  view : Option Json := none

namespace DecisionReport

def isAllowed (r : DecisionReport) : Bool :=
  r.grantedBy.isSome

/-- Reports a decision; what is shown is a view under the grant. -/
def ofDecision (view : Json) : Decision → DecisionReport
  | .allow .admin => { grantedBy := some "admin", view := some (Grant.admin.applyTo view) }
  | .allow .owner => { grantedBy := some "owner", view := some (Grant.owner.applyTo view) }
  | .allow (.policy p) =>
    { grantedBy := some "policy"
      policyId := some p.id
      policyName := some p.name
      view := some ((Grant.policy p).applyTo view) }
  | .deny _ _ => {}

/-- Entries without a value are left out. -/
def toJson (r : DecisionReport) : Json :=
  let entry (name : String) (value : Option Json) : List (String × Json) :=
    (value.map fun j => (name, j)).toList
  .record
    (("allowed", .bool r.isAllowed) :: entry "granted_by" (r.grantedBy.map .text) ++
      entry "policy_id" (r.policyId.map Id.toJson) ++
      entry "policy_name" (r.policyName.map .text) ++ entry "view" r.view)

end DecisionReport

namespace Fixture

/-- Two names are equal but for the case of ASCII letters. -/
def sameHeader (a b : String) : Bool :=
  a.toList.map Char.toLower == b.toList.map Char.toLower

/-- The text of the first header with a name, in the order of the names. -/
def header? (f : Fixture) (name : String) : Option String :=
  (f.headers.entries.find? fun e => sameHeader e.1 name).map (·.2)

/-- The request: the context, or else the header with a name, or else an empty one. A context that
is written out is read as the header with its text. -/
def request? (f : Fixture) (header : String) : Option AccessRequest :=
  match f.context with
  | some (.text written) => AccessRequest.ofHeader? written
  | some .null | none =>
    match f.header? header with
    | some written => AccessRequest.ofHeader? written
    | none => some .empty
  | some inline => AccessRequest.ofHeader? inline.canonical.write

/-- The shared policies and the fixture's own; of several with one identifier the last one of the
fixture counts, or the last one at all. -/
def merged (f : Fixture) (shared : List Policy) : List Policy :=
  (shared ++ f.policies).foldl (fun done p => Keyed.put Policy.id p done) []

/-- Answers a fixture under policies that are loaded in the order given. -/
def answer (f : Fixture) (policies : List Policy) (settings : AccessControlConfig) :
    Except FixtureError DecisionReport :=
  let depth := settings.maxConditionDepth
  match f.request? settings.accessRequestHeader with
  | none => .error .invalidRequest
  | some request =>
    match (PolicyStore.empty depth).replaceAll policies with
    | .error cause => .error (.invalidPolicies cause)
    | .ok store =>
      let guard : Guard := ⟨store.toLookup, .ofLimit depth⟩
      match guard.authorize f.resource.toResource f.principal f.access request with
      | .error cause => .error (.refused cause)
      | .ok decision => .ok (.ofDecision f.resource.view decision.value)

/-- Answers a fixture under its own and shared policies. -/
def evaluate (f : Fixture) (shared : List Policy) (settings : AccessControlConfig) :
    Except FixtureError DecisionReport :=
  f.answer (f.merged shared) settings

def shape : List Json.Field :=
  [⟨"policies", true⟩, ⟨"principal", false⟩, ⟨"resource", false⟩, ⟨"access_type", false⟩,
    ⟨"context", true⟩, ⟨"headers", true⟩]

def ofJson? (j : Json) : Option Fixture := do
  let fields ← j.fields? shape
  return {
    policies := ← Json.defaulted fields "policies" [] (Json.list? Policy.ofJson?)
    principal := ← Json.required fields "principal" Principal.ofJson?
    resource := ← Json.required fields "resource" FixtureResource.ofJson?
    access := ← Json.required fields "access_type" (AccessType.ofJson? .direct)
    context := ← Json.optional fields "context" some
    headers := ← Json.defaulted fields "headers" NameMap.empty (Json.map? Json.text?) }

def outline : Json.Outline :=
  .record [
    ("policies", .list Policy.outline),
    ("principal", Principal.outline),
    ("resource", .record (FixtureResource.shape.map fun f => (f.name, .whole))),
    ("access_type", .whole),
    ("context", .whole),
    ("headers", .whole)]

/-- Reads a fixture from JSON text. -/
def ofText? (text : String) : Option Fixture :=
  (Json.read outline text).bind ofJson?

end Fixture

end AccessControl
