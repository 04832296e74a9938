import AccessControl.Guard
import AccessControl.Keyed

/-!
A store of policies. Names are distinct among the stored policies, every stored policy is valid, and
the one who created a policy is its owner and alone may delete it.
-/

namespace AccessControl

structure PolicyStore where
  maxConditionDepth : Nat
  policies : List Policy

namespace PolicyStore

/-- What a policy is called in messages. -/
def kind : String :=
  "Policy"

def empty (maxConditionDepth : Nat) : PolicyStore :=
  ⟨maxConditionDepth, []⟩

def size (s : PolicyStore) : Nat :=
  s.policies.length

def isEmpty (s : PolicyStore) : Bool :=
  s.policies.isEmpty

def find? (s : PolicyStore) (id : PolicyId) : Option Policy :=
  Keyed.find? Policy.id id s.policies

/-- Stores a policy as its author's own. -/
def create (s : PolicyStore) (policy : Policy) (author : Principal) :
    Except AuthError (Policy × PolicyStore) := do
  author.requireLoginable
  policy.validate s.maxConditionDepth
  let policy := { policy with owner := some author.id }
  if s.policies.any (·.name == policy.name) then .error (.entityAlreadyExists kind policy.name)
  else return (policy, { s with policies := Keyed.put Policy.id policy s.policies })

def get (s : PolicyStore) (id : PolicyId) : Except AuthError Policy :=
  match s.find? id with
  | some policy => .ok policy
  | none => .error (.entityNotFound kind id)

/-- A policy, for its author only. -/
def getOwned (s : PolicyStore) (id : PolicyId) (owner : UserId) : Except AuthError Policy := do
  let policy ← s.get id
  if policy.owner = some owner then return policy else .error .missingOwnerPrivileges

/-- The policies of an author, by name. -/
def allForOwner (s : PolicyStore) (owner : UserId) : List Policy :=
  (s.policies.filter (·.owner == some owner)).mergeSort fun a b => Text.lessOrEqual a.name b.name

/-- Removes a policy; only its author may. -/
def delete (s : PolicyStore) (id : PolicyId) (owner : UserId) : Except AuthError PolicyStore := do
  let _ ← s.getOwned id owner
  return { s with policies := Keyed.remove Policy.id id s.policies }

/-- Goes through a batch after the policies in `done`: each one has to be valid, with an identifier
and a name not seen before. -/
def checkBatch (limit : Nat) (done : List Policy) : List Policy → Except AuthError (List Policy)
  | [] => .ok done.reverse
  | p :: ps => do
    p.validate limit
    if done.any (·.id == p.id) then .error (.entityAlreadyExists kind p.id.toText)
    else if done.any (·.name == p.name) then .error (.entityAlreadyExists kind p.name)
    else checkBatch limit (p :: done) ps

/-- Puts a batch in the place of everything stored. -/
def replaceAll (s : PolicyStore) (batch : List Policy) : Except AuthError PolicyStore := do
  let policies ← checkBatch s.maxConditionDepth [] batch
  return { s with policies := policies }

/-- One of the identifiers is that of a stored policy covering one of the access types. -/
def existsGrantingAny (s : PolicyStore) (ids : List PolicyId) (accesses : List AccessType) : Bool :=
  ids.any fun id =>
    match s.find? id with
    | some policy => accesses.any policy.covers
    | none => false

def toLookup (s : PolicyStore) : PolicyLookup where
  find? := s.find?
  existsGrantingAny := s.existsGrantingAny

end PolicyStore

end AccessControl
