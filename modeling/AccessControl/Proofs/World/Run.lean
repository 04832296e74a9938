import AccessControl.Proofs.PolicyStore.Run
import AccessControl.World.Service

/-!
Runs of a world. An operation is one on the policies, or a call of a service for some kind of
entity, with whatever caller and hooks that service has. Operations that fail are part of a run.
-/

namespace AccessControl

inductive EntityKind where
  | device
  | sensor
  | actuator
  | operator
deriving DecidableEq

namespace EntityKind

def Carrier : EntityKind → Type
  | device => Device
  | sensor => Sensor
  | actuator => Actuator
  | operator => Operator

instance : (kind : EntityKind) → Entity kind.Carrier
  | device => inferInstanceAs (Entity Device)
  | sensor => inferInstanceAs (Entity Sensor)
  | actuator => inferInstanceAs (Entity Actuator)
  | operator => inferInstanceAs (Entity Operator)

instance : (kind : EntityKind) → Stored kind.Carrier
  | device => inferInstanceAs (Stored Device)
  | sensor => inferInstanceAs (Stored Sensor)
  | actuator => inferInstanceAs (Stored Actuator)
  | operator => inferInstanceAs (Stored Operator)

/-- The hooks that a kind of entity comes with. -/
def lifecycle : (kind : EntityKind) → Lifecycle kind.Carrier
  | device => Lifecycle.device
  | sensor => Lifecycle.basic (ε := Sensor)
  | actuator => Lifecycle.basic (ε := Actuator)
  | operator => Lifecycle.basic (ε := Operator)

/-- The service of a kind of entity with the hooks it comes with. -/
def service (kind : EntityKind) (caller : Except AuthError Principal) : Service kind.Carrier :=
  ⟨caller, kind.lifecycle⟩

/-- The service as a user calls it who is told apart by a digit alone. -/
def serviceOf (kind : EntityKind) (caller : Fin 16) : Service kind.Carrier :=
  kind.service (.ok { id := .ofDigit caller, username := "" })

end EntityKind

/-- What can be asked of a service. -/
inductive Service.Call (ε : Type) where
  | get (id : EntityId)
  | getChecked (id : EntityId) (access : AccessType) (request : AccessRequest)
  | list (access : AccessType) (request : AccessRequest)
  | page (access : AccessType) (request : AccessRequest) (pageable : Pageable)
  | firstPolicy (e : ε) (access : AccessType) (request : AccessRequest)
  | read (id : EntityId) (access : AccessType) (request : AccessRequest)
  | create (e : ε)
  | delete (id : EntityId) (request : AccessRequest)

namespace Service

variable {ε : Type} [Entity ε] [Stored ε]

/-- Whether a call fails, and the world after it. What it answers besides is left out. -/
def perform (s : Service ε) (w : World) : Call ε → Except EntityError Unit × World
  | .get id => ((s.get id w).map fun _ => (), w)
  | .getChecked id access request => ((s.getChecked id access request w).map fun _ => (), w)
  | .list access request => ((s.list access request w).map fun _ => (), w)
  | .page access request pageable => ((s.page access request pageable w).map fun _ => (), w)
  | .firstPolicy e access request => ((s.firstPolicy e access request w).map fun _ => (), w)
  | .read id access request => ((s.read id access request w).map fun _ => (), w)
  | .create e => ((s.create e w).1.map fun _ => (), (s.create e w).2)
  | .delete id request => ((s.delete id request w).1.map fun _ => (), (s.delete id request w).2)

end Service

namespace World

inductive Operation where
  | policies (op : PolicyStore.Operation)
  | entities (kind : EntityKind) (service : Service kind.Carrier)
      (call : Service.Call kind.Carrier)

def perform (w : World) : Operation → Except EntityError Unit × World
  | .policies op =>
    match w.policies.perform op with
    | .ok policies => (.ok (), { w with policies := policies })
    | .error cause => (.error (.refused cause), w)
  | .entities _ service call => service.perform w call

def step (w : World) (op : Operation) : World :=
  (w.perform op).2

def run (w : World) (ops : List Operation) : World :=
  ops.foldl step w

/-- The worlds that a run passes through, the first and the last included. -/
def states (w : World) : List Operation → List World
  | [] => [w]
  | op :: ops => w :: (w.step op).states ops

/-- Nothing stored. Policies may be decided down to another depth than they are stored to. -/
def fresh (maxConditionDepth : Nat) (evaluator : Evaluator) : World :=
  { empty maxConditionDepth with evaluator := evaluator }

/-- The service has the hooks that its kind of entity comes with, and no others. -/
def Operation.Standard : Operation → Prop
  | .policies _ => True
  | .entities kind service _ => service.lifecycle = kind.lifecycle

/-- What each operation of a sort keeps, a run of such operations keeps. -/
theorem run_induction {P : World → Prop} {Q : Operation → Prop}
    (hstep : ∀ w op, Q op → P w → P (w.step op)) {w : World} (hw : P w) {ops : List Operation}
    (hops : ∀ op ∈ ops, Q op) : P (w.run ops) := by
  induction ops generalizing w with
  | nil => exact hw
  | cons op ops ih =>
    rw [List.forall_mem_cons] at hops
    exact ih (hstep w op hops.1 hw) hops.2

/-- Where the entities of a kind are. -/
abbrev repositoryOf (w : World) (kind : EntityKind) : Repository kind.Carrier :=
  Stored.repository w

variable {kind other : EntityKind} {w : World}

theorem repositoryOf_setRepository_of_ne (h : other ≠ kind) (r : Repository kind.Carrier)
    (w : World) : (Stored.setRepository r w).repositoryOf other = w.repositoryOf other := by
  cases kind <;> cases other <;> first | rfl | exact absurd rfl h

/-- What is known of every repository stays known when one of them is replaced. -/
theorem forall_repositoryOf {P : (kind : EntityKind) → Repository kind.Carrier → Prop}
    {r : Repository kind.Carrier} (hr : P kind r) (hw : ∀ other, P other (w.repositoryOf other))
    (other : EntityKind) : P other ((Stored.setRepository r w).repositoryOf other) := by
  by_cases h : other = kind
  · subst h
    rw [repositoryOf, Stored.repository_setRepository]
    exact hr
  · rw [repositoryOf_setRepository_of_ne h]
    exact hw other

theorem repositoryOf_fresh (maxConditionDepth : Nat) (evaluator : Evaluator) (kind : EntityKind) :
    (fresh maxConditionDepth evaluator).repositoryOf kind = .empty := by
  cases kind <;> rfl

end World

end AccessControl
