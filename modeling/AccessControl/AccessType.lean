import AccessControl.Json.Fields
import AccessControl.Text.Blank

/-!
The operations that can be requested on a protected entity, and sets of them.
-/

namespace AccessControl

inductive AccessType where
  | read
  | update
  | delete
  | start
  | stop
  | deploy
  | undeploy
  | monitor
  | readValueLogs
  | readValueLogStats
  | deleteValueLogs
deriving DecidableEq, Repr, Inhabited

namespace AccessType

/-- All access types in their order. -/
def all : List AccessType :=
  [.read, .update, .delete, .start, .stop, .deploy, .undeploy, .monitor, .readValueLogs,
    .readValueLogStats, .deleteValueLogs]

theorem mem_all (t : AccessType) : t ∈ all := by
  cases t <;> decide

def word : AccessType → String
  | .read => "READ"
  | .update => "UPDATE"
  | .delete => "DELETE"
  | .start => "START"
  | .stop => "STOP"
  | .deploy => "DEPLOY"
  | .undeploy => "UNDEPLOY"
  | .monitor => "MONITOR"
  | .readValueLogs => "READ_VALUE_LOGS"
  | .readValueLogStats => "READ_VALUE_LOG_STATS"
  | .deleteValueLogs => "DELETE_VALUE_LOGS"

/-- The operation only observes an entity or its data. -/
def isReadClass : AccessType → Bool
  | .read | .monitor | .readValueLogs | .readValueLogStats => true
  | _ => false

/-- A word as people type it: blanks around it, lower case and hyphens are put right. -/
def normalizeWord (s : String) : String :=
  String.ofList ((Text.trimChars s.toList).map fun c => if c = '-' then '_' else c.toUpper)

/-- Reads a typed word. -/
def ofText? (s : String) : Option AccessType :=
  all.find? fun t => t.word == normalizeWord s

def unknownMessage (s : String) : String :=
  "unknown access type: " ++ s

def words : List (String × AccessType) :=
  all.map fun t => (t.word, t)

def toJson (t : AccessType) : Json :=
  .text t.word

def ofJson? (place : Json.Place) (j : Json) : Option AccessType :=
  Json.oneOf? place words j

end AccessType

/-- A set of access types. -/
structure AccessTypes where
  contains : AccessType → Bool

namespace AccessTypes

def ofList (types : List AccessType) : AccessTypes :=
  ⟨fun t => types.contains t⟩

/-- The members in the order of all access types. -/
def toList (s : AccessTypes) : List AccessType :=
  AccessType.all.filter s.contains

def isEmpty (s : AccessTypes) : Bool :=
  s.toList.isEmpty

def toJson (s : AccessTypes) : Json :=
  .list (s.toList.map AccessType.toJson)

def ofJson? (j : Json) : Option AccessTypes :=
  (j.list? (AccessType.ofJson? .direct)).map ofList

end AccessTypes

end AccessControl
