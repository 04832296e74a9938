import AccessControl.Config.Basic
import AccessControl.Word

/-!
The layer that environment variables make. A variable that is blank counts as not set.
-/

namespace AccessControl

/-- The environment: the text of a variable, where it is set. -/
abbrev Environment := String → Option String

namespace Environment

def depthVariable : String :=
  "MBP_SERVER_ACCESS_CONTROL_MAX_CONDITION_DEPTH"

def headerVariable : String :=
  "MBP_SERVER_ACCESS_CONTROL_REQUEST_HEADER"

def policyFileVariable : String :=
  "MBP_SERVER_ACCESS_CONTROL_POLICY_FILE"

def logLevelVariable : String :=
  "MBP_SERVER_LOG_LEVEL"

def logFormatVariable : String :=
  "MBP_SERVER_LOG_FORMAT"

/-- The text of a variable that is set and not blank. -/
def filled? (env : Environment) (name : String) : Option String :=
  (env name).filter fun value => !Text.isBlank value

/-- A number of 64 bits in digits, blanks around it and a plus in front allowed. -/
def depth? (value : String) : Option Nat :=
  let digits :=
    match Text.trimChars value.toList with
    | '+' :: cs => cs
    | cs => cs
  if digits.isEmpty || !digits.all Char.isDigit then none
  else
    let n := digits.foldl (fun n c => 10 * n + (c.toNat - '0'.toNat)) 0
    if n < Word.bound 64 then some n else none

/-- The setting of a variable, if it is set; a text that nothing can be made of is an error. -/
def setting {α : Type} (env : Environment) (name : String) (read : String → Option α)
    (error : String → ConfigError) : Except ConfigError (Option α) :=
  match env.filled? name with
  | none => .ok none
  | some value =>
    match read value with
    | some setting => .ok (some setting)
    | none => .error (error value)

def layer (env : Environment) : Except ConfigError ConfigLayer := do
  let depth ← env.setting depthVariable depth? .invalidDepth
  let format ← env.setting logFormatVariable LogFormat.ofText? .invalidFormat
  return {
    accessControl := some {
      maxConditionDepth := depth
      accessRequestHeader := env.filled? headerVariable
      policyFile := env.filled? policyFileVariable }
    logging := some {
      level := env.filled? logLevelVariable
      format := format } }

end Environment

namespace ConfigError

/-- The text of an error; what went wrong with a file is told by its reader. -/
def message : ConfigError → String
  | .unreadableFile => "failed to read config file"
  | .malformedFile => "failed to parse config file"
  | .invalidDepth value =>
    "invalid value for " ++ Environment.depthVariable ++ ": invalid usize value '" ++ value ++ "'"
  | .invalidFormat value =>
    "invalid value for " ++ Environment.logFormatVariable ++ ": " ++ LogFormat.unknownMessage value
  | .zeroDepth => "invalid configuration: access_control.max_condition_depth must be at least 1"
  | .blankHeader => "invalid configuration: access_control.access_request_header must not be empty"

end ConfigError

end AccessControl
