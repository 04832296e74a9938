import AccessControl.Text.Blank
import AccessControl.Text.Lowercase

/-!
The configuration and its layers. A layer may leave any setting open; laid over another one, what it
sets wins, setting by setting. What no layer sets has a default.
-/

namespace AccessControl

/-- How log events are written. -/
inductive LogFormat where
  | pretty
  | json
deriving DecidableEq

namespace LogFormat

def word : LogFormat → String
  | .pretty => "pretty"
  | .json => "json"

/-- Reads a typed word in any case. -/
def ofText? (s : String) : Option LogFormat :=
  let lower := Text.lowercase s
  if lower = "pretty" ∨ lower = "text" then some .pretty
  else if lower = "json" then some .json
  else none

def unknownMessage (s : String) : String :=
  "unknown log format '" ++ Text.lowercase s ++ "'"

end LogFormat

structure AccessControlConfig where
  maxConditionDepth : Nat := 64
  /-- The header in which callers send the attributes of a request. -/
  accessRequestHeader : String := "X-MBP-Access-Request"
  policyFile : Option String := none
deriving DecidableEq

structure LoggingConfig where
  level : String := "info"
  format : LogFormat := .pretty
deriving DecidableEq

structure Config where
  accessControl : AccessControlConfig := {}
  logging : LoggingConfig := {}
deriving DecidableEq

structure AccessControlLayer where
  maxConditionDepth : Option Nat := none
  accessRequestHeader : Option String := none
  policyFile : Option String := none

structure LoggingLayer where
  level : Option String := none
  format : Option LogFormat := none

/-- A whole section may be missing too. -/
structure ConfigLayer where
  accessControl : Option AccessControlLayer := none
  logging : Option LoggingLayer := none

namespace AccessControlLayer

/-- The second layer over the first. -/
def overlay (base upper : AccessControlLayer) : AccessControlLayer where
  maxConditionDepth := upper.maxConditionDepth <|> base.maxConditionDepth
  accessRequestHeader := upper.accessRequestHeader <|> base.accessRequestHeader
  policyFile := upper.policyFile <|> base.policyFile

/-- The layer over the defaults. -/
def resolve (l : AccessControlLayer) : AccessControlConfig :=
  let defaults : AccessControlConfig := {}
  { maxConditionDepth := l.maxConditionDepth.getD defaults.maxConditionDepth
    accessRequestHeader := l.accessRequestHeader.getD defaults.accessRequestHeader
    policyFile := l.policyFile <|> defaults.policyFile }

end AccessControlLayer

namespace LoggingLayer

/-- The second layer over the first. -/
def overlay (base upper : LoggingLayer) : LoggingLayer where
  level := upper.level <|> base.level
  format := upper.format <|> base.format

/-- The layer over the defaults. -/
def resolve (l : LoggingLayer) : LoggingConfig :=
  let defaults : LoggingConfig := {}
  { level := l.level.getD defaults.level
    format := l.format.getD defaults.format }

end LoggingLayer

namespace ConfigLayer

/-- One section over the other, where both are there. -/
def overlaySection {α : Type} (overlay : α → α → α) : Option α → Option α → Option α
  | some base, some upper => some (overlay base upper)
  | none, some upper => some upper
  | base, none => base

/-- The second layer over the first. -/
def overlay (base upper : ConfigLayer) : ConfigLayer where
  accessControl := overlaySection AccessControlLayer.overlay base.accessControl upper.accessControl
  logging := overlaySection LoggingLayer.overlay base.logging upper.logging

/-- The layer over the defaults. -/
def resolve (l : ConfigLayer) : Config where
  accessControl := (l.accessControl.getD {}).resolve
  logging := (l.logging.getD {}).resolve

end ConfigLayer

/-- Why there is no configuration. -/
inductive ConfigError where
  | unreadableFile
  | malformedFile
  /-- The variable for the condition depth holds no number. -/
  | invalidDepth (value : String)
  /-- The variable for the log format holds no known word. -/
  | invalidFormat (value : String)
  | zeroDepth
  | blankHeader
deriving DecidableEq

namespace Config

/-- Conditions may be one level deep at least, and the header has a name. -/
def validate (c : Config) : Except ConfigError Config :=
  if c.accessControl.maxConditionDepth = 0 then .error .zeroDepth
  else if Text.isBlank c.accessControl.accessRequestHeader then .error .blankHeader
  else .ok c

end Config

end AccessControl
