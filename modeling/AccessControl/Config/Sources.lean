import AccessControl.Config.Environment
import AccessControl.Config.File

/-!
Where configuration layers come from. Sources are loaded in the order of their precedence, those of
one precedence as they are given, and every layer is laid over the ones before it.
-/

namespace AccessControl

inductive Precedence where
  | defaults
  | configFile
  | environment
deriving DecidableEq

namespace Precedence

def rank : Precedence → Nat
  | .defaults => 0
  | .configFile => 1
  | .environment => 2

def word : Precedence → String
  | .defaults => "defaults"
  | .configFile => "config_file"
  | .environment => "environment"

def words : List (String × Precedence) :=
  [.defaults, .configFile, .environment].map fun p => (word p, p)

end Precedence

/-- A source of configuration and what loading it gives. -/
structure ConfigSource where
  precedence : Precedence
  loaded : Except ConfigError ConfigLayer

namespace ConfigSource

/-- The defaults, which set nothing themselves. -/
def defaults : ConfigSource :=
  ⟨.defaults, .ok {}⟩

def file (f : ConfigFile) : ConfigSource :=
  ⟨.configFile, f.layer⟩

def environment (env : Environment) : ConfigSource :=
  ⟨.environment, env.layer⟩

/-- Sources from the lowest precedence to the highest. -/
def inOrder (sources : List ConfigSource) : List ConfigSource :=
  sources.mergeSort fun a b => a.precedence.rank ≤ b.precedence.rank

/-- Lays the layers of sources over a base, up to the first one that cannot be loaded. -/
def overlayAll (base : ConfigLayer) : List ConfigSource → Except ConfigError ConfigLayer
  | [] => .ok base
  | s :: ss =>
    match s.loaded with
    | .error error => .error error
    | .ok layer => overlayAll (base.overlay layer) ss

end ConfigSource

namespace Config

/-- The configuration that sources make together. -/
def ofSources (sources : List ConfigSource) : Except ConfigError Config := do
  let layer ← ConfigSource.overlayAll {} (ConfigSource.inOrder sources)
  layer.resolve.validate

/-- The configuration of a file and the environment. -/
def load (file : ConfigFile) (env : Environment) : Except ConfigError Config :=
  ofSources [.defaults, .file file, .environment env]

end Config

end AccessControl
