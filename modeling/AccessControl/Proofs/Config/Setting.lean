import AccessControl.Config.Environment
import AccessControl.Proofs.Outcome

/-!
The settings of a configuration one by one. A layer says something about a setting or leaves it
open, and a section that is missing, empty or without the setting leaves it open alike. Laid over
one another, the last layer that says something about a setting decides it.
-/

namespace AccessControl

namespace Environment

open Outcome

variable {env : Environment} {name : String}

/-- Without its blank variables an environment has the same ones that are filled. -/
theorem filled?_filled? (env : Environment) : filled? env.filled? = env.filled? := by
  funext name
  simp [filled?, Option.filter_filter]

theorem setting_of_not_filled {α : Type} (read : String → Option α) (error : String → ConfigError)
    (h : env.filled? name = none) : env.setting name read error = .ok none := by
  rw [setting, h]

theorem setting_filled? {α : Type} (env : Environment) (name : String) (read : String → Option α)
    (error : String → ConfigError) :
    setting env.filled? name read error = env.setting name read error := by
  rw [setting, setting, filled?_filled?]

theorem layer_filled? (env : Environment) : layer env.filled? = env.layer := by
  rw [layer, layer, setting_filled?, setting_filled?, filled?_filled?]

theorem layer_eq_ok_iff {l : ConfigLayer} :
    env.layer = .ok l ↔
      ∃ depth format, env.setting depthVariable depth? .invalidDepth = .ok depth ∧
        env.setting logFormatVariable LogFormat.ofText? .invalidFormat = .ok format ∧
        l = {
          accessControl := some
            ⟨depth, env.filled? headerVariable, env.filled? policyFileVariable⟩
          logging := some ⟨env.filled? logLevelVariable, format⟩ } := by
  simp only [layer, bind_ok_iff, pure_ok_iff]
  constructor
  · rintro ⟨depth, hd, format, hf, rfl⟩
    exact ⟨depth, format, hd, hf, rfl⟩
  · rintro ⟨depth, format, hd, hf, rfl⟩
    exact ⟨depth, hd, format, hf, rfl⟩

end Environment

/-- One setting: what a layer says about it, and the environment variable that it has. -/
structure Setting (α : Type) where
  of : ConfigLayer → Option α
  variableName : String
  of_empty : of {} = none
  of_overlay : ∀ base upper, of (base.overlay upper) = (of upper).or (of base)
  of_environment : ∀ {env : Environment} {layer : ConfigLayer}, env.layer = .ok layer →
    env.filled? variableName = none → of layer = none

namespace Setting

theorem bind_overlaySection {σ α : Type} {overlay : σ → σ → σ} {field : σ → Option α}
    (h : ∀ base upper, field (overlay base upper) = (field upper).or (field base))
    (base upper : Option σ) :
    (ConfigLayer.overlaySection overlay base upper).bind field =
      (upper.bind field).or (base.bind field) := by
  cases base with
  | none => cases upper <;> simp [ConfigLayer.overlaySection]
  | some b => cases upper <;> simp [ConfigLayer.overlaySection, h]

/-- The deepest condition that is accepted. -/
def maxConditionDepth : Setting Nat where
  of l := l.accessControl.bind (·.maxConditionDepth)
  variableName := Environment.depthVariable
  of_empty := rfl
  of_overlay _ _ := bind_overlaySection (fun _ _ => Option.or_eq_orElse.symm) _ _
  of_environment hl hv := by
    obtain ⟨depth, _, hd, _, rfl⟩ := Environment.layer_eq_ok_iff.mp hl
    rw [Environment.setting_of_not_filled _ _ hv] at hd
    exact (Except.ok.inj hd).symm

/-- The header in which requests come. -/
def accessRequestHeader : Setting String where
  of l := l.accessControl.bind (·.accessRequestHeader)
  variableName := Environment.headerVariable
  of_empty := rfl
  of_overlay _ _ := bind_overlaySection (fun _ _ => Option.or_eq_orElse.symm) _ _
  of_environment hl hv := by
    obtain ⟨_, _, _, _, rfl⟩ := Environment.layer_eq_ok_iff.mp hl
    exact hv

/-- The file of policies. -/
def policyFile : Setting String where
  of l := l.accessControl.bind (·.policyFile)
  variableName := Environment.policyFileVariable
  of_empty := rfl
  of_overlay _ _ := bind_overlaySection (fun _ _ => Option.or_eq_orElse.symm) _ _
  of_environment hl hv := by
    obtain ⟨_, _, _, _, rfl⟩ := Environment.layer_eq_ok_iff.mp hl
    exact hv

/-- Which log events are written. -/
def logLevel : Setting String where
  of l := l.logging.bind (·.level)
  variableName := Environment.logLevelVariable
  of_empty := rfl
  of_overlay _ _ := bind_overlaySection (fun _ _ => Option.or_eq_orElse.symm) _ _
  of_environment hl hv := by
    obtain ⟨_, _, _, _, rfl⟩ := Environment.layer_eq_ok_iff.mp hl
    exact hv

/-- How log events are written. -/
def logFormat : Setting LogFormat where
  of l := l.logging.bind (·.format)
  variableName := Environment.logFormatVariable
  of_empty := rfl
  of_overlay _ _ := bind_overlaySection (fun _ _ => Option.or_eq_orElse.symm) _ _
  of_environment hl hv := by
    obtain ⟨_, format, _, hf, rfl⟩ := Environment.layer_eq_ok_iff.mp hl
    rw [Environment.setting_of_not_filled _ _ hv] at hf
    exact (Except.ok.inj hf).symm

/-- What the last of some layers that says something says. -/
def last? {α : Type} (s : Setting α) (layers : List ConfigLayer) : Option α :=
  layers.reverse.findSome? s.of

theorem of_overlays {α : Type} (s : Setting α) (base : ConfigLayer) (layers : List ConfigLayer) :
    s.of (layers.foldl ConfigLayer.overlay base) = (s.last? layers).or (s.of base) := by
  induction layers generalizing base with
  | nil => rfl
  | cons l ls ih =>
    rw [List.foldl_cons, ih, s.of_overlay, last?, last?, List.reverse_cons, List.findSome?_append,
      Option.or_assoc]
    simp

end Setting

/-- Every setting of a configuration has the value that is told of it, or else its default. -/
structure Config.Settles (told : {α : Type} → Setting α → Option α) (c : Config) : Prop where
  maxConditionDepth : c.accessControl.maxConditionDepth = (told .maxConditionDepth).getD 64
  accessRequestHeader : c.accessControl.accessRequestHeader =
    (told .accessRequestHeader).getD "X-MBP-Access-Request"
  policyFile : c.accessControl.policyFile = told .policyFile
  logLevel : c.logging.level = (told .logLevel).getD "info"
  logFormat : c.logging.format = (told .logFormat).getD .pretty

theorem Config.Settles.congr {told told' : {α : Type} → Setting α → Option α} {c : Config}
    (h : c.Settles told) (heq : ∀ {α : Type} (s : Setting α), told s = told' s) :
    c.Settles told' := by
  have htold : @told = @told' := by
    funext α s
    exact heq s
  exact htold ▸ h

/-- A section that is missing is like one that is empty. -/
theorem ConfigLayer.resolve_settles (l : ConfigLayer) : l.resolve.Settles fun s => s.of l := by
  obtain ⟨accessControl, logging⟩ := l
  constructor
  · cases accessControl <;> rfl
  · cases accessControl <;> rfl
  · cases accessControl with
    | none => rfl
    | some l =>
      obtain ⟨_, _, file⟩ := l
      cases file <;> rfl
  · cases logging <;> rfl
  · cases logging <;> rfl

end AccessControl
