import AccessControl.Config.Sources
import AccessControl.Proofs.Config.Setting
import AccessControl.Proofs.Sorting
import Mathlib.Data.List.Nodup

/-!
What sources of configuration make together. They count by precedence, and as they are given where
precedence does not tell them apart. The first one that cannot be loaded is the error; otherwise
every setting is decided by the last source that says something about it.
-/

namespace AccessControl

namespace ConfigSource

/-- The sources from the lowest precedence to the highest. -/
def byPrecedence (sources : List ConfigSource) : List ConfigSource :=
  sources.filter (·.precedence == .defaults) ++ sources.filter (·.precedence == .configFile) ++
    sources.filter (·.precedence == .environment)

theorem totalOrder_rank : Sorting.TotalOrder fun p q : Precedence => decide (p.rank ≤ q.rank) where
  refl p := by simp
  trans := by
    intro p q r hpq hqr
    rw [decide_eq_true_eq] at *
    exact Nat.le_trans hpq hqr
  antisymm := by
    intro p q
    cases p <;> cases q <;> decide
  total p q := by simpa using Nat.le_total p.rank q.rank

theorem byPrecedence_of_ascending {sources : List ConfigSource}
    (h : sources.Pairwise fun a b => decide (a.precedence.rank ≤ b.precedence.rank) = true) :
    byPrecedence sources = sources := by
  induction sources with
  | nil => rfl
  | cons s ss ih =>
    obtain ⟨hs, hss⟩ := List.pairwise_cons.mp h
    have hlower : ∀ p : Precedence, p.rank < s.precedence.rank →
        ss.filter (·.precedence == p) = [] := by
      intro p hp
      refine List.filter_eq_nil_iff.mpr ?_
      intro a ha heq
      have hle := of_decide_eq_true (hs a ha)
      rw [beq_iff_eq.mp heq] at hle
      exact absurd hp (Nat.not_lt.mpr hle)
    have ih := ih hss
    cases hp : s.precedence with
    | defaults =>
      simpa [byPrecedence, hp] using ih
    | configFile =>
      have hd := hlower .defaults (by rw [hp]; decide)
      simpa [byPrecedence, hp, hd] using ih
    | environment =>
      have hd := hlower .defaults (by rw [hp]; decide)
      have hc := hlower .configFile (by rw [hp]; decide)
      simpa [byPrecedence, hp, hd, hc] using ih

theorem inOrder_eq (sources : List ConfigSource) : inOrder sources = byPrecedence sources := by
  have hsorted : byPrecedence (inOrder sources) = inOrder sources :=
    byPrecedence_of_ascending (Sorting.pairwise_mergeSort totalOrder_rank precedence sources)
  have hclass : ∀ p, (inOrder sources).filter (·.precedence == p) =
      sources.filter (·.precedence == p) :=
    Sorting.filter_key_mergeSort totalOrder_rank precedence sources
  rw [← hsorted, byPrecedence, hclass, hclass, hclass, byPrecedence]

/-- Where every source has a precedence of its own, it does not matter how they are given. -/
theorem inOrder_of_perm {sources sources' : List ConfigSource} (hp : sources'.Perm sources)
    (h : (sources.map precedence).Nodup) : inOrder sources' = inOrder sources := by
  have hperm :=
    List.mergeSort_perm sources fun a b => decide (a.precedence.rank ≤ b.precedence.rank)
  have hperm' :=
    List.mergeSort_perm sources' fun a b => decide (a.precedence.rank ≤ b.precedence.rank)
  refine List.Perm.eq_of_pairwise ?_
    (Sorting.pairwise_mergeSort totalOrder_rank precedence sources')
    (Sorting.pairwise_mergeSort totalOrder_rank precedence sources)
    (hperm'.trans (hp.trans hperm.symm))
  intro a b ha hb hab hba
  have ha := hp.mem_iff.mp (hperm'.mem_iff.mp ha)
  exact List.inj_on_of_nodup_map h ha (hperm.mem_iff.mp hb) (totalOrder_rank.antisymm hab hba)

/-- All sources can be loaded, and these are their layers. -/
def Give (sources : List ConfigSource) (layers : List ConfigLayer) : Prop :=
  sources.map loaded = layers.map .ok

/-- Of the sources that cannot be loaded the first one has the error. -/
def FailFirst (sources : List ConfigSource) (error : ConfigError) : Prop :=
  ∃ before s after, sources = before ++ s :: after ∧ s.loaded = .error error ∧
    ∃ layers, Give before layers

variable {sources : List ConfigSource} {layers : List ConfigLayer} {base : ConfigLayer}
  {error : ConfigError}

theorem give_cons {s : ConfigSource} :
    Give (s :: sources) layers ↔
      ∃ l ls, layers = l :: ls ∧ s.loaded = .ok l ∧ Give sources ls := by
  rw [Give, List.map_cons, eq_comm, List.map_eq_cons_iff]
  simp only [Give, eq_comm]

/-- Either all sources can be loaded or one of them fails first. -/
theorem give_or_failFirst (sources : List ConfigSource) :
    (∃ layers, Give sources layers) ∨ ∃ error, FailFirst sources error := by
  induction sources with
  | nil => exact .inl ⟨[], rfl⟩
  | cons s ss ih =>
    cases hs : s.loaded with
    | error error => exact .inr ⟨error, [], s, ss, rfl, hs, [], rfl⟩
    | ok l =>
      rcases ih with ⟨ls, hls⟩ | ⟨error, before, t, after, rfl, ht, ls, hls⟩
      · exact .inl ⟨l :: ls, give_cons.mpr ⟨l, ls, rfl, hs, hls⟩⟩
      · exact .inr ⟨error, s :: before, t, after, rfl, ht, l :: ls,
          give_cons.mpr ⟨l, ls, rfl, hs, hls⟩⟩

/-- Sources that can be loaded lay their layers over the base. -/
theorem Give.overlayAll_append (h : Give sources layers) (base : ConfigLayer)
    (rest : List ConfigSource) :
    overlayAll base (sources ++ rest) =
      overlayAll (layers.foldl ConfigLayer.overlay base) rest := by
  induction sources generalizing base layers with
  | nil =>
    have hnil : layers = [] := by simpa [Give, eq_comm] using h
    rw [hnil]
    rfl
  | cons s ss ih =>
    obtain ⟨l, ls, rfl, hl, hls⟩ := give_cons.mp h
    rw [List.cons_append, overlayAll, hl]
    exact ih hls (base.overlay l)

theorem Give.overlayAll_eq (h : Give sources layers) (base : ConfigLayer) :
    overlayAll base sources = .ok (layers.foldl ConfigLayer.overlay base) := by
  have happend := h.overlayAll_append base []
  rwa [List.append_nil] at happend

theorem FailFirst.overlayAll_eq (h : FailFirst sources error) (base : ConfigLayer) :
    overlayAll base sources = .error error := by
  obtain ⟨before, s, after, rfl, hs, layers, hlayers⟩ := h
  rw [hlayers.overlayAll_append, overlayAll, hs]

end ConfigSource

/-- The error is about what the settings come to, not about a source. -/
def ConfigError.IsValidation (error : ConfigError) : Prop :=
  error = .zeroDepth ∨ error = .blankHeader

namespace Config

open ConfigSource

/-- No condition may be one level deep, or the header has no name. -/
def Unusable (c : Config) : Prop :=
  c.accessControl.maxConditionDepth = 0 ∨ Text.isBlank c.accessControl.accessRequestHeader = true

theorem validate_of_unusable {c : Config} (h : c.Unusable) :
    ∃ error, c.validate = .error error ∧ error.IsValidation := by
  by_cases hd : c.accessControl.maxConditionDepth = 0
  · exact ⟨.zeroDepth, by rw [validate, if_pos hd], .inl rfl⟩
  · have hblank := h.resolve_left hd
    exact ⟨.blankHeader, by rw [validate, if_neg hd, if_pos hblank], .inr rfl⟩

theorem validate_of_usable {c : Config} (h : ¬ c.Unusable) : c.validate = .ok c := by
  rw [Unusable, not_or] at h
  rw [validate, if_neg h.1, if_neg h.2]

theorem eq_of_validate {c d : Config} (h : c.validate = .ok d) : c = d := by
  by_cases hc : c.Unusable
  · obtain ⟨error, he, _⟩ := validate_of_unusable hc
    rw [he] at h
    cases h
  · rw [validate_of_usable hc] at h
    exact Except.ok.inj h

theorem ofSources_of_failFirst {sources : List ConfigSource} {error : ConfigError}
    (h : FailFirst (byPrecedence sources) error) : ofSources sources = .error error := by
  rw [ofSources, inOrder_eq, h.overlayAll_eq]
  rfl

theorem ofSources_of_give {sources : List ConfigSource} {layers : List ConfigLayer}
    (h : Give (byPrecedence sources) layers) :
    ofSources sources = (layers.foldl ConfigLayer.overlay {}).resolve.validate := by
  rw [ofSources, inOrder_eq, h.overlayAll_eq]
  rfl

theorem settles_overlays (layers : List ConfigLayer) :
    (layers.foldl ConfigLayer.overlay {}).resolve.Settles (·.last? layers) := by
  refine (ConfigLayer.resolve_settles _).congr fun s => ?_
  rw [s.of_overlays, s.of_empty, Option.or_none]

/-- A variable that is blank is like one that is not set. -/
theorem load_filled? (file : ConfigFile) (env : Environment) :
    load file env.filled? = load file env := by
  rw [load, load, ConfigSource.environment, ConfigSource.environment, Environment.layer_filled?]

theorem give_of_load {file : ConfigFile} {env : Environment} {below : ConfigLayer} {c : Config}
    (hf : file.layer = .ok below) (hc : load file env = .ok c) :
    ∃ above, env.layer = .ok above ∧
      Give (byPrecedence [.defaults, .file file, .environment env]) [{}, below, above] := by
  have hfile : (ConfigSource.file file).loaded = .ok below := hf
  cases he : env.layer with
  | error error =>
    have hfails : FailFirst (byPrecedence [.defaults, .file file, .environment env]) error :=
      ⟨[.defaults, .file file], .environment env, [], rfl, he, [{}, below],
        give_cons.mpr ⟨_, _, rfl, rfl, give_cons.mpr ⟨_, _, rfl, hfile, rfl⟩⟩⟩
    rw [load, ofSources_of_failFirst hfails] at hc
    cases hc
  | ok above =>
    have henv : (ConfigSource.environment env).loaded = .ok above := he
    exact ⟨above, rfl, give_cons.mpr ⟨_, _, rfl, rfl, give_cons.mpr ⟨_, _, rfl, hfile,
      give_cons.mpr ⟨_, _, rfl, henv, rfl⟩⟩⟩⟩

/-- What the environment says counts where its variable is filled, and the file otherwise. -/
theorem settles_load {file : ConfigFile} {env : Environment} {below : ConfigLayer} {c : Config}
    (hf : file.layer = .ok below) (hc : load file env = .ok c) :
    ∃ above, env.layer = .ok above ∧
      c.Settles fun s =>
        if env.filled? s.variableName = none then s.of below else (s.of above).or (s.of below) := by
  obtain ⟨above, he, hgive⟩ := give_of_load hf hc
  rw [load, ofSources_of_give hgive] at hc
  have hsettles := settles_overlays [{}, below, above]
  rw [eq_of_validate hc] at hsettles
  refine ⟨above, he, hsettles.congr fun s => ?_⟩
  have hlast : s.last? [{}, below, above] = (s.of above).or (s.of below) := by
    cases ha : s.of above <;> cases hb : s.of below <;> simp [Setting.last?, s.of_empty, ha, hb]
  split
  · rename_i hblank
    rw [hlast, s.of_environment he hblank, Option.none_or]
  · exact hlast

/-- Sources make a configuration by precedence. The first one that cannot be loaded is the error.
Otherwise every setting is what the last source says that says anything about it, whatever else that
source sets, and what comes of it is refused exactly when it is unusable. So sources of different
precedence may be given in any order, and a blank variable never hides what the file says. -/
theorem ofSources_last_wins (sources : List ConfigSource) :
    (∀ error, FailFirst (byPrecedence sources) error → ofSources sources = .error error) ∧
    ((∃ layers, Give (byPrecedence sources) layers) ∨
      ∃ error, FailFirst (byPrecedence sources) error) ∧
    (∀ layers, Give (byPrecedence sources) layers →
      ∃ c : Config, c.Settles (·.last? layers) ∧
        ((∃ error, ofSources sources = .error error ∧ error.IsValidation) ↔ c.Unusable) ∧
        (ofSources sources = .ok c ↔ ¬ c.Unusable)) ∧
    (∀ sources', sources'.Perm sources → (sources.map (·.precedence)).Nodup →
      ofSources sources' = ofSources sources) ∧
    ∀ file env, load file env.filled? = load file env ∧
      ∀ below c, file.layer = .ok below → load file env = .ok c →
        ∃ above, env.layer = .ok above ∧
          c.Settles fun s =>
            if env.filled? s.variableName = none then s.of below
            else (s.of above).or (s.of below) := by
  refine ⟨fun error => ofSources_of_failFirst, give_or_failFirst _, ?_, ?_, ?_⟩
  · intro layers hgive
    refine ⟨_, settles_overlays layers, ?_⟩
    rw [ofSources_of_give hgive]
    generalize (layers.foldl ConfigLayer.overlay {}).resolve = c
    by_cases h : c.Unusable
    · obtain ⟨error, he, hv⟩ := validate_of_unusable h
      simp only [he, h, not_true_eq_false, iff_true, iff_false]
      exact ⟨⟨error, rfl, hv⟩, fun hc => nomatch hc⟩
    · simp [validate_of_usable h, h]
  · intro sources' hp hn
    rw [ofSources, ofSources, inOrder_of_perm hp hn]
  · exact fun file env => ⟨load_filled? file env, fun below c => settles_load⟩

/-- A layer with a depth only. -/
def depthOnly : ConfigLayer where
  accessControl := some { maxConditionDepth := some 4 }

/-- A layer with another depth and a header. -/
def depthAndHeader : ConfigLayer where
  accessControl := some { maxConditionDepth := some 16, accessRequestHeader := some "X-Context" }

/-- The depth comes from above and the header from below, in whichever order they are given. -/
theorem depthOnly_over_depthAndHeader :
    Give (byPrecedence [⟨.environment, .ok depthOnly⟩, ⟨.configFile, .ok depthAndHeader⟩])
        [depthAndHeader, depthOnly] ∧
      ∃ c, ofSources [⟨.environment, .ok depthOnly⟩, ⟨.configFile, .ok depthAndHeader⟩] = .ok c ∧
        ofSources [⟨.configFile, .ok depthAndHeader⟩, ⟨.environment, .ok depthOnly⟩] = .ok c ∧
        c.accessControl.maxConditionDepth = 4 ∧
        c.accessControl.accessRequestHeader = "X-Context" := by
  have hgive : Give
      (byPrecedence [⟨.environment, .ok depthOnly⟩, ⟨.configFile, .ok depthAndHeader⟩])
      [depthAndHeader, depthOnly] := rfl
  obtain ⟨_, _, hlast, hperm, _⟩ := ofSources_last_wins
    [⟨.environment, .ok depthOnly⟩, ⟨.configFile, .ok depthAndHeader⟩]
  obtain ⟨c, hc, _, hok⟩ := hlast _ hgive
  have hdepth : c.accessControl.maxConditionDepth = 4 := hc.maxConditionDepth
  have hheader : c.accessControl.accessRequestHeader = "X-Context" := hc.accessRequestHeader
  have husable : ¬ c.Unusable := by
    rw [Unusable, hdepth, hheader]
    decide
  have hswap := hperm [⟨.configFile, .ok depthAndHeader⟩, ⟨.environment, .ok depthOnly⟩]
    (List.Perm.swap _ _ []) (by decide)
  exact ⟨hgive, c, hok.mpr husable, hswap.trans (hok.mpr husable), hdepth, hheader⟩

end Config

end AccessControl
