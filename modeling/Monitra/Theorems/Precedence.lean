import Monitra.Provider.Config

/-!
# Which layer a value comes from

For each field of the configuration the layers that can define it, the highest first, each with its label and the value it has, if
it has one.
-/

namespace Monitra

/-- A field resolves to the value of the first layer that has one, under its label, and to none under `Default` if no layer has. -/
structure FromHighest (layers : List (ConfigSource × Option String)) (field : ResolvedField) : Prop where
  defined : ∀ above source value below, layers = above ++ (source, some value) :: below → (∀ l ∈ above, l.2 = none) →
    field = ⟨some value, source⟩
  undefined : (∀ l ∈ layers, l.2 = none) → field = ⟨none, .default⟩

namespace ConfigSources

variable (sources : ConfigSources)

def storeLayers : List (ConfigSource × Option String) :=
  [(.flag, sources.flags.store), (.env, sources.env.lookup "MONITRA_STORE"), (.project, sources.project.bind (·.store)),
    (.xdg, sources.xdg.bind (·.store))]

def cacheLayers : List (ConfigSource × Option String) :=
  [(.flag, sources.flags.cache), (.env, sources.env.lookup "MONITRA_CACHE"), (.project, sources.project.bind (·.cache)),
    (.xdg, sources.xdg.bind (·.cache))]

def notifierLayers : List (ConfigSource × Option String) :=
  [(.flag, sources.flags.notifier), (.env, sources.env.lookup "MONITRA_NOTIFIER"), (.project, sources.project.bind (·.notifier)),
    (.xdg, sources.xdg.bind (·.notifier))]

/-- No flag has a token. -/
def apiTokenLayers : List (ConfigSource × Option String) :=
  [(.env, sources.env.lookup "MONITRA_API_TOKEN"), (.project, sources.project.bind (·.apiToken)),
    (.xdg, sources.xdg.bind (·.apiToken))]

/-- A file has a number, which is rendered in decimal. -/
def retentionDaysLayers : List (ConfigSource × Option String) :=
  [(.flag, sources.flags.retentionDays), (.env, sources.env.lookup "MONITRA_RETENTION_DAYS"),
    (.project, (sources.project.bind (·.retentionDays)).map fun days => Nat.repr days.toNat),
    (.xdg, (sources.xdg.bind (·.retentionDays)).map fun days => Nat.repr days.toNat)]

end ConfigSources

/-- What is to hold of a resolved configuration: each field is from the highest of its own layers, and the clusters are those of the
two files. -/
structure Precedence (sources : ConfigSources) (config : ResolvedConfig) : Prop where
  store : FromHighest sources.storeLayers config.store
  cache : FromHighest sources.cacheLayers config.cache
  notifier : FromHighest sources.notifierLayers config.notifier
  apiToken : FromHighest sources.apiTokenLayers config.apiToken
  retentionDays : FromHighest sources.retentionDaysLayers config.retentionDays
  k8s : config.k8s = sources.xdg.elim [] (·.k8s) ++ sources.project.elim [] (·.k8s)

namespace PrecedenceAux

/-- Layers laid over the default, the lowest first. -/
def overlays (layers : List (ConfigSource × Option String)) : ResolvedField :=
  layers.foldr (fun l current => overlay current l.2 l.1) .defaultValue

/-- What is laid over last, and has a value, is what is seen. -/
theorem fromHighest_overlays (layers : List (ConfigSource × Option String)) : FromHighest layers (overlays layers) := by
  refine ⟨fun above source value below hlayers hnone => ?_, fun hnone => ?_⟩
  · subst hlayers
    induction above with
    | nil => rfl
    | cons l above ih =>
      have hl : l.2 = none := hnone l List.mem_cons_self
      rw [overlays, List.cons_append, List.foldr_cons, hl]
      exact ih fun l hl => hnone l (List.mem_cons_of_mem _ hl)
  · induction layers with
    | nil => rfl
    | cons l layers ih =>
      have hl : l.2 = none := hnone l List.mem_cons_self
      rw [overlays, List.foldr_cons, hl]
      exact ih fun l hl => hnone l (List.mem_cons_of_mem _ hl)

/-- Some layer is the first that has a value, or none has one. -/
theorem exists_first (layers : List (ConfigSource × Option String)) :
    (∃ above source value below, layers = above ++ (source, some value) :: below ∧ ∀ l ∈ above, l.2 = none) ∨
      ∀ l ∈ layers, l.2 = none := by
  induction layers with
  | nil => exact Or.inr (by simp)
  | cons l layers ih =>
    obtain ⟨source, value⟩ := l
    cases value with
    | some value => exact Or.inl ⟨[], source, value, layers, rfl, by simp⟩
    | none =>
      rcases ih with ⟨above, source', value, below, rfl, habove⟩ | hnone
      · exact Or.inl ⟨(source, none) :: above, source', value, below, rfl, List.forall_mem_cons.mpr ⟨rfl, habove⟩⟩
      · exact Or.inr (List.forall_mem_cons.mpr ⟨rfl, hnone⟩)

/-- There is one field that is from the highest of some layers. -/
theorem FromHighest.unique {layers : List (ConfigSource × Option String)} {field field' : ResolvedField}
    (h : FromHighest layers field) (h' : FromHighest layers field') : field = field' := by
  rcases exists_first layers with ⟨above, source, value, below, hlayers, habove⟩ | hnone
  · rw [h.defined above source value below hlayers habove, h'.defined above source value below hlayers habove]
  · rw [h.undefined hnone, h'.undefined hnone]

/-- A number that a file has, in decimal. -/
theorem bind_decimal (file : Option ConfigFile) :
    (file.bind fun c => c.retentionDays.map fun v => toString v) =
      (file.bind (·.retentionDays)).map fun days => Nat.repr days.toNat := by
  cases file <;> rfl

/-- Every field is the layers of its own, laid over the default. -/
theorem precedence_resolve (sources : ConfigSources) : Precedence sources (resolveAssigning sources) := by
  refine ⟨fromHighest_overlays sources.storeLayers, fromHighest_overlays sources.cacheLayers,
    fromHighest_overlays sources.notifierLayers, fromHighest_overlays sources.apiTokenLayers, ?_, ?_⟩
  · have hdays := fromHighest_overlays sources.retentionDaysLayers
    simp only [ConfigSources.retentionDaysLayers, ← bind_decimal] at hdays ⊢
    exact hdays
  · rw [resolveAssigning_eq, resolve]
    cases sources.xdg <;> cases sources.project <;> simp

end PrecedenceAux

open PrecedenceAux in
/-- For all sources: each field resolves to the value and the label of the highest of its layers that has one, and depends on its
own layers only; and the clusters are those of the two files, whatever the environment and the flags are. -/
theorem config_precedence (sources : ConfigSources) :
    Precedence sources (resolveAssigning sources) ∧
      ∀ sources' : ConfigSources,
        (sources.storeLayers = sources'.storeLayers → (resolveAssigning sources).store = (resolveAssigning sources').store) ∧
        (sources.cacheLayers = sources'.cacheLayers → (resolveAssigning sources).cache = (resolveAssigning sources').cache) ∧
        (sources.notifierLayers = sources'.notifierLayers →
          (resolveAssigning sources).notifier = (resolveAssigning sources').notifier) ∧
        (sources.apiTokenLayers = sources'.apiTokenLayers →
          (resolveAssigning sources).apiToken = (resolveAssigning sources').apiToken) ∧
        (sources.retentionDaysLayers = sources'.retentionDaysLayers →
          (resolveAssigning sources).retentionDays = (resolveAssigning sources').retentionDays) ∧
        (sources.xdg = sources'.xdg → sources.project = sources'.project →
          (resolveAssigning sources).k8s = (resolveAssigning sources').k8s) := by
  have h := precedence_resolve sources
  refine ⟨h, fun sources' => ?_⟩
  have h' := precedence_resolve sources'
  refine ⟨fun he => ?_, fun he => ?_, fun he => ?_, fun he => ?_, fun he => ?_, fun hxdg hproject => ?_⟩
  · exact FromHighest.unique h.store (he ▸ h'.store)
  · exact FromHighest.unique h.cache (he ▸ h'.cache)
  · exact FromHighest.unique h.notifier (he ▸ h'.notifier)
  · exact FromHighest.unique h.apiToken (he ▸ h'.apiToken)
  · exact FromHighest.unique h.retentionDays (he ▸ h'.retentionDays)
  · rw [h.k8s, h'.k8s, hxdg, hproject]

/-- A store of the project's file under a token of the environment and a retention of a flag. -/
theorem config_precedence_mixed :
    let file : ConfigFile := { ConfigFile.default with store := some "sqlite:a", apiToken := some "t", retentionDays := some 30 }
    let config := resolveAssigning ⟨some file, some { file with store := some "sqlite:b" },
      (∅ : HashMap String String).insert "MONITRA_API_TOKEN" "u", { FlagOverrides.default with retentionDays := some "7" }⟩
    config.store = ⟨some "sqlite:b", .project⟩ ∧ config.apiToken = ⟨some "u", .env⟩ ∧ config.retentionDays = ⟨some "7", .flag⟩ ∧
      config.cache = ⟨none, .default⟩ := by
  intro file config
  have h := (config_precedence ⟨some file, some { file with store := some "sqlite:b" },
    (∅ : HashMap String String).insert "MONITRA_API_TOKEN" "u", { FlagOverrides.default with retentionDays := some "7" }⟩).1
  refine ⟨h.store.defined [(.flag, none), (.env, none)] _ _ _ rfl (by decide), h.apiToken.defined [] _ _ _ rfl (by decide),
    h.retentionDays.defined [] _ _ _ rfl (by decide), h.cache.undefined (by decide)⟩

end Monitra
