import Monitra.Library.HashMap

/-!
# Configuration and its precedence (`crates/provider/src/config.rs`, `token.rs`)

A value of the configuration comes from the highest layer that has one: the defaults, the XDG file, the project's file, the
environment, the flags. `resolve` is given what the layers hold and touches nothing else.
-/

namespace Monitra

structure K8sClusterConfig where
  name : String
  kubeconfig : String
  context : Option String
  nameSpace : Option String
  deriving DecidableEq, Repr

/-- A configuration file. A field that is absent is left to the layers below. -/
structure ConfigFile where
  store : Option String
  cache : Option String
  notifier : Option String
  apiToken : Option String
  retentionDays : Option UInt64
  k8s : List K8sClusterConfig
  deriving DecidableEq, Repr

/-- `ConfigFile::default()`. -/
def ConfigFile.default : ConfigFile := ⟨none, none, none, none, none, []⟩

/-- Where a value came from. -/
inductive ConfigSource where
  | default | xdg | project | env | flag
  deriving DecidableEq, Repr

structure ResolvedField where
  value : Option String
  source : ConfigSource
  deriving DecidableEq, Repr

def ResolvedField.defaultValue : ResolvedField := ⟨none, .default⟩

structure ResolvedConfig where
  store : ResolvedField
  cache : ResolvedField
  notifier : ResolvedField
  apiToken : ResolvedField
  retentionDays : ResolvedField
  k8s : List K8sClusterConfig
  deriving DecidableEq, Repr

structure FlagOverrides where
  store : Option String
  cache : Option String
  notifier : Option String
  retentionDays : Option String
  deriving DecidableEq, Repr

/-- `FlagOverrides::default()`. -/
def FlagOverrides.default : FlagOverrides := ⟨none, none, none, none⟩

structure ConfigSources where
  xdg : Option ConfigFile
  project : Option ConfigFile
  env : HashMap String String
  flags : FlagOverrides

/-- A layer that is a variable of the environment or a flag: its value, if it has one. -/
def overlay (current : ResolvedField) (value : Option String) (source : ConfigSource) : ResolvedField :=
  match value with
  | some value => ⟨some value, source⟩
  | none => current

/-- A layer that is a file. -/
def layer (current : ResolvedField) (file : Option ConfigFile) (source : ConfigSource) (pick : ConfigFile → Option String) :
    ResolvedField :=
  overlay current (file.bind pick) source

namespace ConfigSources

/-- One field through all the layers. -/
def field (sources : ConfigSources) (pick : ConfigFile → Option String) (key : String) (flag : Option String) :
    ResolvedField :=
  let current := layer .defaultValue sources.xdg .xdg pick
  let current := layer current sources.project .project pick
  let current := overlay current (sources.env.lookup key) .env
  overlay current flag .flag

end ConfigSources

/-- Layer the sources, the lowest first. No flag carries a token. -/
def resolve (sources : ConfigSources) : ResolvedConfig where
  store := sources.field (·.store) "MONITRA_STORE" sources.flags.store
  cache := sources.field (·.cache) "MONITRA_CACHE" sources.flags.cache
  notifier := sources.field (·.notifier) "MONITRA_NOTIFIER" sources.flags.notifier
  apiToken := sources.field (·.apiToken) "MONITRA_API_TOKEN" none
  retentionDays := sources.field (fun c => c.retentionDays.map toString) "MONITRA_RETENTION_DAYS" sources.flags.retentionDays
  k8s := (sources.xdg.toList ++ sources.project.toList).flatMap (·.k8s)

/-- `resolve` as it is written: one assignment after the other. -/
def resolveAssigning (sources : ConfigSources) : ResolvedConfig :=
  let store := ResolvedField.defaultValue
  let cache := ResolvedField.defaultValue
  let notifier := ResolvedField.defaultValue
  let apiToken := ResolvedField.defaultValue
  let retentionDays := ResolvedField.defaultValue
  let store := layer store sources.xdg .xdg fun c => c.store
  let cache := layer cache sources.xdg .xdg fun c => c.cache
  let notifier := layer notifier sources.xdg .xdg fun c => c.notifier
  let apiToken := layer apiToken sources.xdg .xdg fun c => c.apiToken
  let retentionDays := layer retentionDays sources.xdg .xdg fun c => c.retentionDays.map fun v => toString v
  let store := layer store sources.project .project fun c => c.store
  let cache := layer cache sources.project .project fun c => c.cache
  let notifier := layer notifier sources.project .project fun c => c.notifier
  let apiToken := layer apiToken sources.project .project fun c => c.apiToken
  let retentionDays := layer retentionDays sources.project .project fun c => c.retentionDays.map fun v => toString v
  let store := match sources.env.lookup "MONITRA_STORE" with | some value => ⟨some value, .env⟩ | none => store
  let cache := match sources.env.lookup "MONITRA_CACHE" with | some value => ⟨some value, .env⟩ | none => cache
  let notifier := match sources.env.lookup "MONITRA_NOTIFIER" with | some value => ⟨some value, .env⟩ | none => notifier
  let apiToken := match sources.env.lookup "MONITRA_API_TOKEN" with | some value => ⟨some value, .env⟩ | none => apiToken
  let retentionDays := match sources.env.lookup "MONITRA_RETENTION_DAYS" with
    | some value => ⟨some value, .env⟩
    | none => retentionDays
  let store := match sources.flags.store with | some value => ⟨some value, .flag⟩ | none => store
  let cache := match sources.flags.cache with | some value => ⟨some value, .flag⟩ | none => cache
  let notifier := match sources.flags.notifier with | some value => ⟨some value, .flag⟩ | none => notifier
  let retentionDays := match sources.flags.retentionDays with | some value => ⟨some value, .flag⟩ | none => retentionDays
  let k8s := (sources.xdg.toList ++ sources.project.toList).flatMap fun c => c.k8s
  { store, cache, notifier, apiToken, retentionDays, k8s }

/-- The assignments of one field are its passage through the layers. -/
theorem resolveAssigning_eq (sources : ConfigSources) : resolveAssigning sources = resolve sources := rfl

/-- The token does not depend on the flags. -/
@[simp] theorem apiToken_resolve_flags (sources : ConfigSources) (flags : FlagOverrides) :
    (resolve { sources with flags }).apiToken = (resolve sources).apiToken := rfl

/-- The token that is configured, if any: the environment's, else the project's, else the XDG file's. -/
theorem apiToken_resolve (sources : ConfigSources) :
    (resolve sources).apiToken.value =
      (sources.env.lookup "MONITRA_API_TOKEN").or ((sources.project.bind (·.apiToken)).or (sources.xdg.bind (·.apiToken))) := by
  simp only [resolve, ConfigSources.field, layer, overlay]
  cases sources.env.lookup "MONITRA_API_TOKEN" <;> cases sources.project.bind (·.apiToken) <;>
    cases sources.xdg.bind (·.apiToken) <;> rfl

/-! ## Tokens -/

def hexDigit (n : Nat) : Char := if n < 10 then Char.ofNat ('0'.toNat + n) else Char.ofNat ('a'.toNat + (n - 10))

/-- A token of 32 random bytes, in hexadecimal. -/
def generateApiToken (bytes : Vector UInt8 32) : String :=
  String.ofList (bytes.toList.flatMap fun b => [hexDigit (b.toNat / 16), hexDigit (b.toNat % 16)])

/-- A generated token has 64 characters. -/
theorem length_generateApiToken (bytes : Vector UInt8 32) : (generateApiToken bytes).length = 64 := by
  unfold generateApiToken
  rw [String.length_ofList, List.length_flatMap]
  simp

end Monitra
