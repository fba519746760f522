import Monitra.Boot
import Monitra.Provider.File

/-!
# The commands about the configuration (`src/main.rs`)

`setup`, `service` and `k8s` read and write the configuration file, and so does a daemon that boots without a token. Each command is a
program on the machine, as the source has it; `Machine.step` lets commands follow one another on one machine, with what others do to
the files in between.
-/

namespace Monitra

/-- What booting meets outside the program besides the configuration. -/
structure Host where
  createDirAll : String → Except String Unit
  /-- The database that is in the file, or why SQLite does not open it. -/
  file : Except SqliteError Sql.Database
  unixepoch : Int64
  healthCheck : Except ProviderError Unit
  /-- The 32 bytes that a generated token is made of. -/
  randomBytes : Vector UInt8 32
  /-- The feature `slack` of the build. -/
  slackFeature : Bool

/-- `SqliteStore::open`: the database of a file, brought to the current schema. -/
def Host.sqliteOpen (host : Host) (path : String) : Except String Db := do
  let file ← host.file.mapError fun e => (StorageError.openFailed path e).text
  (Db.openFile host.unixepoch file).mapError (·.text)

/-- `monitra service`: the provider of a category is set by its URL and taken away by the name of the category. -/
inductive ServiceCommand where
  | attach (url : String)
  | detach (name : String)
  | list
  deriving DecidableEq, Repr

/-- `monitra k8s`. -/
inductive K8sCommand where
  | attach (cluster : K8sClusterConfig)
  | list
  | detach (name : String)
  deriving DecidableEq, Repr

/-- `{:?}` -/
def ConfigSource.debug : ConfigSource → String
  | .default => "Default"
  | .xdg => "Xdg"
  | .project => "Project"
  | .env => "Env"
  | .flag => "Flag"

/-- What `service list` says of a field: its value and the layer it comes from. -/
def describeField (field : ResolvedField) : String :=
  match field.value with
  | some value => value ++ " (from " ++ field.source.debug ++ ")"
  | none => "(embedded default)"

/-- What is printed when a token is generated. -/
def generatedLine (token : String) : String :=
  "Generated API token (save this — it will not be shown again):\n  " ++ token

section

variable (toml : Toml) (shell : Shell)

/-! ## The writable configuration -/

/-- The one file that commands write: the user's configuration. The other layers are only read. -/
def writableConfigPath : Program String Machine String :=
  match xdgConfigPath shell.vars with
  | some path => return path
  | none => throw "config: neither $XDG_CONFIG_HOME nor $HOME is set — cannot determine a config path"

/-- The user's configuration as it is; no file is an empty configuration. -/
def loadWritableConfig : Program String Machine ConfigFile := do
  let path ← writableConfigPath shell
  return (← loadFile toml shell path).getD .default

/-- Replaces the user's configuration. -/
def saveWritableConfig (config : ConfigFile) : Program String Machine Unit := do
  let path ← writableConfigPath shell
  writeFile toml shell path config

/-- The layers. A file that is given replaces the project's. -/
def gatherSources (configOverride : Option String) : Program String Machine ConfigSources := do
  let xdg ←
    match xdgConfigPath shell.vars with
    | some path => loadFile toml shell path
    | none => pure none
  let project ← loadFile toml shell (configOverride.getD projectConfigPath)
  return { xdg, project, env := gatherEnv shell.vars, flags := .default }

/-! ## `setup`, `service`, `k8s` -/

/-- Asks for a line. One that is blank is no answer. -/
def prompt (label : String) : Program String Machine (Option String) := do
  println (label ++ ": ")
  if let .error e := shell.flush then throw ("setup: failed to write prompt: " ++ e)
  match shell.stdin with
  | .error e => throw ("setup: failed to read input: " ++ e)
  | .ok line =>
    let trimmed := Str.trim line
    return if trimmed.isEmpty then none else some trimmed

/-- `monitra setup`: a blank answer keeps the notifier there is. -/
def runSetup : Program String Machine Unit := do
  println "monitra setup — press enter on any prompt to keep the embedded default.\n"
  let config ← loadWritableConfig toml shell
  let url ← prompt shell "Notifier URL (e.g. slack://…, webhook://…, blank = log-only)"
  saveWritableConfig toml shell (url.elim config fun url => { config with notifier := some url })
  let path ← writableConfigPath shell
  println ("\nWrote " ++ path ++ ". Takes effect on the next `monitra start`.")

/-- `service attach`: the scheme of the URL says which provider is set. A cluster is refused, and the file is not read then. -/
def attachService (url : String) : Program String Machine Unit := do
  match categoryForScheme url with
  | .error e => throw e.text
  | .ok category =>
    let config ← loadWritableConfig toml shell
    let config ←
      match category with
      | .store => pure { config with store := some url }
      | .cache => pure { config with cache := some url }
      | .notifier => pure { config with notifier := some url }
      | .collector => throw "service attach: Kubernetes clusters use `monitra k8s attach`, not `service attach` (§11.8)"
    saveWritableConfig toml shell config
    println ("Attached " ++ category.text ++ " provider " ++ url ++ ". Takes effect on the next `monitra start`.")

/-- The configuration without the provider of a category, and whether there was one. -/
def ConfigFile.cleared (config : ConfigFile) (name : String) : Option (ConfigFile × Bool) :=
  if name = "store" then some ({ config with store := none }, config.store.isSome)
  else if name = "cache" then some ({ config with cache := none }, config.cache.isSome)
  else if name = "notifier" then some ({ config with notifier := none }, config.notifier.isSome)
  else none

/-- `service detach`: nothing is written where no provider was set. -/
def detachService (name : String) : Program String Machine Unit := do
  let config ← loadWritableConfig toml shell
  match config.cleared name with
  | none => throw ("service detach: unknown category '" ++ name ++ "' (expected store, cache, or notifier)")
  | some (_, false) => println (name ++ " has no provider attached; nothing to do.")
  | some (config, true) =>
    saveWritableConfig toml shell config
    println ("Detached " ++ name ++ ", reverted to its embedded default. Takes effect on the next `monitra start`.")

/-- `service list`: the providers that a daemon that boots without arguments would use. -/
def listServices : Program String Machine Unit := do
  let resolved := resolve (← gatherSources toml shell none)
  println ("store:    " ++ describeField resolved.store)
  println ("cache:    " ++ describeField resolved.cache)
  println ("notifier: " ++ describeField resolved.notifier)

def runService : ServiceCommand → Program String Machine Unit
  | .attach url => attachService toml shell url
  | .detach name => detachService toml shell name
  | .list => listServices toml shell

/-- The configuration with a cluster attached: in place of the one that had its name, as the last. -/
def ConfigFile.withCluster (config : ConfigFile) (cluster : K8sClusterConfig) : ConfigFile :=
  { config with k8s := config.k8s.filter (fun c => c.name ≠ cluster.name) ++ [cluster] }

/-- The configuration without the cluster of a name. -/
def ConfigFile.withoutCluster (config : ConfigFile) (name : String) : ConfigFile :=
  { config with k8s := config.k8s.filter fun c => c.name ≠ name }

/-- `k8s attach`. -/
def attachCluster (cluster : K8sClusterConfig) : Program String Machine Unit := do
  let config ← loadWritableConfig toml shell
  saveWritableConfig toml shell (config.withCluster cluster)
  println ("Attached Kubernetes cluster '" ++ cluster.name ++ "'. Takes effect on the next `monitra start`.")

/-- `k8s detach`: nothing is written where no cluster has the name. -/
def detachCluster (name : String) : Program String Machine Unit := do
  let config ← loadWritableConfig toml shell
  let detached := config.withoutCluster name
  if detached.k8s.length = config.k8s.length then
    println ("no Kubernetes cluster named '" ++ name ++ "' is attached; nothing to do.")
  else
    saveWritableConfig toml shell detached
    println ("Detached Kubernetes cluster '" ++ name ++ "'. Takes effect on the next `monitra start`.")

def clusterLine (cluster : K8sClusterConfig) : String :=
  cluster.name ++ "  kubeconfig=" ++ cluster.kubeconfig ++ "  context=" ++ cluster.context.getD "(default)" ++ "  namespace=" ++
    cluster.nameSpace.getD "(default)"

/-- `k8s list`. -/
def listClusters : Program String Machine Unit := do
  let resolved := resolve (← gatherSources toml shell none)
  if resolved.k8s.isEmpty then println "no Kubernetes clusters attached"
  for cluster in resolved.k8s do println (clusterLine cluster)

def runK8s : K8sCommand → Program String Machine Unit
  | .attach cluster => attachCluster toml shell cluster
  | .list => listClusters toml shell
  | .detach name => detachCluster toml shell name

/-! ## Booting, and attaching to a daemon -/

def unsupportedStore : String :=
  "store: configured external store is unsupported; only embedded SQLite is available. Remove the configured value " ++
    "(`monitra service detach store` clears XDG config)"

/-- `open_store`: the embedded database, in the directory for the user's data. A configured store is refused. -/
def openStore (host : Host) (configOverride : Option String) : Program String Machine Db := do
  let resolved := resolve (← gatherSources toml shell configOverride)
  if resolved.store.value.isSome then
    throw unsupportedStore
  match xdgDataPath shell.vars with
  | none => throw "store: neither $XDG_DATA_HOME nor $HOME is set — cannot determine a database path"
  | some parent =>
    Program.ofExcept ((host.createDirAll parent).mapError fun e =>
      "store: failed to create data directory " ++ parent ++ ": " ++ e)
    Program.ofExcept (host.sqliteOpen (parent ++ "/monitra.db"))

/-- `resolve_or_generate_token`: a token that no layer has is generated, written to the user's configuration and printed, once. -/
def resolveOrGenerateToken (host : Host) (resolved : ResolvedConfig) : Program String Machine String := do
  match resolved.apiToken.value with
  | some token => return token
  | none =>
    let generated := generateApiToken host.randomBytes
    let fileConfig ← loadWritableConfig toml shell
    saveWritableConfig toml shell { fileConfig with apiToken := some generated }
    println (generatedLine generated)
    let path ← writableConfigPath shell
    println ("Written to " ++ path ++ ".")
    return generated

/-- `boot_daemon`, on the machine. -/
def boot (host : Host) (config : Option String) (retentionDays : Option UInt64) : Program String Machine Daemon := do
  let store ← openStore toml shell host config
  let sources ← gatherSources toml shell config
  let resolved := resolve { sources with flags := { sources.flags with retentionDays := retentionDays.map toString } }
  let days ← Program.ofExcept (retentionOf resolved)
  Program.ofExcept (buildCache resolved.cache.value)
  let token ← resolveOrGenerateToken toml shell host resolved
  let notifier ← Program.ofExcept (buildNotifier host.slackFeature resolved.notifier.value)
  Program.ofExcept ((resolveStore host.healthCheck).mapError (·.text))
  return { store, token, notifier, k8sClusters := resolved.k8s.map (·.name), retentionSecs := days * 86400 }

/-- The token that `tui` and `web` present to the daemon of a given URL. -/
def remoteBearer (command : String) (token : Option String) : Program String Machine String := do
  let resolved := resolve (← gatherSources toml shell none)
  match token.or resolved.apiToken.value with
  | some bearer => return bearer
  | none =>
    throw (command ++ ": no API token available for a remote --url — pass --token, set MONITRA_API_TOKEN, or run `monitra setup`")

end

/-! ## A session -/

/-- A command that reads or writes the configuration, or boots with it. -/
inductive SessionCommand where
  | setup
  | service (command : ServiceCommand)
  | k8s (command : K8sCommand)
  /-- `start`; or `tui` or `web` without a URL, which boot a daemon in the same way. -/
  | boot (host : Host) (config : Option String) (retentionDays : Option UInt64)
  /-- `tui` or `web` with a URL. -/
  | remote (command : String) (token : Option String)

/-- What a command that did not fail came to: a booted daemon or the token to present to one, if it is about one. -/
inductive CommandOutcome where
  | done
  | booted (daemon : Daemon)
  | bearer (token : String)
  deriving DecidableEq

/-- The command as a program on the machine. -/
def SessionCommand.run (toml : Toml) (shell : Shell) : SessionCommand → Program String Machine CommandOutcome
  | .setup => do
    runSetup toml shell
    return .done
  | .service command => do
    runService toml shell command
    return .done
  | .k8s command => do
    runK8s toml shell command
    return .done
  | .boot host config retentionDays => return .booted (← Monitra.boot toml shell host config retentionDays)
  | .remote command token => return .bearer (← remoteBearer toml shell command token)

/-- A command that was run: what it met, what came of it, and what it printed. -/
structure CommandRun where
  shell : Shell
  command : SessionCommand
  before : Machine
  result : Except String CommandOutcome
  printed : List String

inductive SessionAction where
  | run (shell : Shell) (command : SessionCommand)
  /-- A file is written or removed by somebody else. -/
  | edit (path : String) (contents : Option String)

/-- Commands that follow one another, and what else happens to the files. -/
def Machine.step (toml : Toml) (m : Machine) : SessionAction → Option (Machine × List CommandRun)
  | .run shell command =>
    let (result, m') := (command.run toml shell).exec { m with stdout := [] }
    some (m', [⟨shell, command, m, result, m'.stdout⟩])
  | .edit path contents =>
    some ({ m with files := contents.elim (m.files.erase path) fun contents => m.files.insert path contents }, [])

end Monitra
