import Monitra.Library.Str
import Monitra.Provider.Config
import Monitra.Storage.Migrations
import Monitra.Backend.Auth
import Monitra.Engine.System

/-!
# Booting a daemon (`src/main.rs`)

`bootDaemon` opens the store, resolves the configuration and builds what the router is given. What it meets outside the program
is a `World`: the answers of the file system, the environment, the random generator and SQLite. What it prints is left out.
-/

namespace Monitra

structure World where
  /-- `gather_sources`, which is called twice: when the store is opened, and for the daemon. -/
  sourcesAtOpen : Except String ConfigSources
  sources : Except String ConfigSources
  /-- `xdg_data_path`, where the database is. -/
  dataPath : Option String
  createDirAll : String → Except String Unit
  /-- The database that is in the file, or why SQLite does not open it. -/
  file : Except SqliteError Sql.Database
  unixepoch : Int64
  healthCheck : Except ProviderError Unit
  /-- The 32 bytes that a generated token is made of. -/
  randomBytes : Vector UInt8 32
  loadWritableConfig : Except String ConfigFile
  saveWritableConfig : ConfigFile → Except String Unit
  /-- The feature `slack` of the build. -/
  slackFeature : Bool

/-- The sinks that alerts are sent to. -/
inductive Notifier where
  | webhook (url : Option String)
  | slack (url : String)
  deriving DecidableEq, Repr

/-- What a running daemon holds, as far as the router is built from it. -/
structure Daemon where
  store : Db
  token : String
  notifier : Notifier
  k8sClusters : List String
  retentionSecs : UInt64
  deriving DecidableEq

namespace World

/-- The embedded store. A configured one is refused. -/
def openStore (w : World) : Except String Db := do
  let sources ← w.sourcesAtOpen
  if (resolve sources).store.value.isSome then
    .error ("store: configured external store is unsupported; only embedded SQLite is available. Remove the configured value " ++
      "(`monitra service detach store` clears XDG config)")
  else
    match w.dataPath with
    | none => .error "store: neither $XDG_DATA_HOME nor $HOME is set — cannot determine a database path"
    | some parent =>
      (w.createDirAll parent).mapError fun e => "store: failed to create data directory " ++ parent ++ ": " ++ e
      let file ← w.file.mapError fun e => (StorageError.openFailed (parent ++ "/monitra.db") e).text
      (Db.openFile w.unixepoch file).mapError (·.text)

/-- The configured token, whatever it is; without one, a generated one that is written to the configuration. -/
def resolveOrGenerateToken (w : World) (resolved : ResolvedConfig) : Except String String :=
  match resolved.apiToken.value with
  | some token => .ok token
  | none => do
    let generated := generateApiToken w.randomBytes
    let fileConfig ← w.loadWritableConfig
    w.saveWritableConfig { fileConfig with apiToken := some generated }
    return generated

end World

def buildCache (cacheUrl : Option String) : Except String Unit :=
  if cacheUrl.isSome then
    .error ("cache: configured external cache is unsupported; only the in-process cache is available. Remove the configured " ++
      "value (`monitra service detach cache` clears XDG config)")
  else .ok ()

def buildSlackNotifier (slackFeature : Bool) (url : String) : Except String Notifier :=
  if slackFeature then .ok (.slack url)
  else .error "notifier: 'slack://' is configured but this build does not have the 'slack' feature enabled"

def buildNotifier (slackFeature : Bool) (notifierUrl : Option String) : Except String Notifier :=
  match notifierUrl with
  | none => .ok (.webhook none)
  | some url =>
    if Str.startsWith "webhook://" url then .ok (.webhook (some url))
    else if Str.startsWith "slack://" url then buildSlackNotifier slackFeature url
    else .error ("notifier: '" ++ url ++ "' is not a recognized notifier URL (expected webhook:// or slack://)")

/-- `resolve_store`: a store that does not answer is refused. -/
def resolveStore (healthCheck : Except ProviderError Unit) : Except ProviderError Unit :=
  healthCheck.mapError fun e => .unavailable .store ("configured store 'sqlite' is unreachable: " ++ e.text)

/-- The retention in days, which is a number from 1 to 3650. -/
def retentionOf (resolved : ResolvedConfig) : Except String UInt64 := do
  let days ← (Str.parseU64 (resolved.retentionDays.value.getD "7")).mapError fun e =>
    "config: retention_days must be an integer in 1..=3650: " ++ e.text
  if 1 ≤ days ∧ days ≤ 3650 then return days else .error "config: retention_days must be in 1..=3650"

def bootDaemon (w : World) (retentionDays : Option UInt64) : Except String Daemon := do
  let store ← w.openStore
  let sources ← w.sources
  let resolved := resolve { sources with flags := { sources.flags with retentionDays := retentionDays.map toString } }
  let days ← retentionOf resolved
  buildCache resolved.cache.value
  let token ← w.resolveOrGenerateToken resolved
  let notifier ← buildNotifier w.slackFeature resolved.notifier.value
  (resolveStore w.healthCheck).mapError (·.text)
  return { store, token, notifier, k8sClusters := resolved.k8s.map (·.name), retentionSecs := days * 86400 }

/-- The state that the router of a daemon starts with. -/
def Daemon.appState (daemon : Daemon) : AppState where
  store := daemon.store
  token := daemon.token
  ingest := ⟨EngineConfig.default.ingestCapacity, []⟩

end Monitra
