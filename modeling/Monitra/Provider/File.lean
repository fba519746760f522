import Monitra.Library.Program
import Monitra.Library.Str
import Monitra.Provider.Config
import Monitra.Storage.Codec

/-!
# The configuration file (`crates/provider/src/config.rs`, `registry.rs`)

What the functions that read and write the configuration do, as programs on a `Machine`: its files, and what has been printed. Which
file operations fail, and with what, is the `Shell`'s to say, and so is the environment. The `toml` crate is the parameter `Toml`.
-/

namespace Monitra

/-- The `toml` crate, for the one type that is written and read with it. -/
structure Toml where
  toStringPretty : ConfigFile → Except String String
  fromStr : String → Except String ConfigFile

/-- The files, by path, what has been printed, and how many operations on files there have been. -/
structure Machine where
  files : HashMap String String
  stdout : List String
  ops : Nat

/-- How an operation on a file fails. -/
inductive IoFault where
  | refused (error : String)
  /-- A write that stopped: `left` is in the file now. -/
  | torn (error left : String)
  deriving DecidableEq, Repr

def IoFault.error : IoFault → String
  | .refused error | .torn error _ => error

/-- What a command meets outside the program, as far as the configuration goes. -/
structure Shell where
  /-- The environment. -/
  vars : HashMap String String
  /-- What the n-th operation on a file fails with, if it fails. -/
  faults : Nat → Option IoFault
  /-- What is read from the standard input, and whether the prompt can be written. -/
  stdin : Except String String
  flush : Except String Unit

/-! ## Paths -/

/-- `Path::join`, of a relative path. -/
def pathJoin (path child : String) : String :=
  if path.isEmpty ∨ path.toList.getLast? = some '/' then path ++ child else path ++ "/" ++ child

def xdgConfigPath (vars : HashMap String String) : Option String :=
  match (vars.lookup "XDG_CONFIG_HOME").filter fun xdg => !xdg.isEmpty with
  | some xdg => some (pathJoin (pathJoin xdg "monitra") "config.toml")
  | none => (vars.lookup "HOME").map fun home => pathJoin (pathJoin (pathJoin home ".config") "monitra") "config.toml"

def projectConfigPath : String := "monitra.toml"

def xdgDataPath (vars : HashMap String String) : Option String :=
  match (vars.lookup "XDG_DATA_HOME").filter fun xdg => !xdg.isEmpty with
  | some xdg => some (pathJoin xdg "monitra")
  | none => (vars.lookup "HOME").map fun home => pathJoin (pathJoin (pathJoin home ".local") "share") "monitra"

/-- The variables that the configuration is taken from. -/
def gatherEnv (vars : HashMap String String) : HashMap String String :=
  vars.retain fun key _ =>
    ["MONITRA_STORE", "MONITRA_CACHE", "MONITRA_NOTIFIER", "MONITRA_API_TOKEN", "MONITRA_RETENTION_DAYS"].contains key

/-! ## Schemes -/

inductive SchemeError where
  | unknownScheme (scheme : String)
  | unsupportedScheme (scheme : String)
  deriving DecidableEq, Repr

def SchemeError.text : SchemeError → String
  | .unknownScheme scheme =>
    "provider: registry: " ++ scheme ++ " is not a recognized provider scheme (supported: slack, webhook)"
  | .unsupportedScheme scheme =>
    "provider: registry: " ++ scheme ++ " is not supported yet; no provider is implemented for this scheme"

/-- What a URL provides, by its scheme; a text without `://` is a scheme as a whole. -/
def categoryForScheme (url : String) : Except SchemeError ProviderCategory :=
  let scheme := ((Str.splitOnce "://" url).map (·.1)).getD url
  if scheme = "postgres" ∨ scheme = "postgresql" then .error (.unsupportedScheme "postgres/postgresql")
  else if scheme = "redis" then .error (.unsupportedScheme "redis")
  else if scheme = "slack" ∨ scheme = "webhook" then .ok .notifier
  else .error (.unknownScheme scheme)

/-! ## Files -/

section

variable (toml : Toml) (shell : Shell)

/-- Whether the next operation on a file fails. -/
def nextFault : Program String Machine (Option IoFault) :=
  modifyGet fun m => (shell.faults m.ops, { m with ops := m.ops + 1 })

def println (line : String) : Program String Machine Unit := modify fun m => { m with stdout := m.stdout ++ [line] }

/-- A file that does not exist is none; one that does not parse is an error. -/
def loadFile (path : String) : Program String Machine (Option ConfigFile) := do
  match ← nextFault shell with
  | some fault => throw ("provider: config: failed to read " ++ path ++ ": " ++ fault.error)
  | none =>
    match (← get).files.lookup path with
    | none => return none
    | some contents =>
      match toml.fromStr contents with
      | .ok file => return some file
      | .error e => throw ("provider: config: " ++ path ++ " is not valid TOML: " ++ e)

/-- The directory of the file is made first. -/
def writeFile (path : String) (config : ConfigFile) : Program String Machine Unit := do
  match ← nextFault shell with
  | some fault => throw ("provider: config: failed to write " ++ path ++ ": " ++ fault.error)
  | none =>
    match toml.toStringPretty config with
    | .error e => throw ("provider: config: failed to serialize config for " ++ path ++ ": " ++ e)
    | .ok contents =>
      match ← nextFault shell with
      | some (.refused e) => throw ("provider: config: failed to write " ++ path ++ ": " ++ e)
      | some (.torn e left) =>
        modify fun m => { m with files := m.files.insert path left }
        throw ("provider: config: failed to write " ++ path ++ ": " ++ e)
      | none => modify fun m => { m with files := m.files.insert path contents }

end

end Monitra
