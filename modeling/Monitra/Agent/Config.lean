/-!
# The agent's check configuration (`crates/agent/src/config.rs`)

The operator lists the agent's local checks, each with the id of the monitor it is for, and how long the agent sleeps between
its cycles. The parser of the file format and the file system are parameters.
-/

namespace Monitra

namespace Agents

inductive CheckDefinition where
  | disk (monitorId : UInt64) (path : String) (minFreePct : Float)
  | systemd (monitorId : UInt64) (unit : String)
  | process (monitorId : UInt64) (name : String)

def CheckDefinition.monitorId : CheckDefinition → UInt64
  | .disk monitorId _ _ | .systemd monitorId _ | .process monitorId _ => monitorId

def defaultIntervalSecs : UInt64 := 30

structure CheckConfig where
  intervalSecs : UInt64
  checks : List CheckDefinition

/-- `CheckConfig::default()`, and what an empty file reads as. -/
def CheckConfig.default : CheckConfig := ⟨defaultIntervalSecs, []⟩

inductive AgentError where
  | configRead (path source : String)
  | configParse (path source : String)
  deriving DecidableEq, Repr

def AgentError.text : AgentError → String
  | .configRead path source => "agent: failed to read check config " ++ path ++ ": " ++ source
  | .configParse path source => "agent: failed to parse check config " ++ path ++ ": " ++ source

/-- Loads and parses a file. One that is not there is an error. -/
def load (readToString : String → Except String String) (fromStr : String → Except String CheckConfig) (path : String) :
    Except AgentError CheckConfig :=
  match readToString path with
  | .error source => .error (.configRead path source)
  | .ok contents =>
    match fromStr contents with
    | .error source => .error (.configParse path source)
    | .ok config => .ok config

end Agents

end Monitra
