import Monitra.Library.HashMap
import Monitra.Backend.Service

/-!
# Regional aggregates (`region_aggregates` in `crates/backend/src/service.rs`)

The probes of the monitors that regional agents check, gathered by target, kind and region, and computed every time they are
asked for. The function reads the store several times, the monitors, the agents and the results of each monitor; here it sees
the store at one moment.
-/

namespace Monitra

namespace Service

structure RegionAggregate where
  target : String
  kind : MonitorKind
  region : String
  monitorCount : Nat
  probeCount : Nat
  failureCount : Nat
  p95LatencyMs : UInt64
  deriving DecidableEq, Repr

/-- What a group is of: a target, a kind and a region. -/
abbrev RegionKey : Type := String × MonitorKind × String

def RegionAggregate.key (aggregate : RegionAggregate) : RegionKey := (aggregate.target, aggregate.kind, aggregate.region)

/-- `((len as f64) * 0.95).ceil()`: the double nearest to 0.95 is 8556839292003942 / 2^53, and the product is rounded to 53
significant bits, to even in the middle. -/
def p95Rank (len : Nat) : Nat :=
  let product := len * 8556839292003942
  let ulp := 2 ^ (product.log2 - 52)
  let below := product / ulp
  let rest := product % ulp
  let rounded := if ulp < 2 * rest ∨ ulp = 2 * rest ∧ below % 2 = 1 then below + 1 else below
  (rounded * ulp + (2 ^ 53 - 1)) / 2 ^ 53

/-- Nearest-rank p95 over the latencies of the successful results; 0 when there are none. -/
def p95LatencyMs (results : List CheckResult) : UInt64 :=
  let latencies := ((results.filter (·.success)).map (·.latencyMs)).insertionSort (· ≤ ·)
  if latencies.isEmpty then 0
  else latencies.getD (min (p95Rank latencies.length - 1) (latencies.length - 1)) 0

/-- The regions of the agents that have one. -/
def regionByAgentId (agents : List Agent) : HashMap UInt64 String :=
  (agents.filterMap fun agent => agent.region.map fun region => (agent.id, region)).foldl (fun m e => m.insert e.1 e.2) ∅

/-- The group a monitor counts in: none unless it is a network probe, linked to an agent that has a region. -/
def regionKey (regions : HashMap UInt64 String) (monitor : Monitor) : Option RegionKey :=
  match monitor.kind with
  | .http | .tcp | .icmp =>
    match monitor.agentId with
    | none => none
    | some agentId => (regions.lookup agentId).map fun region => (monitor.target, monitor.kind, region)
  | _ => none

/-- For each group, its number of monitors and their results. -/
abbrev RegionGroups : Type := HashMap RegionKey (Nat × List CheckResult)

/-- One turn of the loop over the monitors. -/
def groupMonitor (db : Db) (since : Option UInt64) (regions : HashMap UInt64 String) (groups : RegionGroups)
    (monitor : Monitor) : Except ProviderError RegionGroups :=
  match regionKey regions monitor with
  | none => .ok groups
  | some key =>
    match provider (db.listCheckResults monitor.id.val since) with
    | .error e => .error e
    | .ok results => .ok (groups.entryOr key (0, []) fun group => (group.1 + 1, group.2 ++ results))

def aggregate (key : RegionKey) (group : Nat × List CheckResult) : RegionAggregate where
  target := key.1
  kind := key.2.1
  region := key.2.2
  monitorCount := group.1
  probeCount := group.2.length
  failureCount := (group.2.filter fun r => !r.success).length
  p95LatencyMs := p95LatencyMs group.2

/-- The order of the answer, by target and region. -/
def RegionAggregate.le (a b : RegionAggregate) : Bool := a.target < b.target ∨ a.target = b.target ∧ a.region ≤ b.region

def regionAggregates (db : Db) (since : Option UInt64) : Except ProviderError (List RegionAggregate) := do
  let monitors ← provider db.listMonitors
  let agents ← provider db.listAgents
  let groups ← monitors.foldlM (groupMonitor db since (regionByAgentId agents)) ∅
  return (groups.entries.map fun e => aggregate e.1 e.2).insertionSort fun a b => a.le b

end Service

end Monitra
