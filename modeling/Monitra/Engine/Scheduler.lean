import Monitra.Library.HashMap
import Monitra.Flap
import Monitra.Storage.Codec

/-!
# The scheduler (`crates/engine/src/scheduler.rs`)

The scheduler is one task. Its code between two awaits runs without any other party's step in between as far as its own state
goes, so each stretch between two awaits is a function here: the part of `resync` after the list has come back, `dispatch_due`,
and the handling of an outcome up to the point where a status has to be persisted (`Persist` is the frame of the call that
waits there). Where the awaits are, and what other parties do meanwhile, is in `Engine/System.lean`.

What a stretch does outside the scheduler's own state, and what statements want to speak of, is returned as events in order.
-/

namespace Monitra

/-! ## Time -/

/-- Monotonic time in nanoseconds, not bounded. -/
abbrev Instant : Type := Nat

/-- A span of monotonic time in nanoseconds. -/
abbrev Duration : Type := Nat

def Duration.fromSecs (secs : UInt64) : Duration := secs.toNat * 1000000000

/-- `Instant::checked_add`; with unbounded instants it never fails. -/
def Instant.checkedAdd (t : Instant) (d : Duration) : Option Instant := some (t + d)

/-- The next deadline: the previous one plus the interval, or `now` plus the interval when that is already past. -/
def advanceDeadline (previousDeadline : Instant) (interval : Duration) (now : Instant) : Instant :=
  let safeInterval := min interval (Duration.fromSecs MAX_INTERVAL_SECS)
  let fallback := (Instant.checkedAdd now safeInterval).getD now
  let candidate := (Instant.checkedAdd previousDeadline interval).getD fallback
  if candidate ≤ now then fallback else candidate

/-! ## Collectors (`crates/provider/src/traits.rs`, `crates/collector-kubernetes/src/lib.rs`) -/

/-- Result of polling one collector-backed resource. -/
inductive CollectorStatus where
  | healthy
  | unhealthy (reason : String)
  | unknown (reason : String)
  deriving DecidableEq, Repr

/-- A collector: the resource it polls. -/
structure K8sCollector where
  cluster : String
  ns : String
  name : String
  kind : MonitorKind
  deriving DecidableEq, Repr

/-- What builds a collector for a (cluster, namespace, name, kind). -/
structure K8sCollectorFactory where
  collectorFor : String → String → String → MonitorKind → Except ProviderError K8sCollector

/-- The factory of `collector-kubernetes`: it knows the clusters whose kubeconfig resolved at startup. -/
def Factory (clusters : List String) : K8sCollectorFactory where
  collectorFor cluster ns name kind :=
    if cluster ∈ clusters then .ok ⟨cluster, ns, name, kind⟩
    else .error (.unavailable .collector ("collector-kubernetes: unknown cluster '" ++ cluster ++
      "' (not attached via `monitra k8s attach`, or its kubeconfig failed to resolve at startup)"))

/-- Split at the separator into at most `n` parts; the last part keeps any further separators. -/
def splitn (sep : Char) : Nat → List Char → List (List Char)
  | 0, _ => []
  | 1, l => [l]
  | n + 2, l =>
    match l.dropWhile (· != sep) with
    | [] => [l]
    | _ :: rest => l.takeWhile (· != sep) :: splitn sep (n + 1) rest

/-- `<cluster>/<namespace>/<resource-name>`. -/
def parseK8sTarget (target : String) : Option (String × String × String) :=
  match splitn '/' 3 target.toList with
  | [cluster, ns, name] =>
    if cluster.isEmpty || ns.isEmpty || name.isEmpty then none
    else some (String.ofList cluster, String.ofList ns, String.ofList name)
  | _ => none

/-! ## Assignments -/

/-- One network-probe monitor handed to the agent it is linked to. -/
structure Assignment where
  monitorId : MonitorId
  target : String
  kind : MonitorKind
  deriving DecidableEq, Repr

/-- Per-agent bounded queues of due regional probes, and the count of quarantined monitors. -/
structure AssignmentHandle where
  capacity : Nat
  queues : HashMap UInt64 (List Assignment)
  quarantined : Nat

namespace AssignmentHandle

def new (capacity : Nat) : AssignmentHandle := ⟨max capacity 1, ∅, 0⟩

/-- Queue an assignment for an agent; a full queue loses its oldest. -/
def enqueue (h : AssignmentHandle) (agentId : UInt64) (assignment : Assignment) : AssignmentHandle :=
  let queue := (h.queues.lookup agentId).getD []
  let queue := if h.capacity ≤ queue.length then queue.drop 1 else queue
  { h with queues := h.queues.insert agentId (queue ++ [assignment]) }

/-- Take everything queued for an agent. -/
def drain (h : AssignmentHandle) (agentId : UInt64) : AssignmentHandle × List Assignment :=
  match h.queues.lookup agentId with
  | none => (h, [])
  | some queue => ({ h with queues := h.queues.insert agentId [] }, queue)

def quarantinedCount (h : AssignmentHandle) : Nat := h.quarantined

end AssignmentHandle

/-! ## Tasks and outcomes -/

abbrev TaskId : Type := Nat

/-- What a spawned task does. -/
inductive TaskBody where
  /-- Probe the target. -/
  | network (monitorId : MonitorId) (kind : NetworkProbeKind) (target : String)
  /-- Poll the collector. The outcome is of the monitor the collector was built from. -/
  | poll (monitorId : MonitorId) (collector : K8sCollector)
  /-- There is no collector: report why. -/
  | noCollector (monitorId : MonitorId) (reason : String)
  deriving DecidableEq, Repr

structure Task where
  id : TaskId
  body : TaskBody
  deriving DecidableEq, Repr

def TaskBody.monitorId : TaskBody → MonitorId
  | .network monitorId _ _ | .poll monitorId _ | .noCollector monitorId _ => monitorId

/-- What a spawned task hands back to the scheduler loop. -/
inductive Outcome where
  | network (monitorId : MonitorId) (outcome : ProbeOutcome)
  | collector (monitorId : MonitorId) (status : CollectorStatus) (latencyMs : UInt64)
  deriving DecidableEq, Repr

/-- Whether a task that runs to its end can hand back this outcome: its own monitor's, and of its own sort. -/
def TaskBody.mayReturn : TaskBody → Outcome → Bool
  | .network monitorId _ _, .network m _ => m = monitorId
  | .poll monitorId _, .collector m _ _ => m = monitorId
  | .noCollector monitorId reason, .collector m status latencyMs =>
    m = monitorId ∧ status = .unknown reason ∧ latencyMs = 0
  | _, _ => false

/-- Which monitor a spawned task belongs to. -/
inductive TaskOwner where
  | network (monitorId : MonitorId)
  | collector (monitorId : MonitorId)
  deriving DecidableEq, Repr

/-- The tasks spawned and not yet joined, the record of their owners, and the next task id (ids are never reused). -/
structure Tasks where
  running : List Task
  owners : HashMap TaskId TaskOwner
  nextId : TaskId

def Tasks.empty : Tasks := ⟨[], ∅, 0⟩

/-- Spawn a task and record its owner. -/
def Tasks.spawn (t : Tasks) (body : TaskBody) (owner : TaskOwner) : Tasks where
  running := t.running ++ [⟨t.nextId, body⟩]
  owners := t.owners.insert t.nextId owner
  nextId := t.nextId + 1

/-- A task that ended without an outcome. -/
structure JoinError where
  id : TaskId
  message : String
  deriving DecidableEq, Repr

/-- The task a join is of. -/
def joinedId : Except JoinError (TaskId × Outcome) → TaskId
  | .ok (id, _) => id
  | .error err => err.id

/-- One result an agent pushed. -/
structure PushedResult where
  monitorId : MonitorId
  outcome : ProbeOutcome
  deriving DecidableEq, Repr

/-- An outcome the scheduler handles: from one of its tasks (a panicked one included) or pushed by an agent. -/
inductive Handled where
  | outcome (o : Outcome)
  | pushed (p : PushedResult)
  deriving DecidableEq, Repr

def Handled.monitorId : Handled → MonitorId
  | .outcome (.network monitorId _) | .outcome (.collector monitorId _ _) => monitorId
  | .pushed p => p.monitorId

/-- What an outcome comes to: a check that ran, or one that could not say anything about the target. -/
inductive Verdict where
  | applied (success : Bool) (message : Option String) (latencyMs : UInt64)
  | stale (message : String)
  deriving DecidableEq, Repr

/-- The three-way split `handle_outcome` and `handle_pushed` make. -/
def Handled.verdict : Handled → Verdict
  | .outcome (.network _ (.success latencyMs)) => .applied true none latencyMs
  | .outcome (.network _ (.failure message)) => .applied false (some message) 0
  | .outcome (.network _ (.unavailable message)) => .stale message
  | .outcome (.collector _ .healthy latencyMs) => .applied true none latencyMs
  | .outcome (.collector _ (.unhealthy reason) latencyMs) => .applied false (some reason) latencyMs
  | .outcome (.collector _ (.unknown reason) _) => .stale reason
  | .pushed ⟨_, .success latencyMs⟩ => .applied true none latencyMs
  | .pushed ⟨_, .failure message⟩ => .applied false (some message) 0
  | .pushed ⟨_, .unavailable message⟩ => .stale message

/-! ## Events -/

structure AlertRequest where
  monitorId : MonitorId
  monitorName : String
  transitionedTo : MonitorStatus
  deriving DecidableEq, Repr

/-- What a step does that the statements speak of. -/
inductive Event where
  /-- A resync made a registry entry. -/
  | registered (id : UInt64)
  /-- A task was spawned. -/
  | spawned (task : Task)
  /-- An assignment was queued for an agent. -/
  | enqueued (agentId : UInt64) (assignment : Assignment)
  /-- The scheduler took up an outcome. -/
  | handled (cause : Handled)
  /-- The damping counters of a registry entry recorded a check. -/
  | observed (monitorId : MonitorId) (success : Bool)
  /-- The handling of an outcome is complete. -/
  | finished (cause : Handled)
  /-- The engine asked the store to set a status, and whether the store did. -/
  | wrote (monitorId : MonitorId) (status : MonitorStatus) (ok : Bool)
  /-- An alert request was submitted. -/
  | alert (request : AlertRequest)
  /-- A check result was submitted to the writer. -/
  | submitted (result : CheckResult)
  /-- A check result was sent to the live subscribers. -/
  | broadcast (result : CheckResult)
  deriving DecidableEq, Repr

/-! ## The scheduler's state -/

structure MonitorState where
  monitor : Monitor
  nextCheckAt : Instant
  flap : FlapState
  deriving DecidableEq, Repr

/-- A collector kept under a monitor id, and (auxiliary) which insertion the monitor it was built from came from. -/
structure KeptCollector where
  collector : K8sCollector
  origin : Nat
  deriving DecidableEq, Repr

structure Scheduler where
  k8sFactory : Option K8sCollectorFactory
  assignments : AssignmentHandle
  registry : HashMap UInt64 MonitorState
  k8sCollectors : HashMap UInt64 KeptCollector
  quarantined : List UInt64

def Scheduler.new (k8sFactory : Option K8sCollectorFactory) (assignments : AssignmentHandle) : Scheduler :=
  ⟨k8sFactory, assignments, ∅, ∅, []⟩

namespace Scheduler

/-! ## Resync -/

/-- The monitors a resync keeps registered. -/
def active (m : Monitor) : Bool := m.status ≠ .paused ∧ validIntervalSecs m.intervalSecs

/-- The loop of `resync` over the listed monitors: the registry, the quarantined ids, and the entries made. -/
structure ResyncLoop where
  registry : HashMap UInt64 MonitorState
  quarantined : List UInt64
  events : List Event

def resyncStep (now : Instant) (acc : ResyncLoop) (monitor : Monitor) : ResyncLoop :=
  if !validIntervalSecs monitor.intervalSecs then
    { acc with quarantined := acc.quarantined.insert monitor.id.val }
  else if monitor.status = .paused then acc
  else
    match acc.registry.lookup monitor.id.val with
    | some state => { acc with registry := acc.registry.insert monitor.id.val { state with monitor } }
    | none =>
      { acc with
        registry := acc.registry.insert monitor.id.val ⟨monitor, now, FlapState.default⟩
        events := acc.events ++ [.registered monitor.id.val] }

/-- `resync` once the list has come back: entries of monitors that are gone, paused or invalid are dropped, entries that stay
keep their deadline and counters and take the listed monitor, the others are made. Collectors are kept by id. -/
def resync (s : Scheduler) (now : Instant) (monitors : List Monitor) : Scheduler × List Event :=
  let seen := (monitors.filter active).map (·.id.val)
  let registry := HashMap.retain s.registry fun id _ => decide (id ∈ seen)
  let k8sCollectors := HashMap.retain s.k8sCollectors fun id _ => decide (id ∈ seen)
  let loop := monitors.foldl (resyncStep now) ⟨registry, [], []⟩
  ({ s with
      assignments := { s.assignments with quarantined := loop.quarantined.length }
      registry := loop.registry
      k8sCollectors
      quarantined := loop.quarantined },
    loop.events)

/-! ## Dispatch -/

def noCollectorAvailable : String :=
  "no Kubernetes collector is available (kubernetes feature disabled or no clusters attached)"

/-- The collector of a monitor: the one kept under its id, else one built from its target and kept. With none, the reason. -/
def collector (s : Scheduler) (monitorId : MonitorId) (monitor : Monitor) : Scheduler × Except String KeptCollector :=
  match s.k8sCollectors.lookup monitorId.val with
  | some kept => (s, .ok kept)
  | none =>
    match s.k8sFactory, parseK8sTarget monitor.target with
    | some factory, some (cluster, ns, name) =>
      match factory.collectorFor cluster ns name monitor.kind with
      | .ok collector =>
        let kept : KeptCollector := ⟨collector, monitorId.origin⟩
        ({ s with k8sCollectors := s.k8sCollectors.insert monitorId.val kept }, .ok kept)
      | .error source => (s, .error source.text)
    | none, _ => (s, .error noCollectorAvailable)
    | some _, none =>
      (s, .error ("target '" ++ monitor.target ++ "' is not in '<cluster>/<namespace>/<name>' form"))

/-- The scheduler, its tasks and the events of a dispatch so far. -/
structure Dispatch where
  scheduler : Scheduler
  tasks : Tasks
  events : List Event

/-- Spawn a task. -/
def Dispatch.spawn (d : Dispatch) (body : TaskBody) (owner : TaskOwner) : Dispatch where
  scheduler := d.scheduler
  tasks := d.tasks.spawn body owner
  events := d.events ++ [.spawned ⟨d.tasks.nextId, body⟩]

def dispatchNetwork (d : Dispatch) (monitorId : MonitorId) (kind : NetworkProbeKind) (target : String) : Dispatch :=
  d.spawn (.network monitorId kind target) (.network monitorId)

def dispatchK8s (d : Dispatch) (monitorId : MonitorId) (monitor : Monitor) : Dispatch :=
  match d.scheduler.collector monitorId monitor with
  | (s, .ok kept) =>
    { d with scheduler := s }.spawn (.poll ⟨monitorId.val, kept.origin⟩ kept.collector) (.collector monitorId)
  | (s, .error reason) => { d with scheduler := s }.spawn (.noCollector monitorId reason) (.collector monitorId)

/-- Move the deadline of a registered monitor. -/
def advance (s : Scheduler) (now : Instant) (id : UInt64) (state : MonitorState) : Scheduler :=
  let interval := Duration.fromSecs state.monitor.intervalSecs
  let state := { state with nextCheckAt := advanceDeadline state.nextCheckAt interval now }
  { s with registry := s.registry.insert id state }

/-- One due monitor: move its deadline, then probe it here, queue it for its agent, or poll its collector. -/
def dispatchOne (now : Instant) (d : Dispatch) (id : UInt64) : Dispatch :=
  match d.scheduler.registry.lookup id with
  | none => d
  | some state =>
    let s := d.scheduler.advance now id state
    let monitor := state.monitor
    let monitorId : MonitorId := ⟨id, monitor.id.origin⟩
    match NetworkProbeKind.tryFrom monitor.kind, monitor.agentId with
    | some _, some agentId =>
      let assignment : Assignment := ⟨monitorId, monitor.target, monitor.kind⟩
      { d with
        scheduler := { s with assignments := s.assignments.enqueue agentId assignment }
        events := d.events ++ [.enqueued agentId assignment] }
    | some kind, none => dispatchNetwork { d with scheduler := s } monitorId kind monitor.target
    | none, _ =>
      if monitor.kind = .hostAgentCheck then { d with scheduler := s }
      else dispatchK8s { d with scheduler := s } monitorId monitor

/-- The ids whose deadline has come. -/
def dueIds (s : Scheduler) (now : Instant) : List UInt64 :=
  (s.registry.entries.filter fun e => decide (e.2.nextCheckAt ≤ now)).map (·.1)

/-- `dispatch_due`. `due` is the due ids in the order in which the hash map yields them. -/
def dispatchDue (s : Scheduler) (tasks : Tasks) (now : Instant) (due : List UInt64) : Dispatch :=
  due.foldl (dispatchOne now) ⟨s, tasks, []⟩

/-! ## Handling outcomes -/

/-- What is still to be recorded of a check while its status is being persisted. -/
inductive Record where
  | applied (success : Bool) (message : Option String) (latencyMs : UInt64)
  | stale (checkedAt : UInt64) (message : String)
  deriving DecidableEq, Repr

/-- The frame of a call that waits in `persist_status`. -/
structure Persist where
  cause : Handled
  monitorName : String
  status : MonitorStatus
  record : Record
  deriving DecidableEq, Repr

/-- The handling of an outcome up to its first await: done, or waiting for a status to be persisted. -/
structure Handling where
  scheduler : Scheduler
  events : List Event
  persist : Option Persist

/-- The result `mark_stale_and_record` submits. -/
def staleResult (monitorId : MonitorId) (checkedAt : UInt64) (message : String) : CheckResult :=
  { monitorId, checkedAt, success := false, latencyMs := 0, message := some message }

/-- An outcome that says nothing about the target: the monitor goes stale, past the damping, and the check is recorded. -/
def markStaleAndRecord (s : Scheduler) (wall : UInt64) (cause : Handled) (message : String) : Handling :=
  let monitorId := cause.monitorId
  match s.registry.lookup monitorId.val with
  | some state =>
    if state.monitor.status ≠ .stale then
      let state := { state with monitor := { state.monitor with status := .stale } }
      { scheduler := { s with registry := s.registry.insert monitorId.val state }
        events := []
        persist := some ⟨cause, state.monitor.name, .stale, .stale wall message⟩ }
    else ⟨s, [.submitted (staleResult monitorId wall message), .finished cause], none⟩
  | none => ⟨s, [.submitted (staleResult monitorId wall message), .finished cause], none⟩

/-- A check that ran: the counters record it, a transition they cause is persisted, and the check is recorded and streamed. -/
def applyResult (s : Scheduler) (wall : UInt64) (cause : Handled) (success : Bool) (message : Option String)
    (latencyMs : UInt64) : Handling :=
  let monitorId := cause.monitorId
  match s.registry.lookup monitorId.val with
  | none => ⟨s, [.finished cause], none⟩
  | some state =>
    match state.flap.observe success state.monitor.status with
    | (flap, some newStatus) =>
      let state := { state with flap, monitor := { state.monitor with status := newStatus } }
      { scheduler := { s with registry := s.registry.insert monitorId.val state }
        events := [.observed monitorId success]
        persist := some ⟨cause, state.monitor.name, newStatus, .applied success message latencyMs⟩ }
    | (flap, none) =>
      let result : CheckResult := { monitorId, checkedAt := wall, success, latencyMs, message }
      { scheduler := { s with registry := s.registry.insert monitorId.val { state with flap } }
        events := [.observed monitorId success, .submitted result, .broadcast result, .finished cause]
        persist := none }

/-- `handle_outcome`, and `handle_pushed` after its resync: the outcome is applied or marks its monitor stale. -/
def handle (s : Scheduler) (wall : UInt64) (cause : Handled) : Handling :=
  let h := match cause.verdict with
    | .applied success message latencyMs => s.applyResult wall cause success message latencyMs
    | .stale message => s.markStaleAndRecord wall cause message
  { h with events := .handled cause :: h.events }

/-- What follows when `persist_status` returns: the alert, whether or not the store took the status, and the record. -/
def Persist.resume (p : Persist) (wall : UInt64) : List Event :=
  let alert := Event.alert ⟨p.cause.monitorId, p.monitorName, p.status⟩
  match p.record with
  | .applied success message latencyMs =>
    let result : CheckResult := { monitorId := p.cause.monitorId, checkedAt := wall, success, latencyMs, message }
    [alert, .submitted result, .broadcast result, .finished p.cause]
  | .stale checkedAt message => [alert, .submitted (staleResult p.cause.monitorId checkedAt message), .finished p.cause]

/-- `handle_joined`: the task leaves the set and the record of owners, and the outcome to handle is its own, or, for a task that
panicked, one that says so; none for a task with no recorded owner. -/
def handleJoined (tasks : Tasks) (joined : Except JoinError (TaskId × Outcome)) : Tasks × Option Outcome :=
  match joined with
  | .ok (id, outcome) =>
    ({ tasks with running := tasks.running.filter fun t => t.id ≠ id, owners := tasks.owners.erase id }, some outcome)
  | .error err =>
    ({ tasks with running := tasks.running.filter fun t => t.id ≠ err.id, owners := tasks.owners.erase err.id },
      (tasks.owners.lookup err.id).map fun
        | .network monitorId => .network monitorId (.unavailable err.message)
        | .collector monitorId => .collector monitorId (.unknown err.message) 0)

end Scheduler

end Monitra
