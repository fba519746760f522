import Monitra.Agent.Live
import Monitra.Lemmas.Steps

/-!
# The heartbeats of a live agent

A cycle of the agent takes the sleep and, one after the other, the probes it was assigned. As long as these fit into the
watchdog's timeout, no sweep finds the agent quiet. Nothing in the agent's configuration or in the length of its queue makes
them fit.

Before its first push an agent has the heartbeat that the store has of it: that of its registration, or of the last push of a process
before it. A process that begins later than that is quiet until it has pushed, whatever it is configured to do.
-/

namespace Monitra

open Runs

namespace Agents

/-- How many probes a list of assignments asks for. -/
def probesAsked (assignments : List AssignmentDto) : Nat := assignments.countP fun assignment => assignment.probeKind.isSome

/-- The condition. The sleep of the process is no longer than the watchdog's timeout, also with the probes that the process is
asked for if each takes its whole time. -/
def inTime (cfg : EngineConfig) (x : Live) : LiveAction → Bool
  | .pass _ => x.process.interval ≤ Duration.fromSecs cfg.heartbeatTimeoutSecs
  | .fetch assignments =>
    x.process.interval + probesAsked assignments * x.process.probeTimeout ≤ Duration.fromSecs cfg.heartbeatTimeoutSecs
  | _ => true

/-- The agents a sweep would find quiet. -/
def Live.quiet (cfg : EngineConfig) (x : Live) : List UInt64 :=
  Watchdog.staleAgentIds cfg.heartbeatTimeoutSecs x.system.wall (x.system.db.agents.rows.map rowToAgent)

/-- The agents that a sweep under way has found quiet. -/
def found : Watchdog → List UInt64
  | .select => []
  | .listing stale => stale
  | .sweeping stale _ => stale

/-- The wall clock so many nanoseconds after the epoch. -/
def secsAt (t : Nat) : UInt64 := UInt64.ofNat (t / 1000000000)

/-- Where the process is at the beginning of a run: in the checks of a cycle, or asleep since it was heard. -/
def beginsAt (epoch heard : Nat) : AgentPc → Prop
  | .checking _ _ => True
  | .sleeping since => epoch + since = heard
  | _ => False

/-- Where a run begins: the wall clock shows the time, the agent's stored heartbeat, if the agent is there, was made no longer ago than
the sleep of the process and the watchdog's timeout, and no sweep under way has found the agent quiet. -/
structure Live.Begins (cfg : EngineConfig) (epoch : Nat) (agentId : UInt64) (x : Live) : Prop where
  wall : x.system.wall = wallAt epoch x.system.clock
  heard : ∃ heard ≤ epoch + x.system.clock, beginsAt epoch heard x.process.pc ∧
    epoch + x.system.clock ≤ heard + x.process.interval ∧
    epoch + x.system.clock ≤ heard + Duration.fromSecs cfg.heartbeatTimeoutSecs ∧
    ∀ row ∈ x.system.db.agents.rows, row.id = agentId.toInt64 → row.lastHeartbeatAt = (secsAt heard).toInt64
  unswept : agentId ∉ found x.system.watchdog

namespace LivenessAux

/-- The seconds of a time span that is no longer than a limit are no more than the limit, also when they wrap around. -/
theorem le_of_secsAt {t now : Nat} {limit : UInt64} (ht : t ≤ now) (h : now ≤ t + Duration.fromSecs limit) :
    (secsAt now).toNat - (secsAt t).toNat ≤ limit.toNat := by
  simp only [secsAt, UInt64.toNat_ofNat']
  have hmono : t / 1000000000 ≤ now / 1000000000 := Nat.div_le_div_right ht
  have hsecs : now / 1000000000 ≤ t / 1000000000 + limit.toNat := by
    have hadd : (t + limit.toNat * 1000000000) / 1000000000 = t / 1000000000 + limit.toNat :=
      Nat.add_mul_div_right _ _ (by decide)
    rw [← hadd]
    exact Nat.div_le_div_right h
  have hmod : ∀ a b : Nat, a ≤ b → b ≤ a + limit.toNat → b % 2 ^ 64 - a % 2 ^ 64 ≤ limit.toNat := by
    intro a b hab hb
    omega
  exact hmod _ _ hmono hsecs

theorem found_goOn (stale : List UInt64) (rest : List Monitor) : ∀ id ∈ found (Watchdog.goOn stale rest), id ∈ stale := by
  intro id hid
  unfold Watchdog.goOn at hid
  split at hid
  · cases hid
  · exact hid

/-- How far the process can be after a heartbeat: with the probes still to come the cycle ends within the limit. -/
def Paced (limit : Duration) (epoch : Nat) (clock : Instant) (heard : Nat) (p : AgentProcess) : Prop :=
  match p.pc with
  | .checking _ _ => epoch + clock ≤ heard + p.interval
  | .probing rest since _ =>
    epoch + since + rest.length * p.probeTimeout ≤ heard + limit ∧ clock ≤ since + p.probeTimeout ∧ rest ≠ []
  | .pushing _ => epoch + clock ≤ heard + limit
  | .sleeping since => epoch + since = heard ∧ clock ≤ since + p.interval

/-- The invariant: the agent was last heard at a moment, its heartbeat is stored with that moment or a later one, and no sweep
under way is about it. -/
structure Heard (cfg : EngineConfig) (epoch : Nat) (agentId : UInt64) (x : Live) (heard : Nat) : Prop where
  wall : x.system.wall = wallAt epoch x.system.clock
  past : heard ≤ epoch + x.system.clock
  near : epoch + x.system.clock ≤ heard + Duration.fromSecs cfg.heartbeatTimeoutSecs
  paced : Paced (Duration.fromSecs cfg.heartbeatTimeoutSecs) epoch x.system.clock heard x.process
  stored : ∀ row ∈ x.system.db.agents.rows, row.id = agentId.toInt64 →
    ∃ t, heard ≤ t ∧ t ≤ epoch + x.system.clock ∧ row.lastHeartbeatAt = (secsAt t).toInt64
  unswept : agentId ∉ found x.system.watchdog

/-- What a run begins with satisfies it. -/
theorem heard_of_begins {cfg : EngineConfig} {epoch : Nat} {agentId : UInt64} {x : Live} (h : x.Begins cfg epoch agentId) :
    ∃ heard, Heard cfg epoch agentId x heard := by
  obtain ⟨heard, hpast, hbegins, hinterval, hnear, hstored⟩ := h.heard
  refine ⟨heard, h.wall, hpast, hnear, ?_, fun row hrow hid => ⟨heard, le_rfl, hpast, hstored row hrow hid⟩, h.unswept⟩
  unfold Paced
  cases hpc : x.process.pc with
  | checking => exact hinterval
  | sleeping since =>
    rw [hpc] at hbegins
    obtain rfl : epoch + since = heard := hbegins
    rw [Nat.add_assoc] at hinterval
    exact ⟨rfl, Nat.le_of_add_le_add_left hinterval⟩
  | probing | pushing =>
    rw [hpc] at hbegins
    exact hbegins.elim

/-- While the sleep is no longer than the limit, at no point of a cycle has more time passed than the limit. -/
theorem le_of_paced {limit : Duration} {epoch : Nat} {clock : Instant} {heard : Nat} {p : AgentProcess}
    (hinterval : p.interval ≤ limit) (h : Paced limit epoch clock heard p) : epoch + clock ≤ heard + limit := by
  unfold Paced at h
  split at h
  · exact h.trans (Nat.add_le_add_left hinterval _)
  · rename_i rest since _ _
    obtain ⟨hend, hclock, hne⟩ := h
    have hone : p.probeTimeout ≤ rest.length * p.probeTimeout := Nat.le_mul_of_pos_left _ (List.length_pos_iff.mpr hne)
    calc epoch + clock ≤ epoch + (since + p.probeTimeout) := Nat.add_le_add_left hclock _
      _ ≤ epoch + since + rest.length * p.probeTimeout := by
        rw [← Nat.add_assoc]
        exact Nat.add_le_add_left hone _
      _ ≤ heard + limit := hend
  · exact h
  · rename_i since _
    obtain ⟨rfl, hclock⟩ := h
    calc epoch + clock ≤ epoch + (since + p.interval) := Nat.add_le_add_left hclock _
      _ ≤ epoch + since + limit := by
        rw [← Nat.add_assoc]
        exact Nat.add_le_add_left hinterval _

/-- The agent is not quiet. -/
theorem not_quiet {cfg : EngineConfig} {epoch : Nat} {agentId : UInt64} {x : Live} {heard : Nat}
    (h : Heard cfg epoch agentId x heard) : agentId ∉ x.quiet cfg := by
  intro hmem
  obtain ⟨agent, hagent, rfl⟩ := List.mem_map.mp hmem
  obtain ⟨hagent, hlate⟩ := List.mem_filter.mp hagent
  obtain ⟨row, hrow, rfl⟩ := List.mem_map.mp hagent
  obtain ⟨t, ht, htnow, hlast⟩ := h.stored row hrow (by simp [rowToAgent])
  have hnow := h.near.trans (Nat.add_le_add_right ht _)
  have hle : (secsAt (epoch + x.system.clock)).toNat - (secsAt t).toNat ≤ cfg.heartbeatTimeoutSecs.toNat := le_of_secsAt htnow hnow
  have hwall : x.system.wall = secsAt (epoch + x.system.clock) := h.wall
  simp only [rowToAgent, hlast, UInt64.toUInt64_toInt64, hwall, decide_eq_true_eq] at hlate
  exact absurd hlate (Nat.not_lt.mpr hle)

/-- A step of the daemon that is not the passing of time leaves both clocks as they are. -/
theorem clocks_of_effect {cfg : EngineConfig} {s s' : System} {a : Action} {ev : List Event} (ha : Live.isTime a = false)
    (h : Effect cfg s a s' ev) : s'.clock = s.clock ∧ s'.wall = s.wall := by
  cases h with
  | advance | wallClock => cases ha
  | _ => exact ⟨rfl, rfl⟩

/-- After a step of the daemon, the agents of a sweep under way were those of the sweep before, or are quiet. -/
theorem found_of_effect {cfg : EngineConfig} {s s' : System} {a : Action} {ev : List Event} (h : Effect cfg s a s' ev) :
    ∀ id ∈ found s'.watchdog, id ∈ found s.watchdog ∨
      id ∈ Watchdog.staleAgentIds cfg.heartbeatTimeoutSecs s.wall (s.db.agents.rows.map rowToAgent) := by
  intro id hid
  cases h with
  | @agentsListed fault watchdog hw hw' hs =>
    cases watchdog with
    | select => cases hid
    | listing stale => exact Or.inr (hs stale rfl ▸ hid)
    | sweeping stale rest => exact absurd rfl (hw' stale rest)
  | sweepBegins hw | demoted hw | notDemoted hw | passedOver hw =>
    rw [hw]
    exact Or.inl (found_goOn _ _ id hid)
  | sweepSkipped => cases hid
  | _ => exact Or.inl hid

/-- A step of the daemon keeps the invariant. -/
theorem heard_of_effect {cfg : EngineConfig} {epoch : Nat} {agentId : UInt64} {x : Live} {heard : Nat} {s' : System}
    {a : Action} {ev : List Event} (h : Heard cfg epoch agentId x heard) (ha : Live.isTime a = false)
    (he : Effect cfg x.system a s' ev) : Heard cfg epoch agentId { x with system := s' } heard := by
  obtain ⟨hclock, hwall⟩ := clocks_of_effect ha he
  refine ⟨?_, ?_, ?_, ?_, fun row hrow hid => ?_, fun hmem => ?_⟩
  · rw [hwall, hclock]
    exact h.wall
  · rw [hclock]
    exact h.past
  · rw [hclock]
    exact h.near
  · rw [hclock]
    exact h.paced
  · rw [hclock]
    rcases agents_of_effect he row hrow with hold | hnow
    · exact h.stored row hold hid
    · exact ⟨epoch + x.system.clock, h.past, le_rfl, by rw [hnow, h.wall, wallAt, secsAt]⟩
  · rcases found_of_effect he agentId hmem with hold | hquiet
    · exact h.unswept hold
    · exact not_quiet h hquiet

/-- A push starts the next sleep: it stores the moment it is made at. -/
theorem heard_of_push {cfg : EngineConfig} {epoch : Nat} {agentId : UInt64} {x x' : Live} {ev : List Event}
    (hwall : x.system.wall = wallAt epoch x.system.clock) (hw : agentId ∉ found x.system.watchdog)
    (h : x.step cfg epoch agentId .push = some (x', ev)) : Heard cfg epoch agentId x' (epoch + x'.system.clock) := by
  simp only [Live.step] at h
  split at h
  · rename_i p s' ev' hp hs
    cases h
    have he := effect_of_step hs
    cases he with
    | heartbeat _ _ _ hb =>
      refine ⟨hwall, le_rfl, Nat.le_add_right _ _, ?_, fun row hrow hid => ?_, hw⟩
      · unfold AgentProcess.pushed at hp
        split at hp
        · cases hp
          exact ⟨rfl, Nat.le_add_right _ _⟩
        · cases hp
      · rcases agents_of_heartbeatAgent hb row hrow with hnow | ⟨-, hother⟩
        · exact ⟨epoch + x.system.clock, le_rfl, le_rfl, by rw [hnow, hwall, wallAt, secsAt]⟩
        · exact absurd hid hother
  · cases h

/-- After a push the process sleeps. -/
theorem pc_of_push {cfg : EngineConfig} {epoch : Nat} {agentId : UInt64} {x x' : Live} {ev : List Event}
    (h : x.step cfg epoch agentId .push = some (x', ev)) : x'.process.pc = .sleeping x'.system.clock := by
  simp only [Live.step] at h
  split at h
  · rename_i p s' ev' hp hs
    cases h
    unfold AgentProcess.pushed at hp
    split at hp
    · cases hp
      cases effect_of_step hs
      rfl
    · cases hp
  · cases h

/-- Going on to the probes that are left keeps the pace, when they fit. -/
theorem paced_goOn {limit : Duration} {epoch : Nat} {clock : Instant} {heard : Nat} {p : AgentProcess} {rest : List AssignmentDto}
    {results : List PendingResult} (h : epoch + clock + probesAsked rest * p.probeTimeout ≤ heard + limit) :
    Paced limit epoch clock heard { p with pc := AgentProcess.goOn rest clock results } := by
  rw [probesAsked, List.countP_eq_length_filter] at h
  unfold Paced AgentProcess.goOn
  cases hf : rest.filter fun assignment => assignment.probeKind.isSome with
  | nil => exact (Nat.le_add_right _ _).trans h
  | cons next others =>
    rw [hf] at h
    exact ⟨h, Nat.le_add_right _ _, List.cons_ne_nil _ _⟩

/-- A step of the process alone keeps the invariant if it keeps the pace. -/
theorem Heard.of_paced {cfg : EngineConfig} {epoch : Nat} {agentId : UInt64} {x : Live} {heard : Nat} {p : AgentProcess}
    (h : Heard cfg epoch agentId x heard)
    (hp : Paced (Duration.fromSecs cfg.heartbeatTimeoutSecs) epoch x.system.clock heard p) :
    Heard cfg epoch agentId { x with process := p } heard :=
  ⟨h.wall, h.past, h.near, hp, h.stored, h.unswept⟩

/-- While the process may wait, waiting keeps the pace. -/
theorem paced_of_mayPass {limit : Duration} {epoch heard : Nat} {x : Live} {d : Duration}
    (h : Paced limit epoch x.system.clock heard x.process) (hd : x.mayPass d = true) :
    Paced limit epoch (x.system.clock + d) heard x.process := by
  unfold Paced at h ⊢
  unfold Live.mayPass at hd
  cases hpc : x.process.pc with
  | checking | pushing =>
    simp only [hpc, decide_eq_true_eq] at hd h ⊢
    subst hd
    exact h
  | probing rest since results =>
    simp only [hpc, decide_eq_true_eq] at hd h ⊢
    exact ⟨h.1, hd, h.2.2⟩
  | sleeping since =>
    simp only [hpc, decide_eq_true_eq] at hd h ⊢
    exact ⟨h.1, hd⟩

/-- Every step that meets the condition keeps the invariant, a push with the moment it is made at. -/
theorem heard_step {cfg : EngineConfig} {epoch : Nat} {agentId : UInt64} {x x' : Live} {a : LiveAction} {ev : List Event}
    (h : ∃ heard, Heard cfg epoch agentId x heard) (hok : inTime cfg x a = true)
    (hs : x.step cfg epoch agentId a = some (x', ev)) : ∃ heard, Heard cfg epoch agentId x' heard := by
  obtain ⟨heard, h⟩ := h
  have hpaced := h.paced
  cases a with
  | daemon a =>
    simp only [Live.step] at hs
    split at hs
    · cases hs
    · rename_i ha
      obtain ⟨⟨s', ev'⟩, hstep, he⟩ := Option.map_eq_some_iff.mp hs
      cases he
      exact ⟨heard, heard_of_effect h (by simpa using ha) (effect_of_step hstep)⟩
  | pass d =>
    simp only [Live.step] at hs
    split at hs
    · rename_i hd
      cases hs
      have hpaced' := paced_of_mayPass hpaced hd
      have hlater : epoch + x.system.clock ≤ epoch + (x.system.clock + d) := Nat.add_le_add_left (Nat.le_add_right _ _) _
      refine ⟨heard, rfl, h.past.trans hlater, ?_, hpaced', fun row hrow hid => ?_, h.unswept⟩
      · exact le_of_paced (by simpa [inTime] using hok) hpaced'
      · obtain ⟨t, ht, htnow, hlast⟩ := h.stored row hrow hid
        exact ⟨t, ht, htnow.trans hlater, hlast⟩
    · cases hs
  | check outcome =>
    obtain ⟨p, hp, he⟩ := Option.map_eq_some_iff.mp hs
    cases he
    unfold AgentProcess.check at hp
    split at hp
    · rename_i hpc
      cases hp
      simp only [Paced, hpc] at hpaced
      exact ⟨heard, h.of_paced hpaced⟩
    · cases hp
  | fetch assignments =>
    simp only [Live.step] at hs
    split at hs
    · obtain ⟨p, hp, he⟩ := Option.map_eq_some_iff.mp hs
      cases he
      unfold AgentProcess.fetched at hp
      split at hp
      · rename_i hpc
        cases hp
        refine ⟨heard, h.of_paced (paced_goOn ?_)⟩
        -- the sleep has passed, and the probes of the list fit into what is left
        simp only [Paced, hpc] at hpaced
        simp only [inTime, decide_eq_true_eq] at hok
        rw [Option.getD_some]
        calc epoch + x.system.clock + probesAsked assignments * x.process.probeTimeout
            ≤ heard + x.process.interval + probesAsked assignments * x.process.probeTimeout := Nat.add_le_add_right hpaced _
          _ = heard + (x.process.interval + probesAsked assignments * x.process.probeTimeout) := Nat.add_assoc _ _ _
          _ ≤ heard + Duration.fromSecs cfg.heartbeatTimeoutSecs := Nat.add_le_add_left hok _
      · cases hp
    · cases hs
  | probe outcome =>
    obtain ⟨p, hp, he⟩ := Option.map_eq_some_iff.mp hs
    cases he
    unfold AgentProcess.probed at hp
    split at hp
    · rename_i assignment rest since results hpc
      cases hp
      refine ⟨heard, h.of_paced (paced_goOn ?_)⟩
      -- the probe took no longer than its timeout, which was counted for it
      simp only [Paced, hpc] at hpaced
      obtain ⟨hend, hclock, -⟩ := hpaced
      rw [List.length_cons, Nat.succ_mul] at hend
      have hasked : probesAsked rest * x.process.probeTimeout ≤ rest.length * x.process.probeTimeout :=
        Nat.mul_le_mul_right _ List.countP_le_length
      calc epoch + x.system.clock + probesAsked rest * x.process.probeTimeout
          ≤ epoch + (since + x.process.probeTimeout) + rest.length * x.process.probeTimeout :=
            Nat.add_le_add (Nat.add_le_add_left hclock _) hasked
        _ = epoch + since + (rest.length * x.process.probeTimeout + x.process.probeTimeout) := by omega
        _ ≤ heard + Duration.fromSecs cfg.heartbeatTimeoutSecs := hend
    · cases hp
  | push => exact ⟨_, heard_of_push h.wall h.unswept hs⟩
  | wake =>
    obtain ⟨p, hp, he⟩ := Option.map_eq_some_iff.mp hs
    cases he
    unfold AgentProcess.woken at hp
    split at hp
    · rename_i since hpc
      split at hp
      · cases hp
        simp only [Paced, hpc] at hpaced
        obtain ⟨rfl, hclock⟩ := hpaced
        have hslept : epoch + x.system.clock ≤ epoch + since + x.process.interval := by
          rw [Nat.add_assoc]
          exact Nat.add_le_add_left hclock _
        exact ⟨_, h.of_paced hslept⟩
      · cases hp
    · cases hp

end LivenessAux

/-- In every run in which the sleep of the process and the probes it is asked for fit into the watchdog's timeout, from a process that
begins while its agent's heartbeat is recent, the agent is never quiet, and no sweep marks a monitor stale that it finds linked to the
agent. -/
theorem live_agent_never_quiet {cfg : EngineConfig} {epoch : Nat} {agentId : UInt64} {x₀ x : Live} {log : List Event}
    (hbegins : x₀.Begins cfg epoch agentId)
    (h : Run (Live.step cfg epoch agentId) (fun x a => inTime cfg x a = true) x₀ x log) :
    agentId ∉ x.quiet cfg ∧
      ∀ stale monitor rest, x.system.watchdog = .sweeping stale (monitor :: rest) → monitor.agentId = some agentId →
        Watchdog.demotes stale monitor = false := by
  obtain ⟨heard, hheard⟩ := h.stateInvariant (I := fun x => ∃ heard, LivenessAux.Heard cfg epoch agentId x heard)
    (LivenessAux.heard_of_begins hbegins) fun _ _ _ _ hI hok hs => LivenessAux.heard_step hI hok hs
  refine ⟨LivenessAux.not_quiet hheard, fun stale monitor rest hw hlink => ?_⟩
  have hunswept := hheard.unswept
  rw [hw, found] at hunswept
  simp [Watchdog.demotes, hlink, hunswept]

/-- A run may also begin with a push, whatever was before, unless a sweep under way has found the agent quiet. -/
theorem begins_of_push {cfg : EngineConfig} {epoch : Nat} {agentId : UInt64} {x₀ x : Live} {ev : List Event}
    (hwall : x₀.system.wall = wallAt epoch x₀.system.clock) (hw : agentId ∉ found x₀.system.watchdog)
    (h : x₀.step cfg epoch agentId .push = some (x, ev)) : x.Begins cfg epoch agentId := by
  have hheard := LivenessAux.heard_of_push hwall hw h
  refine ⟨hheard.wall, ⟨_, le_rfl, ?_, Nat.le_add_right _ _, Nat.le_add_right _ _, fun row hrow hid => ?_⟩, hheard.unswept⟩
  · rw [LivenessAux.pc_of_push h]
    exact rfl
  · obtain ⟨t, ht, htnow, hlast⟩ := hheard.stored row hrow hid
    rw [hlast, Nat.le_antisymm htnow ht]

/-- The daemon and an agent as they start: the agent with the probe timeout and the buffer of the command line. -/
def Live.start (config : CheckConfig) : Live :=
  ⟨System.start EngineConfig.default none Db.empty, AgentProcess.start config (Duration.fromSecs 10) 256⟩

/-- An agent and its monitor are added. -/
def agentAdded : List LiveAction := [
  .daemon (.user (.registerAgent "edge" "home" none "secret" fun _ => 0)),
  .daemon (.user (.addMonitor "api" "http://10.0.0.1" .http 30 (some 1) fun _ => 0))]

/-- Its process begins and pushes, sleeps, and probes the monitor, which takes the probe's whole time. -/
def cycleInTime : List LiveAction := [
  .fetch [], .push, .pass (Duration.fromSecs 30), .wake, .fetch [⟨1, "http://10.0.0.1", .http⟩], .pass (Duration.fromSecs 10),
  .probe (.failure "timed out"), .daemon (.watchdog (.listAgents false))]

/-- A sweep at that moment does not find the agent quiet. -/
theorem slow_probe_not_quiet :
    ∃ x : Live, x.system.clock = Duration.fromSecs 40 ∧ x.system.db.agents.rows.map (·.id) = [1] ∧
      1 ∉ x.quiet EngineConfig.default := by
  let cfg := EngineConfig.default
  let y := after (Live.step cfg 0 1) (inTime cfg) (Live.start CheckConfig.default) (agentAdded ++ cycleInTime)
  have h : Run (Live.step cfg 0 1) (fun x a => inTime cfg x a = true) (Live.start CheckConfig.default) y.1 y.2 :=
    run_after (by decide +kernel)
  have hbegins : (Live.start CheckConfig.default).Begins cfg 0 1 :=
    { wall := by decide
      heard := ⟨0, Nat.zero_le _, trivial, Nat.zero_le _, Nat.zero_le _, fun row hrow => absurd hrow List.not_mem_nil⟩
      unswept := by decide }
  exact ⟨y.1, by decide +kernel, by decide +kernel, (live_agent_never_quiet hbegins h).1⟩

/-- An empty configuration file, and seven monitors none of which answers. After its first push the agent sleeps for thirty
seconds, and then probes them one after the other, ten seconds each; a sweep comes before it can push again. -/
def agentStarved : List LiveAction :=
  let assignments : List AssignmentDto := [1, 2, 3, 4, 5, 6, 7].map fun id => ⟨id, "http://10.0.0.1", .http⟩
  let probed : List LiveAction := [.pass (Duration.fromSecs 10), .probe (.failure "timed out")]
  agentAdded ++ [.fetch [], .push, .pass (Duration.fromSecs 30), .wake, .fetch assignments] ++
    (List.replicate 6 probed).flatten ++
    [.pass (Duration.fromSecs 1), .daemon (.watchdog (.listAgents false)), .daemon (.watchdog (.listMonitors false)),
      .daemon (.watchdog (.next false))]

/-- The agent's monitor is marked stale. -/
theorem live_agent_found_quiet :
    ∃ (config : CheckConfig) (x : Live) (log : List Event),
      load (fun _ => .ok "") (fun contents => if contents = "" then .ok CheckConfig.default else .error contents)
          "checks.toml" = .ok config ∧
        Run (Live.step EngineConfig.default 0 1) (fun x a => always x a = true) (Live.start config) x log ∧
        1 ∈ x.quiet EngineConfig.default ∧ Event.wrote ⟨1, 0⟩ .stale true ∈ log := by
  let cfg := EngineConfig.default
  let x := after (Live.step cfg 0 1) always (Live.start CheckConfig.default) agentStarved
  have h : Run (Live.step cfg 0 1) (fun x a => always x a = true) (Live.start CheckConfig.default) x.1 x.2 :=
    run_after (by decide +kernel)
  exact ⟨CheckConfig.default, x.1, x.2, rfl, h, by decide +kernel, by decide +kernel⟩

end Agents

end Monitra
