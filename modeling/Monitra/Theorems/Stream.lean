import Monitra.Backend.Ws
import Monitra.Library.Runs

/-!
# The live stream has no gap

What the task hands to the socket is what it reads, and it reads on only while it does not lag: the frame that follows the last
result read is a close frame, and then the task returns.
-/

namespace Monitra

open Runs

namespace StreamAux

/-- The task may read another result. -/
def streams : WsPoint → Bool
  | .upgrading | .selecting | .sending => true
  | .closing | .returned => false

variable {toString : Json → Except String String} {s s' : Ws} {log ev : List WsEvent}

/-- What a step does. A step that hands nothing to the socket and reads nothing leaves the results, and does not go back to reading
them. -/
inductive WsStep (toString : Json → Except String String) (s : Ws) : Ws → List WsEvent → Prop where
  | broadcast {result} : WsStep toString s { s with results := s.results.send result } [.broadcast result]
  | text {result : CheckResult} {payload : String} (hpoint : s.point = .selecting) (hlags : ¬s.results.Lags s.rx)
      (hnext : s.results.sent[s.rx]? = some result) (hpayload : toString result.serialize = .ok payload) :
      WsStep toString s { s with rx := s.rx + 1, socket := s.socket ++ [.text payload], point := .sending } [.sent (.text payload)]
  | unwritten {result : CheckResult} {error : String} (hpoint : s.point = .selecting) (hlags : ¬s.results.Lags s.rx)
      (herror : toString result.serialize = .error error) : WsStep toString s { s with rx := s.rx + 1 } []
  | close {rx shutdown} (hpoint : s.point = .selecting) (hle : s.rx ≤ rx) (hrx : rx = s.rx ∨ rx ≤ s.results.sent.length) :
      WsStep toString s { s with rx, shutdown, socket := s.socket ++ [.close], point := .closing } [.sent .close]
  | deliver {frame socket} (hsocket : s.socket = frame :: socket) : WsStep toString s { s with socket } [.received frame]
  | quiet {closed shutdown point} (hpoint : streams point = true → streams s.point = true) :
      WsStep toString s { s with results := { s.results with closed }, shutdown, point } []

/-- A step that reads the results. -/
theorem wsStep_of_recv (hpoint : s.point = .selecting) {received : Broadcast.Received CheckResult} {rx : Nat}
    (h : s.results.recv s.rx = some (received, rx)) :
    WsStep toString s ({ s with rx }.onReceived toString received).1 ({ s with rx }.onReceived toString received).2 := by
  by_cases hlags : s.results.Lags s.rx
  · rw [Broadcast.Channel.recv_of_lags hlags] at h
    cases h
    unfold Broadcast.Channel.Lags at hlags
    have hle : s.rx ≤ s.results.sent.length - s.results.capacity := by omega
    exact .close hpoint hle (Or.inr (Nat.sub_le _ _))
  · cases received with
    | value result =>
      obtain ⟨hnext, rfl⟩ := Broadcast.Channel.getElem?_of_recv h
      cases hpayload : toString result.serialize with
      | ok payload =>
        simp only [Ws.onReceived, hpayload]
        exact .text hpoint hlags hnext hpayload
      | error error =>
        simp only [Ws.onReceived, hpayload]
        exact .unwritten hpoint hlags hpayload
    | lagged skipped => exact absurd (Broadcast.Channel.lags_of_recv h) hlags
    | closed =>
      obtain rfl := Broadcast.Channel.eq_of_recv_closed h
      exact .quiet nofun

theorem wsStep_of_step {a : WsAction} (h : s.step toString a = some (s', ev)) : WsStep toString s s' ev := by
  cases a with
  | broadcast result =>
    simp only [Ws.step] at h
    split at h
    · cases h
    · cases h
      exact .broadcast
  | resultsClosed =>
    cases h
    exact .quiet id
  | setShutdown value =>
    simp only [Ws.step] at h
    split at h
    · cases h
    · cases h
      exact .quiet id
  | shutdownClosed =>
    cases h
    exact .quiet id
  | upgraded ok =>
    simp only [Ws.step] at h
    split at h
    · rename_i hpoint
      cases h
      exact .quiet fun _ => by rw [hpoint]; rfl
    · cases h
  | recv =>
    simp only [Ws.step] at h
    split at h
    · rename_i hpoint
      obtain ⟨⟨received, rx⟩, hrecv, h⟩ := Option.map_eq_some_iff.mp h
      have hstep : WsStep toString s _ _ := wsStep_of_recv hpoint hrecv
      rw [h] at hstep
      exact hstep
    · cases h
  | incoming incoming =>
    simp only [Ws.step] at h
    split at h
    · cases h
      cases incoming with
      | ended | error | close => exact .quiet nofun
      | other => exact .quiet id
    · cases h
  | changed =>
    simp only [Ws.step] at h
    split at h
    · rename_i hpoint
      obtain ⟨⟨ok, shutdown⟩, _, h⟩ := Option.map_eq_some_iff.mp h
      simp only [Ws.onChanged] at h
      split at h
      · cases h
        exact .close hpoint (Nat.le_refl s.rx) (Or.inl rfl)
      · cases h
        exact .quiet id
    · cases h
  | sent ok =>
    simp only [Ws.step] at h
    split at h
    · rename_i hpoint
      cases h
      exact .quiet fun _ => by rw [hpoint]; rfl
    · cases h
      exact .quiet nofun
    · cases h
  | deliver =>
    simp only [Ws.step] at h
    split at h
    · cases h
    · rename_i hsocket
      cases h
      exact .deliver hsocket

/-! ### Up to the last result read -/

/-- The results that were broadcast since the subscription, and of them what was read while the task streams and handed to the
socket. -/
structure Inv (toString : Json → Except String String) (history : List CheckResult) (s : Ws) (log : List WsEvent) : Prop where
  results : s.results.sent = history ++ broadcastResults log
  start : history.length ≤ s.rx
  bound : s.rx ≤ s.results.sent.length
  told : ∃ next, history.length ≤ next ∧ next ≤ s.results.sent.length ∧ (streams s.point = true → next = s.rx) ∧
    (texts (sentFrames log)).map Except.ok = (s.results.between history.length next).map fun result => toString result.serialize
  socket : sentFrames log = receivedFrames log ++ s.socket

theorem inv_upgrade (toString : Json → Except String String) (results : Broadcast.Channel CheckResult)
    (shutdown : Watch.Receiver Bool) : Inv toString results.sent (Ws.upgrade results shutdown) [] where
  results := (List.append_nil _).symm
  start := Nat.le_refl _
  bound := Nat.le_refl _
  told := by
    refine ⟨results.sent.length, Nat.le_refl _, Nat.le_refl _, fun _ => rfl, ?_⟩
    rw [Ws.upgrade, Broadcast.Channel.between_self]
    rfl
  socket := rfl

/-- A step keeps what was read, and reads the next result or none. -/
theorem inv_of_step {history : List CheckResult} (hwrites : ∀ value, ∃ text, toString value = .ok text)
    (hI : Inv toString history s log) (h : WsStep toString s s' ev) : Inv toString history s' (log ++ ev) := by
  obtain ⟨next, hstart, hnext, hrx, htold⟩ := hI.told
  cases h with
  | @broadcast result =>
    have hlen : s.results.sent.length ≤ (s.results.send result).sent.length := by
      simp [Broadcast.Channel.send]
    refine ⟨?_, hI.start, Nat.le_trans hI.bound hlen, ⟨next, hstart, Nat.le_trans hnext hlen, hrx, ?_⟩, ?_⟩
    · rw [broadcastResults_append, ← List.append_assoc, ← hI.results]
      rfl
    · rw [sentFrames_append, Broadcast.Channel.between_send _ _ hnext]
      simpa [sentFrames] using htold
    · rw [sentFrames_append, receivedFrames_append, hI.socket]
      simp [sentFrames, receivedFrames]
  | @text result payload hpoint _ hresult hpayload =>
    obtain rfl : next = s.rx := hrx (by rw [hpoint]; rfl)
    have hlt : s.rx < s.results.sent.length := (List.getElem?_eq_some_iff.mp hresult).1
    refine ⟨?_, Nat.le_succ_of_le hI.start, hlt, ⟨s.rx + 1, Nat.le_succ_of_le hstart, hlt, fun _ => rfl, ?_⟩, ?_⟩
    · rw [broadcastResults_append, hI.results]
      simp [broadcastResults]
    · rw [sentFrames_append, texts_append, List.map_append, htold, Broadcast.Channel.between_succ hstart hresult, List.map_append,
        List.map_singleton, hpayload]
      rfl
    · rw [sentFrames_append, receivedFrames_append, hI.socket]
      simp [sentFrames, receivedFrames]
  | @unwritten result _ _ _ herror =>
    obtain ⟨text, htext⟩ := hwrites result.serialize
    rw [htext] at herror
    cases herror
  | @close rx _ _ hle hrx' =>
    refine ⟨?_, Nat.le_trans hI.start hle, ?_, ⟨next, hstart, hnext, nofun, ?_⟩, ?_⟩
    · rw [broadcastResults_append, hI.results]
      simp [broadcastResults]
    · obtain rfl | hrx' := hrx'
      · exact hI.bound
      · exact hrx'
    · rw [sentFrames_append, texts_append, List.map_append, htold]
      simp [sentFrames, texts]
    · rw [sentFrames_append, receivedFrames_append, hI.socket]
      simp [sentFrames, receivedFrames]
  | @deliver frame _ hsocket =>
    refine ⟨?_, hI.start, hI.bound, ⟨next, hstart, hnext, hrx, ?_⟩, ?_⟩
    · rw [broadcastResults_append, hI.results]
      simp [broadcastResults]
    · rw [sentFrames_append]
      simpa [sentFrames] using htold
    · rw [sentFrames_append, receivedFrames_append, hI.socket, hsocket]
      simp [sentFrames, receivedFrames]
  | quiet hpoint =>
    rw [List.append_nil]
    exact ⟨hI.results, hI.start, hI.bound, ⟨next, hstart, hnext, fun hstreams => hrx (hpoint hstreams), htold⟩, hI.socket⟩

/-- What the client received of what was handed over was read first. -/
theorem received_of_inv {history : List CheckResult} (hI : Inv toString history s log) :
    ∃ told, told <+: broadcastResults log ∧
      (texts (receivedFrames log)).map Except.ok = told.map fun result => toString result.serialize := by
  obtain ⟨next, _, _, _, htold⟩ := hI.told
  have hsince : s.results.sent.drop history.length = broadcastResults log := by
    rw [hI.results, List.drop_left]
  refine ⟨(s.results.between history.length next).take (texts (receivedFrames log)).length, ?_, ?_⟩
  · rw [← hsince]
    exact (List.take_prefix _ _).trans (Broadcast.Channel.between_prefix _ _ _)
  · rw [List.map_take, ← htold, hI.socket, texts_append, List.map_append]
    exact (List.take_left' (List.length_map _)).symm

/-! ### Once it lags -/

/-- The task lags and has handed nothing over since, or has handed over at most the close frame and reads no more. -/
def Ending (s : Ws) (log : List WsEvent) : Prop :=
  s.results.Lags s.rx ∧ sentFrames log = [] ∨ streams s.point = false ∧ (sentFrames log = [] ∨ sentFrames log = [.close])

/-- A step that hands nothing over and leaves what was read. -/
theorem ending_of_silent (hI : Ending s log) (hlags : s.results.Lags s.rx → s'.results.Lags s'.rx)
    (hpoint : streams s'.point = true → streams s.point = true) (hev : sentFrames ev = []) : Ending s' (log ++ ev) := by
  have hsent : sentFrames (log ++ ev) = sentFrames log := by
    rw [sentFrames_append, hev, List.append_nil]
  unfold Ending
  rw [hsent]
  refine hI.imp (And.imp_left hlags) (And.imp_left fun hstreams => ?_)
  rw [Bool.eq_false_iff] at hstreams ⊢
  exact fun hs => hstreams (hpoint hs)

/-- A step of a task that lags hands over the close frame or nothing. -/
theorem ending_of_step (hI : Ending s log) (h : WsStep toString s s' ev) : Ending s' (log ++ ev) := by
  cases h with
  | broadcast => exact ending_of_silent hI (fun hlags => hlags.send _) id rfl
  | text hpoint hlags _ _ | unwritten hpoint hlags _ =>
    obtain ⟨hlags', _⟩ | ⟨hstreams, _⟩ := hI
    · exact absurd hlags' hlags
    · rw [hpoint] at hstreams
      cases hstreams
  | close hpoint _ _ =>
    obtain ⟨_, hsent⟩ | ⟨hstreams, _⟩ := hI
    · refine Or.inr ⟨rfl, Or.inr ?_⟩
      rw [sentFrames_append, hsent]
      rfl
    · rw [hpoint] at hstreams
      cases hstreams
  | deliver _ => exact ending_of_silent hI id id rfl
  | quiet hpoint => exact ending_of_silent hI id hpoint rfl

end StreamAux

open StreamAux in
/-- In every run of a connection from its subscription on, whatever is broadcast, whatever the client and the socket do, and in
whatever order `select!` takes the branches: the messages that the client received are, one for one and in order, what is written
for a prefix of the results broadcast since; and from any moment at which the connection lags, nothing more is handed to the
socket than one close frame. -/
theorem stream_has_no_gap {toString : Json → Except String String} (hwrites : ∀ value, ∃ text, toString value = .ok text)
    {results : Broadcast.Channel CheckResult} {shutdown : Watch.Receiver Bool} {s : Ws} {log : List WsEvent}
    (hrun : Run (Ws.step toString) (fun s a => always s a = true) (Ws.upgrade results shutdown) s log) :
    (∃ told, told <+: broadcastResults log ∧
      (texts (receivedFrames log)).map Except.ok = told.map fun result => toString result.serialize) ∧
    (s.results.Lags s.rx → ∀ {s' log'}, Run (Ws.step toString) (fun s a => always s a = true) s s' log' →
      sentFrames log' = [] ∨ sentFrames log' = [.close]) := by
  constructor
  · have hI : Inv toString results.sent s log := hrun.invariant (inv_upgrade toString results shutdown)
      fun _ _ _ _ _ hI _ hstep => inv_of_step hwrites hI (wsStep_of_step hstep)
    exact received_of_inv hI
  · intro hlags s' log' hrun'
    have hE : Ending s' log' := hrun'.invariant (Or.inl ⟨hlags, rfl⟩)
      fun _ _ _ _ _ hE _ hstep => ending_of_step hE (wsStep_of_step hstep)
    obtain ⟨_, hsent⟩ | ⟨_, hsent⟩ := hE
    · exact Or.inl hsent
    · exact hsent

/-- With room for two results: one of the five broadcast since the subscription is received, another is on its way, and then the
connection lags and is closed. -/
theorem stream_closed_behind :
    let written : Option Int → String := fun checkedAt =>
      "\x7b\"monitor_id\":1,\"checked_at\":" ++ (checkedAt.elim "null" Int.repr) ++
        ",\"success\":true,\"latency_ms\":3,\"message\":null\x7d"
    let toString : Json → Except String String := fun value => .ok (written (value.index "checked_at").integer?)
    let result : UInt64 → CheckResult := fun checkedAt => ⟨⟨1, 0⟩, checkedAt, true, 3, none⟩
    let x := after (Ws.step toString) always (Ws.upgrade ⟨2, [result 9], false⟩ ⟨false, true, false⟩)
      [.broadcast (result 10), .upgraded true, .recv, .broadcast (result 11), .sent true, .deliver, .recv, .sent true,
        .incoming .other, .broadcast (result 12), .broadcast (result 13), .broadcast (result 14)]
    let y := after (Ws.step toString) always x.1 [.recv, .deliver, .deliver]
    (x.1.results.Lags x.1.rx ∧ texts (receivedFrames x.2) = [written (some 10)] ∧
        receivedFrames y.2 = [.text (written (some 11)), .close]) ∧
      (∃ told, told <+: broadcastResults x.2 ∧
        (texts (receivedFrames x.2)).map Except.ok = told.map fun result => toString result.serialize) ∧
      (sentFrames y.2 = [] ∨ sentFrames y.2 = [.close]) := by
  intro written toString result x y
  have hrun : Run (Ws.step toString) (fun s a => always s a = true) _ x.1 x.2 := run_after (by decide +kernel)
  have hrun' : Run (Ws.step toString) (fun s a => always s a = true) x.1 y.1 y.2 := run_after (by decide +kernel)
  have hlags : x.1.results.Lags x.1.rx := by decide +kernel
  have hgap := stream_has_no_gap (fun value => ⟨_, rfl⟩) hrun
  exact ⟨⟨hlags, by decide +kernel, by decide +kernel⟩, hgap.1, hgap.2 hlags hrun'⟩

end Monitra
