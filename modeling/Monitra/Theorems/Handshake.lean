import Monitra.Theorems.Feed
import Monitra.Theorems.Strangers
import Monitra.Tui.Client

/-!
# The terminal's live feed is refused

The handshake for `/ws` carries no credential, and the daemon asks for one. With a base URL that has a path the handshake is for some
other path of the daemon's, where no protocols are switched. So the feed never has a connection, and the terminal is refreshed by the
ticks of its interval.
-/

namespace Monitra

open Runs Tui

namespace HandshakeAux

variable {client : Client} {net : Network}

/-- The handshake presents no credential, whatever the token is. -/
theorem not_authorized_wsRequest (state : ApiState) : authorized net.axum state (client.wsRequest net) = false := by
  unfold authorized
  cases Endpoint.find (client.wsRequest net).path with
  | none => rfl
  | some x =>
    obtain ⟨endpoint, param⟩ := x
    dsimp only
    split
    · rfl
    · rfl
    · rfl
    · split
      · rfl
      · simp [bearerToken, Request.get, Client.wsRequest]

/-- A client without a credential is never switched to another protocol. -/
theorem status_stranger {axum : Axum (List UInt8)} {assets : String → Option (List UInt8)} {health : HealthResponse}
    {request : ApiRequest (List UInt8)} : (stranger axum assets health request).status ≠ 101 := by
  unfold stranger
  rw [RouterAux.status_to]
  split
  · unfold fallback
    dsimp only
    repeat' split
    all_goals simp
  · split
    · decide
    · split
      · simp
      · unfold Guard.refusal
        split
        · split
          · rename_i hid
            unfold Axum.pathId at hid
            split at hid
            · cases hid
            · cases hid
              decide
          · decide
        · decide

/-- The feed never connects. -/
theorem connectAsync_eq (client : Client) (net : Network) : client.connectAsync net = false := by
  unfold Client.connectAsync
  cases net.arrive client.wsUrl with
  | error source => rfl
  | ok arrived =>
    obtain ⟨state, env⟩ := arrived
    dsimp only
    rw [StrangersAux.serve_of_not_authorized (not_authorized_wsRequest state)]
    exact decide_eq_false status_stranger

/-- The fetches that are under way, or will be when the connection that is tried has failed. -/
def pending : PollPoint → Nat
  | .fetching | .selecting .connecting => 1
  | _ => 0

theorem pending_le (point : PollPoint) : pending point ≤ 1 := by
  unfold pending
  split <;> decide

/-- A disconnected loop fetches a snapshot for a tick or for a reconnect attempt, and for nothing else. -/
structure Idle (now : Nat) (s : PollLoop) (log : List PollEvent) : Prop where
  stream : s.stream = false
  started : now ≤ s.now
  ticks : ∃ ticks, s.nextTick = now + POLL_INTERVAL * ticks ∧ s.nextTick ≤ s.now + POLL_INTERVAL ∧
    log.count .snapshot + pending s.point ≤ ticks + log.count .reconnect

theorem idle_step {late now : Nat} {s s' : PollLoop} {log ev : List PollEvent} {a : PollAction} (hI : Idle now s log)
    (hok : ∀ b, a = .started b ∨ a = .connected b → b = false) (h : s.step late a = some (s', ev)) : Idle now s' (log ++ ev) := by
  obtain ⟨hstream, hstarted, ticks, hnext, hdue, hcount⟩ := hI
  cases a with
  | advance d =>
    simp only [PollLoop.step] at h
    split at h
    · cases h
      refine ⟨hstream, Nat.le_trans hstarted (Nat.le_add_right _ _), ticks, hnext, ?_, ?_⟩
      · dsimp only
        omega
      · rw [List.append_nil]
        exact hcount
    · cases h
  | started ok =>
    simp only [PollLoop.step] at h
    split at h
    · cases h
      refine ⟨hok ok (Or.inl rfl), hstarted, ticks, hnext, hdue, ?_⟩
      rw [List.append_nil]
      exact Nat.le_trans (Nat.add_le_add_left (Nat.zero_le _) _) hcount
    · cases h
  | polled =>
    simp only [PollLoop.step, PollLoop.waitForEvent, hstream] at h
    split at h
    · cases h
      refine ⟨rfl, hstarted, ticks, hnext, hdue, ?_⟩
      rw [List.append_nil]
      exact Nat.le_trans (Nat.add_le_add_left (Nat.zero_le _) _) hcount
    · cases h
  | tick =>
    simp only [PollLoop.step] at h
    split at h
    · split at h
      · cases h
        refine ⟨hstream, hstarted, ticks + 1, ?_, ?_, ?_⟩
        · dsimp only
          rw [hnext, Nat.mul_add, Nat.mul_one, Nat.add_assoc]
        · dsimp only
          omega
        · have hone := pending_le .fetching
          rw [List.append_nil]
          dsimp only
          omega
      · cases h
    · cases h
  | next message =>
    simp only [PollLoop.step, hstream] at h
    split at h <;> cases h
  | elapsed =>
    simp only [PollLoop.step] at h
    split at h
    · rename_i hpoint
      split at h
      · cases h
        refine ⟨hstream, hstarted, ticks, hnext, hdue, ?_⟩
        have hone := pending_le (.selecting .connecting)
        have hsnapshot : List.count PollEvent.snapshot [.reconnect] = 0 := rfl
        have hreconnect : List.count PollEvent.reconnect [.reconnect] = 1 := rfl
        rw [List.count_append, List.count_append, hsnapshot, hreconnect]
        dsimp only
        omega
      · cases h
    · cases h
  | connected ok =>
    simp only [PollLoop.step] at h
    split at h
    · rename_i hpoint
      cases h
      refine ⟨hok ok (Or.inr rfl), hstarted, ticks, hnext, hdue, ?_⟩
      rw [List.append_nil]
      rw [hpoint] at hcount
      exact hcount
    · cases h
  | fetched =>
    simp only [PollLoop.step] at h
    split at h
    · rename_i hpoint
      cases h
      refine ⟨hstream, hstarted, ticks, hnext, hdue, ?_⟩
      rw [hpoint] at hcount
      rw [List.count_append, List.count_append]
      exact hcount
    · cases h

end HandshakeAux

open FeedAux HandshakeAux

/-- The terminal has no live feed. In every run of its data layer in which connections come about as the daemon's router answers the
handshake, in whatever states, with whatever token and for whatever base URL, the feed never has a connection: a snapshot is fetched
for a tick of the interval or after a reconnect attempt that failed, and never for anything that the daemon broadcasts. A runtime that
is less late than the retry delay is longer than the interval makes no such attempt. -/
theorem the_terminal_has_no_feed {late now : Nat} {ok : PollLoop → PollAction → Prop}
    (hconnect : ∀ s b, ok s (.started b) ∨ ok s (.connected b) → ∃ (client : Client) (net : Network), b = client.connectAsync net)
    {s : PollLoop} {log : List PollEvent} (hrun : Run (PollLoop.step late) ok (PollLoop.start now) s log) :
    s.stream = false ∧ log.count .snapshot ≤ (s.now - now) / POLL_INTERVAL + 1 + log.count .reconnect ∧
      (POLL_INTERVAL + late < WS_RETRY_DELAY → log.count .reconnect = 0) := by
  have hidle : Idle now s log := by
    refine hrun.invariant (I := Idle now) ⟨rfl, Nat.le_refl _, 0, rfl, Nat.le_add_right _ _, Nat.le_refl _⟩ ?_
    refine fun s s' log ev a hI hok hs => idle_step hI (fun b hb => ?_) hs
    obtain ⟨client, net, rfl⟩ := hconnect s b (by
      rcases hb with rfl | rfl
      · exact Or.inl hok
      · exact Or.inr hok)
    exact connectAsync_eq client net
  refine ⟨hidle.stream, ?_, fun hlate => ?_⟩
  · obtain ⟨ticks, hnext, hdue, hcount⟩ := hidle.ticks
    have hstarted := hidle.started
    have hticks : ticks ≤ (s.now - now) / POLL_INTERVAL + 1 := by
      rw [← Nat.add_div_right _ (by decide), Nat.le_div_iff_mul_le (by decide), Nat.mul_comm]
      omega
    omega
  · have hnever : .reconnect ∉ log := fun hmem =>
      not_reconnect hlate (inv_start late now) ⟨s, log, hrun.mono fun _ _ _ => rfl, hmem⟩
    exact List.count_eq_zero.mpr hnever

namespace HandshakeExample

/-- What the daemon does not do does not happen. -/
def refused (_ : PollLoop) (a : PollAction) : Bool := a ≠ .started true ∧ a ≠ .connected true

/-- A daemon that every request reaches. -/
def net : Network where
  axum := ⟨visibleAscii, some, true⟩
  assets := fun _ => none
  target := fun _ => ("/ws", [])
  arrive := fun _ => .ok (ApiExample.start, ApiExample.env)

def client : Client := ⟨"http://daemon", "secret"⟩

end HandshakeExample

open HandshakeExample in
/-- The client has the daemon's token, and its handshake is answered with 401. -/
theorem the_terminal_has_no_feed_refused :
    let x := after (PollLoop.step 0) refused (PollLoop.start 0) [.started false, .tick, .fetched, .polled, .advance 1000000000]
    (serve net.axum ApiExample.env ApiExample.start (client.wsRequest net) net.assets).2.status = 401 ∧
      x.1.stream = false ∧ x.2 = [.snapshot] ∧ x.2.count .snapshot ≤ 1000000000 / POLL_INTERVAL + 1 := by
  intro x
  have hrun : Run (PollLoop.step 0) (fun s a => refused s a = true) (PollLoop.start 0) x.1 x.2 := run_after (by decide +kernel)
  have hconnect : ∀ s b, refused s (.started b) = true ∨ refused s (.connected b) = true →
      ∃ (client : Client) (net : Network), b = client.connectAsync net := by
    intro s b h
    refine ⟨client, net, ?_⟩
    cases b with
    | false => decide +kernel
    | true =>
      have hrefused : refused s (.started true) = false ∧ refused s (.connected true) = false := ⟨rfl, rfl⟩
      simp [hrefused] at h
  obtain ⟨hstream, hcount, hnever⟩ := the_terminal_has_no_feed hconnect hrun
  rw [hnever (by decide)] at hcount
  exact ⟨by decide +kernel, hstream, by decide +kernel, hcount⟩

end Monitra
