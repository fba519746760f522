import Mathlib.Data.List.Forall2
import Monitra.Library.Str
import Monitra.Backend.Http

/-!
# The checks of a credential (`crates/backend/src/auth.rs`)

Three layers of the router: the human token in the `Authorization` header, the same token also as a subprotocol for `/ws`, and
an agent's own token for the routes of that agent. A check runs the rest of the route (`next`) on the request, or answers that
the request is unauthorized.

`toStr` is `HeaderValue::to_str(..).ok()`, a parameter of the checks, since a header value is a type of another crate. For
header values given as their bytes it is `visibleAscii`.
-/

namespace Monitra

/-- `to_str` on the bytes of a header value: the text, when all of it is visible ASCII. -/
def visibleAscii (bytes : List UInt8) : Option String :=
  if bytes.all fun b => (32 ≤ b ∧ b < 127) ∨ b = 9 then some (String.ofList (bytes.map fun b => Char.ofNat b.toNat)) else none

/-- Byte comparison that looks at every byte of slices of the same length. -/
def constantTimeEq (a b : List UInt8) : Bool :=
  if a.length ≠ b.length then false
  else (a.zip b).foldl (fun diff xy => diff ||| (xy.1 ^^^ xy.2)) (0 : UInt8) == 0

section

variable {V α : Type} (toStr : V → Option String)

def bearerToken (request : Request V) : Option String :=
  ((request.get .authorization).bind toStr).bind (Str.stripPrefix "Bearer ")

/-- The first subprotocol offered. -/
def wsProtocolToken (request : Request V) : Option String :=
  (((request.get .secWebSocketProtocol).bind toStr).bind fun value => (Str.split ',' value).head?).map Str.trim

def requireToken (state : AppState) (request : Request V) (next : Request V → α) : Except StatusCode α :=
  match bearerToken toStr request with
  | some token =>
    if constantTimeEq (Str.asBytes token) (Str.asBytes state.token) then .ok (next request) else .error .unauthorized
  | none => .error .unauthorized

def requireTokenWs (state : AppState) (request : Request V) (next : Request V → α) : Except StatusCode α :=
  match (bearerToken toStr request).orElse fun _ => wsProtocolToken toStr request with
  | some token =>
    if constantTimeEq (Str.asBytes token) (Str.asBytes state.token) then .ok (next request) else .error .unauthorized
  | none => .error .unauthorized

/-- An agent that does not exist, one that the store fails to read and a wrong token are answered alike. -/
def requireAgentToken (state : AppState) (id : UInt64) (request : Request V) (next : Request V → α) :
    Except StatusCode α :=
  match bearerToken toStr request with
  | none => .error .unauthorized
  | some provided =>
    match Service.provider (state.store.getAgent id) with
    | .error _ => .error .unauthorized
    | .ok (some agent) =>
      if constantTimeEq (Str.asBytes provided) (Str.asBytes agent.token) then .ok (next request) else .error .unauthorized
    | .ok none => .error .unauthorized

end

/-! ## What the checks admit -/

/-- The accumulated difference is zero when it was and the bytes agree pairwise. -/
theorem foldl_diff_eq_zero : ∀ (l : List (UInt8 × UInt8)) (diff : UInt8),
    l.foldl (fun diff xy => diff ||| (xy.1 ^^^ xy.2)) diff = 0 ↔ diff = 0 ∧ ∀ xy ∈ l, xy.1 = xy.2
  | [], diff => by simp
  | xy :: l, diff => by
    rw [List.foldl_cons, foldl_diff_eq_zero l, UInt8.or_eq_zero_iff, UInt8.xor_eq_zero_iff, and_assoc, List.forall_mem_cons]

/-- The comparison decides equality. -/
@[simp] theorem constantTimeEq_iff {a b : List UInt8} : constantTimeEq a b = true ↔ a = b := by
  have hzip : a = b ↔ a.length = b.length ∧ ∀ {x y}, (x, y) ∈ a.zip b → x = y := by
    rw [← List.forall₂_iff_zip, List.forall₂_eq_eq_eq]
  unfold constantTimeEq
  split
  · rename_i hlen
    simp only [Bool.false_eq_true, hzip, hlen, false_and]
  · rename_i hlen
    rw [beq_iff_eq, foldl_diff_eq_zero, hzip]
    exact ⟨fun h => ⟨not_not.mp hlen, fun hxy => h.2 _ hxy⟩, fun h => ⟨rfl, fun xy hxy => h.2 hxy⟩⟩

section

variable {V α : Type} {toStr : V → Option String} {state : AppState} {request : Request V} {next : Request V → α}

/-- What the comparison of a presented token with the expected one lets through. -/
theorem compare_eq_ok {candidate : Option String} {expected : String} {x y : α} :
    (match candidate with
      | some token =>
        if constantTimeEq (Str.asBytes token) (Str.asBytes expected) then .ok y else .error StatusCode.unauthorized
      | none => .error StatusCode.unauthorized) = Except.ok x ↔ candidate = some expected ∧ x = y := by
  cases candidate with
  | none => simp
  | some token =>
    simp only [constantTimeEq_iff, Str.asBytes_inj, Option.some.injEq]
    split
    · rename_i h
      simp [h, eq_comm]
    · rename_i h
      simp [h]

/-- The human token is admitted as the bearer value only. -/
theorem requireToken_eq_ok {x : α} :
    requireToken toStr state request next = .ok x ↔ bearerToken toStr request = some state.token ∧ x = next request :=
  compare_eq_ok

/-- The human token is admitted as the bearer value or, without one, as the first subprotocol. -/
theorem requireTokenWs_eq_ok {x : α} :
    requireTokenWs toStr state request next = .ok x ↔
      (bearerToken toStr request).orElse (fun _ => wsProtocolToken toStr request) = some state.token ∧ x = next request :=
  compare_eq_ok

/-- An agent's token is admitted as the bearer value, for the agent it is stored with. -/
theorem requireAgentToken_eq_ok {id : UInt64} {x : α} :
    requireAgentToken toStr state id request next = .ok x ↔
      (∃ row, state.store.agents.get? id.toInt64 = some row ∧ bearerToken toStr request = some row.token) ∧
        x = next request := by
  unfold requireAgentToken
  cases ht : bearerToken toStr request with
  | none => simp
  | some provided =>
    cases hrow : state.store.agents.get? id.toInt64 with
    | none => simp [Service.provider, Db.getAgent, Except.mapError, hrow]
    | some row =>
      simp only [Service.provider, Db.getAgent, Except.mapError, hrow, Option.map_some, rowToAgent, constantTimeEq_iff,
        Str.asBytes_inj, Option.some.injEq, exists_eq_left']
      split
      · rename_i h
        simp [h, eq_comm]
      · rename_i h
        simp [h]

/-- A request that is not admitted is answered with the one status. -/
theorem requireAgentToken_eq_error {id : UInt64} {code : StatusCode}
    (h : requireAgentToken toStr state id request next = .error code) : code = .unauthorized := by
  unfold requireAgentToken at h
  repeat' split at h
  all_goals cases h
  all_goals rfl

end

end Monitra
