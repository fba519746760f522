import Mathlib.Data.List.DropRight
import Monitra.Backend.Answers

/-!
# A tab of the web dashboard (`web/src/api/client.ts`, `auth.tsx`, `App.tsx`)

A tab asks for the token, keeps it in the browser's storage, and while the dashboard is mounted it fetches snapshots, at an interval
and when the live feed has something. A snapshot is as it was fetched; what the views make of it is left out. The storage may throw at
any call. Requests are answered by the router, each in a state of its own, or they fail. Other tabs share the storage.
-/

namespace Monitra

namespace Web

/-- The browser and the way to the daemon: how a text is sent as the value of a header, and what the daemon makes of it. -/
structure Browser (V : Type) where
  axum : Axum V
  assets : String → Option (List UInt8)
  header : String → V

/-- What a request meets: the state of the daemon and what its handler is given, or why it fails. -/
abbrev Arrival : Type := Except String (ApiState × Env)

inductive FetchError where
  | failed (message : String)
  /-- `ApiError` -/
  | api (status : Nat) (url : String)
  deriving DecidableEq, Repr

def FetchError.message : FetchError → String
  | .failed message => message
  | .api status url => "request to " ++ url ++ " failed with " ++ toString status

structure Snapshot where
  monitors : Json
  agents : Json
  alerts : Json
  health : Json
  deriving Repr

section

variable {V : Type} (browser : Browser V)

/-- `fetch`, with the token if there is one that is not empty. -/
def request (token : Option String) (path : String) : ApiRequest V where
  method := .get
  path := path
  query := []
  headers := ⟨((token.filter fun token => !token.isEmpty).map fun token =>
    (.authorization, browser.header ("Bearer " ++ token))).toList⟩
  json := ⟨.error 415, .error 415, .error 415, .error 415⟩
  upgrade := some 400

def fetch (arrive : Arrival) (token : Option String) (path : String) : Except FetchError ApiResponse :=
  match arrive with
  | .error message => .error (.failed message)
  | .ok (state, env) => .ok (serve browser.axum env state (request browser token path) browser.assets).2

/-- `response.ok` -/
def isOk (response : ApiResponse) : Bool := 200 ≤ response.status ∧ response.status < 300

def getJson (arrive : Arrival) (token : Option String) (path : String) : Except FetchError Json := do
  let response ← fetch browser arrive token path
  if isOk response then
    match response.body.json with
    | some value => return value
    | none => throw (.failed "the body is not JSON")
  else throw (.api response.status path)

/-- The paths that a snapshot is fetched from. -/
def Snapshot.paths : List String := ["/monitors", "/agents", "/alerts", "/health"]

/-- `getSnapshot`. It fails with the error of the request that failed first. -/
def getSnapshot (arrive : String → Arrival) (first : String) (token : Option String) : Except FetchError Snapshot :=
  let get := fun path => getJson browser (arrive path) token path
  match get first with
  | .error e => .error e
  | .ok _ => do return ⟨← get "/monitors", ← get "/agents", ← get "/alerts", ← get "/health"⟩

/-- The handshake of the live feed, with the token as its subprotocol. -/
def wsRequest (token : String) : ApiRequest V where
  method := .get
  path := "/ws"
  query := []
  headers := ⟨[(.secWebSocketProtocol, browser.header token)]⟩
  json := ⟨.error 415, .error 415, .error 415, .error 415⟩
  upgrade := none

/-- `WebSocketUpgrade::protocols`, with the token as the one protocol that the daemon knows: what it selects of those offered. -/
def selectedProtocol (token : String) (headers : Request V) : Option String :=
  ((headers.get .secWebSocketProtocol).bind browser.axum.toStr).bind fun offered =>
    if token ∈ (Str.split ',' offered).map Str.trim then some token else none

/-- Whether the feed opens: the protocols are switched, and the one that was offered is selected. -/
def opens (arrive : Arrival) (token : String) : Bool :=
  match arrive with
  | .error _ => false
  | .ok (state, env) =>
    let request := wsRequest browser token
    (serve browser.axum env state request browser.assets).2.status = 101 ∧
      selectedProtocol browser state.token request.headers = some token

end

/-- White space to `String.prototype.trim`. -/
def isSpace (c : Char) : Bool :=
  (9 ≤ c.toNat ∧ c.toNat ≤ 13) ∨ c.toNat ∈ [0x20, 0xa0, 0x1680, 0x2028, 0x2029, 0x202f, 0x205f, 0x3000, 0xfeff] ∨
    (0x2000 ≤ c.toNat ∧ c.toNat ≤ 0x200a)

def trim (value : String) : String := String.ofList ((value.toList.dropWhile isSpace).rdropWhile isSpace)

/-- What `new WebSocket` takes as a subprotocol: characters from `!` to `~` that are no separators. -/
def validProtocol (token : String) : Bool :=
  !token.isEmpty && token.toList.all fun c => '!' ≤ c ∧ c ≤ '~' ∧ c ∉ "()<>@,;:\\\"/[]?=\x7b\x7d".toList

inductive Socket where
  | absent
  | connecting (token : String)
  | opened
  /-- `connect` is called again after the delay. -/
  | closed
  deriving DecidableEq, Repr

/-- A snapshot that is being fetched: for which dashboard, and with what token. -/
structure Refresh where
  mount : Nat
  token : Option String
  deriving DecidableEq, Repr

structure Tab where
  storage : Option String
  authed : Bool
  /-- The token that the gate is verifying. -/
  checking : Option String
  /-- The dashboard that is mounted: how many were before it. -/
  mount : Option Nat
  mounts : Nat
  snapshot : Option Snapshot
  lastError : Option String
  inFlight : List Refresh
  socket : Socket
  /-- An effect has thrown, and the page is blank. -/
  crashed : Bool

inductive TabAction where
  /-- The form of the gate is submitted. -/
  | submit (value : String)
  | verified (arrive : Arrival) (writes : Bool)
  /-- The page is rendered after `authed` has changed. -/
  | render (reads : Bool)
  /-- The interval fires. -/
  | refresh (reads : Bool)
  /-- A snapshot has been fetched, or not: then `first` failed first. -/
  | settle (i : Nat) (arrive : String → Arrival) (first : String) (removes : Bool)
  /-- The handshake of the live feed is answered. -/
  | handshake (arrive : Arrival)
  /-- The live feed has a message. -/
  | message (reads : Bool)
  | close
  /-- The delay after which the live feed is tried again is over. -/
  | retry (reads : Bool)
  /-- Another tab writes the storage. -/
  | others (storage : Option String)

/-- A refresh that settled. -/
structure Settled where
  refresh : Refresh
  arrive : String → Arrival
  result : Except FetchError Snapshot

/-- What the tab shows. -/
inductive Page where
  | blank
  | gate
  | connecting
  | dashboard (snapshot : Snapshot) (live : Bool)

namespace Tab

/-- A page that is loaded. -/
def load (storage : Option String) (reads : Bool) : Tab :=
  ⟨storage, reads && storage.isSome, none, none, 0, none, none, [], .absent, false⟩

def getToken (s : Tab) (reads : Bool) : Option String := if reads then s.storage else none

def screen (s : Tab) : Page :=
  if s.crashed then .blank
  else
    match s.mount, s.snapshot with
    | none, _ => .gate
    | some _, none => .connecting
    | some _, some snapshot => .dashboard snapshot s.lastError.isNone

/-- `refresh()` -/
def startRefresh (s : Tab) (mount : Nat) (reads : Bool) : Tab := { s with inFlight := s.inFlight ++ [⟨mount, s.getToken reads⟩] }

/-- `connect()`: the token that the feed is tried with, none if there is no token to try it with, and an exception if it cannot be. -/
def connect (s : Tab) (reads : Bool) : Except Unit (Option String) :=
  match (s.getToken reads).filter fun token => !token.isEmpty with
  | none => .ok none
  | some token => if validProtocol token then .ok (some token) else .error ()

/-- The dashboard is mounted, and its effect run. -/
def mountDashboard (s : Tab) (reads : Bool) : Tab :=
  let s := { s with mount := some s.mounts, mounts := s.mounts + 1, snapshot := none, lastError := none }.startRefresh s.mounts reads
  match s.connect reads with
  | .ok token => { s with socket := token.elim .absent .connecting }
  | .error () => { s with crashed := true }

/-- What a refresh of the mounted dashboard sets. -/
def onSettled (s : Tab) (removes : Bool) : Except FetchError Snapshot → Tab
  | .ok snapshot => { s with snapshot := some snapshot, lastError := none }
  | .error e =>
    match e with
    | .api 401 _ => { s with storage := if removes then none else s.storage, authed := false }
    | e => { s with lastError := some e.message }

def step {V : Type} (browser : Browser V) (s : Tab) : TabAction → Option (Tab × List Settled)
  | .submit value =>
    let candidate := trim value
    if s.crashed = false ∧ s.authed = false ∧ s.mount = none ∧ s.checking = none ∧ candidate.isEmpty = false then
      some ({ s with checking := some candidate }, [])
    else none
  | .verified arrive writes =>
    s.checking.map fun candidate =>
      let s := { s with checking := none }
      match fetch browser arrive (some candidate) "/monitors" with
      | .ok response =>
        if isOk response then ({ s with storage := if writes then some candidate else s.storage, authed := true }, []) else (s, [])
      | .error _ => (s, [])
  | .render reads =>
    if s.crashed then none
    else
      match s.authed, s.mount with
      | true, none => some (s.mountDashboard reads, [])
      | false, some _ => some ({ s with mount := none, snapshot := none, lastError := none, socket := .absent }, [])
      | _, _ => none
  | .refresh reads => s.mount.map fun mount => (s.startRefresh mount reads, [])
  | .settle i arrive first removes =>
    if first ∈ Snapshot.paths then
      s.inFlight[i]?.map fun refresh =>
        let s := { s with inFlight := s.inFlight.eraseIdx i }
        let result := getSnapshot browser arrive first refresh.token
        -- a dashboard that has been unmounted is not `current`
        (if s.mount = some refresh.mount then s.onSettled removes result else s, [⟨refresh, arrive, result⟩])
    else none
  | .handshake arrive =>
    match s.socket with
    | .connecting token => some ({ s with socket := if opens browser arrive token then .opened else .closed }, [])
    | _ => none
  | .message reads =>
    match s.socket, s.mount with
    | .opened, some mount => some (s.startRefresh mount reads, [])
    | _, _ => none
  | .close => if s.socket = .opened then some ({ s with socket := .closed }, []) else none
  | .retry reads =>
    if s.socket = .closed then
      match s.connect reads with
      | .ok token => some ({ s with socket := token.elim .absent .connecting }, [])
      | .error () => some ({ s with socket := .absent }, [])
    else none
  | .others storage => some ({ s with storage }, [])

end Tab

end Web

end Monitra
