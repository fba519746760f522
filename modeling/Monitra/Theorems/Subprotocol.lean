import Monitra.Lemmas.Tab

/-!
# The token as a subprotocol

A tab offers the token as the subprotocol of its live feed. Not every token is one: with a generated token the dashboard has its feed,
and with one that is no subprotocol the page goes blank as soon as the dashboard is mounted.
-/

namespace Monitra

open Runs

namespace Web

/-- A text without white space around it is sent as it is, and read if all of it is visible ASCII. -/
def Browser.Sends {V : Type} (browser : Browser V) : Prop :=
  ∀ text, trim text = text → browser.axum.toStr (browser.header text) =
    if text.toList.all fun c => (' ' ≤ c ∧ c ≤ '~') ∨ c = '\t' then some text else none

/-- A request that arrives meets a daemon with the token. -/
def Arrival.Meets (arrive : Arrival) (token : String) : Prop := ∀ state env, arrive = .ok (state, env) → state.token = token

/-- The storage works, other tabs keep nothing but the token in it, and it is the token of every daemon that a request meets. -/
def TabAction.Works (token : String) : TabAction → Prop
  | .submit _ | .close => True
  | .verified arrive writes => writes = true ∧ arrive.Meets token
  | .render reads | .refresh reads | .message reads | .retry reads => reads = true
  | .settle _ arrive _ _ => ∀ path, (arrive path).Meets token
  | .handshake arrive => arrive.Meets token
  | .others storage => storage = some token

end Web

open Web RouterAux TabAux

namespace SubprotocolAux

/-! ## Texts -/

theorem toNat_of_validProtocol {token : String} (h : validProtocol token = true) :
    token.toList ≠ [] ∧ ∀ c ∈ token.toList, 33 ≤ c.toNat ∧ c.toNat ≤ 126 ∧ c ≠ ',' := by
  rw [validProtocol, Bool.and_eq_true] at h
  obtain ⟨hempty, hall⟩ := h
  refine ⟨fun hnil => ?_, fun c hc => ?_⟩
  · rw [String.toList_eq_nil_iff.mp hnil] at hempty
    cases hempty
  · obtain ⟨hfirst, hlast, hseparator⟩ := of_decide_eq_true (List.all_eq_true.mp hall c hc)
    refine ⟨hfirst, hlast, fun he => hseparator ?_⟩
    rw [he]
    decide

theorem isSpace_eq_false {c : Char} (h : 33 ≤ c.toNat ∧ c.toNat ≤ 126) : isSpace c = false := by
  simp only [isSpace, decide_eq_false_iff_not, List.mem_cons, List.not_mem_nil, or_false]
  omega

theorem isWhitespace_eq_false {c : Char} (h : 33 ≤ c.toNat ∧ c.toNat ≤ 126) : Str.isWhitespace c = false := by
  have hall : ∀ n < 127, 33 ≤ n → Str.isWhitespace (Char.ofNat n) = false := by decide
  have hc := hall c.toNat (by omega) h.1
  rwa [Char.ofNat_toNat] at hc

/-- What a text that is sent behind `Bearer ` ends with is not white space. -/
theorem trim_bearer {text : String} (hne : text.toList ≠ []) (h : isSpace (text.toList.getLast hne) = false) :
    trim ("Bearer " ++ text) = "Bearer " ++ text := by
  have hfront : ("Bearer ".toList ++ text.toList).dropWhile isSpace = "Bearer ".toList ++ text.toList :=
    List.dropWhile_cons_of_neg (by decide)
  rw [trim, String.toList_append, hfront, List.rdropWhile_eq_self_iff.mpr]
  · rw [String.ofList_append, String.ofList_toList, String.ofList_toList]
  · intro hl
    rw [List.getLast_append_of_ne_nil hl hne, h]
    decide

/-- A subprotocol has no white space. -/
theorem trim_of_validProtocol {token : String} (h : validProtocol token = true) :
    trim token = token ∧ trim ("Bearer " ++ token) = "Bearer " ++ token ∧ Str.trim token = token := by
  obtain ⟨hne, hall⟩ := toNat_of_validProtocol h
  have hspace : ∀ c ∈ token.toList, isSpace c = false := fun c hc => isSpace_eq_false ⟨(hall c hc).1, (hall c hc).2.1⟩
  have hwhite : ∀ c ∈ token.toList, Str.isWhitespace c = false := fun c hc => isWhitespace_eq_false ⟨(hall c hc).1, (hall c hc).2.1⟩
  refine ⟨?_, trim_bearer hne (hspace _ (List.getLast_mem hne)), Str.trim_of_forall hwhite⟩
  rw [trim, List.dropWhile_eq_self_iff.mpr fun hl => by simp [hspace], List.rdropWhile_eq_self_iff.mpr fun hl => by simp [hspace],
    String.ofList_toList]

theorem sendable_of_validProtocol {token : String} (h : validProtocol token = true) :
    (token.toList.all fun c => (' ' ≤ c ∧ c ≤ '~') ∨ c = '\t') = true := by
  rw [List.all_eq_true]
  intro c hc
  obtain ⟨hfirst, hlast, -⟩ := (toNat_of_validProtocol h).2 c hc
  refine decide_eq_true (Or.inl ⟨?_, hlast⟩)
  exact Nat.le_trans (by decide : ' '.toNat ≤ 33) hfirst

theorem hexDigit_valid : ∀ n < 16, '!' ≤ hexDigit n ∧ hexDigit n ≤ '~' ∧ hexDigit n ∉ "()<>@,;:\\\"/[]?=\x7b\x7d".toList := by
  decide

/-- A generated token is a subprotocol. -/
theorem validProtocol_generateApiToken (bytes : Vector UInt8 32) : validProtocol (generateApiToken bytes) = true := by
  have hne : (generateApiToken bytes).isEmpty = false := by
    rw [Bool.eq_false_iff, Ne, String.isEmpty_iff]
    intro he
    have hlength := length_generateApiToken bytes
    rw [he] at hlength
    cases hlength
  rw [validProtocol, hne]
  simp only [Bool.not_false, Bool.true_and, List.all_eq_true, decide_eq_true_eq, generateApiToken, String.toList_ofList,
    List.mem_flatMap, List.mem_cons, List.not_mem_nil, or_false]
  rintro c ⟨b, -, rfl | rfl⟩
  · exact hexDigit_valid _ (by have hb := b.toNat_lt; omega)
  · exact hexDigit_valid _ (Nat.mod_lt _ (by decide))

/-! ## The token on the way to the daemon -/

section

variable {V : Type} {browser : Browser V} {token : String} {state : ApiState} {env : Env}

theorem bearerToken_request (h : token.isEmpty = false) (path : String) :
    bearerToken browser.axum.toStr (request browser (some token) path).headers =
      (browser.axum.toStr (browser.header ("Bearer " ++ token))).bind (Str.stripPrefix "Bearer ") := by
  have hheader : (request browser (some token) path).headers.get .authorization = some (browser.header ("Bearer " ++ token)) := by
    simp [request, Request.get, Option.filter, h]
  rw [bearerToken, hheader, Option.bind_some]

theorem bearerToken_of_validProtocol (hsends : browser.Sends) (h : validProtocol token = true) (path : String) :
    bearerToken browser.axum.toStr (request browser (some token) path).headers = some token := by
  have hne : token.isEmpty = false := by
    rw [validProtocol, Bool.and_eq_true] at h
    simpa using h.1
  have hsendable : ("Bearer " ++ token).toList.all (fun c => (' ' ≤ c ∧ c ≤ '~') ∨ c = '\t') = true := by
    rw [String.toList_append, List.all_append, sendable_of_validProtocol h]
    decide
  rw [bearerToken_request hne, hsends _ (trim_of_validProtocol h).2.1, if_pos hsendable, Option.bind_some, Str.stripPrefix_append]

/-- A text that the gate accepts is the token. -/
theorem eq_of_accepted (hsends : browser.Sends) {value : String} (hne : (trim value).isEmpty = false) (htoken : state.token = token)
    (h : isOk (serve browser.axum env state (request browser (some (trim value)) "/monitors") browser.assets).2 = true) :
    trim value = token := by
  have hfind : Endpoint.find "/monitors" = some (.monitors, "") := by decide +kernel
  have hfind' : Endpoint.find (request browser (some (trim value)) "/monitors").path = some (.monitors, "") := hfind
  have hrun : Handler.listMonitors.run browser.axum env state (request browser (some (trim value)) "/monitors") "" =
      reading state .monitors (Monitors.list state.store env.fault) := rfl
  have hguard : Endpoint.monitors.guard = .token := rfl
  rw [serve_reading hfind' rfl rfl hrun, hguard, check_token] at h
  have hnil : (trim value).toList ≠ [] := by
    rw [Ne, String.toList_eq_nil_iff, ← String.isEmpty_iff, hne]
    decide
  have hlast : isSpace ((trim value).toList.getLast hnil) = false := by
    have htrimmed : (trim value).toList = (value.toList.dropWhile isSpace).rdropWhile isSpace := String.toList_ofList
    simp only [htrimmed]
    exact Bool.eq_false_iff.mpr (List.rdropWhile_last_not _ _ (htrimmed ▸ hnil))
  by_cases hbearer : bearerToken browser.axum.toStr (request browser (some (trim value)) "/monitors").headers = some state.token
  · rw [bearerToken_request hne, hsends _ (trim_bearer hnil hlast)] at hbearer
    split at hbearer
    · rw [Option.bind_some, Str.stripPrefix_append] at hbearer
      exact (Option.some.inj hbearer).trans htoken
    · cases hbearer
  · rw [if_neg hbearer] at h
    cases h

/-- The handshake with the token opens the feed. -/
theorem opens_eq (hsends : browser.Sends) (h : validProtocol token = true) (htoken : state.token = token) :
    opens browser (.ok (state, env)) token = true := by
  obtain ⟨htrim, -, hstr⟩ := trim_of_validProtocol h
  have hread : (wsRequest browser token).headers.get .secWebSocketProtocol = some (browser.header token) := by
    simp [wsRequest, Request.get]
  have htext : browser.axum.toStr (browser.header token) = some token := by
    rw [hsends token htrim, if_pos (sendable_of_validProtocol h)]
  have hsplit : Str.split ',' token = [token] := by
    have hcomma : ',' ∉ token.toList := fun hc => ((toNat_of_validProtocol h).2 _ hc).2.2 rfl
    rw [Str.split, List.splitOn_eq_singleton hcomma, List.map_singleton, String.ofList_toList]
  have hbearer : bearerToken browser.axum.toStr (wsRequest browser token).headers = none := rfl
  have hoffered : wsProtocolToken browser.axum.toStr (wsRequest browser token).headers = some token := by
    simp [wsProtocolToken, hread, htext, hsplit, hstr]
  have hselected : selectedProtocol browser state.token (wsRequest browser token).headers = some token := by
    simp [selectedProtocol, hread, htext, hsplit, hstr, htoken]
  have hguard : Endpoint.ws.guard.check browser.axum env state (wsRequest browser token) "" = .ok () := by
    have hws : Endpoint.ws.guard = .tokenWs := rfl
    rw [hws, check_tokenWs, hbearer, hoffered, htoken]
    exact if_pos rfl
  have hserve : (serve browser.axum env state (wsRequest browser token) browser.assets).2.status = 101 := by
    have hfind : Endpoint.find "/ws" = some (.ws, "") := by decide +kernel
    have hfind' : Endpoint.find (wsRequest browser token).path = some (.ws, "") := hfind
    have hhandler : Endpoint.ws.handler (wsRequest browser token).method = some .upgrade := rfl
    simp only [serve, hfind', Endpoint.answer, hhandler, hguard]
    rfl
  exact decide_eq_true ⟨hserve, hselected⟩

end

/-! ## The tab -/

/-- What a tab is whose storage holds no other token. The dashboard of a token that is no subprotocol is blank; that of another one
stays, with the token and a feed. -/
structure Session (token : String) (s : Tab) : Prop where
  storage : s.storage = none ∨ s.storage = some token
  authed : s.authed = true → s.storage = some token
  checking : ∀ candidate, s.checking = some candidate → ∃ value, candidate = trim value ∧ candidate.isEmpty = false
  crashed : s.crashed = true → validProtocol token = false
  blank : validProtocol token = false → s.socket = .absent ∧ (s.mount.isSome → s.crashed = true)
  lasts : validProtocol token = true → s.mount.isSome → s.authed = true
  tokens : validProtocol token = true → ∀ refresh ∈ s.inFlight, refresh.token = some token
  feed : validProtocol token = true → s.mount.isSome →
    s.socket = .connecting token ∨ s.socket = .opened ∨ s.socket = .closed

variable {V : Type} {browser : Browser V} {token : String} {s s' : Tab} {a : TabAction} {ev : List Settled}

theorem connect_eq (hne : token.isEmpty = false) (h : s.storage = some token) :
    s.connect true = if validProtocol token then .ok (some token) else .error () := by
  simp [Tab.connect, Tab.getToken, h, Option.filter, hne]

/-- With the token no refresh is unauthorized. -/
theorem not_unauthorized (hsends : browser.Sends) (hvalid : validProtocol token = true) {x : Settled} {first : String}
    (hfirst : first ∈ Snapshot.paths) (htoken : x.refresh.token = some token) (harrive : ∀ path, (x.arrive path).Meets token)
    (hresult : x.result = getSnapshot browser x.arrive first x.refresh.token) : x.unauthorized = false := by
  rw [Bool.eq_false_iff]
  intro h
  obtain ⟨path, -, state, env, hmet, hrefused⟩ := refused_of_unauthorized hfirst hresult h
  rw [htoken, bearerToken_of_validProtocol hsends hvalid, harrive path state env hmet] at hrefused
  exact hrefused rfl

theorem Session.token_of_mount (hI : Session token s) (hvalid : validProtocol token = true) (hmount : s.mount.isSome) :
    s.getToken true = some token :=
  hI.authed (hI.lasts hvalid hmount)

/-- The feed of a token that is a subprotocol changes. -/
theorem Session.feeding (hI : Session token s) (hsocket : s.socket ≠ .absent) {socket : Socket}
    (hnext : validProtocol token = true → s.mount.isSome → socket = .connecting token ∨ socket = .opened ∨ socket = .closed) :
    Session token { s with socket } := by
  refine ⟨hI.storage, hI.authed, hI.checking, hI.crashed, fun hinvalid => ?_, hI.lasts, hI.tokens, hnext⟩
  exact absurd (hI.blank hinvalid).1 hsocket

theorem session_step (hsends : browser.Sends) (hne : token.isEmpty = false) (hI : Session token s) (ha : a.Works token)
    (h : Tab.Did browser s a s' ev) :
    Session token s' ∧ (validProtocol token = true → ∀ x ∈ ev, x.unauthorized = false) := by
  have htoken := hI.token_of_mount
  have hfeeding := @hI.feeding
  obtain ⟨hstorage, hauthed, hchecking, hcrashed, hblank, hlasts, htokens, hfeed⟩ := hI
  cases h with
  | @submitted value hgate hmount hvalue =>
    exact ⟨⟨hstorage, hauthed, fun _ hc => ⟨value, (Option.some.inj hc).symm, Option.some.inj hc ▸ hvalue⟩, hcrashed, hblank, hlasts,
      htokens, hfeed⟩, nofun⟩
  | @accepted candidate state env writes hcandidate hok =>
    obtain ⟨value, rfl, hvalue⟩ := hchecking candidate hcandidate
    have htoken : trim value = token := eq_of_accepted hsends hvalue (ha.2 state env rfl) hok
    have hwritten : (if writes then some (trim value) else s.storage) = some token := by rw [ha.1, if_pos rfl, htoken]
    exact ⟨⟨Or.inr hwritten, fun _ => hwritten, nofun, hcrashed, hblank, fun _ _ => rfl, htokens, hfeed⟩, nofun⟩
  | rejected => exact ⟨⟨hstorage, hauthed, nofun, hcrashed, hblank, hlasts, htokens, hfeed⟩, nofun⟩
  | @mounted reads hnot hin hmount =>
    have hreads : reads = true := ha
    have htoken := hauthed hin
    rw [mountDashboard_eq, hreads, connect_eq hne htoken]
    refine ⟨?_, nofun⟩
    cases hvalid : validProtocol token with
    | true =>
      refine ⟨hstorage, hauthed, hchecking, hcrashed, fun hinvalid => ?_, fun _ _ => hin, fun _ refresh hr => ?_, fun _ _ => Or.inl rfl⟩
      · rw [hvalid] at hinvalid
        cases hinvalid
      · rcases List.mem_append.mp hr with hr | hr
        · exact htokens hvalid refresh hr
        · rw [List.mem_singleton.mp hr]
          exact htoken
    | false =>
      have hnever : ∀ {P : Prop}, validProtocol token = true → P := by
        intro P ht
        rw [hvalid] at ht
        cases ht
      exact ⟨hstorage, hauthed, hchecking, fun _ => hvalid, fun _ => ⟨(hblank hvalid).1, fun _ => rfl⟩, hnever, hnever, hnever⟩
  | unmounted hout => exact ⟨⟨hstorage, hauthed, hchecking, hcrashed, fun _ => ⟨rfl, nofun⟩, nofun, htokens, nofun⟩, nofun⟩
  | @fetching a mount reads hfetch hmount =>
    have hreads : reads = true := by
      rcases hfetch with rfl | rfl
      · exact ha
      · exact ha
    refine ⟨⟨hstorage, hauthed, hchecking, hcrashed, hblank, hlasts, fun hvalid refresh hr => ?_, hfeed⟩, nofun⟩
    rcases List.mem_append.mp hr with hr | hr
    · exact htokens hvalid refresh hr
    · rw [List.mem_singleton.mp hr, hreads]
      exact htoken hvalid (by simp [hmount])
  | @settled i arrive first removes refresh hrefresh hfirst hmount =>
    have hrest : validProtocol token = true → ∀ r ∈ s.inFlight.eraseIdx i, r.token = some token :=
      fun hvalid r hr => htokens hvalid r (List.mem_of_mem_eraseIdx hr)
    have hgranted : validProtocol token = true →
        Settled.unauthorized ⟨refresh, arrive, getSnapshot browser arrive first refresh.token⟩ = false :=
      fun hvalid => not_unauthorized hsends hvalid hfirst (htokens hvalid refresh (List.mem_of_getElem? hrefresh)) ha rfl
    refine ⟨?_, fun hvalid => List.forall_mem_singleton.mpr (hgranted hvalid)⟩
    rcases onSettled_cases { s with inFlight := s.inFlight.eraseIdx i } removes
        ⟨refresh, arrive, getSnapshot browser arrive first refresh.token⟩ with
      ⟨snapshot, -, hs⟩ | ⟨hrefused, -, hs⟩ | ⟨-, -, message, hs⟩
    · rw [hs]
      exact ⟨hstorage, hauthed, hchecking, hcrashed, hblank, hlasts, hrest, hfeed⟩
    · have hnever : ∀ {P : Prop}, validProtocol token = true → P := by
        intro P hvalid
        rw [hgranted hvalid] at hrefused
        cases hrefused
      rw [hs]
      refine ⟨?_, nofun, hchecking, hcrashed, hblank, hnever, hrest, hfeed⟩
      cases removes with
      | true => exact Or.inl rfl
      | false => exact hstorage
    · rw [hs]
      exact ⟨hstorage, hauthed, hchecking, hcrashed, hblank, hlasts, hrest, hfeed⟩
  | @dropped i arrive first removes refresh hrefresh hfirst hmount =>
    exact ⟨⟨hstorage, hauthed, hchecking, hcrashed, hblank, hlasts,
      fun hvalid r hr => htokens hvalid r (List.mem_of_mem_eraseIdx hr), hfeed⟩,
      fun hvalid => List.forall_mem_singleton.mpr
        (not_unauthorized hsends hvalid hfirst (htokens hvalid refresh (List.mem_of_getElem? hrefresh)) ha rfl)⟩
  | shaken hsocket =>
    refine ⟨hfeeding (by simp [hsocket]) fun _ _ => ?_, nofun⟩
    split
    · exact Or.inr (Or.inl rfl)
    · exact Or.inr (Or.inr rfl)
  | closed hsocket => exact ⟨hfeeding (by simp [hsocket]) fun _ _ => Or.inr (Or.inr rfl), nofun⟩
  | @retried reads hsocket =>
    have hreads : reads = true := ha
    refine ⟨hfeeding (by simp [hsocket]) fun hvalid hmount => Or.inl ?_, nofun⟩
    rw [hreads, connect_eq hne (htoken hvalid hmount), hvalid]
    rfl
  | others => exact ⟨⟨Or.inr ha, fun _ => ha, hchecking, hcrashed, hblank, hlasts, htokens, hfeed⟩, nofun⟩

end SubprotocolAux

open SubprotocolAux

/-- A dashboard needs a token that is a subprotocol. In every run of a tab with a storage that works and one token, whatever requests
fail: if the token is a subprotocol, as every generated one is, then no fetch is refused for the token, the dashboard stays once it is
there, and its feed is open, or being opened by a handshake that the daemon does not refuse, or waits to be tried with the token
again. If it is none, as a configured token may be, there is never a dashboard or a feed: the page is blank from when the dashboard is
mounted. -/
theorem a_dashboard_needs_a_subprotocol {V : Type} {browser : Browser V} (hsends : browser.Sends) {token : String}
    (hne : token.isEmpty = false) {ok : Tab → TabAction → Prop} (hworks : ∀ s a, ok s a → a.Works token) {storage : Option String}
    (hstorage : storage = none ∨ storage = some token) {reads : Bool} {s : Tab} {log : List Settled}
    (hrun : Run (Tab.step browser) ok (Tab.load storage reads) s log) :
    (validProtocol token = true →
      s.crashed = false ∧ (∀ x ∈ log, x.unauthorized = false) ∧
        (s.mount.isSome → s.authed = true ∧
          ((s.socket = .connecting token ∧ ∀ state env, state.token = token →
              s.step browser (.handshake (.ok (state, env))) = some ({ s with socket := .opened }, [])) ∨
            s.socket = .opened ∨
            (s.socket = .closed ∧ s.step browser (.retry true) = some ({ s with socket := .connecting token }, []))))) ∧
      (validProtocol token = false → s.socket = .absent ∧ (s.mount.isSome → s.screen = .blank)) ∧
      ∀ bytes, validProtocol (generateApiToken bytes) = true := by
  have hload : Session token (Tab.load storage reads) := by
    refine ⟨hstorage, fun hauthed => ?_, nofun, nofun, fun _ => ⟨rfl, nofun⟩, nofun, nofun, nofun⟩
    rcases hstorage with rfl | rfl
    · simp [Tab.load] at hauthed
    · rfl
  obtain ⟨hsession, hgranted⟩ := hrun.invariant
    (I := fun s log => Session token s ∧ (validProtocol token = true → ∀ x ∈ log, x.unauthorized = false))
    ⟨hload, nofun⟩ fun s s' log ev a hI hok hs => by
      obtain ⟨hs', hev⟩ := session_step hsends hne hI.1 (hworks s a hok) (did hs)
      exact ⟨hs', fun hvalid => List.forall_mem_append.mpr ⟨hI.2 hvalid, hev hvalid⟩⟩
  refine ⟨fun hvalid => ⟨?_, hgranted hvalid, fun hmount => ⟨hsession.lasts hvalid hmount, ?_⟩⟩, fun hinvalid => ?_,
    validProtocol_generateApiToken⟩
  · rw [Bool.eq_false_iff]
    intro hcrashed
    rw [hsession.crashed hcrashed] at hvalid
    cases hvalid
  · rcases hsession.feed hvalid hmount with hsocket | hsocket | hsocket
    · refine Or.inl ⟨hsocket, fun state env htoken => ?_⟩
      simp only [Tab.step, hsocket, opens_eq hsends hvalid htoken, if_pos]
    · exact Or.inr (Or.inl hsocket)
    · refine Or.inr (Or.inr ⟨hsocket, ?_⟩)
      have hconnect := connect_eq hne (hsession.authed (hsession.lasts hvalid hmount))
      simp only [Tab.step, hsocket, hconnect, hvalid, if_pos]
      rfl
  · obtain ⟨hsocket, hblank⟩ := hsession.blank hinvalid
    refine ⟨hsocket, fun hmount => ?_⟩
    rw [Tab.screen, hblank hmount]
    rfl

namespace SubprotocolExample

def visible (c : Char) : Bool := (' ' ≤ c ∧ c ≤ '~') ∨ c = '\t'

/-- A browser whose headers are texts. -/
def browser : Browser String := ⟨⟨fun text => if text.toList.all visible then some text else none, some, true⟩, fun _ => none, id⟩

def state : ApiState where
  toAppState := ⟨⟨Table.empty, Table.empty, Table.empty, Table.empty, 0⟩, "c2VjcmV0Cg==", ⟨1, []⟩⟩
  version := "0"
  assignments := AssignmentHandle.new 1
  notifier := RetryingNotifier.new "webhook" 1
  cache := DegradingCache.new none
  k8sClusters := []
  retentionSecs := 0

def env : Env := ⟨0, fun _ => 0, Vector.replicate 32 0, .ok (), false, none⟩

/-- The gate is given the token, and the dashboard is mounted. -/
def actions : List TabAction := [.submit "c2VjcmV0Cg==", .verified (.ok (state, env)) true, .render true]

/-- What the actions are. -/
def works (_ : Tab) : TabAction → Bool
  | .submit _ => true
  | .verified (.ok (state, _)) writes => writes && state.token == "c2VjcmV0Cg=="
  | .render reads => reads
  | _ => false

end SubprotocolExample

open SubprotocolExample in
/-- A configured token in base64: the gate accepts it, and the page is blank. -/
theorem a_dashboard_needs_a_subprotocol_base64 :
    let x := after (Tab.step browser) works (Tab.load none true) actions
    x.1.authed = true ∧ x.1.screen = .blank := by
  intro x
  have hrun : Run (Tab.step browser) (fun s a => works s a = true) (Tab.load none true) x.1 x.2 := run_after (by decide +kernel)
  have hworks : ∀ (s : Tab) a, works s a = true → a.Works "c2VjcmV0Cg==" := by
    intro s a h
    cases a with
    | verified arrive writes =>
      cases arrive with
      | error message => cases h
      | ok arrived =>
        obtain ⟨state, env⟩ := arrived
        simp only [works, Bool.and_eq_true, beq_iff_eq] at h
        refine ⟨h.1, fun state' env' he => ?_⟩
        cases he
        exact h.2
    | submit value => trivial
    | render reads => exact h
    | _ => cases h
  obtain ⟨-, hinvalid, -⟩ := a_dashboard_needs_a_subprotocol (fun _ _ => rfl) (by decide) hworks (Or.inl rfl) hrun
  exact ⟨by decide +kernel, (hinvalid (by decide +kernel)).2 (by decide +kernel)⟩

end Monitra
