import Monitra.Boot
import Monitra.Lemmas.Migrations
import Monitra.Library.Results

/-!
# Empty credentials

Nothing on the way from a configuration or from an old database to a check of a credential looks at whether the credential is
empty: a token that is configured as the empty string is taken as it is, and the migration that gives agents a token gives those
there are the empty one. A request that presents an empty credential is then admitted.
-/

namespace Monitra

open Results

/-- A header value can be made of any visible ASCII text, and reads as it. -/
def ReadsVisibleAscii {V : Type} (toStr : V → Option String) : Prop :=
  ∀ bytes text, visibleAscii bytes = some text → ∃ value, toStr value = some text

/-- No access with an empty credential: each of the three checks admits a request only if it presents a credential that is not
empty and equals the configured token, or the stored one of the agent in the path. -/
def NoEmptyCredential {V : Type} (toStr : V → Option String) (state : AppState) : Prop :=
  ∀ request : Request V,
    (requireToken toStr state request (fun _ => ()) = .ok () →
      ∃ credential, bearerToken toStr request = some credential ∧ credential ≠ "" ∧ credential = state.token) ∧
    (requireTokenWs toStr state request (fun _ => ()) = .ok () →
      ∃ credential, (bearerToken toStr request = some credential ∨
        bearerToken toStr request = none ∧ wsProtocolToken toStr request = some credential) ∧
        credential ≠ "" ∧ credential = state.token) ∧
    ∀ id, requireAgentToken toStr state id request (fun _ => ()) = .ok () →
      ∃ credential row, bearerToken toStr request = some credential ∧ credential ≠ "" ∧
        state.store.agents.get? id.toInt64 = some row ∧ credential = row.token

/-- What a daemon should keep to: it gives no access with an empty credential, whatever configuration it was booted with and
whatever version its database was of. -/
def CredentialsRequired : Prop :=
  ∀ (V : Type) (toStr : V → Option String), ReadsVisibleAscii toStr →
    ∀ (w : World) (retentionDays : Option UInt64) (old : Sql.Database) (n : Nat) (daemon : Daemon),
      w.file = .ok old → Migrations.OfVersion n old → n ≤ 8 → bootDaemon w retentionDays = .ok daemon →
      NoEmptyCredential toStr daemon.appState

namespace CredentialsAux

variable {V : Type} {toStr : V → Option String} {state : AppState}

/-- A request with one header, whose value reads as a text. -/
theorem exists_request (hto : ReadsVisibleAscii toStr) (name : HeaderName) (bytes : List UInt8) (text : String)
    (h : visibleAscii bytes = some text) : ∃ value, toStr value = some text ∧
      (⟨[(name, value)]⟩ : Request V).get name = some value ∧
      ∀ name', name' ≠ name → (⟨[(name, value)]⟩ : Request V).get name' = none := by
  obtain ⟨value, hv⟩ := hto bytes text h
  refine ⟨value, hv, by simp [Request.get], fun name' hne => ?_⟩
  simp [Request.get, Ne.symm hne]

/-- A request can present the empty string as its bearer value. -/
theorem exists_empty_bearer (hto : ReadsVisibleAscii toStr) : ∃ request : Request V, bearerToken toStr request = some "" := by
  obtain ⟨value, hv, hget, -⟩ := exists_request hto .authorization (Str.asBytes "Bearer ") "Bearer " (by decide +kernel)
  refine ⟨⟨[(.authorization, value)]⟩, ?_⟩
  rw [bearerToken, hget, Option.bind_some, hv, Option.bind_some]
  decide +kernel

/-- No access with an empty credential, exactly when none of the expected tokens is empty. -/
theorem noEmptyCredential_iff (hto : ReadsVisibleAscii toStr) :
    NoEmptyCredential toStr state ↔ state.token ≠ "" ∧ ∀ row ∈ state.store.agents.rows, row.token ≠ "" := by
  constructor
  · intro h
    obtain ⟨request, hb⟩ := exists_empty_bearer hto
    constructor
    · intro hempty
      obtain ⟨credential, hc, hne, -⟩ := (h request).1 (requireToken_eq_ok.mpr ⟨by rw [hb, hempty], rfl⟩)
      cases hb.symm.trans hc
      exact hne rfl
    · intro row hrow hempty
      have hget : state.store.agents.get? row.id.toUInt64.toInt64 = some row := by
        rw [Int64.toInt64_toUInt64]
        exact Table.get?_of_mem hrow
      obtain ⟨credential, -, hc, hne, -⟩ := (h request).2.2 row.id.toUInt64
        (requireAgentToken_eq_ok.mpr ⟨⟨row, hget, by rw [hb, hempty]⟩, rfl⟩)
      cases hb.symm.trans hc
      exact hne rfl
  · rintro ⟨htoken, hagents⟩ request
    refine ⟨fun h => ?_, fun h => ?_, fun id h => ?_⟩
    · exact ⟨state.token, (requireToken_eq_ok.mp h).1, htoken, rfl⟩
    · refine ⟨state.token, ?_, htoken, rfl⟩
      have hc := (requireTokenWs_eq_ok.mp h).1
      cases hb : bearerToken toStr request with
      | none => exact Or.inr ⟨rfl, by simpa [hb] using hc⟩
      | some credential => exact Or.inl (by simpa [hb] using hc)
    · obtain ⟨⟨row, hrow, hb⟩, -⟩ := requireAgentToken_eq_ok.mp h
      exact ⟨row.token, row, hb, hagents row (Table.mem_of_get? hrow), hrow, rfl⟩

/-- The store of a daemon is what the migrations make of the file. -/
theorem file_of_openStore {w : World} {store : Db} (h : w.openStore = .ok store) :
    ∃ old, w.file = .ok old ∧ Db.openFile w.unixepoch old = .ok store := by
  unfold World.openStore at h
  obtain ⟨sources, -, h⟩ := bind_eq_ok h
  split at h
  · cases h
  · split at h
    · cases h
    · obtain ⟨⟨⟩, -, h⟩ := bind_eq_ok h
      obtain ⟨old, hold, h⟩ := bind_eq_ok h
      exact ⟨old, mapError_eq_ok hold, mapError_eq_ok h⟩

/-- The token of a daemon is the configured one, or a generated one. -/
theorem token_of_resolve {w : World} {resolved : ResolvedConfig} {token : String}
    (h : w.resolveOrGenerateToken resolved = .ok token) :
    token = resolved.apiToken.value.getD (generateApiToken w.randomBytes) := by
  unfold World.resolveOrGenerateToken at h
  split at h
  · rename_i t ht
    cases h
    rw [ht, Option.getD_some]
  · rename_i ht
    obtain ⟨config, -, h⟩ := bind_eq_ok h
    obtain ⟨⟨⟩, -, h⟩ := bind_eq_ok h
    cases h
    rw [ht, Option.getD_none]

/-- What a daemon is booted with: the store of the migrated file, and the configured or generated token. -/
theorem of_bootDaemon {w : World} {retentionDays : Option UInt64} {daemon : Daemon} (h : bootDaemon w retentionDays = .ok daemon) :
    ∃ old sources, w.file = .ok old ∧ w.sources = .ok sources ∧ Db.openFile w.unixepoch old = .ok daemon.store ∧
      daemon.token = (resolve sources).apiToken.value.getD (generateApiToken w.randomBytes) := by
  unfold bootDaemon at h
  obtain ⟨store, hstore, h⟩ := bind_eq_ok h
  obtain ⟨sources, hsources, h⟩ := bind_eq_ok h
  obtain ⟨days, -, h⟩ := bind_eq_ok h
  obtain ⟨⟨⟩, -, h⟩ := bind_eq_ok h
  obtain ⟨token, htoken, h⟩ := bind_eq_ok h
  obtain ⟨notifier, -, h⟩ := bind_eq_ok h
  obtain ⟨⟨⟩, -, h⟩ := bind_eq_ok h
  cases h
  obtain ⟨old, hold, hopen⟩ := file_of_openStore hstore
  have ht := token_of_resolve htoken
  rw [apiToken_resolve_flags] at ht
  exact ⟨old, sources, hold, hsources, hopen, ht⟩

/-- A generated token is not empty. -/
theorem generateApiToken_ne (bytes : Vector UInt8 32) : generateApiToken bytes ≠ "" := by
  intro h
  have hl := length_generateApiToken bytes
  rw [h] at hl
  cases hl

/-- The token is empty exactly when the empty string is configured. -/
theorem getD_ne_empty_iff {value : Option String} (bytes : Vector UInt8 32) :
    value.getD (generateApiToken bytes) ≠ "" ↔ value ≠ some "" := by
  cases value with
  | none => simpa using generateApiToken_ne bytes
  | some token => simp

end CredentialsAux

/-- A daemon that booted gives no access with an empty credential exactly when the empty string is not what is configured as
the token, and every agent in the database it opened had a token that is not empty. -/
theorem no_empty_credential_iff_set {V : Type} (toStr : V → Option String) (hto : ReadsVisibleAscii toStr) (w : World)
    (retentionDays : Option UInt64) (old : Sql.Database) (sources : ConfigSources) (n : Nat) (daemon : Daemon)
    (hfile : w.file = .ok old) (hversion : Migrations.OfVersion n old) (hn : n ≤ 8) (hsources : w.sources = .ok sources)
    (hboot : bootDaemon w retentionDays = .ok daemon) :
    NoEmptyCredential toStr daemon.appState ↔
      (resolve sources).apiToken.value ≠ some "" ∧ Migrations.tokensSet old = true := by
  obtain ⟨old', sources', hfile', hsources', hopen, htoken⟩ := CredentialsAux.of_bootDaemon hboot
  cases hfile.symm.trans hfile'
  cases hsources.symm.trans hsources'
  have hagents : (∀ row ∈ daemon.store.agents.rows, row.token ≠ "") ↔ Migrations.tokensSet old = true := by
    unfold Db.openFile at hopen
    cases hrun : Migrations.run w.unixepoch old with
    | error e => simp [hrun, Except.map] at hopen
    | ok migrated =>
      simp only [hrun, Except.map, Except.ok.injEq] at hopen
      rw [← hopen]
      exact Migrations.tokens_of_run hversion hn hrun
  rw [CredentialsAux.noEmptyCredential_iff hto, ← hagents, ← CredentialsAux.getD_ne_empty_iff w.randomBytes, ← htoken]
  rfl

namespace CredentialsAux

/-- A machine without configuration files and with a new database, where a variable of the environment is set to a token. -/
def demoWorld (token : String) : World where
  sourcesAtOpen := .ok ⟨none, none, AList.insert "MONITRA_API_TOKEN" token ∅, .default⟩
  sources := .ok ⟨none, none, AList.insert "MONITRA_API_TOKEN" token ∅, .default⟩
  dataPath := some "/root/.local/share/monitra"
  createDirAll _ := .ok ()
  file := .ok Sql.Database.empty
  unixepoch := 1700000000
  healthCheck := .ok ()
  randomBytes := Vector.replicate 32 0
  loadWritableConfig := .ok .default
  saveWritableConfig _ := .ok ()
  slackFeature := false

def demoDaemon (token : String) : Daemon where
  store := Db.empty
  token := token
  notifier := .webhook none
  k8sClusters := []
  retentionSecs := 604800

theorem demo_version : Migrations.OfVersion 0 Sql.Database.empty :=
  Or.inr ⟨rfl, Sql.Database.wellFormed_empty, rfl, rfl⟩

end CredentialsAux

/-- The empty string in `MONITRA_API_TOKEN` is accepted as the token, and a request for `/ws` whose first subprotocol is empty is
then admitted. -/
theorem empty_token_admitted : ¬CredentialsRequired := by
  intro h
  have hboot : bootDaemon (CredentialsAux.demoWorld "") none = .ok (CredentialsAux.demoDaemon "") := by decide +kernel
  have hread : ReadsVisibleAscii visibleAscii := fun bytes _ hb => ⟨bytes, hb⟩
  have hno := h (List UInt8) visibleAscii hread (CredentialsAux.demoWorld "") none Sql.Database.empty 0
    (CredentialsAux.demoDaemon "") rfl CredentialsAux.demo_version (by omega) hboot
  have hadmitted : requireTokenWs visibleAscii (CredentialsAux.demoDaemon "").appState
      ⟨[(.secWebSocketProtocol, Str.asBytes ",")]⟩ (fun _ => ()) = .ok () := by decide +kernel
  obtain ⟨credential, -, hne, heq⟩ := (hno ⟨[(.secWebSocketProtocol, Str.asBytes ",")]⟩).2.1 hadmitted
  exact hne heq

/-- With a token in the variable and a new database there is no access with an empty credential. -/
theorem no_empty_credential_with_token :
    NoEmptyCredential visibleAscii (CredentialsAux.demoDaemon "secret").appState := by
  have hboot : bootDaemon (CredentialsAux.demoWorld "secret") none = .ok (CredentialsAux.demoDaemon "secret") := by
    decide +kernel
  exact (no_empty_credential_iff_set visibleAscii (fun bytes _ hb => ⟨bytes, hb⟩) (CredentialsAux.demoWorld "secret") none
    Sql.Database.empty _ 0 (CredentialsAux.demoDaemon "secret") rfl CredentialsAux.demo_version (by omega) rfl hboot).mpr
    ⟨by decide +kernel, rfl⟩

end Monitra
