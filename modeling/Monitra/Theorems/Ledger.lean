import Monitra.Library.Runs
import Monitra.Lemmas.Router
import Monitra.Theorems.Refinement
import Monitra.Theorems.Strangers

/-!
# The ledger of a client

What a client has been answered is enough to know the configuration of every monitor. `Ledger.record` is kept from the requests and
their responses alone: a creation enters what its response says, an edit and a removal change the entry they name, and everything
else, a failed request included, is passed over. What the daemon serves next is what the ledger says, whatever the engine wrote in
between.
-/

namespace Monitra

open Runs

/-- What a user configures of a monitor. -/
structure MonitorConfig where
  name : String
  target : String
  kind : MonitorKind
  intervalSecs : UInt64
  agentId : Option UInt64
  deriving DecidableEq, Repr

def MonitorConfig.ofMonitor (m : Monitor) : MonitorConfig := ⟨m.name, m.target, m.kind, m.intervalSecs, m.agentId⟩

def MonitorDto.config (dto : MonitorDto) : MonitorConfig := ⟨dto.name, dto.target, dto.kind, dto.intervalSecs, dto.agentId⟩

/-- What an edit asks for. -/
def MonitorConfig.edited (body : EditMonitorRequest) (c : MonitorConfig) : MonitorConfig where
  name := body.name.getD c.name
  target := body.target.getD c.target
  kind := c.kind
  intervalSecs := (body.intervalSecs.bind Json.asU64).getD c.intervalSecs
  agentId := body.agentId.or c.agentId

/-- The entry of each monitor id. -/
abbrev Ledger : Type := UInt64 → Option MonitorConfig

/-- A client enters what a request and its response say. -/
def Ledger.record {V : Type} (axum : Axum V) (L : Ledger) (x : Exchange V) : Ledger :=
  match Endpoint.find x.request.path with
  | none => L
  | some (endpoint, param) =>
    match endpoint.handler x.request.method, x.response.body with
    | some .createMonitor, .monitor dto => Function.update L dto.id (some dto.config)
    | some .editMonitor, .empty =>
      match axum.pathId param, x.request.json.editMonitor with
      | .ok id, .ok body => if x.response.status = 204 then Function.update L id ((L id).map (·.edited body)) else L
      | _, _ => L
    | some .removeMonitor, .empty =>
      match axum.pathId param with
      | .ok id => if x.response.status = 204 then Function.update L id none else L
      | .error _ => L
    | _, _ => L

/-- The configuration that the store has of a monitor. -/
def Db.config? (db : Db) : Ledger := fun id =>
  (db.row? id).bind fun row => (rowToMonitor row).toOption.map MonitorConfig.ofMonitor

/-- Every row of a monitor reads as one. -/
def Db.Readable (db : Db) : Prop := ∀ row ∈ db.monitors.rows, ∃ m, rowToMonitor row = .ok m

/-- What the engine does to the store: it sets statuses, and inserts and prunes what it has recorded. -/
inductive EngineWrite (db : Db) : Db → Prop where
  | status {id status db'} (h : db.setMonitorStatus id status = .ok db') : EngineWrite db db'
  | results {pick results db'} (h : db.insertCheckResults pick results = .ok db') : EngineWrite db db'
  | alert {event pick event' db'} (h : db.insertAlertEvent event pick = .ok (db', event')) : EngineWrite db db'
  | prune {old limit} : EngineWrite db (db.pruneInOrder old limit).1

namespace LedgerAux

open RouterAux RefinementAux Results

/-! ## Rows -/

/-- The configuration of a row, with its kind. -/
def rowConfig (row : MonitorRow) (kind : MonitorKind) : MonitorConfig :=
  ⟨row.name, row.target, kind, row.readInterval, row.agentId.map (·.toUInt64)⟩

/-- What reading a row needs, and what it gives. -/
theorem rowToMonitor_of (row : MonitorRow) {kind : MonitorKind} (hk : monitorKindFromStr row.kind = .ok kind)
    (hs : validIntervalSecs row.readInterval = true → ∃ s, monitorStatusFromStr row.status = .ok s) :
    ∃ m, rowToMonitor row = .ok m ∧ MonitorConfig.ofMonitor m = rowConfig row kind := by
  unfold rowToMonitor
  by_cases hv : validIntervalSecs row.readInterval = true
  · obtain ⟨s, hs⟩ := hs hv
    simp [hk, hv, hs, bind, Except.bind, pure, Except.pure, MonitorConfig.ofMonitor, rowConfig]
  · simp [hk, hv, bind, Except.bind, pure, Except.pure, MonitorConfig.ofMonitor, rowConfig]

/-- What a row that reads has. -/
theorem of_rowToMonitor {row : MonitorRow} {m : Monitor} (h : rowToMonitor row = .ok m) :
    monitorKindFromStr row.kind = .ok m.kind ∧
      (validIntervalSecs row.readInterval = true → ∃ s, monitorStatusFromStr row.status = .ok s) ∧
      MonitorConfig.ofMonitor m = rowConfig row m.kind := by
  obtain ⟨-, hname, htarget, hkind, hinterval, hagent, hstatus⟩ := rowToMonitor_eq_ok h
  refine ⟨by rw [hkind, monitorKindFromStr_toStr], fun hv => ?_, ?_⟩
  · rw [hinterval, if_pos hv] at hstatus
    exact ⟨m.status, by rw [hstatus, monitorStatusFromStr_toStr]⟩
  · simp only [MonitorConfig.ofMonitor, rowConfig, hname, htarget, hinterval, hagent]

/-- Setting the status of a row that reads keeps it readable, with its configuration. -/
theorem read_withStatus {row : MonitorRow} {m : Monitor} (h : rowToMonitor row = .ok m) (status : MonitorStatus) :
    ∃ m', rowToMonitor { row with status := monitorStatusToStr status } = .ok m' ∧
      MonitorConfig.ofMonitor m' = MonitorConfig.ofMonitor m := by
  obtain ⟨hk, -, hc⟩ := of_rowToMonitor h
  obtain ⟨m', hm', hc'⟩ := rowToMonitor_of { row with status := monitorStatusToStr status } hk
    fun _ => ⟨status, monitorStatusFromStr_toStr status⟩
  exact ⟨m', hm', hc'.trans hc.symm⟩

/-- A stored interval that an edit does not repair is valid. -/
theorem valid_of_in_range {row : MonitorRow} (h : ¬(row.intervalSecs < 1 ∨ row.intervalSecs > 86400)) :
    validIntervalSecs row.readInterval = true := by
  rw [not_or, Int64.not_lt, gt_iff_lt, Int64.not_lt] at h
  have hpos : 0 ≤ row.intervalSecs := Int64.le_trans (by decide) h.1
  rw [MonitorRow.readInterval, if_neg (Int64.not_lt.mpr hpos), validIntervalSecs, decide_eq_true_eq]
  exact ⟨(Word.toUInt64_le_iff (a := 1) (by decide) hpos).mpr h.1, (Word.toUInt64_le_iff (b := 86400) hpos (by decide)).mpr h.2⟩

/-- Editing a row that reads keeps it readable, and edits its configuration. -/
theorem read_updatedRow {row : MonitorRow} {m : Monitor} (h : rowToMonitor row = .ok m) {name target : Option String}
    {intervalSecs agentId : Option UInt64} (hi : ∀ v ∈ intervalSecs, validIntervalSecs v = true) :
    ∃ m', rowToMonitor (Db.updatedRow name target intervalSecs agentId row) = .ok m' ∧
      MonitorConfig.ofMonitor m' = ⟨name.getD m.name, target.getD m.target, m.kind, intervalSecs.getD m.intervalSecs,
        agentId.or m.agentId⟩ := by
  obtain ⟨hk, hs, -⟩ := of_rowToMonitor h
  obtain ⟨-, hname, htarget, -, hinterval, hagent, -⟩ := rowToMonitor_eq_ok h
  have hread : (Db.updatedRow name target intervalSecs agentId row).readInterval = intervalSecs.getD row.readInterval := by
    cases intervalSecs with
    | none => rfl
    | some v => exact readInterval_toInt64 (small_of_valid (hi v rfl)) rfl
  obtain ⟨m', hm', hc⟩ := rowToMonitor_of (Db.updatedRow name target intervalSecs agentId row) hk fun hv => by
    by_cases hrepair : (row.intervalSecs < 1 ∨ row.intervalSecs > 86400) ∧ intervalSecs.isSome = true
    · exact ⟨.pending, by simp only [Db.updatedRow, if_pos hrepair]; rfl⟩
    · simp only [Db.updatedRow, if_neg hrepair]
      cases intervalSecs with
      | none => exact hs (hread ▸ hv)
      | some v => exact hs (valid_of_in_range fun hbad => hrepair ⟨hbad, rfl⟩)
  refine ⟨m', hm', ?_⟩
  rw [hc, rowConfig, hread, hname, htarget, hinterval, hagent]
  cases agentId <;> simp [Db.updatedRow]

/-! ## Operations -/

/-- A row of the store is the row of its id. -/
theorem readable_iff {db : Db} : db.Readable ↔ ∀ id row, db.row? id = some row → ∃ m, rowToMonitor row = .ok m := by
  constructor
  · intro h id row hrow
    exact h row (Table.get?_eq_some_iff.mp hrow).1
  · intro h row hrow
    refine h row.id.toUInt64 row ?_
    rw [Db.row?, Int64.toInt64_toUInt64]
    exact Table.get?_of_mem hrow

/-- The same table of monitors has the same configurations. -/
theorem config?_congr {db db' : Db} (h : db'.monitors = db.monitors) : db'.config? = db.config? := by
  funext id
  simp only [Db.config?, Db.row?, h]

theorem readable_congr {db db' : Db} (h : db'.monitors = db.monitors) (hr : db.Readable) : db'.Readable := by
  unfold Db.Readable
  rw [h]
  exact hr

/-- An operation that rewrites the row of one id, keeping it readable. -/
theorem rewrite {db db' : Db} {id : UInt64} {f : MonitorRow → MonitorRow} {g : MonitorConfig → MonitorConfig}
    (hget : ∀ k, db'.row? k = (db.row? k).map fun row => if k = id then f row else row) (hr : db.Readable)
    (hf : ∀ row m, rowToMonitor row = .ok m →
      ∃ m', rowToMonitor (f row) = .ok m' ∧ MonitorConfig.ofMonitor m' = g (MonitorConfig.ofMonitor m)) :
    db'.Readable ∧ db'.config? = Function.update db.config? id ((db.config? id).map g) := by
  rw [readable_iff] at hr
  constructor
  · rw [readable_iff]
    intro k row' hrow'
    rw [hget, Option.map_eq_some_iff] at hrow'
    obtain ⟨row, hrow, rfl⟩ := hrow'
    obtain ⟨m, hm⟩ := hr k row hrow
    split
    · obtain ⟨m', hm', -⟩ := hf row m hm
      exact ⟨m', hm'⟩
    · exact ⟨m, hm⟩
  · funext k
    rw [Db.config?, hget]
    by_cases hk : k = id
    · subst hk
      rw [Function.update_self, Db.config?]
      cases hrow : db.row? k with
      | none => rfl
      | some row =>
        obtain ⟨m, hm⟩ := hr k row hrow
        obtain ⟨m', hm', hg⟩ := hf row m hm
        simp [hm, hm', hg, Except.toOption]
    · rw [Function.update_of_ne hk, Db.config?]
      simp [hk]

theorem of_setMonitorStatus {db db' : Db} {id : UInt64} {status : MonitorStatus}
    (h : db.setMonitorStatus id status = .ok db') (hr : db.Readable) : db'.Readable ∧ db'.config? = db.config? := by
  obtain ⟨-, -, -, -, hget⟩ := Db.setMonitorStatus_eq_ok h
  obtain ⟨hr', hc⟩ := rewrite (g := fun c => c) hget hr fun row m hm => read_withStatus hm status
  refine ⟨hr', ?_⟩
  rw [hc, Option.map_id', Function.update_eq_self]

/-- An edit that is made gives a valid interval or none, and updates the row of its monitor. -/
theorem editMonitor_eq_ok {db db' : Db} {id : UInt64} {name target : Option String} {intervalSecs agentId : Option UInt64}
    (h : Service.editMonitor db id name target intervalSecs agentId = .ok db') :
    (∀ v ∈ intervalSecs, validIntervalSecs v = true) ∧ db.updateMonitor id name target intervalSecs agentId = .ok db' := by
  unfold Service.editMonitor at h
  split at h
  · cases h
  · rename_i hcheck
    refine ⟨?_, provider_eq_ok.mp h⟩
    rintro v rfl
    by_contra hv
    simp [Service.checkInterval, hv] at hcheck

theorem of_editMonitor {db db' : Db} {id : UInt64} {name target : Option String} {intervalSecs agentId : Option UInt64}
    (h : Service.editMonitor db id name target intervalSecs agentId = .ok db') (hr : db.Readable) :
    db'.Readable ∧ db'.config? = Function.update db.config? id ((db.config? id).map fun c =>
      ⟨name.getD c.name, target.getD c.target, c.kind, intervalSecs.getD c.intervalSecs, agentId.or c.agentId⟩) := by
  obtain ⟨hi, h'⟩ := editMonitor_eq_ok h
  obtain ⟨-, -, -, hget⟩ := Db.updateMonitor_eq_ok h'
  exact rewrite hget hr fun row m hm => read_updatedRow hm hi

/-- The row that an insert writes, and where. -/
theorem row?_of_insertMonitor {db db' : Db} {monitor m : Monitor} {pick : List Int64 → Int64}
    (h : db.insertMonitor monitor pick = .ok (db', m)) :
    validIntervalSecs monitor.intervalSecs = true ∧ ∃ id : Int64, m = { monitor with id := ⟨id.toUInt64, db.inserted⟩ } ∧
      ∀ k, db'.row? k = if k = m.id.val then some (Db.monitorRow monitor db.inserted id) else db.row? k := by
  unfold Db.insertMonitor at h
  split at h
  · cases h
  · rename_i hv
    split at h
    · cases h
    · rename_i monitors id hins
      split at h
      · simp only [Except.ok.injEq, Prod.mk.injEq] at h
        obtain ⟨rfl, rfl⟩ := h
        obtain ⟨-, -, -, hget⟩ := Table.insertRow_eq_some hins
        refine ⟨by simpa using hv, id, rfl, fun k => ?_⟩
        rw [Db.row?, hget]
        simp only [← Word.toInt64_inj, Int64.toInt64_toUInt64, eq_comm]
        rfl
      · cases h

theorem of_insertMonitor {db db' : Db} {monitor m : Monitor} {pick : List Int64 → Int64}
    (h : db.insertMonitor monitor pick = .ok (db', m)) (hr : db.Readable) :
    db'.Readable ∧ db'.config? = Function.update db.config? m.id.val (some (MonitorConfig.ofMonitor m)) := by
  obtain ⟨hv, id, hm, hget⟩ := row?_of_insertMonitor h
  have hread : rowToMonitor (Db.monitorRow monitor db.inserted id) = .ok m := by
    have hsome : readMonitor (Db.monitorRow monitor db.inserted id) = _ := read_monitorRow db.inserted id hv
    rw [← hm] at hsome
    exact ok_of_toOption hsome
  rw [readable_iff] at hr
  constructor
  · rw [readable_iff]
    intro k row hrow
    rw [hget] at hrow
    split at hrow
    · cases hrow
      exact ⟨m, hread⟩
    · exact hr k row hrow
  · funext k
    rw [Db.config?, hget]
    by_cases hk : k = m.id.val
    · subst hk
      simp [hread, Except.toOption]
    · rw [Function.update_of_ne hk, if_neg hk]
      rfl

theorem of_addMonitor {db db' : Db} {m : Monitor} {name target : String} {kind : MonitorKind} {intervalSecs : UInt64}
    {agentId : Option UInt64} {pick : List Int64 → Int64}
    (h : Service.addMonitor db name target kind intervalSecs agentId pick = .ok (db', m)) (hr : db.Readable) :
    db'.Readable ∧ db'.config? = Function.update db.config? m.id.val (some (MonitorConfig.ofMonitor m)) := by
  unfold Service.addMonitor at h
  split at h
  · cases h
  · exact of_insertMonitor (provider_eq_ok.mp h) hr

theorem of_removeMonitor {db db' : Db} {id : UInt64} (h : Service.removeMonitor db id = .ok db') (hr : db.Readable) :
    db'.Readable ∧ db'.config? = Function.update db.config? id none := by
  obtain ⟨-, -, -, hget⟩ := Db.deleteMonitor_eq_ok (provider_eq_ok.mp h)
  rw [readable_iff] at hr
  constructor
  · rw [readable_iff]
    intro k row hrow
    rw [hget] at hrow
    split at hrow
    · cases hrow
    · exact hr k row hrow
  · funext k
    rw [Db.config?, hget]
    by_cases hk : k = id
    · subst hk
      simp
    · rw [Function.update_of_ne hk, if_neg hk]
      rfl

theorem monitors_of_insertAlertEvent {db db' : Db} {event event' : AlertEvent} {pick : List Int64 → Int64}
    (h : db.insertAlertEvent event pick = .ok (db', event')) : db'.monitors = db.monitors := by
  unfold Db.insertAlertEvent at h
  repeat' split at h
  all_goals cases h
  rfl

/-- What the engine writes keeps every configuration. -/
theorem of_engineWrite {db db' : Db} (h : EngineWrite db db') (hr : db.Readable) : db'.Readable ∧ db'.config? = db.config? := by
  cases h with
  | status h => exact of_setMonitorStatus h hr
  | results h =>
    have hm := (Db.insertCheckResults_eq_ok h).1
    exact ⟨readable_congr hm hr, config?_congr hm⟩
  | alert h =>
    have hm := monitors_of_insertAlertEvent h
    exact ⟨readable_congr hm hr, config?_congr hm⟩
  | prune => exact ⟨readable_congr rfl hr, config?_congr rfl⟩

/-! ## Requests -/

variable {V : Type} {axum : Axum V} {env : Env} {state : ApiState} {request : ApiRequest V} {param : String}

/-- The interval that an edit is checked to give is the integer that it gives. -/
theorem asU64_of_mapM {value : Option Json} {intervalSecs : Option UInt64}
    (h : (value.mapM fun v => parseInterval (some v)) = .ok intervalSecs) : intervalSecs = value.bind Json.asU64 := by
  cases value with
  | none =>
    cases h
    rfl
  | some v =>
    rw [Option.mapM_some] at h
    unfold parseInterval at h
    cases hv : ((some v).bind Json.asU64).filter validIntervalSecs with
    | none =>
      rw [hv] at h
      cases h
    | some seconds =>
      rw [hv] at h
      cases h
      exact (Option.filter_eq_some_iff.mp hv).1.symm

/-- The requests that the ledger enters ask for more than the head. -/
theorem to_of_enters {endpoint : Endpoint} {handler : Handler} (hh : endpoint.handler request.method = some handler)
    (henter : handler = .createMonitor ∨ handler = .editMonitor ∨ handler = .removeMonitor) (response : ApiResponse) :
    response.to request = response := by
  unfold ApiResponse.to
  split
  · rename_i hhead
    rw [hhead] at hh
    rcases henter with rfl | rfl | rfl <;> cases endpoint <;> cases hh
  · rfl

/-- What is not a creation, an edit or a removal is passed over. -/
theorem record_of_passes {L : Ledger} {x : Exchange V} {endpoint : Endpoint}
    (hf : Endpoint.find x.request.path = some (endpoint, param))
    (hh : ∀ handler, endpoint.handler x.request.method = some handler →
      handler ≠ .createMonitor ∧ handler ≠ .editMonitor ∧ handler ≠ .removeMonitor) : L.record axum x = L := by
  unfold Ledger.record
  simp only [hf]
  split
  · rename_i hcreate _
    exact absurd rfl (hh _ hcreate).1
  · rename_i hedit _
    exact absurd rfl (hh _ hedit).2.1
  · rename_i hremove _
    exact absurd rfl (hh _ hremove).2.2
  · rfl

/-- So is a request that was refused. -/
theorem record_of_refuses {L : Ledger} {x : Exchange V} (h : x.response.refuses) : L.record axum x = L := by
  have hno : ∀ body, x.response.body = body → (∀ dto, body ≠ .monitor dto) ∧ (body = .empty → x.response.status ≠ 204) := by
    rintro body rfl
    rcases h with h | ⟨message, h⟩ | h
    · simp [h]
    · simp [h]
    · simp [h]
  unfold Ledger.record
  split
  · rfl
  · split
    · rename_i hbody
      exact absurd rfl ((hno _ hbody).1 _)
    · rename_i hbody
      split
      · rw [if_neg ((hno _ hbody).2 rfl)]
      · rfl
    · rename_i hbody
      split
      · rw [if_neg ((hno _ hbody).2 rfl)]
      · rfl
    · rfl

/-- A request takes the configurations where its response says. -/
theorem serve_record (axum : Axum V) (env : Env) (request : ApiRequest V) (assets : String → Option (List UInt8))
    (hr : state.store.Readable) :
    (serve axum env state request assets).1.store.Readable ∧
      (serve axum env state request assets).1.store.config? =
        Ledger.record axum state.store.config? ⟨state, env, request, (serve axum env state request assets).2⟩ := by
  have hcases := serve_cases axum env state request assets
  generalize serve axum env state request assets = r at hcases ⊢
  rcases hcases with ⟨hf, h⟩ | ⟨endpoint, param, hf, ⟨hh, h⟩ | ⟨handler, hh, h⟩⟩
  · rw [h]
    refine ⟨hr, ?_⟩
    unfold Ledger.record
    simp only [hf]
  · rw [h]
    refine ⟨hr, (record_of_passes (x := ⟨state, env, request, r.2⟩) hf fun handler hh' => ?_).symm⟩
    cases hh.symm.trans hh'
  · have hpass : ∀ {x : Exchange V}, x.request = request →
        (handler ≠ .createMonitor ∧ handler ≠ .editMonitor ∧ handler ≠ .removeMonitor) →
        Ledger.record axum state.store.config? x = state.store.config? := by
      intro x hx hne
      refine record_of_passes (x := x) (hx ▸ hf) fun handler' hh' => ?_
      rw [hx, hh] at hh'
      rw [← Option.some.inj hh']
      exact hne
    rcases h with ⟨response, href, h⟩ | ⟨x, -, hdone, h⟩
    · rw [h]
      refine ⟨hr, ?_⟩
      by_cases henter : handler = .createMonitor ∨ handler = .editMonitor ∨ handler = .removeMonitor
      · rw [to_of_enters hh henter]
        exact (record_of_refuses (x := ⟨state, env, request, response⟩) href).symm
      · rw [not_or, not_or] at henter
        exact (hpass rfl henter).symm
    · rw [h]
      cases hdone with
      | @answered handler response hreads =>
        refine ⟨hr, (hpass rfl ?_).symm⟩
        refine ⟨?_, ?_, ?_⟩ <;> rintro rfl <;> cases hreads
      | created hb hi hcall =>
        obtain ⟨hr', hc⟩ := of_addMonitor hcall hr
        rw [to_of_enters hh (Or.inl rfl)]
        refine ⟨hr', hc.trans ?_⟩
        simp only [Ledger.record, hf, hh]
        rfl
      | edited hid hb hi hcall =>
        obtain ⟨hr', hc⟩ := of_editMonitor hcall hr
        rw [to_of_enters hh (Or.inr (Or.inl rfl))]
        refine ⟨hr', hc.trans ?_⟩
        simp only [Ledger.record, hf, hh, hid, hb, if_true, asU64_of_mapM hi]
        rfl
      | removed hid hcall =>
        obtain ⟨hr', hc⟩ := of_removeMonitor hcall hr
        rw [to_of_enters hh (Or.inr (Or.inr rfl))]
        refine ⟨hr', hc.trans ?_⟩
        simp only [Ledger.record, hf, hh, hid, if_true]
      | paused hid hcall =>
        obtain ⟨hr', hc⟩ := of_setMonitorStatus (provider_eq_ok.mp hcall) hr
        exact ⟨hr', hc.trans (hpass rfl ⟨nofun, nofun, nofun⟩).symm⟩
      | resumed hid hcall =>
        obtain ⟨hr', hc⟩ := of_setMonitorStatus (provider_eq_ok.mp hcall) hr
        exact ⟨hr', hc.trans (hpass rfl ⟨nofun, nofun, nofun⟩).symm⟩
      | registered hb hcall =>
        have hm := (upsertAgent_eq_ok (provider_eq_ok.mp hcall)).1
        exact ⟨readable_congr hm hr, (config?_congr hm).trans (hpass rfl ⟨nofun, nofun, nofun⟩).symm⟩
      | deregistered hid hcall =>
        have hm := (deleteAgent_eq_ok (provider_eq_ok.mp hcall)).1
        exact ⟨readable_congr hm hr, (config?_congr hm).trans (hpass rfl ⟨nofun, nofun, nofun⟩).symm⟩
      | pushed hid hb hcall =>
        have hm := (heartbeatAgent_eq_ok (provider_eq_ok.mp hcall)).1
        exact ⟨readable_congr hm hr, (config?_congr hm).trans (hpass rfl ⟨nofun, nofun, nofun⟩).symm⟩
      | pulled hid => exact ⟨hr, (hpass rfl ⟨nofun, nofun, nofun⟩).symm⟩

/-- Along a run the ledger says what the store has. -/
theorem config?_of_run {assets : String → Option (List UInt8)} {ok : ApiState → ApiAction V → Prop} {s₀ s : ApiState}
    {log : List (Exchange V)}
    (hok : ∀ s s', ok s (.daemon s') → s'.store = s.store ∨ EngineWrite s.store s'.store)
    (h : Run (ApiState.step axum assets) ok s₀ s log) (h0 : s₀.store.Readable) :
    s.store.Readable ∧ s.store.config? = log.foldl (Ledger.record axum) s₀.store.config? := by
  refine h.invariant (I := fun s log => s.store.Readable ∧ s.store.config? = log.foldl (Ledger.record axum) s₀.store.config?)
    ⟨h0, rfl⟩ ?_
  rintro s s' log ev a ⟨hr, hc⟩ ha hs
  cases a with
  | daemon state' =>
    simp only [ApiState.step] at hs
    split at hs
    · cases hs
      rw [List.append_nil, ← hc]
      rcases hok s _ ha with he | hw
      · rw [he]
        exact ⟨hr, rfl⟩
      · exact of_engineWrite hw hr
    · cases hs
  | request env request =>
    obtain ⟨hr', hc'⟩ := serve_record axum env request assets hr
    cases hs
    rw [List.foldl_append, ← hc]
    exact ⟨hr', hc'⟩

/-! ## Answers -/

/-- The token lets a request to an endpoint that asks for it pass. -/
theorem answer_of_token (answer : ApiState × ApiResponse) {endpoint : Endpoint} {handler : Handler}
    {assets : String → Option (List UInt8)} (hf : Endpoint.find request.path = some (endpoint, param)) (hg : endpoint.guard = .token)
    (hh : endpoint.handler request.method = some handler) (hm : request.method ≠ .head)
    (ha : authorized axum state request = true)
    (hrun : handler.run axum env state request param = .ok answer ∨ handler.run axum env state request param = .error answer.2) :
    (serve axum env state request assets).2 = answer.2 := by
  have hpass : endpoint.guard.check axum env state request param = .ok () := by
    unfold authorized at ha
    simp only [hf, hg, decide_eq_true_eq] at ha
    rw [hg, Guard.check, requireToken_eq_ok.mpr ⟨ha, rfl⟩]
    rfl
  have hto : ∀ response : ApiResponse, response.to request = response := fun response => by
    rw [ApiResponse.to, if_neg hm]
  unfold serve
  simp only [hf, Endpoint.answer, hh, hpass, hto]
  rcases hrun with h | h <;> simp only [h]

/-- A monitor is shown with its configuration, or is not there. -/
theorem show_answer (state : ApiState) (request : ApiRequest V) (hr : state.store.Readable)
    (hfault : env.fault = none) {id : UInt64} (hid : axum.pathId param = .ok id) :
    match state.store.config? id with
    | some c => ∃ dto, Handler.run axum env state request param .showMonitor = .ok (state, ⟨200, .monitor dto⟩) ∧
        dto.id = id ∧ dto.config = c
    | none => Handler.run axum env state request param .showMonitor = .error ⟨404, .error "not found"⟩ := by
  have hrun : Handler.run axum env state request param .showMonitor =
      reading state .monitor (Monitors.showMonitor state.store none id) := by
    rw [Handler.run, hid, hfault]
    rfl
  simp only [hrun, Db.config?]
  cases hrow : state.store.row? id with
  | none =>
    have hget : state.store.getMonitor id = .ok none := by
      unfold Db.getMonitor
      rw [← Db.row?, hrow]
    simp only [Option.bind_none, Monitors.showMonitor, hget]
    rfl
  | some row =>
    obtain ⟨m, hm⟩ := readable_iff.mp hr id row hrow
    have hget : state.store.getMonitor id = .ok (some m) := by
      unfold Db.getMonitor
      rw [← Db.row?, hrow]
      simp [hm, Except.map]
    have hkey : m.id.val = id := by
      rw [(rowToMonitor_eq_ok hm).1, (Table.get?_eq_some_iff.mp hrow).2, UInt64.toUInt64_toInt64]
    simp only [Option.bind_some, hm, Except.toOption, Option.map_some, Monitors.showMonitor, hget]
    exact ⟨.ofMonitor m, rfl, hkey, rfl⟩

/-- The list has every monitor that is configured, once, with its configuration. -/
theorem list_answer (axum : Axum V) (request : ApiRequest V) (param : String) (hr : state.store.Readable)
    (hfault : env.fault = none) :
    ∃ dtos, Handler.run axum env state request param .listMonitors = .ok (state, ⟨200, .monitors dtos⟩) ∧
      (dtos.map (·.id)).Nodup ∧ ∀ id c, state.store.config? id = some c ↔ ∃ dto ∈ dtos, dto.id = id ∧ dto.config = c := by
  have hlist := mapM_eq_ok hr
  refine ⟨(state.store.monitors.rows.filterMap fun row => (rowToMonitor row).toOption).map .ofMonitor, ?_, ?_, fun id c => ?_⟩
  · rw [Handler.run, hfault, Monitors.list, Db.listMonitors, hlist]
    rfl
  · rw [List.map_map]
    refine List.Nodup.of_map UInt64.toInt64 ?_
    rw [List.map_map]
    exact Db.nodup_listMonitors hlist
  · simp only [List.mem_map]
    constructor
    · intro hc
      obtain ⟨row, hrow, hc⟩ := Option.bind_eq_some_iff.mp hc
      obtain ⟨m, hm, rfl⟩ := Option.map_eq_some_iff.mp hc
      have hm := ok_of_toOption hm
      obtain ⟨hin, hkey⟩ := Table.get?_eq_some_iff.mp hrow
      refine ⟨_, ⟨m, List.mem_filterMap.mpr ⟨row, hin, by simp [hm, Except.toOption]⟩, rfl⟩, ?_, rfl⟩
      rw [MonitorDto.ofMonitor, (rowToMonitor_eq_ok hm).1, hkey, UInt64.toUInt64_toInt64]
    · rintro ⟨_, ⟨m, hm, rfl⟩, rfl, rfl⟩
      obtain ⟨row, hrow, hread⟩ := Db.row_of_mem_listMonitors hlist hm
      simp only [Db.config?, MonitorDto.ofMonitor, hrow, Option.bind_some, hread, Except.toOption, Option.map_some]
      rfl

end LedgerAux

open LedgerAux

/-- A client can know every configuration from its own records. In every run of requests by any clients, with status writes,
results, alerts and prunings of the engine at any moments in between: what the daemon shows of a monitor and what it lists is what
the ledger of the requests and their responses says, with nothing missing, nothing more, and nothing changed by a request that was
refused. -/
theorem configurations_are_the_ledger {V : Type} {axum : Axum V} {assets : String → Option (List UInt8)}
    {ok : ApiState → ApiAction V → Prop} {s₀ s : ApiState} {log : List (Exchange V)}
    (hok : ∀ s s', ok s (.daemon s') → s'.store = s.store ∨ EngineWrite s.store s'.store)
    (h : Run (ApiState.step axum assets) ok s₀ s log) (h0 : s₀.store.Readable) :
    let L := log.foldl (Ledger.record axum) s₀.store.config?
    ∀ (env : Env) (request : ApiRequest V), env.fault = none → authorized axum s request = true → request.method = .get →
      (∀ param id, Endpoint.find request.path = some (.monitor, param) → axum.pathId param = .ok id →
        match L id with
        | some c => ∃ dto, (serve axum env s request assets).2 = ⟨200, .monitor dto⟩ ∧ dto.id = id ∧ dto.config = c
        | none => (serve axum env s request assets).2 = ⟨404, .error "not found"⟩) ∧
      ∀ param, Endpoint.find request.path = some (.monitors, param) →
        ∃ dtos, (serve axum env s request assets).2 = ⟨200, .monitors dtos⟩ ∧ (dtos.map (·.id)).Nodup ∧
          ∀ id c, L id = some c ↔ ∃ dto ∈ dtos, dto.id = id ∧ dto.config = c := by
  intro L env request hfault ha hget
  have hhead : request.method ≠ .head := by rw [hget]; decide
  obtain ⟨hr, (hc : s.store.config? = L)⟩ := config?_of_run hok h h0
  refine ⟨fun param id hf hid => ?_, fun param hf => ?_⟩
  · have hshow := show_answer s request hr hfault hid
    rw [hc] at hshow
    cases hL : L id with
    | some c =>
      rw [hL] at hshow
      obtain ⟨dto, hrun, hdto⟩ := hshow
      exact ⟨dto, answer_of_token _ hf rfl (by rw [hget]; rfl) hhead ha (Or.inl hrun), hdto⟩
    | none =>
      rw [hL] at hshow
      exact answer_of_token (s, _) hf rfl (by rw [hget]; rfl) hhead ha (Or.inr hshow)
  · obtain ⟨dtos, hrun, hnodup, hmem⟩ := list_answer axum request param hr hfault
    rw [hc] at hmem
    exact ⟨dtos, answer_of_token _ hf rfl (by rw [hget]; rfl) hhead ha (Or.inl hrun), hnodup, hmem⟩

open ApiExample in
theorem configurations_are_the_ledger_created :
    let ok : ApiState → ApiAction String → Bool := fun s a =>
      match a with
      | .request _ _ => true
      | .daemon s' => decide (s'.store = s.store)
    let x := after (ApiState.step axum assets) ok start [.request env (request .post "/monitors")]
    ∃ dto, (serve axum env x.1 (request .get "/monitors/1") assets).2 = ⟨200, .monitor dto⟩ ∧ dto.id = 1 ∧
      dto.config = ⟨"api", "http://api", .http, 30, none⟩ := by
  intro ok x
  have hok : ∀ s s', ok s (.daemon s') = true → s'.store = s.store ∨ EngineWrite s.store s'.store :=
    fun s s' h => Or.inl (of_decide_eq_true h)
  have hrun : Run (ApiState.step axum assets) (fun s a => ok s a = true) start x.1 x.2 := run_after rfl
  have hreadable : start.store.Readable := fun row hrow => absurd hrow List.not_mem_nil
  have hanswers := configurations_are_the_ledger hok hrun hreadable env (request .get "/monitors/1") rfl
    (by decide +kernel) rfl
  have hentry : x.2.foldl (Ledger.record axum) start.store.config? 1 = some ⟨"api", "http://api", .http, 30, none⟩ := by
    decide +kernel
  have hshown := hanswers.1 "1" 1 (by decide +kernel) rfl
  rw [hentry] at hshown
  exact hshown

end Monitra
