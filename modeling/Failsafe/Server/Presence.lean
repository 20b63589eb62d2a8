import Mathlib.Data.List.Forall2
import Failsafe.Server.AccountRows
import Failsafe.Server.VisitRules

/-!
Presence: when a device was last seen, and what a listing says about it
(`failsafe-server/src/presence.rs`, `list_devices` and `heartbeat_device`).
-/

namespace Failsafe.Server

open Failsafe.Core Failsafe.Lib

variable {ext : Externals}

/-- A call by which a device of an account showed up when the call looked at the clock. -/
inductive ShowsUp (ext : Externals) : Call → Log → (deviceId accountId : Uuid) → Timestamp → Prop
  | upserted {log : Log} {accountId : AccountId} {id : Uuid} {request : DeviceUpsertRequest}
      {time : Timestamp} : ⟨.now, time⟩ ∈ log →
      ShowsUp ext (.protectedly accountId (.upsertDevice id request)) log request.deviceId.uuid
        accountId.uuid time
  | heard {log : Log} {accountId : AccountId} {deviceId : Uuid} {time : Timestamp} :
      ⟨.now, time⟩ ∈ log →
      ShowsUp ext (.protectedly accountId (.heartbeatDevice deviceId)) log deviceId
        accountId.uuid time
  | paired {log : Log} {request : PairingRedeemRequest} {code : String} {record : PairingCode}
      {device : DeviceUpsertRequest} {time : Timestamp} :
      normalizeCode ext request.code = some code →
      ⟨.query .txn (.findPairingCodeByCode code), .ok (some record)⟩ ∈ log →
      request.device = some device → ⟨.now, time⟩ ∈ log →
      ShowsUp ext (.publicly (.redeemPairingCode request)) log device.deviceId.uuid
        record.accountId time

/-- What a call may write about the time at which a device was seen. -/
def SeenGuard (ext : Externals) (call : Call) (log : Log) : ServerRequest → Prop
  | .query _ (.insertDevice new) =>
      ∀ time ∈ new.lastSeen, ShowsUp ext call log new.deviceId new.accountId time
  | .query _ (.updateDevice id active) => ∀ time, active.lastSeen = some (some time) →
      ∃ key existing, Saw log (.findDevice key) (some existing) ∧ existing.deviceId = id ∧
        ShowsUp ext call log key existing.accountId time
  | _ => True

instance (call : Call) : Lenient (SeenGuard ext call) := by
  constructor
  intro log request hquiet
  cases request with
  | query conn statement =>
      cases statement with
      | insertDevice | updateDevice => cases hquiet
      | _ => trivial
  | _ => trivial

section Handlers

variable {log log' : Log} {call : Call}

theorem ShowsUp.mono {deviceId accountId : Uuid} {time : Timestamp}
    (h : ShowsUp ext call log deviceId accountId time) (hlog : log <+: log') :
    ShowsUp ext call log' deviceId accountId time := by
  cases h with
  | upserted hnow => exact .upserted (hlog.subset hnow)
  | heard hnow => exact .heard (hlog.subset hnow)
  | paired hcode hfound hdevice hnow =>
      exact .paired hcode (hlog.subset hfound) hdevice (hlog.subset hnow)

theorem ShowsUp.looked {deviceId accountId : Uuid} {time : Timestamp}
    (h : ShowsUp ext call log deviceId accountId time) : ⟨.now, time⟩ ∈ log := by
  cases h <;> assumption

theorem seenGuard_of_touches {effects : List Effect} {request : ServerRequest}
    (h : Touches effects request) (hdevice : ∀ conn kind, .write conn kind .device ∉ effects) :
    SeenGuard ext call log request := by
  cases request with
  | query conn statement =>
      cases statement with
      | insertDevice | updateDevice => exact (hdevice _ _ (h _ _ rfl)).elim
      | _ => trivial
  | _ => trivial

theorem registerDevice_seen {conn : Conn} {accountId : AccountId} {request : DeviceUpsertRequest}
    {mode : RegisterDeviceMode} (hpending : Unwritten conn log)
    (hshows : ∀ log' (time : Timestamp), log <+: log' → ⟨.now, time⟩ ∈ log' →
      ShowsUp ext call log' request.deviceId.uuid accountId.uuid time) :
    Obeys (SeenGuard ext call) (registerDevice conn accountId request mode)
      (fun _ log' => log <+: log') log := by
  refine registerDevice_obeys hpending ?_ ?_
  · rintro log' new hlog' _ haccount hid ⟨time, hnow, hseen⟩ time' hmem
    rw [hseen] at hmem
    obtain rfl := Option.some.inj hmem
    rw [hid, haccount]
    exact hshows log' time hlog' hnow
  · rintro log' existing active hlog' hsaw haccount _ ⟨time, hnow, hseen⟩ _ time' hset
    rw [hseen] at hset
    obtain rfl := Option.some.inj (Option.some.inj hset)
    exact ⟨_, existing, hsaw, rfl, haccount ▸ hshows log' time hlog' hnow⟩

theorem redeemPairingCode_seen {request : PairingRedeemRequest} :
    Obeys (SeenGuard ext (.publicly (.redeemPairingCode request))) (redeemPairingCode ext request)
      (fun _ _ => True) log := by
  unfold redeemPairingCode
  split
  · exact .throw
  rename_i code hcode
  refine .bind (.withTransaction (.bind (.read rfl fun record => ?_)))
  cases record with
  | none => exact .throw
  | some record =>
      refine .bind (.now fun time => .ite (fun _ => .bind .throw) fun _ => ?_)
      refine .ite (fun _ => .bind .throw) fun _ => .bind ?_
      let start := log ++ [⟨.begin, .ok ()⟩] ++
        [⟨.query .txn (.findPairingCodeByCode code), .ok (some record)⟩] ++ [⟨.now, time⟩]
      have hpaired : Obeys (SeenGuard ext (.publicly (.redeemPairingCode request)))
          (registerPaired ⟨record.accountId⟩ request.device) (fun _ log' => start <+: log')
          start := by
        unfold registerPaired
        split
        · exact .pure List.prefix_rfl
        · rename_i device hdevice
          refine .bind ((registerDevice_seen ((unwritten_begin.snoc rfl).snoc rfl) ?_).mono ?_)
          · intro log' time' hgrown hnow
            exact .paired hcode (hgrown.subset (by simp)) hdevice hnow
          · exact fun _ _ hgrown => .pure hgrown
      have hissue : (issueAuthResponse ext ⟨record.accountId⟩).run.All
          (Touches [.write .db .insert .refreshToken]) := issueAuthResponse_touches (by simp)
      refine hpaired.mono fun _ log' hgrown => .bind (.now fun usedAt => .bind (.query trivial ?_))
      refine fun count => .ite (fun _ => .bind .throw) fun _ => .pure ⟨trivial, .of_all hissue ?_⟩
      exact fun _ _ htouches => seenGuard_of_touches htouches (by simp)

theorem seenGuard_ensures (call : Call) :
    (call.run ext).Ensures (SeenGuard ext call) Prog.heard (fun _ _ => True) [] := by
  refine Obeys.run ?_ fun _ _ => trivial
  have hother (hdevice : ∀ conn kind, .write conn kind .device ∉ call.effects) :
      Obeys (SeenGuard ext call) (handle ext call) (fun _ _ => True) [] :=
    .of_all (handle_touches ext call) fun _ _ htouches => seenGuard_of_touches htouches hdevice
  cases call with
  | publicly route =>
      cases route with
      | redeemPairingCode => exact .bind (redeemPairingCode_seen.mono fun _ _ _ => trivial)
      | _ => exact hother (by simp [Call.effects])
  | protectedly accountId route =>
      cases route with
      | upsertDevice deviceId request =>
          refine .bind (.ite (fun _ => .bind .throw) fun _ => .bind ?_)
          refine (registerDevice_seen unwritten_db fun _ _ _ hnow => .upserted hnow).mono ?_
          exact fun _ _ _ => modelToInfo_obeys.mono fun _ _ _ => trivial
      | patchDevice deviceId request =>
          refine .bind (.ite (fun _ => .bind .throw) fun _ => ?_)
          refine .ite (fun _ => .bind .throw) fun _ => ?_
          refine .bind (loadActiveDevice_obeys fun _ existing _ _ => ?_)
          refine .bind (.liftExcept fun _ _ => ?_)
          refine .bind (.updateDevice (fun time hset => ?_) fun _ _ => modelToInfo_obeys.mono ?_)
          · cases hset
          · exact fun _ _ _ => trivial
      | deleteDevice deviceId =>
          refine .bind (.bind (loadActiveDevice_obeys fun _ existing _ _ => .bind (.now ?_)))
          refine fun time => .bind (.updateDevice (fun time' hset => ?_) fun _ _ => trivial)
          cases hset
      | heartbeatDevice deviceId =>
          refine .bind (.bind (loadActiveDevice_obeys fun log' existing hsaw haccount => ?_))
          refine .bind (.now fun time => .bind (.updateDevice (fun time' hset => ?_) ?_))
          · obtain rfl := Option.some.inj (Option.some.inj hset)
            exact ⟨deviceId, existing, hsaw.mono (by simp), rfl, haccount ▸ .heard (by simp)⟩
          · exact fun _ _ => modelToInfo_obeys.mono fun _ _ _ => trivial
      | _ => exact hother (by simp [Call.effects])

end Handlers

section Listing

variable {log : Log}

/-- What `model_to_info` makes of a row at a time, if its features can be read. -/
def Device.info (ext : Externals) (time : Timestamp) (row : Device) : Option DeviceInfo :=
  row.enabledFeatures.toFeatures.map fun enabledFeatures => {
    deviceId := ⟨row.deviceId⟩
    name := row.name
    irohPublicKey := row.irohPublicKey
    enabledFeatures
    lastSeen := row.lastSeen.map ext.toRfc3339
    online := isOnline time row.lastSeen }

/-- A row is shown as it was at one of the looks at the clock. -/
def Shown (ext : Externals) (log : Log) (row : Device) (info : DeviceInfo) : Prop :=
  ∃ time : Timestamp, ⟨.now, time⟩ ∈ log ∧ row.info ext time = some info

theorem Shown.mono {log' : Log} {row : Device} {info : DeviceInfo} (h : Shown ext log row info)
    (hlog : log ⊆ log') : Shown ext log' row info := by
  obtain ⟨time, hnow, hinfo⟩ := h
  exact ⟨time, hlog hnow, hinfo⟩

/-- What a listing may answer after its history. -/
def ShownGuard (ext : Externals) (accountId : AccountId) (log : Log) : ServerRequest → Prop
  | .respond response => ∀ list, response.body = .deviceList list → ∃ before models added,
      log = before ++ ⟨.query .db (.listActiveDevices accountId.uuid), .ok models⟩ :: added ∧
        List.Forall₂ (Shown ext added) models list.devices
  | _ => True

instance (accountId : AccountId) : Lenient (ShownGuard ext accountId) := by
  constructor
  intro log request hquiet
  cases request with
  | respond => cases hquiet
  | _ => trivial

theorem modelToInfo_shows {guard : Log → ServerRequest → Prop} [Lenient guard] {model : Device} :
    Obeys guard (modelToInfo ext model) (fun info log' => ∃ time : Timestamp,
      log' = log ++ [⟨.now, time⟩] ∧ model.info ext time = some info) log := by
  unfold modelToInfo
  split
  · exact .throw
  · rename_i features hfeatures
    refine .bind (.now fun time => .pure ⟨time, rfl, ?_⟩)
    rw [Device.info, hfeatures]
    rfl

theorem modelsToInfo_shows {guard : Log → ServerRequest → Prop} [Lenient guard]
    {models : List Device} :
    Obeys guard (modelsToInfo ext models) (fun infos log' => ∃ added, log' = log ++ added ∧
      List.Forall₂ (Shown ext added) models infos) log := by
  induction models generalizing log with
  | nil => exact .pure ⟨[], (List.append_nil log).symm, .nil⟩
  | cons model models ih =>
      refine .bind (modelToInfo_shows.mono ?_)
      rintro info _ ⟨time, rfl, hinfo⟩
      refine .bind (ih.mono ?_)
      rintro infos _ ⟨added, rfl, hinfos⟩
      refine .pure ⟨⟨.now, time⟩ :: added, by simp, .cons ⟨time, by simp, hinfo⟩ ?_⟩
      exact hinfos.imp fun _ _ hshown => hshown.mono (List.subset_cons_self _ _)

theorem shownGuard_ensures {accountId : AccountId} :
    ((Call.protectedly accountId .listDevices).run ext).Ensures (ShownGuard ext accountId)
      Prog.heard (fun _ _ => True) [] := by
  have hlist : Obeys (ShownGuard ext accountId) (listDevices ext accountId)
      (fun list log => ∃ before models added,
        log = before ++ ⟨.query .db (.listActiveDevices accountId.uuid), .ok models⟩ :: added ∧
          List.Forall₂ (Shown ext added) models list.devices) [] := by
    refine .bind (.read rfl fun models => .bind (modelsToInfo_shows.mono ?_))
    rintro infos _ ⟨added, rfl, hinfos⟩
    exact .pure ⟨[], models, added, by simp, hinfos⟩
  refine Handles.run (.bind (Handles.mono hlist ?_ ?_))
  · rintro list log hshown list' ⟨⟩
    exact hshown
  · intro error log _ list' hbody
    cases hbody

end Listing

section Runs

variable {τ : Type} [DecidableEq τ] {isolation : Isolation}
  {cond : ServerState τ → ServerLabel τ → Prop}
  {pool pool₁ pool' pool'' : Pool ServerSig τ (ServerState τ)}
  {labels labels' : List (ServerLabel τ)}

theorem ServerRun.clock (h : ServerRun ext isolation cond pool labels pool') :
    pool.state.clock ≤ pool'.state.clock ∧
      ∀ task (time : Timestamp), ⟨.now, time⟩ ∈ trace task labels →
        pool.state.clock ≤ time ∧ time ≤ pool'.state.clock := by
  induction h with
  | nil => exact ⟨Nat.le_refl _, by simp [trace]⟩
  | snoc hbefore hcond hstep ih =>
      rename_i middle last labels label
      obtain ⟨hclock, htimes⟩ := ih
      cases label with
      | event arrival =>
          rw [state_of_arrival hstep]
          refine ⟨hclock, fun task time hmem => htimes task time ?_⟩
          rwa [trace_snoc_event] at hmem
      | call task' request response =>
          have hperform := perform_of_step hstep
          by_cases hnow : request = .now
          · subst hnow
            obtain ⟨hlater, hstate⟩ := perform_now hperform
            rw [hstate]
            refine ⟨hclock.trans hlater, fun task time hmem => ?_⟩
            rcases List.mem_append.mp (mem_trace.mp hmem) with hold | hnew
            · obtain ⟨hfrom, hto⟩ := htimes task time (mem_trace.mpr hold)
              exact ⟨hfrom, hto.trans hlater⟩
            · cases List.mem_singleton.mp hnew
              exact ⟨hclock.trans hlater, Nat.le_refl _⟩
          · rw [perform_clock hperform hnow]
            refine ⟨hclock, fun task time hmem => ?_⟩
            rcases List.mem_append.mp (mem_trace.mp hmem) with hold | hnew
            · exact htimes task time (mem_trace.mpr hold)
            · cases List.mem_singleton.mp hnew
              exact (hnow rfl).elim

/-- When a device was seen last and by which task it was written, after one more statement. -/
def seenAfter (id : Uuid) (seen : Option (τ × Timestamp)) : τ × Statement → Option (τ × Timestamp)
  | (task, .insertDevice new) => if new.deviceId = id then new.lastSeen.map (task, ·) else seen
  | (task, .updateDevice id' active) =>
      if id' = id then
        match active.lastSeen with
        | none => seen
        | some lastSeen => lastSeen.map (task, ·)
      else seen
  | _ => seen

/-- What the last of the statements that wrote it has written about when a device was seen. -/
def lastSeenBy (id : Uuid) (made : List (τ × Statement)) : Option (τ × Timestamp) :=
  made.foldl (seenAfter id) none

omit [DecidableEq τ] in
theorem lastSeenBy_snoc (id : Uuid) (made : List (τ × Statement)) (last : τ × Statement) :
    lastSeenBy id (made ++ [last]) = seenAfter id (lastSeenBy id made) last := by
  simp [lastSeenBy]

/-- A row says what was written last, by a call in which the device showed up then. -/
structure SeenRow (ext : Externals) (labels : List (ServerLabel τ)) (made : List (τ × Statement))
    (row : Device) : Prop where
  written : (lastSeenBy row.deviceId made).map Prod.snd = row.lastSeen
  showed : ∀ task seen, lastSeenBy row.deviceId made = some (task, seen) →
    ∃ call, .event ⟨task, call⟩ ∈ labels ∧
      ShowsUp ext call (trace task labels) row.deviceId row.accountId seen

variable {made : List (τ × Statement)}

theorem SeenRow.mono {label : ServerLabel τ} {row : Device} (h : SeenRow ext labels made row) :
    SeenRow ext (labels ++ [label]) made row where
  written := h.written
  showed := by
    intro task seen hlast
    obtain ⟨call, hcall, hshows⟩ := h.showed task seen hlast
    refine ⟨call, List.mem_append_left _ hcall, hshows.mono ?_⟩
    rw [trace_append]
    exact List.prefix_append _ _

theorem SeenRow.frame {last : τ × Statement} {row row' : Device} (h : SeenRow ext labels made row)
    (hlast : seenAfter row.deviceId (lastSeenBy row.deviceId made) last =
      lastSeenBy row.deviceId made)
    (hid : row'.deviceId = row.deviceId) (haccount : row'.accountId = row.accountId)
    (hseen : row'.lastSeen = row.lastSeen) : SeenRow ext labels (made ++ [last]) row' where
  written := by rw [hid, lastSeenBy_snoc, hlast, hseen, h.written]
  showed := by
    rw [hid, haccount, lastSeenBy_snoc, hlast]
    exact h.showed

theorem run_seenRow {task : τ} {call : Call} {log : Log} {conn : Conn} {statement : Statement}
    {result : statement.Result} {tables tables' : Tables}
    (hcall : .event ⟨task, call⟩ ∈ labels) (hlog : log <+: trace task labels)
    (hguard : SeenGuard ext call log (.query conn statement))
    (hrows : RowGuard ext call log (.query conn statement)) (hseen : Seen log tables)
    (hkeys : ∀ key existing, Saw log (.findDevice key) (some existing) → existing.deviceId = key)
    (hunique : (tables.device.map Device.deviceId).Nodup)
    (hrun : statement.run tables = .ok (result, tables'))
    (hknown : ∀ row ∈ tables.device, SeenRow ext labels made row) :
    ∀ row ∈ tables'.device, SeenRow ext labels (made ++ [(task, statement)]) row := by
  intro row hmem
  cases statement with
  | insertDevice new =>
      obtain ⟨hclash, hrow⟩ := insert_ok hrun
      obtain ⟨-, rfl⟩ := Prod.mk.inj hrow
      rcases List.mem_append.mp hmem with hold | hnew
      · have hother : new.deviceId ≠ row.deviceId :=
          (beq_eq_false_iff_ne.mp (hclash row hold)).symm
        exact (hknown row hold).frame (if_neg hother) rfl rfl rfl
      · obtain rfl := List.mem_singleton.mp hnew
        refine ⟨by simp [lastSeenBy_snoc, seenAfter], fun task' seen hlast => ?_⟩
        rw [lastSeenBy_snoc, seenAfter, if_pos rfl] at hlast
        obtain ⟨time, htime, hpair⟩ := Option.map_eq_some_iff.mp hlast
        obtain ⟨rfl, rfl⟩ := Prod.mk.inj hpair
        exact ⟨call, hcall, (hguard time htime).mono hlog⟩
  | updateDevice id active =>
      obtain ⟨-, rfl⟩ := Prod.mk.inj (Except.ok.inj hrun)
      obtain ⟨old, hold, rfl⟩ := List.mem_map.mp hmem
      have howner : active.accountId = none := by
        obtain ⟨owner, hconcerns, -⟩ := hrows rfl
        cases hconcerns
        assumption
      split
      · rename_i hid
        have hid : old.deviceId = id := by simpa using hid
        have haccount : (active.apply old).accountId = old.accountId := by
          simp [Device.ActiveModel.apply, howner]
        cases hset : active.lastSeen with
        | none =>
            refine (hknown old hold).frame ?_ rfl haccount ?_
            · simp [seenAfter, hset]
            · simp [Device.ActiveModel.apply, hset]
        | some lastSeen =>
            have hlast : lastSeenBy (active.apply old).deviceId
                (made ++ [(task, .updateDevice id active)]) = lastSeen.map (task, ·) := by
              have hsame : id = (active.apply old).deviceId := hid.symm
              rw [lastSeenBy_snoc, seenAfter, if_pos hsame, hset]
            refine ⟨?_, fun task' seen hshown => ?_⟩
            · rw [hlast]
              simp [Device.ActiveModel.apply, hset]
            rw [hlast] at hshown
            obtain ⟨time, rfl, hpair⟩ := Option.map_eq_some_iff.mp hshown
            obtain ⟨rfl, rfl⟩ := Prod.mk.inj hpair
            obtain ⟨key, existing, hsaw, hexisting, hshows⟩ := hguard time hset
            have hsame := (hseen.device _ _ hsaw).owner_eq hunique hold (hid.trans hexisting.symm)
            have hkey : old.deviceId = key := hid.trans (hexisting.symm.trans (hkeys _ _ hsaw))
            refine ⟨call, hcall, ?_⟩
            rw [haccount, hsame, show (active.apply old).deviceId = key from hkey]
            exact hshows.mono hlog
      · rename_i hid
        refine (hknown old hold).frame (if_neg fun hsame => hid ?_) rfl rfl rfl
        simp [hsame]
  | _ =>
      have hsame := run_device_frame hrun (by simp [Statement.writes])
      rw [hsame] at hmem
      exact (hknown row hmem).frame rfl rfl rfl rfl

theorem ServerRun.device_key (h : ServerRun ext isolation cond pool labels pool')
    (hidle : Idle pool) {task : τ} {log : Log} (hlog : log <+: trace task labels) {key : Uuid}
    {existing : Device} (hsaw : Saw log (.findDevice key) (some existing)) :
    existing.deviceId = key := by
  obtain ⟨_, _, _, -, -, hrun⟩ := h.saw hidle (hsaw.mono hlog) rfl
  simpa using List.find?_some (Prod.mk.inj (Except.ok.inj hrun)).1

theorem ServerRun.seenRows (h : ServerRun ext isolation cond pool labels pool')
    (hidle : Idle pool) (hempty : pool.state.database.committed.device = []) :
    ∀ row ∈ pool'.state.database.committed.device, SeenRow ext labels (inEffect labels) row := by
  induction h with
  | nil => simp [hempty]
  | snoc hbefore hcond hstep ih =>
      rename_i middle last labels label
      have hunique := (ServerRun.keeps hidle .nil hbefore).unique (by simp [hempty])
      cases label with
      | event arrival =>
          rw [state_of_arrival hstep, inEffect_event]
          exact fun row hmem => (ih row hmem).mono
      | call task request response =>
          let start := middle.state.database.committed
          let I : List Statement → Tables → Prop := fun done tables =>
            Keeps start tables ∧ RowsStay start tables ∧ ∀ row ∈ tables.device,
              SeenRow ext labels (inEffect labels ++ done.map (task, ·)) row
          have hchanges : I ([] ++ takingEffect (trace task labels) ⟨request, response⟩)
              last.state.database.committed := by
            refine ServerRun.changes_each hbefore hidle hstep (I := I) ?_ []
              ⟨.refl _, .refl _, by simpa⟩
            intro call log conn statement result done tables tables' _ hcall hlog hguard hreached hrun
            obtain ⟨hkeeps, hstay, hrows⟩ := hreached
            have hrowGuard := hguard _ _ (rowGuard_ensures call)
            refine ⟨hkeeps.trans (run_keeps (hguard _ _ (deviceGuard_ensures call)) hrun),
              hstay.trans ?_, ?_⟩
            · rcases hrowGuard.cases hrun with rfl | ⟨_, hconcerns, -⟩
              · exact .refl _
              · exact run_rowsStay hconcerns hrun
            · have hseen := (ServerRun.seen hbefore hidle hlog).stay hstay
              rw [List.map_append, ← List.append_assoc]
              exact run_seenRow hcall hlog (hguard _ _ (seenGuard_ensures call)) hrowGuard hseen
                (fun key existing => ServerRun.device_key hbefore hidle hlog)
                (hkeeps.unique hunique) hrun hrows
          rw [inEffect_call]
          exact fun row hmem => (hchanges.2.2 row hmem).mono

/-- What a listing shows of a row at a time, and what it means that the device is online. -/
structure ShownRow (ext : Externals) (earlier : List (ServerLabel τ)) (clock clock' : Timestamp)
    (row : Device) (info : DeviceInfo) : Prop where
  shown : ∃ time : Timestamp, clock ≤ time ∧ time ≤ clock' ∧ row.info ext time = some info ∧
    (info.online = true ↔ ∃ task call seen,
      lastSeenBy row.deviceId (inEffect earlier) = some (task, seen) ∧
      .event ⟨task, call⟩ ∈ earlier ∧
      ShowsUp ext call (trace task earlier) row.deviceId row.accountId seen ∧
      seen ≤ time ∧ time ≤ seen + ONLINE_THRESHOLD)

/-- Whatever calls run at the same time, a listing answers with the active devices of the
account at one moment after its call came in; a device is shown as online exactly when the
last write of `last_seen` that took effect is that of a call by which the device showed up at
most ninety seconds before the look at the clock. -/
theorem listing_snapshot (hidle : Idle pool)
    (hempty : pool.state.database.committed.device = [])
    (h : ServerRun ext isolation cond pool labels pool') {task : τ} {accountId : AccountId}
    (hcall : .event ⟨task, .protectedly accountId .listDevices⟩ ∈ labels)
    {response : HttpResponse} {list : DeviceListResponse}
    (hstep : (serverWorld ext isolation).step pool' (.call task (.respond response) ()) =
      some pool'') (hbody : response.body = .deviceList list) :
    ∃ earlier later moment, labels = earlier ++ later ∧
      .event ⟨task, .protectedly accountId .listDevices⟩ ∈ earlier ∧
      ServerRun ext isolation cond pool earlier moment ∧
      List.Forall₂ (ShownRow ext earlier moment.state.clock pool'.state.clock)
        (moment.state.database.committed.device.filter fun row =>
          row.accountId == accountId.uuid && row.deletedAt.isNone) list.devices := by
  obtain ⟨before, models, added, htrace, hshown⟩ :=
    h.asked_by hidle hcall hstep shownGuard_ensures list hbody
  obtain ⟨earlier, later, moment, next, rfl, rfl, hearlier, hcond, hquery, hlater⟩ :=
    h.split_trace htrace
  have hstarted := ServerRun.call_mem_step h hidle hcall
  have hrun := run_of_step hquery
  obtain ⟨hmodels, hsame⟩ := Prod.mk.inj (Except.ok.inj hrun)
  refine ⟨earlier, _, moment, rfl, hstarted, hearlier, ?_⟩
  rw [hmodels]
  have hrows : ∀ row ∈ models, SeenRow ext earlier (inEffect earlier) row := by
    intro row hmem
    rw [← hmodels] at hmem
    exact ServerRun.seenRows hearlier hidle hempty row (List.mem_filter.mp hmem).1
  have hadded : trace task later = added := by
    have hwhole := htrace
    rw [trace_append, List.append_cancel_left_eq] at hwhole
    simpa [trace, Label.exchange] using hwhole
  have hclock : moment.state.clock = next.state.clock :=
    (perform_clock (perform_of_step hquery) (by simp)).symm
  refine List.Forall₂.imp (fun row info hrow => ?_) <|
    (List.forall₂_and_left _ _).mpr ⟨hrows, hshown⟩
  obtain ⟨hknown, time, hnow, hinfo⟩ := hrow
  rw [← hadded] at hnow
  obtain ⟨hfrom, hto⟩ := (ServerRun.clock hlater).2 task time hnow
  rw [← hclock] at hfrom
  have honline : info.online = isOnline time row.lastSeen := by
    obtain ⟨features, -, rfl⟩ := Option.map_eq_some_iff.mp hinfo
    rfl
  rw [← hknown.written] at honline
  refine ⟨time, hfrom, hto, hinfo, fun hon => ?_, ?_⟩
  · rw [honline] at hon
    cases hseen : lastSeenBy row.deviceId (inEffect earlier) with
    | none =>
        rw [hseen] at hon
        cases hon
    | some last =>
        obtain ⟨task', seen⟩ := last
        rw [hseen, Option.map_some, isOnline, decide_eq_true_eq] at hon
        obtain ⟨call, hcall', hshows⟩ := hknown.showed task' seen hseen
        have hpast := (ServerRun.clock hearlier).2 task' seen hshows.looked
        exact ⟨task', call, seen, rfl, hcall', hshows, hpast.2.trans hfrom,
          Nat.sub_le_iff_le_add'.mp hon⟩
  · rintro ⟨task', call, seen, hseen, -, -, -, hrecent⟩
    rw [honline, hseen, Option.map_some, isOnline, decide_eq_true_eq]
    exact Nat.sub_le_iff_le_add'.mpr hrecent

end Runs

section Laptop

/-- The task and the list of a step that answers with one. -/
def listAnswer : ServerLabel Nat → Option (Nat × DeviceListResponse)
  | .call task (.respond ⟨_, .deviceList list⟩) _ => some (task, list)
  | _ => none

theorem listAnswer_eq {label : ServerLabel Nat} {task : Nat} {list : DeviceListResponse}
    (h : listAnswer label = some (task, list)) : ∃ response, response.body = .deviceList list ∧
      label = .call task (.respond response) () := by
  unfold listAnswer at h
  split at h
  · obtain ⟨rfl, rfl⟩ := Prod.mk.inj (Option.some.inj h)
    exact ⟨_, rfl, rfl⟩
  · cases h

/-- A device registers, and is online in a listing. -/
theorem laptop_online :
    ∃ labels pool pool' response list, ServerRun sampleExternals .readCommitted (fun _ _ => True)
        (idleServer (τ := Nat) .empty 0) labels pool ∧
      (serverWorld sampleExternals .readCommitted).step pool
        (.call 1 (.respond response) ()) = some pool' ∧ response.body = .deviceList list ∧
      list.devices.map DeviceInfo.online = [true] ∧
      ∃ (earlier later : List (ServerLabel Nat)) (moment : Pool ServerSig Nat (ServerState Nat)),
        labels = earlier ++ later ∧
        .event ⟨1, .protectedly ⟨1⟩ .listDevices⟩ ∈ earlier ∧
        ServerRun sampleExternals .readCommitted (fun _ _ => True) (idleServer .empty 0) earlier
          moment ∧
        List.Forall₂ (ShownRow sampleExternals earlier moment.state.clock pool.state.clock)
          (moment.state.database.committed.device.filter fun row =>
            row.accountId == 1 && row.deletedAt.isNone) list.devices := by
  let laptop : DeviceUpsertRequest :=
    { deviceId := ⟨77⟩, name := "Laptop", irohPublicKey := "k1", enabledFeatures := [] }
  let script : List (Move Nat (Arrival Nat)) :=
    .event ⟨0, .protectedly ⟨1⟩ (.upsertDevice 77 laptop)⟩ :: List.replicate 6 (.tick 0) ++
      .event ⟨1, .protectedly ⟨1⟩ .listDevices⟩ :: List.replicate 3 (.tick 1)
  have hsome : ((serverWorld sampleExternals .readCommitted).follow (fun _ _ => True)
      (fun task state => state.oblige .readCommitted task) script (idleServer .empty 0)).any
        (fun result => (result.1.getLast?.bind listAnswer).any fun answer =>
          answer.1 == 1 && answer.2.devices.map DeviceInfo.online == [true]) = true := by
    decide +kernel
  obtain ⟨⟨labels, pool'⟩, hfollow, hresult⟩ := (Option.any_eq_true _ _).mp hsome
  obtain ⟨⟨task, list⟩, hanswer, honline⟩ := (Option.any_eq_true _ _).mp hresult
  obtain ⟨label, hlast, hlabel⟩ := Option.bind_eq_some_iff.mp hanswer
  obtain ⟨before, hlabels⟩ := List.getLast?_eq_some_iff.mp hlast
  obtain ⟨response, hbody, rfl⟩ := listAnswer_eq hlabel
  simp only [Bool.and_eq_true, beq_iff_eq] at honline
  obtain ⟨rfl, honline⟩ := honline
  have hrun := World.run_of_follow hfollow
  have hcall : .event ⟨1, .protectedly ⟨1⟩ .listDevices⟩ ∈ labels :=
    World.event_of_follow hfollow (by simp [script])
  obtain rfl : labels = before ++ [_] := hlabels
  obtain ⟨pool, last, hbefore, -, hstep, -⟩ := World.Run.split_inv hrun
  have hstarted : .event ⟨1, .protectedly ⟨1⟩ .listDevices⟩ ∈ before := by simpa using hcall
  exact ⟨before, pool, last, response, list, hbefore, hstep, hbody, honline,
    listing_snapshot (idle_idleServer _ _) rfl hbefore hstarted hstep hbody⟩

end Laptop

end Failsafe.Server
