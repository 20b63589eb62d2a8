import Failsafe.Server.Footprint

/-!
The device table under any interleaving of calls: who can change which column of a
row, and that every row stays well formed.
-/

namespace Failsafe.Server

open Failsafe.Core Failsafe.Lib

/-- Some text, with no white space at its ends. -/
def Trimmed (text : String) : Prop :=
  text.isEmpty = false ∧ trimmed text = text

/-- A features column that decodes to known features. -/
def KnownFeatures (column : Json) : Prop :=
  ∃ features, column.toFeatures = some features ∧
    ∀ feature ∈ features, isKnownFeature feature.id = true

structure Device.WellFormed (row : Device) : Prop where
  name : Trimmed row.name
  irohPublicKey : Trimmed row.irohPublicKey
  enabledFeatures : KnownFeatures row.enabledFeatures

/-- Columns that may be set on a device: never the account, and the others well formed. -/
structure Device.ActiveModel.WellFormed (active : Device.ActiveModel) : Prop where
  accountId : active.accountId = none
  name : ∀ name ∈ active.name, Trimmed name
  irohPublicKey : ∀ key ∈ active.irohPublicKey, Trimmed key
  enabledFeatures : ∀ column ∈ active.enabledFeatures, KnownFeatures column

theorem trimmed_spec {text : String} (h : ¬(trimmed text).isEmpty = true) :
    Trimmed (trimmed text) :=
  ⟨Bool.eq_false_iff.mpr h, trimmed_trimmed text⟩

theorem featuresToJson_known {features : List FeatureId} {column : Json}
    (h : featuresToJson features = .ok column) : KnownFeatures column := by
  unfold featuresToJson at h
  split at h
  · cases h
  · rename_i hnone
    obtain rfl := Except.ok.inj h
    have hids : (features.map FeatureId.id).map FeatureId.mk = features := by
      rw [List.map_map]
      exact List.map_id features
    refine ⟨features, congrArg some hids, fun feature hmem => ?_⟩
    simpa using List.find?_eq_none.mp hnone feature hmem

theorem patchedFeatures_known {features : Option (List FeatureId)} {column : Option Json}
    (h : patchedFeatures features = .ok column) :
    ∀ column' ∈ column, KnownFeatures column' := by
  cases features with
  | none =>
      obtain rfl := Except.ok.inj h
      simp
  | some features =>
      cases hjson : featuresToJson features with
      | error error => simp [patchedFeatures, hjson, Except.map] at h
      | ok column' =>
          simp only [patchedFeatures, hjson, Except.map, Except.ok.injEq] at h
          rintro column'' hmem
          rw [← h] at hmem
          obtain rfl := Option.some.inj hmem
          exact featuresToJson_known hjson

theorem Device.WellFormed.apply {row : Device} (h : row.WellFormed)
    {active : Device.ActiveModel} (hactive : active.WellFormed) :
    (active.apply row).WellFormed := by
  constructor
  · cases hname : active.name with
    | none => simpa [Device.ActiveModel.apply, hname] using h.name
    | some name => simpa [Device.ActiveModel.apply, hname] using hactive.name name hname
  · cases hkey : active.irohPublicKey with
    | none => simpa [Device.ActiveModel.apply, hkey] using h.irohPublicKey
    | some key =>
        simpa [Device.ActiveModel.apply, hkey] using hactive.irohPublicKey key hkey
  · cases hcolumn : active.enabledFeatures with
    | none => simpa [Device.ActiveModel.apply, hcolumn] using h.enabledFeatures
    | some column =>
        simpa [Device.ActiveModel.apply, hcolumn] using
          hactive.enabledFeatures column hcolumn

variable (ext : Externals)

/-- A patch of a device, read as one of the account that patches. -/
def Patches (call : Call) (log : Log) (deviceId accountId : Uuid) : Prop :=
  ∃ id request existing, call = .protectedly ⟨accountId⟩ (.patchDevice id request) ∧
    Saw log (.findDevice id) (some existing) ∧ existing.deviceId = deviceId ∧
    existing.accountId = accountId

/-- A redemption of a pairing code of the account, by a device that was read as a
removed one of the account. -/
def Revives (call : Call) (log : Log) (deviceId accountId : Uuid) : Prop :=
  ∃ request code record id existing, call = .publicly (.redeemPairingCode request) ∧
    normalizeCode ext request.code = some code ∧
    Saw log (.findPairingCodeByCode code) (some record) ∧ record.accountId = accountId ∧
    Saw log (.findDevice id) (some existing) ∧ existing.deviceId = deviceId ∧
    existing.accountId = accountId ∧ existing.deletedAt.isSome = true

/-- What a call may do to the device table after its history. -/
def DeviceGuard (call : Call) (log : Log) : ServerRequest → Prop
  | .query _ (.insertDevice new) => new.WellFormed
  | .query _ (.updateDevice id active) =>
      active.WellFormed ∧
        (active.deletedAt = some none → ∃ accountId, Revives ext call log id accountId) ∧
        (active.name.isSome = true ∨ active.enabledFeatures.isSome = true →
          ∃ accountId, Patches call log id accountId ∨ Revives ext call log id accountId)
  | _ => True

variable {ext}

instance (call : Call) : Lenient (DeviceGuard ext call) := by
  constructor
  intro log request hquiet
  unfold DeviceGuard
  split
  · cases hquiet
  · cases hquiet
  · trivial

theorem deviceGuard_of_touches {call : Call} {effects : List Effect} {log : Log}
    {request : ServerRequest} (h : Touches effects request)
    (hdevice : ∀ conn kind, .write conn kind .device ∉ effects) :
    DeviceGuard ext call log request := by
  unfold DeviceGuard
  split
  · exact (hdevice _ _ (h _ _ rfl)).elim
  · exact (hdevice _ _ (h _ _ rfl)).elim
  · trivial

/-- A new device was seen when its task looked at the clock. -/
def Device.Fresh (new : Device) (log : Log) : Prop :=
  ∃ time : Timestamp, ⟨.now, time⟩ ∈ log ∧ new.lastSeen = some time

/-- An update says that the device was seen when its task looked at the clock. -/
def Device.ActiveModel.Refreshes (active : Device.ActiveModel) (log : Log) : Prop :=
  ∃ time : Timestamp, ⟨.now, time⟩ ∈ log ∧ active.lastSeen = some (some time)

section Handlers

variable {guard : Log → ServerRequest → Prop} [Lenient guard] {log : Log}

/-- What `register_device` may do: insert a device, refresh one of the account, or in
pairing mode bring back one that was read as removed. -/
theorem registerDevice_obeys {conn : Conn} {accountId : AccountId}
    {request : DeviceUpsertRequest} {mode : RegisterDeviceMode}
    (hpending : Unwritten conn log)
    (hinsert : ∀ log' new, log <+: log' → new.WellFormed → new.accountId = accountId.uuid →
      new.deviceId = request.deviceId.uuid → new.Fresh log' →
      guard log' (.query conn (.insertDevice new)))
    (hupdate : ∀ log' existing (active : Device.ActiveModel), log <+: log' →
      Saw log' (.findDevice request.deviceId.uuid) (some existing) →
      existing.accountId = accountId.uuid → active.WellFormed → active.Refreshes log' →
      (active.deletedAt = some none ∨ active.name.isSome = true ∨
        active.enabledFeatures.isSome = true →
          mode = .pairing ∧ existing.deletedAt.isSome = true) →
      guard log' (.query conn (.updateDevice existing.deviceId active))) :
    Obeys guard (registerDevice conn accountId request mode) (fun _ log' => log <+: log') log := by
  refine .ite (fun _ => .bind .throw) fun hnames => ?_
  rw [not_or] at hnames
  refine .bind (.read rfl fun existing => ?_)
  cases existing with
  | none =>
      refine .bind (.now fun time => .bind (.liftExcept fun column hcolumn => ?_))
      refine .insertDevice (hinsert _ _ (by simp) ?_ rfl rfl ⟨time, by simp, rfl⟩) fun _ => by simp
      exact ⟨trimmed_spec hnames.1, trimmed_spec hnames.2, featuresToJson_known hcolumn⟩
  | some existing =>
      refine .ite (fun _ => .bind .throw) fun haccount => ?_
      rw [not_not] at haccount
      have hsaw : Saw (log ++ [⟨.query conn (.findDevice request.deviceId.uuid),
          .ok (some existing)⟩]) (.findDevice request.deviceId.uuid) (some existing) :=
        .read hpending
      refine .ite (fun hdeleted => ?_) fun _ => ?_
      · cases mode with
        | upsert => exact .throw
        | pairing =>
            refine .bind (.now fun time => .bind (.liftExcept fun column hcolumn => ?_))
            refine .updateDevice (hupdate _ existing _ (by simp) (hsaw.mono (by simp)) haccount
              ?_ ⟨time, by simp, rfl⟩ fun _ => ⟨rfl, hdeleted⟩) fun _ _ => by simp
            constructor
            · rfl
            · rintro name ⟨⟩
              exact trimmed_spec hnames.1
            · rintro key ⟨⟩
              exact trimmed_spec hnames.2
            · rintro column' ⟨⟩
              exact featuresToJson_known hcolumn
      · refine .bind (.now fun time => ?_)
        refine .updateDevice (hupdate _ existing _ (by simp) (hsaw.mono (by simp)) haccount
          ?_ ⟨time, by simp, rfl⟩ ?_) fun _ _ => by simp
        · constructor
          · rfl
          · simp [Device.ActiveModel.unchanged]
          · rintro key ⟨⟩
            exact trimmed_spec hnames.2
          · simp [Device.ActiveModel.unchanged]
        · simp [Device.ActiveModel.unchanged]

theorem loadActiveDevice_obeys {deviceId : Uuid} {accountId : AccountId}
    {post : Device → Log → Prop}
    (h : ∀ log' existing, Saw log' (.findDevice deviceId) (some existing) →
      existing.accountId = accountId.uuid → post existing log') :
    Obeys guard (loadActiveDevice deviceId accountId) post log := by
  refine .bind (.read rfl fun existing => ?_)
  cases existing with
  | none => exact .throw
  | some existing =>
      refine .ite (fun _ => .bind .throw) fun haccount => ?_
      rw [not_not] at haccount
      exact .ite (fun _ => .bind .throw) fun _ => .pure (h _ _ (.read unwritten_db) haccount)

theorem modelToInfo_obeys {model : Device} :
    Obeys guard (modelToInfo ext model) (fun _ _ => True) log := by
  unfold modelToInfo
  split
  · exact .throw
  · exact .bind (.now fun _ => trivial)

end Handlers

section Calls

variable {log : Log}

theorem upsertDevice_obeys {accountId : AccountId} {deviceId : Uuid}
    {request : DeviceUpsertRequest} :
    Obeys (DeviceGuard ext (.protectedly accountId (.upsertDevice deviceId request)))
      (upsertDevice ext accountId deviceId request) (fun _ _ => True) log := by
  refine .ite (fun _ => .bind .throw) fun _ => .bind ((registerDevice_obeys unwritten_db ?_ ?_).mono
    fun _ _ _ => modelToInfo_obeys)
  · exact fun _ _ _ hnew _ _ _ => hnew
  · intro log' existing active _ _ _ hactive _ hmode
    refine ⟨hactive, fun hdeleted => ?_, fun hpolicy => ?_⟩
    · cases (hmode (.inl hdeleted)).1
    · cases (hmode (.inr hpolicy)).1

theorem patchDevice_obeys {accountId : AccountId} {deviceId : Uuid}
    {request : DevicePatchRequest} :
    Obeys (DeviceGuard ext (.protectedly accountId (.patchDevice deviceId request)))
      (patchDevice ext accountId deviceId request) (fun _ _ => True) log := by
  refine .ite (fun _ => .bind .throw) fun _ => .ite (fun _ => .bind .throw) fun hname => ?_
  refine .bind (loadActiveDevice_obeys fun log' existing hsaw haccount => ?_)
  refine .bind (.liftExcept fun column hcolumn => ?_)
  refine .bind (.updateDevice ⟨?_, nofun, fun _ => ⟨accountId.uuid, .inl ?_⟩⟩
    fun _ _ => modelToInfo_obeys)
  · constructor
    · rfl
    · intro name hmem
      obtain ⟨name', hname', rfl⟩ := Option.map_eq_some_iff.mp hmem
      rw [hname'] at hname
      exact trimmed_spec hname
    · exact nofun
    · exact patchedFeatures_known hcolumn
  · exact ⟨deviceId, request, existing, rfl, hsaw, rfl, haccount⟩

theorem deleteDevice_obeys {accountId : AccountId} {deviceId : Uuid} :
    Obeys (DeviceGuard ext (.protectedly accountId (.deleteDevice deviceId)))
      (deleteDevice accountId deviceId) (fun _ _ => True) log := by
  refine .bind (loadActiveDevice_obeys fun log' existing _ _ => .bind (.now fun time => ?_))
  refine .bind (.updateDevice ⟨⟨rfl, nofun, nofun, nofun⟩, nofun, ?_⟩ fun _ _ => trivial)
  simp [Device.ActiveModel.unchanged]

theorem heartbeatDevice_obeys {accountId : AccountId} {deviceId : Uuid} :
    Obeys (DeviceGuard ext (.protectedly accountId (.heartbeatDevice deviceId)))
      (heartbeatDevice ext accountId deviceId) (fun _ _ => True) log := by
  refine .bind (loadActiveDevice_obeys fun log' existing _ _ => .bind (.now fun time => ?_))
  refine .bind (.updateDevice ⟨⟨rfl, nofun, nofun, nofun⟩, nofun, ?_⟩
    fun _ _ => modelToInfo_obeys)
  simp [Device.ActiveModel.unchanged]

theorem registerPaired_obeys {guard : Log → ServerRequest → Prop} [Lenient guard]
    {accountId : AccountId} {device : Option DeviceUpsertRequest} (hpending : Unwritten .txn log)
    (hinsert : ∀ log' new, new.WellFormed → guard log' (.query .txn (.insertDevice new)))
    (hupdate : ∀ log' existing (active : Device.ActiveModel), log <+: log' →
      ∀ id, Saw log' (.findDevice id) (some existing) → existing.accountId = accountId.uuid →
      active.WellFormed →
      (active.deletedAt = some none ∨ active.name.isSome = true ∨
        active.enabledFeatures.isSome = true → existing.deletedAt.isSome = true) →
      guard log' (.query .txn (.updateDevice existing.deviceId active))) :
    Obeys guard (registerPaired accountId device) (fun _ log' => log <+: log') log := by
  cases device with
  | none => exact .pure List.prefix_rfl
  | some request =>
      refine .bind ((registerDevice_obeys hpending (fun _ _ _ hnew _ _ _ => hinsert _ _ hnew)
        ?_).mono fun _ _ hlog' => .pure hlog')
      intro log' existing active hlog' hsaw haccount hactive _ hmode
      exact hupdate log' existing active hlog' _ hsaw haccount hactive fun hset => (hmode hset).2

theorem issueAuthResponse_obeys {call : Call} {accountId : AccountId} :
    Obeys (DeviceGuard ext call) (issueAuthResponse ext accountId) (fun _ _ => True) log :=
  .of_all (issueAuthResponse_touches (List.mem_singleton.mpr rfl)) fun _ _ htouches =>
    deviceGuard_of_touches htouches (by simp)

theorem redeemPairingCode_obeys {request : PairingRedeemRequest} :
    Obeys (DeviceGuard ext (.publicly (.redeemPairingCode request)))
      (redeemPairingCode ext request) (fun _ _ => True) log := by
  unfold redeemPairingCode
  split
  · exact .throw
  rename_i code hcode
  refine .bind (.withTransaction ?_)
  refine .bind (.read rfl fun record => ?_)
  cases record with
  | none => exact .throw
  | some record =>
      refine .bind (.now fun time => .ite (fun _ => .bind .throw) fun _ =>
        .ite (fun _ => .bind .throw) fun _ => ?_)
      have hunwritten : Unwritten .txn (log ++ [⟨.begin, .ok ()⟩] ++
          [⟨.query .txn (.findPairingCodeByCode code), .ok (some record)⟩] ++ [⟨.now, time⟩]) :=
        (unwritten_begin.snoc rfl).snoc rfl
      have hsaw : Saw (log ++ [⟨.begin, .ok ()⟩] ++
          [⟨.query .txn (.findPairingCodeByCode code), .ok (some record)⟩] ++ [⟨.now, time⟩])
          (.findPairingCodeByCode code) (some record) :=
        (Saw.read unwritten_begin).mono (List.prefix_append _ _)
      refine .bind ((registerPaired_obeys hunwritten ?_ ?_).mono fun _ log' hlog' => ?_)
      · exact fun _ _ hnew => hnew
      · intro log' existing active hlog' id hexisting haccount hactive hmode
        have hrevives : existing.deletedAt.isSome = true →
            Revives ext (.publicly (.redeemPairingCode request)) log' existing.deviceId
              record.accountId := fun hdeleted =>
          ⟨request, code, record, _, existing, rfl, hcode, hsaw.mono hlog', rfl, hexisting, rfl,
            haccount, hdeleted⟩
        exact ⟨hactive, fun hset => ⟨_, hrevives (hmode (.inl hset))⟩,
          fun hset => ⟨_, .inr (hrevives (hmode (.inr hset)))⟩⟩
      · refine .bind (.now fun _ => .bind (.query trivial fun _ => ?_))
        exact .ite (fun _ => .bind .throw) fun _ => .pure ⟨trivial, issueAuthResponse_obeys⟩

theorem deviceGuard_ensures (call : Call) :
    (call.run ext).Ensures (DeviceGuard ext call) Prog.heard (fun _ _ => True) [] := by
  refine Obeys.run ?_ fun _ _ => trivial
  have hother (hdevice : ∀ conn kind, .write conn kind .device ∉ call.effects) :
      Obeys (DeviceGuard ext call) (handle ext call) (fun _ _ => True) [] :=
    .of_all (handle_touches ext call) fun _ _ htouches => deviceGuard_of_touches htouches hdevice
  cases call with
  | publicly route =>
      cases route with
      | redeemPairingCode => exact .bind (redeemPairingCode_obeys.mono fun _ _ _ => trivial)
      | _ => exact hother (by simp [Call.effects])
  | protectedly accountId route =>
      cases route with
      | upsertDevice => exact .bind (upsertDevice_obeys.mono fun _ _ _ => trivial)
      | patchDevice => exact .bind (patchDevice_obeys.mono fun _ _ _ => trivial)
      | deleteDevice => exact .bind (deleteDevice_obeys.mono fun _ _ _ => trivial)
      | heartbeatDevice => exact .bind (heartbeatDevice_obeys.mono fun _ _ _ => trivial)
      | _ => exact hother (by simp [Call.effects])

end Calls

section Rows

/-- Rows stay, under their account, and new ones have new ids. -/
structure Keeps (tables tables' : Tables) : Prop where
  stay : ∀ row ∈ tables.device, ∃ row' ∈ tables'.device,
    row'.deviceId = row.deviceId ∧ row'.accountId = row.accountId
  unique : (tables.device.map Device.deviceId).Nodup →
    (tables'.device.map Device.deviceId).Nodup
  wellFormed : (∀ row ∈ tables.device, row.WellFormed) → ∀ row ∈ tables'.device, row.WellFormed

theorem Keeps.refl (tables : Tables) : Keeps tables tables :=
  ⟨fun row hmem => ⟨row, hmem, rfl, rfl⟩, id, id⟩

theorem Keeps.trans {tables₁ tables₂ tables₃ : Tables} (h : Keeps tables₁ tables₂)
    (h' : Keeps tables₂ tables₃) : Keeps tables₁ tables₃ := by
  refine ⟨fun row hmem => ?_, fun hunique => h'.unique (h.unique hunique),
    fun hrows => h'.wellFormed (h.wellFormed hrows)⟩
  obtain ⟨row', hmem', hid, haccount⟩ := h.stay row hmem
  obtain ⟨row'', hmem'', hid', haccount'⟩ := h'.stay row' hmem'
  exact ⟨row'', hmem'', hid'.trans hid, haccount'.trans haccount⟩

theorem run_keeps {call : Call} {log : Log} {conn : Conn} {statement : Statement}
    {result : statement.Result} {tables tables' : Tables}
    (hguard : DeviceGuard ext call log (.query conn statement))
    (hrun : statement.run tables = .ok (result, tables')) : Keeps tables tables' := by
  have hunique := (device_step hrun).nodup
  rcases run_device hrun with hsame | ⟨new, rfl, hfresh, hrows⟩ | ⟨id, active, rfl, hrows⟩
  · refine ⟨fun row hmem => ⟨row, hsame ▸ hmem, rfl, rfl⟩, hunique, ?_⟩
    rw [hsame]
    exact fun h => h
  · refine ⟨fun row hmem => ⟨row, by simp [hrows, hmem], rfl, rfl⟩, hunique, ?_⟩
    · intro hwell row hmem
      rw [hrows] at hmem
      rcases List.mem_append.mp hmem with hold | hnew
      · exact hwell row hold
      · rw [List.mem_singleton.mp hnew]
        exact hguard
  · have hactive : active.WellFormed := hguard.1
    refine ⟨fun row hmem => ⟨_, hrows ▸ List.mem_map_of_mem hmem, ?_⟩, hunique, ?_⟩
    · split
      · exact ⟨rfl, by simp [Device.ActiveModel.apply, hactive.accountId]⟩
      · exact ⟨rfl, rfl⟩
    · intro hwell row hmem
      rw [hrows] at hmem
      obtain ⟨row', hmem', rfl⟩ := List.mem_map.mp hmem
      split
      · exact (hwell row' hmem').apply hactive
      · exact hwell row' hmem'

end Rows

theorem KnownFeatures.info {model : Device} (h : KnownFeatures model.enabledFeatures) :
    ∃ info : Timestamp → DeviceInfo,
      (modelToInfo ext model).run = .call .now fun time => .ret (.ok (info time)) := by
  obtain ⟨features, hfeatures, -⟩ := h
  refine ⟨fun time => {
    deviceId := ⟨model.deviceId⟩
    name := model.name
    irohPublicKey := model.irohPublicKey
    enabledFeatures := features
    lastSeen := model.lastSeen.map ext.toRfc3339
    online := isOnline time model.lastSeen }, ?_⟩
  unfold modelToInfo
  rw [hfeatures]
  rfl

section Runs

variable {τ : Type} [DecidableEq τ] {isolation : Isolation}
  {cond : ServerState τ → ServerLabel τ → Prop}
  {pool pool' : Pool ServerSig τ (ServerState τ)} {labels : List (ServerLabel τ)}

/-- A step of a call that, with its history up to some point, meets a condition. -/
def StepOf (labels : List (ServerLabel τ)) (label : ServerLabel τ)
    (P : Call → Log → Prop) : Prop :=
  ∃ task request response call log, label = .call task request response ∧
    .event ⟨task, call⟩ ∈ labels ∧ log <+: trace task labels ∧ P call log

theorem StepOf.mono {label : ServerLabel τ} {P Q : Call → Log → Prop}
    (h : StepOf labels label P) (hPQ : ∀ call log, P call log → Q call log) :
    StepOf labels label Q := by
  obtain ⟨task, request, response, call, log, hlabel, hmem, hlog, hP⟩ := h
  exact ⟨task, request, response, call, log, hlabel, hmem, hlog, hPQ _ _ hP⟩

variable (ext) in
/-- What may become of a device row in a step. -/
structure RowStep (labels : List (ServerLabel τ)) (label : ServerLabel τ)
    (row row' : Device) : Prop where
  deviceId : row'.deviceId = row.deviceId
  accountId : row'.accountId = row.accountId
  revived : row.deletedAt.isSome = true → row'.deletedAt = none →
    StepOf labels label fun call log => Revives ext call log row.deviceId row.accountId
  policy : row'.name ≠ row.name ∨ row'.enabledFeatures ≠ row.enabledFeatures →
    StepOf labels label fun call log =>
      Patches call log row.deviceId row.accountId ∨
        Revives ext call log row.deviceId row.accountId

theorem RowStep.refl (label : ServerLabel τ) (row : Device) :
    RowStep ext labels label row row := by
  refine ⟨rfl, rfl, fun hsome hnone => ?_, fun h => ?_⟩
  · rw [hnone] at hsome
    cases hsome
  · rcases h with h | h <;> exact (h rfl).elim

theorem RowStep.trans {label : ServerLabel τ} {row row' row'' : Device}
    (h : RowStep ext labels label row row') (h' : RowStep ext labels label row' row'') :
    RowStep ext labels label row row'' := by
  obtain ⟨hid, haccount, hrevived, hpolicy⟩ := h
  obtain ⟨hid', haccount', hrevived', hpolicy'⟩ := h'
  rw [hid, haccount] at hrevived' hpolicy'
  refine ⟨hid'.trans hid, haccount'.trans haccount, fun hsome hnone => ?_, fun hchanged => ?_⟩
  · cases hdeleted : row'.deletedAt with
    | none => exact hrevived hsome hdeleted
    | some time => exact hrevived' (by simp [hdeleted]) hnone
  · by_cases hmiddle : row'.name ≠ row.name ∨ row'.enabledFeatures ≠ row.enabledFeatures
    · exact hpolicy hmiddle
    · simp only [ne_eq, not_or, not_not] at hmiddle
      rw [← hmiddle.1, ← hmiddle.2] at hchanged
      exact hpolicy' hchanged

theorem ServerRun.keeps (hidle : Idle pool) {pool₁ : Pool ServerSig τ (ServerState τ)}
    {labels' : List (ServerLabel τ)} (h : ServerRun ext isolation cond pool labels pool₁)
    (hrest : ServerRun ext isolation cond pool₁ labels' pool') :
    Keeps pool₁.state.database.committed pool'.state.database.committed := by
  refine ServerRun.relates h hrest Keeps.refl (fun _ _ _ => Keeps.trans) ?_
  intro labels middle task request response last hrun hstep
  refine ServerRun.changes hrun hidle hstep Keeps.refl (fun _ _ _ => Keeps.trans) ?_
  intro call log conn statement result tables tables' _ _ _ hguard _ hrun'
  exact run_keeps (hguard _ _ (deviceGuard_ensures call)) hrun'

theorem ServerRun.saw_device (h : ServerRun ext isolation cond pool labels pool')
    (hidle : Idle pool) {task : τ} {log : Log} (hlog : log <+: trace task labels) {id : Uuid}
    {existing : Device} (hsaw : Saw log (.findDevice id) (some existing)) :
    ∃ row ∈ pool'.state.database.committed.device,
      row.deviceId = existing.deviceId ∧ row.accountId = existing.accountId := by
  obtain ⟨earlier, later, pool₁, hearlier, hlater, hrun⟩ := h.saw hidle (hsaw.mono hlog) rfl
  have hfound := (Prod.mk.inj (Except.ok.inj hrun)).1
  exact (ServerRun.keeps hidle hearlier hlater).stay existing (List.mem_of_find?_eq_some hfound)

/-- What one statement of a call does to the rows. -/
theorem run_rowStep {task : τ} {request : ServerRequest} {response : request.Response}
    {call : Call} {log : Log} {conn : Conn} {statement : Statement}
    {result : statement.Result} {tables tables' : Tables}
    (hcall : .event ⟨task, call⟩ ∈ labels) (hlog : log <+: trace task labels)
    (hguard : DeviceGuard ext call log (.query conn statement))
    (howner : ∀ id existing, Saw log (.findDevice id) (some existing) →
      ∀ row ∈ tables.device, row.deviceId = existing.deviceId →
        row.accountId = existing.accountId)
    (hrun : statement.run tables = .ok (result, tables')) :
    ∀ row ∈ tables.device, ∃ row' ∈ tables'.device,
      RowStep ext labels (.call task request response) row row' := by
  intro row hmem
  rcases run_device hrun with hsame | ⟨new, rfl, hfresh, hrows⟩ | ⟨id, active, rfl, hrows⟩
  · exact ⟨row, hsame ▸ hmem, .refl _ _⟩
  · exact ⟨row, by simp [hrows, hmem], .refl _ _⟩
  · refine ⟨_, hrows ▸ List.mem_map_of_mem hmem, ?_⟩
    by_cases hid : row.deviceId = id
    · obtain ⟨hactive, hrevived, hpolicy⟩ := hguard
      have hstep {P : Call → Log → Prop} (hP : P call log) :
          StepOf labels (.call task request response) P :=
        ⟨task, request, response, call, log, rfl, hcall, hlog, hP⟩
      have hpatches {accountId : Uuid} (h : Patches call log id accountId) :
          Patches call log row.deviceId row.accountId := by
        obtain ⟨id', request', existing, hcall', hsaw, hid', haccount⟩ := h
        have hrow := howner id' existing hsaw row hmem (hid.trans hid'.symm)
        rw [hid, hrow, haccount]
        exact ⟨id', request', existing, hcall', hsaw, hid', haccount⟩
      have hrevives {accountId : Uuid} (h : Revives ext call log id accountId) :
          Revives ext call log row.deviceId row.accountId := by
        obtain ⟨request', code, record, id', existing, hcall', hcode, hrecord, hrecordAccount,
          hsaw, hid', haccount, hdeleted⟩ := h
        have hrow := howner id' existing hsaw row hmem (hid.trans hid'.symm)
        rw [hid, hrow, haccount]
        exact ⟨request', code, record, id', existing, hcall', hcode, hrecord, hrecordAccount,
          hsaw, hid', haccount, hdeleted⟩
      rw [if_pos hid]
      refine ⟨rfl, by simp [Device.ActiveModel.apply, hactive.accountId], fun hsome hnone => ?_,
        fun hchanged => ?_⟩
      · have hset : active.deletedAt = some none := by
          cases hactive' : active.deletedAt with
          | none =>
              simp only [Device.ActiveModel.apply, hactive', Option.getD_none] at hnone
              simp [hnone] at hsome
          | some deletedAt =>
              simp only [Device.ActiveModel.apply, hactive', Option.getD_some] at hnone
              rw [hnone]
        obtain ⟨accountId, h⟩ := hrevived hset
        exact hstep (hrevives h)
      · have hset : active.name.isSome = true ∨ active.enabledFeatures.isSome = true := by
          rcases hchanged with hname | hcolumn
          · left
            cases hactive' : active.name with
            | none => simp [Device.ActiveModel.apply, hactive'] at hname
            | some name => rfl
          · right
            cases hactive' : active.enabledFeatures with
            | none => simp [Device.ActiveModel.apply, hactive'] at hcolumn
            | some column => rfl
        obtain ⟨accountId, h | h⟩ := hpolicy hset
        · exact hstep (.inl (hpatches h))
        · exact hstep (.inr (hrevives h))
    · rw [if_neg hid]
      exact .refl _ _

theorem ServerRun.rowStep (hidle : Idle pool) (h : ServerRun ext isolation cond pool labels pool')
    (hunique : (pool'.state.database.committed.device.map Device.deviceId).Nodup)
    {label : ServerLabel τ} {pool'' : Pool ServerSig τ (ServerState τ)}
    (hstep : (serverWorld ext isolation).step pool' label = some pool'') :
    ∀ row ∈ pool'.state.database.committed.device,
      ∃ row' ∈ pool''.state.database.committed.device, RowStep ext labels label row row' := by
  cases label with
  | event event =>
      rw [state_of_arrival hstep]
      exact fun row hmem => ⟨row, hmem, .refl _ _⟩
  | call task request response =>
      refine (ServerRun.changes h hidle hstep (R := fun tables tables' => Keeps tables tables' ∧
        ∀ row ∈ tables.device, ∃ row' ∈ tables'.device,
          RowStep ext labels (.call task request response) row row') ?_ ?_ ?_).2
      · exact fun tables => ⟨.refl _, fun row hmem => ⟨row, hmem, .refl _ _⟩⟩
      · rintro tables₁ tables₂ tables₃ ⟨hkeeps, hrows⟩ ⟨hkeeps', hrows'⟩
        refine ⟨hkeeps.trans hkeeps', fun row hmem => ?_⟩
        obtain ⟨row', hmem', hrow⟩ := hrows row hmem
        obtain ⟨row'', hmem'', hrow'⟩ := hrows' row' hmem'
        exact ⟨row'', hmem'', hrow.trans hrow'⟩
      · intro call log conn statement result tables tables' _ hcall hlog hguard hreached hrun
        have hdevice := hguard _ _ (deviceGuard_ensures call)
        refine ⟨run_keeps hdevice hrun, run_rowStep hcall hlog hdevice ?_ hrun⟩
        -- ids are unique, so the row that was seen is this one
        intro id existing hsaw row hmem hid
        obtain ⟨row₀, hmem₀, hid₀, haccount₀⟩ := h.saw_device hidle hlog hsaw
        obtain ⟨row₁, hmem₁, hid₁, haccount₁⟩ := hreached.1.stay row₀ hmem₀
        obtain rfl := List.inj_on_of_nodup_map (hreached.1.unique hunique) hmem₁ hmem
          (hid₁.trans (hid₀.trans hid.symm))
        exact haccount₁.trans haccount₀

theorem modelToInfo_ensures {guard : Log → ServerRequest → Prop} [Lenient guard] {log : Log}
    {model : Device} :
    Prog.Ensures (S := ServerSig) guard Prog.heard (modelToInfo ext model).run
      (fun result log' => log <+: log' ∧
        ((∃ info, result = .ok info) ∨ ¬KnownFeatures model.enabledFeatures)) log := by
  cases hcolumn : model.enabledFeatures.toFeatures with
  | none =>
      unfold modelToInfo
      rw [hcolumn]
      refine ⟨List.prefix_rfl, .inr ?_⟩
      rintro ⟨features, hfeatures, -⟩
      rw [hcolumn] at hfeatures
      cases hfeatures
  | some features =>
      unfold modelToInfo
      rw [hcolumn]
      refine ⟨Lenient.allow _ _ rfl, ?_⟩
      rintro time _ rfl
      exact ⟨List.prefix_append _ _, .inl ⟨_, rfl⟩⟩

theorem modelsToInfo_ensures {guard : Log → ServerRequest → Prop} [Lenient guard] {log : Log}
    {models : List Device} :
    Prog.Ensures (S := ServerSig) guard Prog.heard (modelsToInfo ext models).run
      (fun result log' => log <+: log' ∧ ((∃ infos, result = .ok infos) ∨
        ∃ model ∈ models, ¬KnownFeatures model.enabledFeatures)) log := by
  induction models generalizing log with
  | nil => exact ⟨List.prefix_rfl, .inl ⟨[], rfl⟩⟩
  | cons model models ih =>
      refine Prog.ensures_tryBind.mpr (Prog.Ensures.mono modelToInfo_ensures ?_)
      rintro result log' ⟨hlog', hresult⟩
      cases result with
      | error error =>
          refine ⟨hlog', .inr ⟨model, List.mem_cons_self, ?_⟩⟩
          rcases hresult with ⟨_, herror⟩ | hunknown
          · cases herror
          · exact hunknown
      | ok info =>
          refine Prog.ensures_tryBind.mpr (Prog.Ensures.mono ih ?_)
          rintro result log'' ⟨hlog'', hrest⟩
          have hgrown := hlog'.trans hlog''
          rcases hrest with ⟨infos, rfl⟩ | ⟨model', hmem, hunknown⟩
          · exact ⟨hgrown, .inl ⟨_, rfl⟩⟩
          · cases result <;>
              exact ⟨hgrown, .inr ⟨model', List.mem_cons_of_mem _ hmem, hunknown⟩⟩

/-- What a listing may answer after its history. -/
def ListGuard (accountId : AccountId) (log : Log) : ServerRequest → Prop
  | .respond response => response.status = .ok ∨
      (∃ message, ⟨.query .db (.listActiveDevices accountId.uuid), .error message⟩ ∈ log) ∨
      ∃ models, Saw log (.listActiveDevices accountId.uuid) models ∧
        ∃ model ∈ models, ¬KnownFeatures model.enabledFeatures
  | _ => True

instance (accountId : AccountId) : Lenient (ListGuard accountId) := by
  constructor
  intro log request hquiet
  cases request with
  | respond => cases hquiet
  | _ => trivial

theorem listDevices_ensures {accountId : AccountId} :
    ((Call.protectedly accountId .listDevices).run ext).Ensures (ListGuard accountId)
      Prog.heard (fun _ _ => True) [] := by
  refine Prog.ensures_bind.mpr (Prog.ensures_bind.mpr (Prog.ensures_tryBind.mpr
    (Prog.ensures_tryBind.mpr ?_)))
  refine ⟨trivial, ?_⟩
  rintro response log rfl
  cases response with
  | error message => exact ⟨.inr (.inl ⟨message, by simp⟩), fun _ _ _ => trivial⟩
  | ok models =>
      have hsaw : Saw ([] ++ [⟨.query .db (.listActiveDevices accountId.uuid), .ok models⟩])
          (.listActiveDevices accountId.uuid) models := .read unwritten_db
      refine Prog.ensures_tryBind.mpr ?_
      refine modelsToInfo_ensures.mono ?_
      rintro result log' ⟨hlog', hresult⟩
      rcases hresult with ⟨infos, rfl⟩ | hunknown
      · exact ⟨.inl rfl, fun _ _ _ => trivial⟩
      · have hexcuse {response : HttpResponse} : ListGuard accountId log' (.respond response) :=
          .inr (.inr ⟨models, hsaw.mono hlog', hunknown⟩)
        cases result <;> exact ⟨hexcuse, fun _ _ _ => trivial⟩

/-- From an empty device table, whatever calls run at the same time: ids stay unique and
rows well formed, so a row can always be told to the client, and a listing fails only
when its query does; a row keeps its account, is only brought back by a redemption of
its account, and changes its policy only by a patch of its account or such a
redemption. -/
theorem device_store (hidle : Idle pool)
    (hempty : pool.state.database.committed.device = [])
    (h : ServerRun ext isolation cond pool labels pool') :
    (pool'.state.database.committed.device.map Device.deviceId).Nodup ∧
      (∀ row ∈ pool'.state.database.committed.device, row.WellFormed ∧
        ∃ info : Timestamp → DeviceInfo,
          (modelToInfo ext row).run = .call .now fun time => .ret (.ok (info time))) ∧
      ∀ label pool'', (serverWorld ext isolation).step pool' label = some pool'' →
        (∀ row ∈ pool'.state.database.committed.device,
          ∃ row' ∈ pool''.state.database.committed.device, RowStep ext labels label row row') ∧
        ∀ task accountId response, label = .call task (.respond response) () →
          .event ⟨task, .protectedly accountId .listDevices⟩ ∈ labels →
          response.status = .ok ∨
            ∃ message, ⟨.query .db (.listActiveDevices accountId.uuid), .error message⟩ ∈
              trace task labels := by
  have hkeeps := ServerRun.keeps hidle .nil h
  have hunique := hkeeps.unique (by simp [hempty])
  have hwell := hkeeps.wellFormed (by simp [hempty])
  refine ⟨hunique, fun row hmem => ⟨hwell row hmem, (hwell row hmem).enabledFeatures.info⟩,
    fun label pool'' hstep => ⟨h.rowStep hidle hunique hstep, ?_⟩⟩
  rintro task accountId response rfl hcall
  rcases h.asked_by hidle hcall hstep listDevices_ensures with
    hok | herror | ⟨models, hsaw, model, hmem, hunknown⟩
  · exact .inl hok
  · exact .inr herror
  · -- the rows that were listed were well formed then
    obtain ⟨earlier, later, pool₁, hearlier, -, hrun⟩ := h.saw hidle hsaw rfl
    have hwell₁ := (ServerRun.keeps hidle .nil hearlier).wellFormed (by simp [hempty])
    have hmodels := (Prod.mk.inj (Except.ok.inj hrun)).1
    rw [← hmodels] at hmem
    exact (hunknown (hwell₁ model (List.mem_filter.mp hmem).1).enabledFeatures).elim

end Runs

/-- A device is registered, removed, and brought back by a pairing code under a new
name. -/
theorem laptop_comes_back :
    ∃ labels pool, ServerRun sampleExternals .readCommitted (fun _ _ => True)
        (idleServer (τ := Nat) .empty 0) labels pool ∧
      (pool.state.database.committed.device.map Device.name) = ["Desk"] ∧
      (pool.state.database.committed.device.map Device.deviceId).Nodup := by
  let laptop : DeviceUpsertRequest :=
    { deviceId := ⟨77⟩, name := "Laptop", irohPublicKey := "k1",
      enabledFeatures := [⟨"clipboard"⟩] }
  let script : List (Move Nat (Arrival Nat)) :=
    .event ⟨0, .publicly (.register { email := "a@b.c", password := "hunter22" })⟩ ::
      List.replicate 12 (.tick 0) ++
    .event ⟨1, .protectedly ⟨1⟩ (.upsertDevice 77 laptop)⟩ :: List.replicate 6 (.tick 1) ++
    .event ⟨2, .protectedly ⟨1⟩ (.deleteDevice 77)⟩ :: List.replicate 5 (.tick 2) ++
    .event ⟨3, .protectedly ⟨1⟩ .createPairingCode⟩ :: List.replicate 6 (.tick 3) ++
    .event ⟨4, .publicly (.redeemPairingCode
      { code := "aaaaaaa4", device := some { laptop with name := " Desk " } })⟩ ::
      List.replicate 16 (.tick 4)
  have hsome : ((serverWorld sampleExternals .readCommitted).follow (fun _ _ => True)
      (fun task state => state.oblige .readCommitted task) script (idleServer .empty 0)).any
        (fun result =>
          result.2.state.database.committed.device.map Device.name == ["Desk"]) = true := by
    decide +kernel
  obtain ⟨⟨labels, pool⟩, hfollow, hname⟩ := (Option.any_eq_true _ _).mp hsome
  have hrun := World.run_of_follow hfollow
  exact ⟨labels, pool, hrun, by simpa using hname,
    (device_store (idle_idleServer _ _) rfl hrun).1⟩

end Failsafe.Server
