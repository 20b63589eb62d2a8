import Failsafe.Server.Rules

/-!
What each handler can do: the tables it writes to, on which connection, and whether it
commits.
-/

namespace Failsafe.Server

open Failsafe.Core Failsafe.Lib Prog

inductive TableName where
  | account
  | device
  | pairingCode
  | recoveryCode
  | refreshToken
deriving DecidableEq, Repr

inductive WriteKind where
  | insert
  | update
  | delete
deriving DecidableEq, Repr

/-- How a statement writes, and to which table. -/
def Statement.writes : Statement → Option (WriteKind × TableName)
  | .insertAccount _ => some (.insert, .account)
  | .updateAccount _ _ => some (.update, .account)
  | .insertDevice _ => some (.insert, .device)
  | .updateDevice _ _ => some (.update, .device)
  | .insertPairingCode _ => some (.insert, .pairingCode)
  | .usePairingCode _ _ => some (.update, .pairingCode)
  | .insertRecoveryCode _ => some (.insert, .recoveryCode)
  | .useRecoveryCode _ _ _ => some (.update, .recoveryCode)
  | .deleteRecoveryCodes _ => some (.delete, .recoveryCode)
  | .insertRefreshToken _ => some (.insert, .refreshToken)
  | .updateRefreshToken _ _ | .revokeRefreshTokens _ _ => some (.update, .refreshToken)
  | _ => none

/-- What a request can do to the database. -/
inductive Effect where
  | write (conn : Conn) (kind : WriteKind) (table : TableName)
  | commit
deriving DecidableEq, Repr

/-- A request of a handler with no other effects than these. -/
def Touches (effects : List Effect) : ServerRequest → Prop
  | .query conn statement =>
      ∀ kind table, statement.writes = some (kind, table) → .write conn kind table ∈ effects
  | .commit => .commit ∈ effects
  | .respond _ => False
  | _ => True

/-- The effects that a call can have. -/
def Call.effects : Call → List Effect
  | .publicly (.register _) =>
      [.write .db .insert .account, .write .db .insert .refreshToken]
  | .publicly (.login _) => [.write .db .insert .refreshToken]
  | .publicly (.loginMfa _) =>
      [.write .db .update .recoveryCode, .write .db .insert .refreshToken]
  | .publicly (.refresh _) =>
      [.write .txn .update .refreshToken, .write .txn .insert .refreshToken, .commit]
  | .publicly (.logout _) => [.write .db .update .refreshToken]
  | .publicly (.redeemPairingCode _) =>
      [.write .txn .insert .device, .write .txn .update .device,
        .write .txn .update .pairingCode, .commit, .write .db .insert .refreshToken]
  | .publicly .listFeatures | .publicly .health | .publicly (.fallback _) => []
  | .protectedly _ .me => []
  | .protectedly _ (.changePassword _) =>
      [.write .txn .update .account, .write .txn .update .refreshToken, .commit]
  | .protectedly _ .totpSetup => [.write .db .update .account]
  | .protectedly _ (.totpEnable _) =>
      [.write .txn .delete .recoveryCode, .write .txn .insert .recoveryCode,
        .write .txn .update .account, .commit]
  | .protectedly _ (.totpDisable _) =>
      [.write .db .update .recoveryCode, .write .txn .delete .recoveryCode,
        .write .txn .update .account, .write .txn .update .refreshToken, .commit]
  | .protectedly _ .listDevices => []
  | .protectedly _ (.upsertDevice _ _) =>
      [.write .db .insert .device, .write .db .update .device]
  | .protectedly _ (.patchDevice _ _) => [.write .db .update .device]
  | .protectedly _ (.deleteDevice _) => [.write .db .update .device]
  | .protectedly _ (.heartbeatDevice _) => [.write .db .update .device]
  | .protectedly _ .createPairingCode => [.write .db .insert .pairingCode]

section Touches

variable {ext : Externals} {α ρ : Type} {effects : List Effect}

theorem all_query {conn : Conn} {statement : Statement}
    (h : ∀ kind table, statement.writes = some (kind, table) → .write conn kind table ∈ effects) :
    (query conn statement).run.All (Touches effects) :=
  ⟨h, fun _ => trivial⟩

theorem all_read {conn : Conn} {statement : Statement} (h : statement.writes = none) :
    (query conn statement).run.All (Touches effects) :=
  all_query fun _ _ hwrites => by cases h.symm.trans hwrites

theorem all_write {conn : Conn} {statement : Statement} {kind : WriteKind} {table : TableName}
    (hwrites : statement.writes = some (kind, table)) (h : .write conn kind table ∈ effects) :
    (query conn statement).run.All (Touches effects) := by
  refine all_query fun kind' table' hwrites' => ?_
  obtain ⟨rfl, rfl⟩ := Prod.mk.inj (Option.some.inj (hwrites.symm.trans hwrites'))
  exact h

theorem all_now : now.run.All (Touches effects) :=
  ⟨trivial, fun _ => trivial⟩

theorem all_newUuid : newUuid.run.All (Touches effects) :=
  ⟨trivial, fun _ => trivial⟩

theorem all_liftExcept {result : Except ServerError α} :
    (liftExcept result).run.All (Touches effects) :=
  trivial

theorem all_ite {condition : Prop} [Decidable condition] {p q : ServerTry α}
    (hp : p.run.All (Touches effects)) (hq : q.run.All (Touches effects)) :
    (if condition then p else q).run.All (Touches effects) := by
  split
  · exact hp
  · exact hq

theorem insertReturning_touches {insert : ServerTry Unit} {select : ServerTry (Option ρ)}
    (hinsert : insert.run.All (Touches effects)) (hselect : select.run.All (Touches effects)) :
    (insertReturning insert select).run.All (Touches effects) := by
  refine hinsert.tryBind fun _ => hselect.tryBind fun row => ?_
  cases row <;> trivial

theorem updateReturning_touches {update : ServerTry Nat} {select : ServerTry (Option ρ)}
    (hupdate : update.run.All (Touches effects)) (hselect : select.run.All (Touches effects)) :
    (updateReturning update select).run.All (Touches effects) := by
  refine hupdate.tryBind fun count => all_ite trivial (hselect.tryBind fun row => ?_)
  cases row <;> trivial

theorem withTransaction_touches {body : ServerTry α} (hcommit : .commit ∈ effects)
    (hbody : body.run.All (Touches effects)) :
    (withTransaction body).run.All (Touches effects) := by
  refine All.tryBind ⟨trivial, fun _ => trivial⟩ fun _ => All.tryBind hbody.lift fun result => ?_
  cases result with
  | ok value => exact All.tryBind ⟨hcommit, fun _ => trivial⟩ fun _ => trivial
  | error error => exact All.tryBind ⟨trivial, fun _ => trivial⟩ fun _ => trivial

theorem issueWithTtl_touches {accountId : AccountId} {ttl : Nat} {mfaPending : Option Bool} :
    (issueWithTtl accountId ttl mfaPending).run.All (Touches effects) :=
  All.tryBind (all_now.tryBind fun _ => trivial) fun _ => ⟨trivial, fun _ => trivial⟩

theorem refreshTokenRow_touches {raw : String} {accountId : AccountId} :
    (refreshTokenRow ext raw accountId).run.All (Touches effects) :=
  all_now.tryBind fun _ => all_newUuid.tryBind fun _ => trivial

theorem issueAuthResponse_touches {accountId : AccountId}
    (h : .write .db .insert .refreshToken ∈ effects) :
    (issueAuthResponse ext accountId).run.All (Touches effects) := by
  refine issueWithTtl_touches.tryBind fun _ => All.tryBind ?_ fun _ => trivial
  refine All.tryBind ⟨trivial, fun _ => trivial⟩ fun _ => refreshTokenRow_touches.tryBind fun _ => ?_
  exact All.tryBind (insertReturning_touches (all_write rfl h) (all_read rfl)) fun _ => trivial

theorem validateMfaPending_touches {token : String} :
    (validateMfaPending ext token).run.All (Touches effects) := by
  refine All.tryBind (all_now.tryBind fun _ => trivial) fun _ => ?_
  split
  · trivial
  · exact all_ite trivial all_liftExcept

theorem verifyTotp_touches {email secret code : String} :
    (verifyTotp ext email secret code).run.All (Touches effects) := by
  refine all_liftExcept.tryBind fun _ => all_ite trivial (all_now.tryBind fun _ => ?_)
  exact all_ite trivial trivial

theorem revokeRecord_touches {conn : Conn} {record : RefreshToken}
    (h : .write conn .update .refreshToken ∈ effects) :
    (revokeRecord conn record).run.All (Touches effects) :=
  all_now.tryBind fun _ =>
    All.tryBind (updateReturning_touches (all_write rfl h) (all_read rfl)) fun _ => trivial

theorem findValidInConn_touches {conn : Conn} {raw : String} :
    (findValidInConn ext conn raw).run.All (Touches effects) := by
  refine (all_read rfl).tryBind fun record => ?_
  cases record with
  | none => trivial
  | some record =>
      refine all_ite trivial (all_now.tryBind fun _ => all_ite trivial ?_)
      refine (all_read rfl).tryBind fun account => ?_
      cases account <;> trivial

theorem rotateInTransaction_touches {raw : String}
    (hupdate : .write .txn .update .refreshToken ∈ effects)
    (hinsert : .write .txn .insert .refreshToken ∈ effects) :
    (rotateInTransaction ext raw).run.All (Touches effects) := by
  refine findValidInConn_touches.tryBind fun record => (revokeRecord_touches hupdate).tryBind
    fun _ => All.tryBind ⟨trivial, fun _ => trivial⟩ fun _ => refreshTokenRow_touches.tryBind
      fun _ => ?_
  exact All.tryBind (insertReturning_touches (all_write rfl hinsert) (all_read rfl)) fun _ =>
    issueWithTtl_touches.tryBind fun _ => trivial

theorem revokeAllForAccount_touches {conn : Conn} {accountId : AccountId}
    (h : .write conn .update .refreshToken ∈ effects) :
    (revokeAllForAccount conn accountId).run.All (Touches effects) :=
  all_now.tryBind fun _ => All.tryBind (all_write rfl h) fun _ => trivial

theorem logoutToken_touches {raw : String} (h : .write .db .update .refreshToken ∈ effects) :
    (logoutToken ext raw).run.All (Touches effects) := by
  refine (all_read rfl).tryBind fun record => ?_
  cases record with
  | none => trivial
  | some record => exact all_ite (revokeRecord_touches h) trivial

theorem loadAccount_touches {accountId : AccountId} :
    (loadAccount accountId).run.All (Touches effects) := by
  refine (all_read rfl).tryBind fun account => ?_
  cases account <;> trivial

theorem acceptsTotp_touches {account : Account} {code : String} :
    (acceptsTotp ext account code).run.All (Touches effects) := by
  unfold acceptsTotp
  split
  · trivial
  · refine all_liftExcept.tryBind fun _ => All.tryBind verifyTotp_touches.lift fun result => ?_
    cases result <;> trivial

theorem verifyTotpOrRecovery_touches {accountId : AccountId} {account : Account}
    {code : String} (h : .write .db .update .recoveryCode ∈ effects) :
    (verifyTotpOrRecovery ext accountId account code).run.All (Touches effects) := by
  refine acceptsTotp_touches.tryBind fun _ => all_ite trivial
    (All.tryBind ?_ fun _ => all_ite trivial trivial)
  exact all_now.tryBind fun _ => (all_write rfl h).tryBind fun _ => trivial

theorem validatePasswordLength_touches {password message : String} :
    (validatePasswordLength password message).run.All (Touches effects) :=
  all_ite trivial trivial

theorem updateAccount_touches {conn : Conn} {id : Uuid} {active : Account.ActiveModel}
    (h : .write conn .update .account ∈ effects) :
    (updateAccount conn id active).run.All (Touches effects) :=
  updateReturning_touches (all_write rfl h) (all_read rfl)

theorem updateDevice_touches {conn : Conn} {id : Uuid} {active : Device.ActiveModel}
    (h : .write conn .update .device ∈ effects) :
    (updateDevice conn id active).run.All (Touches effects) :=
  updateReturning_touches (all_write rfl h) (all_read rfl)

theorem register_touches {request : AuthRegisterRequest} :
    (register ext request).run.All
      (Touches [.write .db .insert .account, .write .db .insert .refreshToken]) := by
  refine all_ite trivial (validatePasswordLength_touches.tryBind fun _ => ?_)
  refine (all_read rfl).tryBind fun existing => all_ite trivial ?_
  refine all_newUuid.tryBind fun _ => all_now.tryBind fun _ =>
    All.tryBind ⟨trivial, fun _ => trivial⟩ fun _ => All.tryBind ?_ fun _ =>
      issueAuthResponse_touches (by decide)
  exact insertReturning_touches (all_write rfl (by decide)) (all_read rfl)

theorem login_touches {request : AuthLoginRequest} :
    (login ext request).run.All (Touches [.write .db .insert .refreshToken]) := by
  refine (all_read rfl).tryBind fun account => ?_
  cases account with
  | none => trivial
  | some account =>
      refine all_liftExcept.tryBind fun _ => all_ite ?_ (issueAuthResponse_touches (by decide))
      exact issueWithTtl_touches.tryBind fun _ => trivial

theorem loginMfa_touches {request : AuthMfaLoginRequest} :
    (loginMfa ext request).run.All
      (Touches [.write .db .update .recoveryCode, .write .db .insert .refreshToken]) := by
  refine all_ite trivial (validateMfaPending_touches.tryBind fun _ => ?_)
  refine loadAccount_touches.tryBind fun _ => all_ite trivial ?_
  exact (verifyTotpOrRecovery_touches (by decide)).tryBind fun _ =>
    issueAuthResponse_touches (by decide)

theorem changePassword_touches {accountId : AccountId} {request : ChangePasswordRequest} :
    (changePassword ext accountId request).run.All
      (Touches [.write .txn .update .account, .write .txn .update .refreshToken, .commit]) := by
  refine all_ite trivial (validatePasswordLength_touches.tryBind fun _ => ?_)
  refine loadAccount_touches.tryBind fun _ => all_liftExcept.tryBind fun _ =>
    All.tryBind ⟨trivial, fun _ => trivial⟩ fun _ => withTransaction_touches (by decide) ?_
  exact (updateAccount_touches (by decide)).tryBind fun _ => revokeAllForAccount_touches (by decide)

theorem totpSetup_touches {accountId : AccountId} :
    (totpSetup ext accountId).run.All (Touches [.write .db .update .account]) := by
  refine loadAccount_touches.tryBind fun _ => all_ite trivial ?_
  refine All.tryBind ⟨trivial, fun _ => trivial⟩ fun _ =>
    All.tryBind ⟨trivial, fun _ => trivial⟩ fun _ => all_liftExcept.tryBind fun _ => ?_
  exact (updateAccount_touches (by decide)).tryBind fun _ => trivial

theorem insertRecoveryCodes_touches {accountId : AccountId} {time : Timestamp}
    {codes : List String} (h : .write .txn .insert .recoveryCode ∈ effects) :
    (insertRecoveryCodes ext accountId time codes).run.All (Touches effects) := by
  induction codes with
  | nil => trivial
  | cons code codes ih =>
      refine all_newUuid.tryBind fun _ => All.tryBind ?_ fun _ => ih
      exact insertReturning_touches (all_write rfl h)
        (all_read rfl)

theorem totpEnable_touches {accountId : AccountId} {request : TotpEnableRequest} :
    (totpEnable ext accountId request).run.All
      (Touches [.write .txn .delete .recoveryCode, .write .txn .insert .recoveryCode,
        .write .txn .update .account, .commit]) := by
  refine all_ite trivial (loadAccount_touches.tryBind fun account => all_ite trivial ?_)
  split
  · trivial
  · refine all_liftExcept.tryBind fun _ => verifyTotp_touches.tryBind fun _ =>
      All.tryBind ⟨trivial, fun _ => trivial⟩ fun _ => all_now.tryBind fun _ =>
        (withTransaction_touches (by decide) ?_).tryBind fun _ => trivial
    refine (all_write rfl (by decide)).tryBind fun _ =>
      (insertRecoveryCodes_touches (by decide)).tryBind fun _ => ?_
    exact (updateAccount_touches (by decide)).tryBind fun _ => trivial

theorem totpDisable_touches {accountId : AccountId} {request : TotpDisableRequest} :
    (totpDisable ext accountId request).run.All
      (Touches [.write .db .update .recoveryCode, .write .txn .delete .recoveryCode,
        .write .txn .update .account, .write .txn .update .refreshToken, .commit]) := by
  refine all_ite trivial (loadAccount_touches.tryBind fun account => all_ite trivial ?_)
  refine all_liftExcept.tryBind fun _ =>
    (verifyTotpOrRecovery_touches (by decide)).tryBind fun _ => withTransaction_touches (by decide) ?_
  refine (all_write rfl (by decide)).tryBind fun _ =>
    (updateAccount_touches (by decide)).tryBind fun _ => revokeAllForAccount_touches (by decide)

theorem modelToInfo_touches {model : Device} :
    (modelToInfo ext model).run.All (Touches effects) := by
  unfold modelToInfo
  split
  · trivial
  · exact all_now.tryBind fun _ => trivial

theorem registerDevice_touches {conn : Conn} {accountId : AccountId}
    {request : DeviceUpsertRequest} {mode : RegisterDeviceMode}
    (hinsert : .write conn .insert .device ∈ effects)
    (hupdate : .write conn .update .device ∈ effects) :
    (registerDevice conn accountId request mode).run.All (Touches effects) := by
  refine all_ite trivial ((all_read rfl).tryBind fun existing => ?_)
  cases existing with
  | none =>
      refine all_now.tryBind fun _ => all_liftExcept.tryBind fun _ => ?_
      exact insertReturning_touches (all_write rfl hinsert) (all_read rfl)
  | some existing =>
      refine all_ite trivial (all_ite ?_ (all_now.tryBind fun _ => updateDevice_touches hupdate))
      cases mode with
      | upsert => trivial
      | pairing =>
          exact all_now.tryBind fun _ => all_liftExcept.tryBind fun _ =>
            updateDevice_touches hupdate

theorem loadActiveDevice_touches {deviceId : Uuid} {accountId : AccountId} :
    (loadActiveDevice deviceId accountId).run.All (Touches effects) := by
  refine (all_read rfl).tryBind fun existing => ?_
  cases existing with
  | none => trivial
  | some existing => exact all_ite trivial (all_ite trivial trivial)

theorem createPairingCodeLoop_touches {accountId : AccountId} {createdAt : Timestamp}
    {attempts : Nat} :
    (createPairingCodeLoop ext accountId createdAt attempts).run.All
      (Touches [.write .db .insert .pairingCode]) := by
  induction attempts with
  | zero => trivial
  | succ attempts ih =>
      refine All.tryBind ⟨trivial, fun _ => trivial⟩ fun _ => all_newUuid.tryBind fun _ =>
        All.tryBind (All.lift ?_) fun result => ?_
      · exact insertReturning_touches (all_write rfl (by decide)) (all_read rfl)
      · cases result with
        | ok row => trivial
        | error error => exact ih

theorem registerPaired_touches {accountId : AccountId} {device : Option DeviceUpsertRequest}
    (hinsert : .write .txn .insert .device ∈ effects)
    (hupdate : .write .txn .update .device ∈ effects) :
    (registerPaired accountId device).run.All (Touches effects) := by
  cases device with
  | none => trivial
  | some request => exact (registerDevice_touches hinsert hupdate).tryBind fun _ => trivial

theorem redeemInTransaction_touches {code : String} {device : Option DeviceUpsertRequest}
    (hinsert : .write .txn .insert .device ∈ effects)
    (hupdate : .write .txn .update .device ∈ effects)
    (hcode : .write .txn .update .pairingCode ∈ effects) :
    (redeemInTransaction code device).run.All (Touches effects) := by
  refine (all_read rfl).tryBind fun record => ?_
  cases record with
  | none => trivial
  | some record =>
      refine all_now.tryBind fun _ => all_ite trivial (all_ite trivial ?_)
      refine (registerPaired_touches hinsert hupdate).tryBind fun _ => all_now.tryBind fun _ => ?_
      exact (all_write rfl hcode).tryBind fun rowsAffected => all_ite trivial trivial

theorem redeemPairingCode_touches {request : PairingRedeemRequest} :
    (redeemPairingCode ext request).run.All
      (Touches [.write .txn .insert .device, .write .txn .update .device,
        .write .txn .update .pairingCode, .commit, .write .db .insert .refreshToken]) := by
  unfold redeemPairingCode
  split
  · trivial
  · refine (withTransaction_touches (by decide) ?_).tryBind fun _ =>
      issueAuthResponse_touches (by decide)
    exact redeemInTransaction_touches (by decide) (by decide) (by decide)

theorem refresh_touches {request : AuthRefreshRequest} :
    (refresh ext request).run.All (Touches
      [.write .txn .update .refreshToken, .write .txn .insert .refreshToken, .commit]) :=
  all_ite trivial (withTransaction_touches (by decide)
    (rotateInTransaction_touches (by decide) (by decide)))

theorem logout_touches {request : AuthLogoutRequest} :
    (logout ext request).run.All (Touches [.write .db .update .refreshToken]) :=
  all_ite trivial (logoutToken_touches (by decide))

theorem me_touches {accountId : AccountId} : (me accountId).run.All (Touches effects) :=
  loadAccount_touches.tryBind fun _ => trivial

theorem modelsToInfo_touches {models : List Device} :
    (modelsToInfo ext models).run.All (Touches effects) := by
  induction models with
  | nil => trivial
  | cons model models ih =>
      exact modelToInfo_touches.tryBind fun _ => ih.tryBind fun _ => trivial

theorem listDevices_touches {accountId : AccountId} :
    (listDevices ext accountId).run.All (Touches effects) :=
  (all_read rfl).tryBind fun _ => modelsToInfo_touches.tryBind fun _ => trivial

theorem upsertDevice_touches {accountId : AccountId} {deviceId : Uuid}
    {request : DeviceUpsertRequest} :
    (upsertDevice ext accountId deviceId request).run.All
      (Touches [.write .db .insert .device, .write .db .update .device]) :=
  all_ite trivial
    ((registerDevice_touches (by decide) (by decide)).tryBind fun _ => modelToInfo_touches)

theorem patchDevice_touches {accountId : AccountId} {deviceId : Uuid}
    {request : DevicePatchRequest} :
    (patchDevice ext accountId deviceId request).run.All (Touches [.write .db .update .device]) := by
  refine all_ite trivial (all_ite trivial (loadActiveDevice_touches.tryBind fun _ => ?_))
  exact all_liftExcept.tryBind fun _ =>
    (updateDevice_touches (by decide)).tryBind fun _ => modelToInfo_touches

theorem deleteDevice_touches {accountId : AccountId} {deviceId : Uuid} :
    (deleteDevice accountId deviceId).run.All (Touches [.write .db .update .device]) :=
  loadActiveDevice_touches.tryBind fun _ => all_now.tryBind fun _ =>
    (updateDevice_touches (by decide)).tryBind fun _ => trivial

theorem heartbeatDevice_touches {accountId : AccountId} {deviceId : Uuid} :
    (heartbeatDevice ext accountId deviceId).run.All (Touches [.write .db .update .device]) :=
  loadActiveDevice_touches.tryBind fun _ => all_now.tryBind fun _ =>
    (updateDevice_touches (by decide)).tryBind fun _ => modelToInfo_touches

theorem createPairingCode_touches {accountId : AccountId} :
    (createPairingCode ext accountId).run.All (Touches [.write .db .insert .pairingCode]) :=
  all_now.tryBind fun _ => createPairingCodeLoop_touches

end Touches

theorem handle_touches (ext : Externals) (call : Call) :
    (handle ext call).run.All (Touches call.effects) := by
  cases call with
  | publicly route =>
      cases route with
      | register => exact register_touches.tryBind fun _ => trivial
      | login => exact login_touches.tryBind fun _ => trivial
      | loginMfa => exact loginMfa_touches.tryBind fun _ => trivial
      | refresh => exact refresh_touches.tryBind fun _ => trivial
      | logout => exact logout_touches.tryBind fun _ => trivial
      | redeemPairingCode => exact redeemPairingCode_touches.tryBind fun _ => trivial
      | listFeatures | health | fallback => trivial
  | protectedly accountId route =>
      cases route with
      | me => exact me_touches.tryBind fun _ => trivial
      | changePassword => exact changePassword_touches.tryBind fun _ => trivial
      | totpSetup => exact totpSetup_touches.tryBind fun _ => trivial
      | totpEnable => exact totpEnable_touches.tryBind fun _ => trivial
      | totpDisable => exact totpDisable_touches.tryBind fun _ => trivial
      | listDevices => exact listDevices_touches.tryBind fun _ => trivial
      | upsertDevice => exact upsertDevice_touches.tryBind fun _ => trivial
      | patchDevice => exact patchDevice_touches.tryBind fun _ => trivial
      | deleteDevice => exact deleteDevice_touches.tryBind fun _ => trivial
      | heartbeatDevice => exact heartbeatDevice_touches.tryBind fun _ => trivial
      | createPairingCode => exact createPairingCode_touches.tryBind fun _ => trivial

section Frame

variable {statement : Statement} {result : statement.Result} {tables tables' : Tables}

theorem run_device_frame (h : statement.run tables = .ok (result, tables'))
    (hwrites : ∀ kind, statement.writes ≠ some (kind, .device)) : tables'.device = tables.device := by
  rcases run_device h with hsame | ⟨_, rfl, -⟩ | ⟨_, _, rfl, -⟩
  · exact hsame
  · exact (hwrites _ rfl).elim
  · exact (hwrites _ rfl).elim

theorem run_pairingCode_frame (h : statement.run tables = .ok (result, tables'))
    (hwrites : ∀ kind, statement.writes ≠ some (kind, .pairingCode)) :
    tables'.pairingCode = tables.pairingCode := by
  rcases run_pairingCode h with hsame | ⟨_, rfl, -⟩ | ⟨_, _, rfl, -⟩
  · exact hsame
  · exact (hwrites _ rfl).elim
  · exact (hwrites _ rfl).elim

end Frame

theorem Handles.uncommitted {α : Type} {guard : Log → ServerRequest → Prop} {p : ServerTry α}
    {post : α → Log → Prop} {fails : ServerError → Log → Prop} {effects : List Effect} {log : Log}
    (h : Handles guard p post fails log) (htouches : p.run.All (Touches effects))
    (hcommit : .commit ∉ effects) (hlog : ¬Committed log) :
    Handles guard p (fun value log' => post value log' ∧ ¬Committed log')
      (fun error log' => fails error log' ∧ ¬Committed log') log := by
  refine Handles.keeping h htouches ?_ hlog
  intro log' request response htouched hlog'
  refine (committed_snoc ?_).not.mpr hlog'
  rintro rfl
  exact hcommit htouched

end Failsafe.Server
