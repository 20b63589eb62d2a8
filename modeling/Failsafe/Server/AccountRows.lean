import Failsafe.Lib.Owned
import Failsafe.Server.DeviceStore
import Failsafe.Server.Entitlement

/-!
Tenants: the rows of an account are only written by calls that act for this account, by a
token, a password or something that was given out to it.
-/

namespace Failsafe.Server

open Failsafe.Core Failsafe.Lib

variable {ext : Externals}

/-- The rows of an account. -/
def Tables.ofAccount (id : Uuid) (tables : Tables) : Tables where
  account := tables.account.filter fun row => row.id == id
  device := tables.device.filter fun row => row.accountId == id
  pairingCode := tables.pairingCode.filter fun row => row.accountId == id
  recoveryCode := tables.recoveryCode.filter fun row => row.accountId == id
  refreshToken := tables.refreshToken.filter fun row => row.accountId == id

/-- By what a call acts for an account. -/
inductive ActsFor (ext : Externals) : Call → Log → Uuid → Prop
  | registered {log : Log} {request : AuthRegisterRequest} {row : Account} :
      ⟨.query .db (.insertAccount row), .ok ()⟩ ∈ log →
      ActsFor ext (.publicly (.register request)) log row.id
  | loggedIn {log : Log} {request : AuthLoginRequest} {account : Account} :
      ⟨.query .db (.findAccountByEmail (normalizeEmail ext request.email)),
        .ok (some account)⟩ ∈ log →
      ext.verifyPassword request.password account.passwordHash = true →
      account.totpEnabled = false → ActsFor ext (.publicly (.login request)) log account.id
  | pending {log : Log} {request : AuthMfaLoginRequest} {time : Timestamp} {claims : Claims}
      {accountId : AccountId} : ⟨.now, time⟩ ∈ log →
      decode ext (time / SECOND) (trimmed request.mfaToken) = some claims →
      claims.mfaPending = some true → claims.accountId = .ok accountId →
      ActsFor ext (.publicly (.loginMfa request)) log accountId.uuid
  | refreshed {log : Log} {request : AuthRefreshRequest} {record : RefreshToken} :
      ⟨.query .txn (.findRefreshTokenByHash (hashToken ext (trimmed request.refreshToken))),
        .ok (some record)⟩ ∈ log →
      ActsFor ext (.publicly (.refresh request)) log record.accountId
  | loggedOut {log : Log} {request : AuthLogoutRequest} {record : RefreshToken} :
      ⟨.query .db (.findRefreshTokenByHash (hashToken ext (trimmed request.refreshToken))),
        .ok (some record)⟩ ∈ log →
      ActsFor ext (.publicly (.logout request)) log record.accountId
  | redeemed {log : Log} {request : PairingRedeemRequest} {code : String}
      {record : PairingCode} : normalizeCode ext request.code = some code →
      ⟨.query .txn (.findPairingCodeByCode code), .ok (some record)⟩ ∈ log →
      ActsFor ext (.publicly (.redeemPairingCode request)) log record.accountId
  | authenticated {log : Log} {accountId : AccountId} {route : ProtectedRoute} :
      ActsFor ext (.protectedly accountId route) log accountId.uuid

/-- The account whose rows a statement writes, as the history of its task shows it. -/
inductive Concerns (log : Log) : Statement → Uuid → Prop
  | insertAccount {row : Account} : Concerns log (.insertAccount row) row.id
  | updateAccount {id : Uuid} {row : Account} {active : Account.ActiveModel} :
      Saw log (.findAccount id) (some row) → Concerns log (.updateAccount row.id active) id
  | insertDevice {row : Device} : Concerns log (.insertDevice row) row.accountId
  | updateDevice {id : Uuid} {row : Device} {active : Device.ActiveModel} :
      Saw log (.findDevice id) (some row) → active.accountId = none →
      Concerns log (.updateDevice row.deviceId active) row.accountId
  | insertPairingCode {row : PairingCode} : Concerns log (.insertPairingCode row) row.accountId
  | usePairingCode {code : String} {row : PairingCode} {usedAt : Timestamp} :
      Saw log (.findPairingCodeByCode code) (some row) →
      Concerns log (.usePairingCode row.id usedAt) row.accountId
  | insertRecoveryCode {row : RecoveryCode} :
      Concerns log (.insertRecoveryCode row) row.accountId
  | deleteRecoveryCodes {id : Uuid} : Concerns log (.deleteRecoveryCodes id) id
  | useRecoveryCode {id : Uuid} {codeHash : String} {usedAt : Timestamp} :
      Concerns log (.useRecoveryCode id codeHash usedAt) id
  | insertRefreshToken {row : RefreshToken} :
      Concerns log (.insertRefreshToken row) row.accountId
  | updateRefreshToken {tokenHash : String} {row : RefreshToken}
      {active : RefreshToken.ActiveModel} :
      Saw log (.findRefreshTokenByHash tokenHash) (some row) → active.accountId = none →
      Concerns log (.updateRefreshToken row.id active) row.accountId
  | revokeRefreshTokens {id : Uuid} {revokedAt : Timestamp} :
      Concerns log (.revokeRefreshTokens id revokedAt) id

/-- A call only writes rows of an account that it acts for; only a registration makes an
account. -/
def RowGuard (ext : Externals) (call : Call) (log : Log) : ServerRequest → Prop
  | .query conn (.insertAccount _) =>
      conn = .db ∧ ∃ request, call = .publicly (.register request)
  | .query _ statement =>
      statement.isWrite = true → ∃ id, Concerns log statement id ∧ ActsFor ext call log id
  | _ => True

instance (call : Call) : Lenient (RowGuard ext call) := by
  constructor
  intro log request hquiet
  cases request with
  | query conn statement =>
      have hread : statement.isWrite = false := by simpa [ServerRequest.isQuiet] using hquiet
      cases statement with
      | insertAccount => cases hread
      | _ => exact fun hwrite => (Bool.false_ne_true (hread.symm.trans hwrite)).elim
  | _ => trivial

section Handlers

variable {log log' : Log} {call : Call}

theorem ActsFor.mono {id : Uuid} (h : ActsFor ext call log id) (hlog : log <+: log') :
    ActsFor ext call log' id := by
  cases h with
  | registered hinsert => exact .registered (hlog.subset hinsert)
  | loggedIn hfound hpassword htotp => exact .loggedIn (hlog.subset hfound) hpassword htotp
  | pending hnow hdecode hpending haccount =>
      exact .pending (hlog.subset hnow) hdecode hpending haccount
  | refreshed hfound => exact .refreshed (hlog.subset hfound)
  | loggedOut hfound => exact .loggedOut (hlog.subset hfound)
  | redeemed hcode hfound => exact .redeemed hcode (hlog.subset hfound)
  | authenticated => exact .authenticated

theorem ActsFor.caller {accountId : AccountId} {route : ProtectedRoute} {id : Uuid}
    (h : ActsFor ext (.protectedly accountId route) log id) : id = accountId.uuid := by
  cases h
  rfl

theorem issueAuthResponse_rows {accountId : AccountId}
    (hacts : ActsFor ext call log accountId.uuid) :
    Obeys (RowGuard ext call) (issueAuthResponse ext accountId) (fun _ _ => True) log := by
  refine Obeys.mono (issueAuthResponse_issues fun log' new hlog hnew => ?_) fun _ _ _ => trivial
  exact fun _ => ⟨_, .insertRefreshToken, hnew ▸ hacts.mono hlog⟩

theorem register_rows {request : AuthRegisterRequest} :
    Obeys (RowGuard ext (.publicly (.register request))) (register ext request)
      (fun _ _ => True) log := by
  refine .ite (fun _ => .bind .throw) fun _ => .bind (.ite (fun _ => .throw) fun _ => ?_)
  refine .bind (.read rfl fun existing => .ite (fun _ => .bind .throw) fun _ => ?_)
  refine .bind (.newUuid fun id => .bind (.now fun time => .bind (.askTry ⟨trivial, ?_⟩)))
  rintro passwordHash _ rfl
  cases passwordHash with
  | error message => trivial
  | ok passwordHash =>
      let row := newAccount id (normalizeEmail ext request.email) passwordHash time
      refine .bind (.insertAccount ⟨rfl, request, rfl⟩ fun _ => issueAuthResponse_rows ?_)
      have hacts {log' : Log} (hinsert : ⟨.query .db (.insertAccount row), .ok ()⟩ ∈ log') :
          ActsFor ext (.publicly (.register request)) log' row.id := .registered hinsert
      exact hacts (by simp [row])

theorem login_rows {request : AuthLoginRequest} :
    Obeys (RowGuard ext (.publicly (.login request))) (login ext request) (fun _ _ => True)
      log := by
  refine .bind (.read rfl fun account => ?_)
  cases account with
  | none => exact .throw
  | some account =>
      refine .bind (.liftExcept fun _ hpassword => .ite (fun _ => .bind ?_) fun htotp => ?_)
      · exact issueWithTtl_obeys fun _ _ _ _ _ => .pure trivial
      · refine issueAuthResponse_rows (.loggedIn (by simp) ?_ (Bool.eq_false_iff.mpr htotp))
        unfold verifyPassword at hpassword
        split at hpassword
        · assumption
        · cases hpassword

theorem validateMfaPending_obeys {guard : Log → ServerRequest → Prop} [Lenient guard]
    {request : AuthMfaLoginRequest} {post : AccountId → Log → Prop}
    (h : ∀ log' accountId,
      ActsFor ext (.publicly (.loginMfa request)) log' accountId.uuid → post accountId log') :
    Obeys guard (validateMfaPending ext (trimmed request.mfaToken)) post log := by
  refine .bind (.bind (.now fun time => .pure ?_))
  cases hdecode : decode ext (time / SECOND) (trimmed request.mfaToken) with
  | none => exact .throw
  | some claims =>
      refine .ite (fun _ => .throw) fun hpending => .liftExcept fun accountId haccount => h _ _ ?_
      exact .pending (by simp) hdecode (not_not.mp hpending) haccount

theorem verifyTotpOrRecovery_rows {accountId : AccountId} {account : Account} {code : String}
    (hacts : ActsFor ext call log accountId.uuid) :
    Obeys (RowGuard ext call) (verifyTotpOrRecovery ext accountId account code)
      (fun _ log' => log <+: log') log := by
  refine .bind (acceptsTotp_obeys.grows.mono fun accepted log' haccepted => ?_)
  refine .ite (fun _ => .pure haccepted.2) fun _ => .bind (.bind (.now fun time => .bind ?_))
  refine .query (fun _ => ⟨_, .useRecoveryCode, hacts.mono (haccepted.2.trans (by simp))⟩) ?_
  exact fun count => .pure (.ite (fun _ => .pure (haccepted.2.trans (by simp))) fun _ => .throw)

theorem loginMfa_rows {request : AuthMfaLoginRequest} :
    Obeys (RowGuard ext (.publicly (.loginMfa request))) (loginMfa ext request)
      (fun _ _ => True) log := by
  refine .ite (fun _ => .bind .throw) fun _ => .bind (validateMfaPending_obeys ?_)
  intro log' accountId hacts
  refine .bind (loadAccount_obeys fun account => .ite (fun _ => .bind .throw) fun _ => .bind ?_)
  refine (verifyTotpOrRecovery_rows (hacts.mono (by simp))).mono fun _ log'' hgrown => ?_
  exact issueAuthResponse_rows (hacts.mono ((List.prefix_append _ _).trans hgrown))

theorem refresh_rows {request : AuthRefreshRequest} :
    Obeys (RowGuard ext (.publicly (.refresh request))) (refresh ext request)
      (fun _ _ => True) log := by
  refine .ite (fun _ => .bind .throw) fun _ => .withTransaction (.bind (.bind (.read rfl ?_)))
  intro record
  cases record with
  | none => exact .throw
  | some record =>
      have hsaw : Saw _ (.findRefreshTokenByHash (hashToken ext (trimmed request.refreshToken)))
        (some record) := .read (@unwritten_begin .txn log)
      have hacts {log' : Log} (hfound : ⟨.query .txn (.findRefreshTokenByHash
          (hashToken ext (trimmed request.refreshToken))), .ok (some record)⟩ ∈ log') :
          ActsFor ext (.publicly (.refresh request)) log' record.accountId := .refreshed hfound
      refine .ite (fun _ => .bind .throw) fun _ => .bind (.now fun time => ?_)
      refine .ite (fun _ => .bind .throw) fun _ => .bind (.read rfl fun account => ?_)
      cases account with
      | none => exact .throw
      | some account =>
          refine .pure (.bind (.bind (.now fun revokedAt => .bind (.updateRefreshToken ?_ ?_))))
          · exact fun _ => ⟨_, .updateRefreshToken (hsaw.mono (by simp)) rfl, hacts (by simp)⟩
          · refine fun count record' => .pure (.bind (.ask (Lenient.allow _ _ rfl) fun raw => ?_))
            refine .bind (.bind (.now fun createdAt => .bind (.newUuid fun id => .pure ?_)))
            refine .bind (.insertRefreshToken ?_ fun row => .bind ?_)
            · exact fun _ => ⟨_, .insertRefreshToken, hacts (by simp)⟩
            · exact issueWithTtl_obeys fun _ _ _ _ _ => .pure ⟨trivial, trivial⟩

theorem logout_rows {request : AuthLogoutRequest} :
    Obeys (RowGuard ext (.publicly (.logout request))) (logout ext request) (fun _ _ => True)
      log := by
  refine .ite (fun _ => trivial) fun _ => .bind (.read rfl fun record => ?_)
  cases record with
  | none => trivial
  | some record =>
      refine .ite (fun _ => .bind (.now fun time => .bind ?_)) fun _ => trivial
      have hsaw : Saw _ (.findRefreshTokenByHash (hashToken ext (trimmed request.refreshToken)))
        (some record) := .read (@unwritten_db log)
      refine .updateRefreshToken ?_ fun _ _ => trivial
      exact fun _ => ⟨_, .updateRefreshToken (hsaw.mono (by simp)) rfl, .loggedOut (by simp)⟩

theorem registerDevice_rows {conn : Conn} {accountId : AccountId}
    {request : DeviceUpsertRequest} {mode : RegisterDeviceMode} (hpending : Unwritten conn log)
    (hacts : ActsFor ext call log accountId.uuid) :
    Obeys (RowGuard ext call) (registerDevice conn accountId request mode)
      (fun _ log' => log <+: log') log := by
  refine registerDevice_obeys hpending ?_ ?_
  · intro log' new hlog' _ haccount _ _ _
    exact ⟨_, .insertDevice, haccount ▸ hacts.mono hlog'⟩
  · intro log' existing active hlog' hsaw haccount hactive _ _ _
    exact ⟨_, .updateDevice hsaw hactive.accountId, haccount ▸ hacts.mono hlog'⟩

theorem redeemPairingCode_rows {request : PairingRedeemRequest} :
    Obeys (RowGuard ext (.publicly (.redeemPairingCode request))) (redeemPairingCode ext request)
      (fun _ _ => True) log := by
  unfold redeemPairingCode
  split
  · exact .throw
  rename_i code hcode
  refine .bind (.withTransaction (.bind (.read rfl fun record => ?_)))
  cases record with
  | none => exact .throw
  | some record =>
      refine .bind (.now fun time => .ite (fun _ => .bind .throw) fun _ => ?_)
      refine .ite (fun _ => .bind .throw) fun _ => .bind ?_
      let start := log ++ [⟨.begin, .ok ()⟩] ++
        [⟨.query .txn (.findPairingCodeByCode code), .ok (some record)⟩] ++ [⟨.now, time⟩]
      have hsaw : Saw start (.findPairingCodeByCode code) (some record) :=
        (Saw.read (@unwritten_begin .txn log)).mono (List.prefix_append _ _)
      have hacts : ActsFor ext (.publicly (.redeemPairingCode request)) start record.accountId :=
        .redeemed hcode (by simp [start])
      have hpaired : Obeys (RowGuard ext (.publicly (.redeemPairingCode request)))
          (registerPaired ⟨record.accountId⟩ request.device) (fun _ log' => start <+: log')
          start := by
        unfold registerPaired
        split
        · exact .pure List.prefix_rfl
        · refine .bind ((registerDevice_rows ((unwritten_begin.snoc rfl).snoc rfl) hacts).mono ?_)
          exact fun _ _ hgrown => .pure hgrown
      refine hpaired.mono fun _ log' hgrown => .bind (.now fun usedAt => .bind (.query ?_ ?_))
      · have hlater : start <+: log' ++ [⟨.now, usedAt⟩] := hgrown.trans (by simp)
        exact fun _ => ⟨_, .usePairingCode (hsaw.mono hlater), hacts.mono hlater⟩
      · refine fun count => .ite (fun _ => .bind .throw) fun _ => .pure ⟨trivial, ?_⟩
        exact issueAuthResponse_rows (hacts.mono (hgrown.trans (by simp)))

theorem changePassword_rows {accountId : AccountId} {request : ChangePasswordRequest} :
    Obeys (RowGuard ext (.protectedly accountId (.changePassword request)))
      (changePassword ext accountId request) (fun _ _ => True) log := by
  refine .ite (fun _ => .bind .throw) fun _ => .bind (.ite (fun _ => .throw) fun _ => ?_)
  refine .bind (loadAccount_obeys fun account => .bind (.liftExcept fun _ _ => .bind ?_))
  refine .askTry ⟨trivial, ?_⟩
  rintro passwordHash _ rfl
  cases passwordHash with
  | error message => trivial
  | ok passwordHash =>
      have hsaw : Saw _ (.findAccount accountId.uuid) (some account) := .read (@unwritten_db log)
      refine .withTransaction (.bind (.updateAccount ?_ fun _ _ => .bind (.now fun time => ?_)))
      · exact fun _ => ⟨_, .updateAccount (hsaw.mono (by simp)), .authenticated⟩
      · refine .bind (.query ?_ fun _ => .pure ⟨trivial, trivial⟩)
        exact fun _ => ⟨_, .revokeRefreshTokens, .authenticated⟩

theorem totpSetup_rows {accountId : AccountId} :
    Obeys (RowGuard ext (.protectedly accountId .totpSetup)) (totpSetup ext accountId)
      (fun _ _ => True) log := by
  refine .bind (loadAccount_obeys fun account => .ite (fun _ => .bind .throw) fun _ => .bind ?_)
  refine .ask trivial fun secret => .bind (.askTry ⟨trivial, ?_⟩)
  rintro encrypted _ rfl
  cases encrypted with
  | error message => trivial
  | ok encrypted =>
      have hsaw : Saw _ (.findAccount accountId.uuid) (some account) := .read (@unwritten_db log)
      refine .bind (.liftExcept fun _ _ => .bind (.updateAccount ?_ fun _ _ => .pure trivial))
      exact fun _ => ⟨_, .updateAccount (hsaw.mono (by simp)), .authenticated⟩

theorem totpEnable_rows {accountId : AccountId} {request : TotpEnableRequest} :
    Obeys (RowGuard ext (.protectedly accountId (.totpEnable request)))
      (totpEnable ext accountId request) (fun _ _ => True) log := by
  refine .ite (fun _ => .bind .throw) fun _ => .bind (loadAccount_obeys fun account => ?_)
  have hsaw : Saw _ (.findAccount accountId.uuid) (some account) := .read (@unwritten_db log)
  refine .ite (fun _ => .bind .throw) fun _ => ?_
  cases account.totpSecret with
  | none => exact .throw
  | some stored =>
      refine .bind (.liftExcept fun secret _ => .bind (verifyTotp_obeys fun time _ => .bind ?_))
      refine .ask trivial fun recoveryCodes => .bind (.now fun time' => .bind ?_)
      refine .withTransaction (.bind (.query ?_ fun count => .bind ?_))
      · exact fun _ => ⟨_, .deleteRecoveryCodes, .authenticated⟩
      refine (insertRecoveryCodes_obeys (by simp only [pendingAfter_append]; rfl)
        fun log' new hnew _ => ⟨_, .insertRecoveryCode, hnew ▸ .authenticated⟩).grows.mono ?_
      rintro _ log' ⟨-, hgrown⟩
      refine .bind (.updateAccount ?_ fun _ _ => .pure ⟨trivial, .pure trivial⟩)
      refine fun _ => ⟨_, .updateAccount (hsaw.mono ?_), .authenticated⟩
      exact List.IsPrefix.trans (by simp) hgrown

theorem totpDisable_rows {accountId : AccountId} {request : TotpDisableRequest} :
    Obeys (RowGuard ext (.protectedly accountId (.totpDisable request)))
      (totpDisable ext accountId request) (fun _ _ => True) log := by
  refine .ite (fun _ => .bind .throw) fun _ => .bind (loadAccount_obeys fun account => ?_)
  have hsaw : Saw _ (.findAccount accountId.uuid) (some account) := .read (@unwritten_db log)
  refine .ite (fun _ => .bind .throw) fun _ => .bind (.liftExcept fun _ _ => .bind ?_)
  refine (verifyTotpOrRecovery_rows .authenticated).mono fun _ log' hgrown => ?_
  refine .withTransaction (.bind (.query ?_ fun _ => .bind (.updateAccount ?_ fun _ _ => ?_)))
  · exact fun _ => ⟨_, .deleteRecoveryCodes, .authenticated⟩
  · exact fun _ => ⟨_, .updateAccount (hsaw.mono (hgrown.trans (by simp))), .authenticated⟩
  · refine .bind (.now fun _ => .bind (.query ?_ fun _ => .pure ⟨trivial, trivial⟩))
    exact fun _ => ⟨_, .revokeRefreshTokens, .authenticated⟩

theorem upsertDevice_rows {accountId : AccountId} {deviceId : Uuid}
    {request : DeviceUpsertRequest} :
    Obeys (RowGuard ext (.protectedly accountId (.upsertDevice deviceId request)))
      (upsertDevice ext accountId deviceId request) (fun _ _ => True) log := by
  refine .ite (fun _ => .bind .throw) fun _ => .bind ?_
  exact (registerDevice_rows unwritten_db .authenticated).mono fun _ _ _ => modelToInfo_obeys

theorem updateLoaded_rows {accountId : AccountId} {route : ProtectedRoute} {deviceId : Uuid}
    {existing : Device} {active : Device.ActiveModel} {post : Device → Log → Prop}
    (hsaw : Saw log (.findDevice deviceId) (some existing))
    (haccount : existing.accountId = accountId.uuid) (hactive : active.accountId = none)
    (hpost : ∀ row log', post row log') :
    Obeys (RowGuard ext (.protectedly accountId route)) (updateDevice .db existing.deviceId active)
      post log := by
  refine .updateDevice ?_ fun _ row => hpost row _
  exact fun _ => ⟨_, .updateDevice hsaw hactive, haccount ▸ .authenticated⟩

theorem patchDevice_rows {accountId : AccountId} {deviceId : Uuid} {request : DevicePatchRequest} :
    Obeys (RowGuard ext (.protectedly accountId (.patchDevice deviceId request)))
      (patchDevice ext accountId deviceId request) (fun _ _ => True) log := by
  refine .ite (fun _ => .bind .throw) fun _ => .ite (fun _ => .bind .throw) fun _ => ?_
  refine .bind (loadActiveDevice_obeys fun log' existing hsaw haccount => ?_)
  refine .bind (.liftExcept fun column _ => .bind (updateLoaded_rows hsaw haccount rfl ?_))
  exact fun _ _ => modelToInfo_obeys

theorem deleteDevice_rows {accountId : AccountId} {deviceId : Uuid} :
    Obeys (RowGuard ext (.protectedly accountId (.deleteDevice deviceId)))
      (deleteDevice accountId deviceId) (fun _ _ => True) log := by
  refine .bind (loadActiveDevice_obeys fun log' existing hsaw haccount => .bind (.now ?_))
  refine fun time => .bind (updateLoaded_rows (hsaw.mono (by simp)) haccount rfl ?_)
  exact fun _ _ => trivial

theorem heartbeatDevice_rows {accountId : AccountId} {deviceId : Uuid} :
    Obeys (RowGuard ext (.protectedly accountId (.heartbeatDevice deviceId)))
      (heartbeatDevice ext accountId deviceId) (fun _ _ => True) log := by
  refine .bind (loadActiveDevice_obeys fun log' existing hsaw haccount => .bind (.now ?_))
  refine fun time => .bind (updateLoaded_rows (hsaw.mono (by simp)) haccount rfl ?_)
  exact fun _ _ => modelToInfo_obeys

theorem createPairingCode_rows {accountId : AccountId} :
    Obeys (RowGuard ext (.protectedly accountId .createPairingCode))
      (createPairingCode ext accountId) (fun _ _ => True) log := by
  refine .bind (.now fun createdAt => ?_)
  generalize 10 = attempts
  generalize log ++ [(⟨.now, createdAt⟩ : Exchange ServerSig)] = log'
  induction attempts generalizing log' with
  | zero => exact .throw
  | succ attempts ih =>
      refine .bind (.ask trivial fun code => .bind (.newUuid fun id => .bind ?_))
      let new : PairingCode :=
        { id, accountId := accountId.uuid, code, expiresAt := createdAt + PAIRING_TTL,
          usedAt := none, createdAt }
      have hinsert : Obeys (RowGuard ext (.protectedly accountId .createPairingCode))
          (insertPairingCode .db new) (fun _ _ => True)
          (log' ++ [⟨.generateCode, code⟩] ++ [⟨.newUuid, id⟩]) :=
        .insertPairingCode (fun _ => ⟨_, .insertPairingCode, .authenticated⟩) fun _ => trivial
      refine Prog.ensures_lift.mpr (Prog.Ensures.mono hinsert fun result log'' _ => ?_)
      cases result with
      | ok row => exact .pure trivial
      | error error => exact ih log''

theorem rowGuard_ensures (call : Call) :
    (call.run ext).Ensures (RowGuard ext call) Prog.heard (fun _ _ => True) [] := by
  refine Obeys.run ?_ fun _ _ => trivial
  have hreads {route : ProtectedRoute} {accountId : AccountId}
      (hnone : (Call.protectedly accountId route).effects = []) :
      Obeys (RowGuard ext (.protectedly accountId route))
        (handle ext (.protectedly accountId route)) (fun _ _ => True) [] := by
    refine .of_all (handle_touches ext _) fun log request htouches => ?_
    rw [hnone] at htouches
    cases request with
    | query conn statement =>
        cases statement <;> first
          | exact (List.not_mem_nil (htouches _ _ rfl)).elim
          | exact fun hwrite => (Bool.false_ne_true hwrite).elim
    | _ => trivial
  cases call with
  | publicly route =>
      cases route with
      | register => exact .bind (register_rows.mono fun _ _ _ => trivial)
      | login => exact .bind (login_rows.mono fun _ _ _ => trivial)
      | loginMfa => exact .bind (loginMfa_rows.mono fun _ _ _ => trivial)
      | refresh => exact .bind (refresh_rows.mono fun _ _ _ => trivial)
      | logout => exact .bind (logout_rows.mono fun _ _ _ => trivial)
      | redeemPairingCode => exact .bind (redeemPairingCode_rows.mono fun _ _ _ => trivial)
      | listFeatures | health | fallback => exact .pure trivial
  | protectedly accountId route =>
      cases route with
      | me => exact hreads rfl
      | changePassword => exact .bind (changePassword_rows.mono fun _ _ _ => trivial)
      | totpSetup => exact .bind (totpSetup_rows.mono fun _ _ _ => trivial)
      | totpEnable => exact .bind (totpEnable_rows.mono fun _ _ _ => trivial)
      | totpDisable => exact .bind (totpDisable_rows.mono fun _ _ _ => trivial)
      | listDevices => exact hreads rfl
      | upsertDevice => exact .bind (upsertDevice_rows.mono fun _ _ _ => trivial)
      | patchDevice => exact .bind (patchDevice_rows.mono fun _ _ _ => trivial)
      | deleteDevice => exact .bind (deleteDevice_rows.mono fun _ _ _ => trivial)
      | heartbeatDevice => exact .bind (heartbeatDevice_rows.mono fun _ _ _ => trivial)
      | createPairingCode => exact .bind (createPairingCode_rows.mono fun _ _ _ => trivial)

end Handlers

section Rows

variable {log : Log} {statement : Statement} {result : statement.Result}
  {tables tables' : Tables} {owner id : Uuid}

/-- Rows that can be found and updated stay, under their account. -/
structure RowsStay (tables tables' : Tables) : Prop where
  device : OwnersKept Device.deviceId Device.accountId tables.device tables'.device
  pairingCode :
    OwnersKept PairingCode.id PairingCode.accountId tables.pairingCode tables'.pairingCode
  refreshToken :
    OwnersKept RefreshToken.id RefreshToken.accountId tables.refreshToken tables'.refreshToken

theorem RowsStay.refl (tables : Tables) : RowsStay tables tables :=
  ⟨.refl, .refl, .refl⟩

theorem RowsStay.trans {tables'' : Tables} (h : RowsStay tables tables')
    (h' : RowsStay tables' tables'') : RowsStay tables tables'' :=
  ⟨h.device.trans h'.device, h.pairingCode.trans h'.pairingCode,
    h.refreshToken.trans h'.refreshToken⟩

theorem run_rowsStay (hconcerns : Concerns log statement owner)
    (hrun : statement.run tables = .ok (result, tables')) : RowsStay tables tables' := by
  constructor
  · rcases run_device hrun with hsame | ⟨new, rfl, -, hrows⟩ | ⟨key, active, rfl, hrows⟩
    · rw [hsame]
      exact .refl
    · rw [hrows]
      exact .append
    · rw [hrows]
      cases hconcerns with
      | updateDevice _ hactive =>
          refine .map fun row => ?_
          split
          · exact ⟨rfl, by simp [Device.ActiveModel.apply, hactive]⟩
          · exact ⟨rfl, rfl⟩
  · rcases run_pairingCode hrun with hsame | ⟨new, rfl, -, hrows⟩ | ⟨key, usedAt, rfl, hrows⟩
    · rw [hsame]
      exact .refl
    · rw [hrows]
      exact .append
    · rw [hrows]
      refine .map fun row => ?_
      split <;> exact ⟨rfl, rfl⟩
  · rcases run_refreshToken hrun with
      hsame | ⟨new, rfl, -, hrows⟩ | ⟨key, active, rfl, hrows⟩ | ⟨account, time, rfl, hrows⟩
    · rw [hsame]
      exact .refl
    · rw [hrows]
      exact .append
    · rw [hrows]
      cases hconcerns with
      | updateRefreshToken _ hactive =>
          refine .map fun row => ?_
          split
          · exact ⟨rfl, by simp [RefreshToken.ActiveModel.apply, hactive]⟩
          · exact ⟨rfl, rfl⟩
    · rw [hrows]
      refine .map fun row => ?_
      split <;> exact ⟨rfl, rfl⟩

/-- The rows that a task was told of are those that the tables have under these keys. -/
structure Seen (log : Log) (tables : Tables) : Prop where
  account : ∀ id row, Saw log (.findAccount id) (some row) → row.id = id
  device : ∀ id row, Saw log (.findDevice id) (some row) →
    OwnersKept Device.deviceId Device.accountId [row] tables.device
  pairingCode : ∀ code row, Saw log (.findPairingCodeByCode code) (some row) →
    OwnersKept PairingCode.id PairingCode.accountId [row] tables.pairingCode
  refreshToken : ∀ tokenHash row, Saw log (.findRefreshTokenByHash tokenHash) (some row) →
    OwnersKept RefreshToken.id RefreshToken.accountId [row] tables.refreshToken

theorem Seen.stay (h : Seen log tables) (hstay : RowsStay tables tables') : Seen log tables' where
  account := h.account
  device id row hsaw := (h.device id row hsaw).trans hstay.device
  pairingCode code row hsaw := (h.pairingCode code row hsaw).trans hstay.pairingCode
  refreshToken tokenHash row hsaw := (h.refreshToken tokenHash row hsaw).trans hstay.refreshToken

theorem run_confined (hconcerns : Concerns log statement owner) (hseen : Seen log tables)
    (hunique : tables.Unique) (hrun : statement.run tables = .ok (result, tables'))
    (hne : owner ≠ id) : tables'.ofAccount id = tables.ofAccount id := by
  have haccount : (tables'.account.filter fun row => row.id == id) =
      tables.account.filter fun row => row.id == id := by
    rcases run_account hrun with hsame | ⟨new, rfl, -, hrows⟩ | ⟨key, active, rfl, hrows⟩
    · rw [hsame]
    · rw [hrows]
      cases hconcerns
      exact filter_owner_append hne
    · rw [hrows]
      cases hconcerns with
      | updateAccount hsaw =>
          refine filter_owner_map (fun row => by split <;> rfl) fun row _ hid => ?_
          refine if_neg fun hkey => hne ?_
          exact (hseen.account _ _ hsaw).symm.trans (hkey.symm.trans hid)
  have hdevice : (tables'.device.filter fun row => row.accountId == id) =
      tables.device.filter fun row => row.accountId == id := by
    rcases run_device hrun with hsame | ⟨new, rfl, -, hrows⟩ | ⟨key, active, rfl, hrows⟩
    · rw [hsame]
    · rw [hrows]
      cases hconcerns
      exact filter_owner_append hne
    · rw [hrows]
      cases hconcerns with
      | updateDevice hsaw hactive =>
          refine filter_owner_map (fun row => ?_) fun row hmem hid => if_neg fun hkey => hne ?_
          · split
            · simp [Device.ActiveModel.apply, hactive]
            · rfl
          · exact (hseen.device _ _ hsaw).owner_eq hunique.deviceId hmem hkey ▸ hid
  have hpairing : (tables'.pairingCode.filter fun row => row.accountId == id) =
      tables.pairingCode.filter fun row => row.accountId == id := by
    rcases run_pairingCode hrun with hsame | ⟨new, rfl, -, hrows⟩ | ⟨key, usedAt, rfl, hrows⟩
    · rw [hsame]
    · rw [hrows]
      cases hconcerns
      exact filter_owner_append hne
    · rw [hrows]
      cases hconcerns with
      | usePairingCode hsaw =>
          refine filter_owner_map (fun row => by split <;> rfl) fun row hmem hid => ?_
          refine if_neg fun hkey => hne ?_
          exact (hseen.pairingCode _ _ hsaw).owner_eq hunique.pairingCodeId hmem hkey.1 ▸ hid
  have hrecovery : (tables'.recoveryCode.filter fun row => row.accountId == id) =
      tables.recoveryCode.filter fun row => row.accountId == id := by
    rcases run_recoveryCode hrun with
      hsame | ⟨new, rfl, -, hrows⟩ | ⟨account, rfl, hrows⟩ | ⟨account, hash, usedAt, rfl, hrows⟩
    · rw [hsame]
    · rw [hrows]
      cases hconcerns
      exact filter_owner_append hne
    · rw [hrows]
      cases hconcerns
      refine filter_owner_filter fun row _ hid => ?_
      simpa [hid] using hne.symm
    · rw [hrows]
      cases hconcerns
      refine filter_owner_map (fun row => by split <;> rfl) fun row _ hid => ?_
      exact if_neg fun hkey => hne (hkey.1.symm.trans hid)
  have htoken : (tables'.refreshToken.filter fun row => row.accountId == id) =
      tables.refreshToken.filter fun row => row.accountId == id := by
    rcases run_refreshToken hrun with
      hsame | ⟨new, rfl, -, hrows⟩ | ⟨key, active, rfl, hrows⟩ | ⟨account, time, rfl, hrows⟩
    · rw [hsame]
    · rw [hrows]
      cases hconcerns
      exact filter_owner_append hne
    · rw [hrows]
      cases hconcerns with
      | updateRefreshToken hsaw hactive =>
          refine filter_owner_map (fun row => ?_) fun row hmem hid => if_neg fun hkey => hne ?_
          · split
            · simp [RefreshToken.ActiveModel.apply, hactive]
            · rfl
          · exact (hseen.refreshToken _ _ hsaw).owner_eq hunique.refreshTokenId hmem hkey ▸ hid
    · rw [hrows]
      cases hconcerns
      refine filter_owner_map (fun row => by split <;> rfl) fun row _ hid => ?_
      exact if_neg fun hkey => hne (hkey.1.symm.trans hid)
  simp only [Tables.ofAccount, haccount, hdevice, hpairing, hrecovery, htoken]

end Rows

section Runs

variable {τ : Type} [DecidableEq τ] {isolation : Isolation}
  {cond : ServerState τ → ServerLabel τ → Prop}
  {pool pool₁ pool' pool'' : Pool ServerSig τ (ServerState τ)}
  {labels labels' : List (ServerLabel τ)}

theorem RowGuard.concerns {call : Call} {log : Log} {conn : Conn} {statement : Statement}
    (h : RowGuard ext call log (.query conn statement)) (hwrite : statement.isWrite = true) :
    ∃ owner, Concerns log statement owner ∧ (ActsFor ext call log owner ∨
      ∃ row request, conn = .db ∧ statement = .insertAccount row ∧ row.id = owner ∧
        call = .publicly (.register request)) := by
  cases statement with
  | insertAccount row =>
      obtain ⟨hconn, request, hcall⟩ := h
      exact ⟨row.id, .insertAccount, .inr ⟨row, request, hconn, rfl, rfl, hcall⟩⟩
  | _ =>
      obtain ⟨owner, hconcerns, hacts⟩ := h hwrite
      exact ⟨owner, hconcerns, .inl hacts⟩

theorem RowGuard.cases {call : Call} {log : Log} {conn : Conn} {statement : Statement}
    {result : statement.Result} {tables tables' : Tables}
    (h : RowGuard ext call log (.query conn statement))
    (hrun : statement.run tables = .ok (result, tables')) :
    tables' = tables ∨ ∃ owner, Concerns log statement owner ∧ (ActsFor ext call log owner ∨
      ∃ row request, conn = .db ∧ statement = .insertAccount row ∧ row.id = owner ∧
        call = .publicly (.register request)) := by
  cases hwrite : statement.isWrite with
  | false => exact .inl (run_read hwrite hrun)
  | true => exact .inr (h.concerns hwrite)

theorem ServerRun.rowsStay (hidle : Idle pool)
    (h : ServerRun ext isolation cond pool labels pool₁)
    (hrest : ServerRun ext isolation cond pool₁ labels' pool') :
    RowsStay pool₁.state.database.committed pool'.state.database.committed := by
  refine ServerRun.relates h hrest RowsStay.refl (fun _ _ _ => RowsStay.trans) ?_
  intro labels middle task request response last hrun hstep
  refine ServerRun.changes hrun hidle hstep RowsStay.refl (fun _ _ _ => RowsStay.trans) ?_
  intro call log conn statement result tables tables' _ _ _ hguard _ hrun'
  rcases (hguard _ _ (rowGuard_ensures call)).cases hrun' with rfl | ⟨_, hconcerns, -⟩
  · exact .refl _
  · exact run_rowsStay hconcerns hrun'

theorem ServerRun.seen (h : ServerRun ext isolation cond pool labels pool') (hidle : Idle pool)
    {task : τ} {log : Log} (hlog : log <+: trace task labels) :
    Seen log pool'.state.database.committed := by
  constructor
  · intro id row hsaw
    obtain ⟨_, _, pool₁, -, -, hrun⟩ := h.saw hidle (hsaw.mono hlog) rfl
    simpa using List.find?_some (Prod.mk.inj (Except.ok.inj hrun)).1
  · intro id row hsaw
    obtain ⟨_, _, pool₁, hearlier, hlater, hrun⟩ := h.saw hidle (hsaw.mono hlog) rfl
    have hmem := List.mem_of_find?_eq_some (Prod.mk.inj (Except.ok.inj hrun)).1
    exact .trans (.of_mem hmem) (ServerRun.rowsStay hidle hearlier hlater).device
  · intro code row hsaw
    obtain ⟨_, _, pool₁, hearlier, hlater, hrun⟩ := h.saw hidle (hsaw.mono hlog) rfl
    have hmem := List.mem_of_find?_eq_some (Prod.mk.inj (Except.ok.inj hrun)).1
    exact .trans (.of_mem hmem) (ServerRun.rowsStay hidle hearlier hlater).pairingCode
  · intro tokenHash row hsaw
    obtain ⟨_, _, pool₁, hearlier, hlater, hrun⟩ := h.saw hidle (hsaw.mono hlog) rfl
    have hmem := List.mem_of_find?_eq_some (Prod.mk.inj (Except.ok.inj hrun)).1
    exact .trans (.of_mem hmem) (ServerRun.rowsStay hidle hearlier hlater).refreshToken

theorem ServerRun.spares_rows (h : ServerRun ext isolation cond pool labels pool')
    (hidle : Idle pool) (hunique : pool.state.database.committed.Unique) {task : τ}
    {request : ServerRequest} {response : request.Response} {id : Uuid}
    (hstep : (serverWorld ext isolation).step pool' (.call task request response) = some pool'')
    (hother : ∀ call, .event ⟨task, call⟩ ∈ labels →
      ¬ActsFor ext call (trace task labels ++ [⟨request, response⟩]) id) :
    pool''.state.database.committed.ofAccount id =
      pool'.state.database.committed.ofAccount id := by
  let R : Tables → Tables → Prop := fun tables tables' =>
    (tables.Unique → tables'.Unique) ∧ RowsStay tables tables' ∧
      tables'.ofAccount id = tables.ofAccount id
  have hchanges : R pool'.state.database.committed pool''.state.database.committed := by
    refine ServerRun.changes h hidle hstep (fun tables => ⟨fun h => h, .refl tables, rfl⟩) ?_ ?_
    · rintro _ _ _ ⟨hunique₁, hstay₁, hsame₁⟩ ⟨hunique₂, hstay₂, hsame₂⟩
      exact ⟨fun h => hunique₂ (hunique₁ h), hstay₁.trans hstay₂, hsame₂.trans hsame₁⟩
    · intro call log conn statement result tables tables' hreaches hcall hlog hguard hreached hrun
      refine ⟨run_unique hrun, ?_⟩
      rcases (hguard _ _ (rowGuard_ensures call)).cases hrun with
        rfl | ⟨owner, hconcerns, howner⟩
      · exact ⟨.refl _, rfl⟩
      · refine ⟨run_rowsStay hconcerns hrun, ?_⟩
        have hseen := (h.seen hidle hlog).stay hreached.2.1
        refine run_confined hconcerns hseen (hreached.1 (h.unique hunique)) hrun fun hid => ?_
        refine hother call hcall ?_
        rcases howner with hacts | ⟨row, register, rfl, rfl, hrow, rfl⟩
        · exact hid ▸ hacts.mono (hlog.trans (List.prefix_append _ _))
        · rw [← hid, ← hrow]
          refine .registered ?_
          rw [hreaches]
          exact List.mem_append_right _ (List.mem_singleton_self _)
  exact hchanges.2.2

/-- Whatever calls run at the same time: a step that changes a row of an account is made
by a call that acts for the account, and the rows of an account that nobody acts for stay
as they are. -/
theorem account_rows (hidle : Idle pool) (hunique : pool.state.database.committed.Unique)
    (h : ServerRun ext isolation cond pool labels pool') (id : Uuid) :
    (∀ label pool'', (serverWorld ext isolation).step pool' label = some pool'' →
      pool''.state.database.committed.ofAccount id ≠
        pool'.state.database.committed.ofAccount id →
      ∃ task call request response, label = .call task request response ∧
        .event ⟨task, call⟩ ∈ labels ∧ ActsFor ext call (trace task (labels ++ [label])) id) ∧
      ((∀ task call, .event ⟨task, call⟩ ∈ labels → ¬ActsFor ext call (trace task labels) id) →
        pool'.state.database.committed.ofAccount id =
          pool.state.database.committed.ofAccount id) := by
  refine ⟨fun label pool'' hstep hchanged => ?_, fun hnobody => ?_⟩
  · cases label with
    | event arrival =>
        rw [state_of_arrival hstep] at hchanged
        exact (hchanged rfl).elim
    | call task request response =>
        by_contra hnot
        refine hchanged (h.spares_rows hidle hunique hstep fun call hcall hacts => hnot ?_)
        refine ⟨task, call, request, response, rfl, hcall, ?_⟩
        simpa [trace_append, trace, Label.exchange] using hacts
  · induction h with
    | nil => rfl
    | snoc hbefore hcond hstep ih =>
        rename_i labels label
        have hearlier : ∀ task call, .event ⟨task, call⟩ ∈ labels →
            ¬ActsFor ext call (trace task labels) id := by
          intro task call hcall hacts
          refine hnobody task call (List.mem_append_left _ hcall) (hacts.mono ?_)
          rw [trace_append]
          exact List.prefix_append _ _
        refine Eq.trans ?_ (ih hearlier)
        cases label with
        | event arrival => rw [state_of_arrival hstep]
        | call task request response =>
            refine ServerRun.spares_rows hbefore hidle hunique hstep fun call hcall hacts => ?_
            refine hnobody task call (List.mem_append_left _ hcall) ?_
            simpa [trace_append, trace, Label.exchange] using hacts

end Runs

section Neighbours

/-- Two accounts, one of them with a device. -/
def neighbours : Tables :=
  { Tables.empty with
    account := [newAccount 1 "a@b.c" "argon2:hunter22" 0, newAccount 7 "x@y.z" "argon2:secret77" 0]
    device := [{ deviceId := 70, accountId := 7, name := "Phone", irohPublicKey := "k7",
                 enabledFeatures := .strings [], lastSeen := none, createdAt := 0,
                 deletedAt := none }] }

theorem unique_neighbours : neighbours.Unique := by
  constructor <;> simp [neighbours, Tables.empty, newAccount]

/-- A call that comes with a token of an account. -/
def comesFrom (accountId : AccountId) : ServerLabel Nat → Bool
  | .event ⟨_, .protectedly accountId' _⟩ => accountId'.uuid == accountId.uuid
  | .event ⟨_, .publicly _⟩ => false
  | .call _ _ _ => true

/-- A neighbour registers a device and tries to rename that of the other account. -/
theorem neighbour_keeps_rows :
    ∃ labels pool, ServerRun sampleExternals .readCommitted (fun _ _ => True)
        (idleServer (τ := Nat) neighbours 0) labels pool ∧
      (pool.state.database.committed.device.map Device.name) = ["Phone", "Laptop"] ∧
      pool.state.database.committed.ofAccount 7 = neighbours.ofAccount 7 := by
  let laptop : DeviceUpsertRequest :=
    { deviceId := ⟨77⟩, name := "Laptop", irohPublicKey := "k1", enabledFeatures := [] }
  let script : List (Move Nat (Arrival Nat)) :=
    .event ⟨0, .protectedly ⟨1⟩ (.upsertDevice 77 laptop)⟩ :: .event ⟨1, .protectedly ⟨1⟩
      (.patchDevice 70 { name := some "Mine", enabledFeatures := none })⟩ ::
      List.replicate 6 (.tick 0) ++ List.replicate 2 (.tick 1)
  have hsome : ((serverWorld sampleExternals .readCommitted).follow (fun _ _ => True)
      (fun task state => state.oblige .readCommitted task) script (idleServer neighbours 0)).any
        (fun result => result.1.all (comesFrom ⟨1⟩) &&
          result.2.state.database.committed.device.map Device.name == ["Phone", "Laptop"]) =
        true := by
    decide +kernel
  obtain ⟨⟨labels, pool⟩, hfollow, hresult⟩ := (Option.any_eq_true _ _).mp hsome
  obtain ⟨hcomes, hname⟩ := (Bool.and_eq_true _ _).mp hresult
  have hrun := World.run_of_follow hfollow
  refine ⟨labels, pool, hrun, by simpa using hname, ?_⟩
  refine (account_rows (idle_idleServer _ _) unique_neighbours hrun 7).2 ?_
  intro task call hcall hacts
  have hcome := List.all_eq_true.mp hcomes _ hcall
  cases call with
  | publicly route => cases hcome
  | protectedly accountId route =>
      have hself : accountId.uuid = 1 := by simpa [comesFrom] using hcome
      exact absurd (hacts.caller.trans hself) (by decide)

end Neighbours

end Failsafe.Server
