import Failsafe.Server.Failure
import Failsafe.Server.Issuer
import Failsafe.Server.VisitRules

/-!
When a request with a token that is accepted is answered 401, and what it leaves of the tokens.
-/

namespace Failsafe.Server

open Failsafe.Core Failsafe.Lib

variable {ext : Externals} {isolation : Isolation}

/-- The account of the token was looked for and not found. -/
def Vanished (accountId : AccountId) (log : Log) : Prop :=
  ⟨.query .db (.findAccount accountId.uuid), .ok none⟩ ∈ log

/-- The account that was found has one of the things that make a handler answer 401. -/
def FoundWith (accountId : AccountId) (log : Log) (wrong : Account → Prop) : Prop :=
  ∃ account, ⟨.query .db (.findAccount accountId.uuid), .ok (some account)⟩ ∈ log ∧ wrong account

/-- The stored secret cannot be read with the key of the server. -/
def Unreadable (ext : Externals) (account : Account) : Prop :=
  ∃ stored, account.totpSecret = some stored ∧
    decryptSecret ext stored = .error (.auth .invalidCredentials)

/-- The secret of an account does not take a code. -/
def WrongCode (ext : Externals) (account : Account) (code : String) (log : Log) : Prop :=
  Unreadable ext account ∨ ∃ stored secret, account.totpSecret = some stored ∧
    decryptSecret ext stored = .ok secret ∧
    (ext.validTotp account.email secret = false ∨ isTotpCode (trimmed code) = false ∨
      ∃ time, ⟨.now, time⟩ ∈ log ∧ ext.checkTotp secret time (trimmed code) = false)

/-- A code is neither taken by the secret of the account nor an unused recovery code of it. -/
def WrongFactor (ext : Externals) (accountId : AccountId) (account : Account) (code : String)
    (log : Log) : Prop :=
  Unreadable ext account ∨ ∃ time,
    ⟨.query .db (.useRecoveryCode accountId.uuid (hashRecoveryCode ext code) time),
      .ok (0 : Nat)⟩ ∈ log

/-- A password or a code that comes with a request turns out wrong. -/
def Rejects (ext : Externals) (accountId : AccountId) (log : Log) : ProtectedRoute → Prop
  | .changePassword request => FoundWith accountId log fun account =>
      ext.verifyPassword request.currentPassword account.passwordHash = false
  | .totpSetup => FoundWith accountId log fun account => ∃ secret,
      ⟨.generateTotpSecret, secret⟩ ∈ log ∧ ext.validTotp account.email secret = false
  | .totpEnable request => FoundWith accountId log fun account =>
      WrongCode ext account request.code log
  | .totpDisable request => FoundWith accountId log fun account =>
      ext.verifyPassword request.password account.passwordHash = false ∨
        WrongFactor ext accountId account (trimmed request.code) log
  | _ => False

theorem not_rejects {accountId : AccountId} {route : ProtectedRoute} {log : Log}
    (h : mayRefuse route = false) : ¬Rejects ext accountId log route := by
  cases route with
  | changePassword | totpSetup | totpEnable | totpDisable => cases h
  | _ => exact id

/-- What a handler that fails has to show: a reason for a 401, and no change of the tokens. -/
structure Reasoned (ext : Externals) (accountId : AccountId) (route : ProtectedRoute)
    (error : ServerError) (log : Log) : Prop where
  reason : error.statusCode = .unauthorized →
    Vanished accountId log ∨ Rejects ext accountId log route
  undone : revokesTokens route = true → ¬Committed log

/-- A handler that comes to a response answers with success. -/
def Civil (response : HttpResponse) (_ : Log) : Prop :=
  response.status.isSuccess = true

section Errors

/-- An error that is not answered with 401. -/
abbrev Other (error : ServerError) : Prop :=
  error.statusCode ≠ .unauthorized

instance : Fallible Other := ⟨fun _ h => by cases h⟩

variable {accountId : AccountId} {deviceId : Uuid} {log : Log}

theorem featuresToJson_error {features : List FeatureId} {error : ServerError}
    (h : featuresToJson features = .error error) : Other error := by
  unfold featuresToJson at h
  split at h
  · obtain rfl := Except.error.inj h
    exact nofun
  · cases h

theorem patchedFeatures_error {features : Option (List FeatureId)} {error : ServerError}
    (h : patchedFeatures features = .error error) : Other error := by
  cases features with
  | none => cases h
  | some features =>
      obtain ⟨error', herror, rfl⟩ : ∃ error', featuresToJson features = .error error' ∧
          error' = error := by
        cases hfeatures : featuresToJson features with
        | ok json => simp [patchedFeatures, hfeatures, Except.map] at h
        | error error' =>
            exact ⟨error', rfl, by simpa [patchedFeatures, hfeatures, Except.map] using h⟩
      exact featuresToJson_error herror

theorem modelsToInfo_fails {models : List Device} : FailsOnly Other (modelsToInfo ext models) := by
  induction models with
  | nil => exact .pure
  | cons model models ih =>
      exact .bind (modelToInfo_fails fun _ => nofun) fun _ => .bind ih fun _ => .pure

theorem listDevices_fails : FailsOnly Other (listDevices ext accountId) :=
  .bind .query fun _ => .bind modelsToInfo_fails fun _ => .pure

theorem registerDevice_fails {conn : Conn} {request : DeviceUpsertRequest}
    {mode : RegisterDeviceMode} :
    FailsOnly Other (registerDevice conn accountId request mode) := by
  have hfeatures : FailsOnly Other (liftExcept (featuresToJson request.enabledFeatures)) :=
    .liftExcept fun _ => featuresToJson_error
  refine .check nofun (.bind .query fun existing => ?_)
  cases existing with
  | none => exact .bind .now fun _ => .bind hfeatures fun _ => .insertDevice
  | some existing =>
      refine .check nofun (.ite (fun _ => ?_) fun _ => .bind .now fun _ => .updateDevice)
      cases mode with
      | upsert => exact .throw nofun
      | pairing => exact .bind .now fun _ => .bind hfeatures fun _ => .updateDevice

theorem upsertDevice_fails {request : DeviceUpsertRequest} :
    FailsOnly Other (upsertDevice ext accountId deviceId request) :=
  .check nofun (.bind registerDevice_fails fun _ => modelToInfo_fails fun _ => nofun)

theorem patchDevice_fails {request : DevicePatchRequest} :
    FailsOnly Other (patchDevice ext accountId deviceId request) := by
  refine .check nofun (.check nofun (.bind (loadActiveDevice_fails nofun nofun) fun _ => ?_))
  refine .bind (.liftExcept fun _ => patchedFeatures_error) fun _ => ?_
  exact .bind .updateDevice fun _ => modelToInfo_fails fun _ => nofun

theorem deleteDevice_fails : FailsOnly Other (deleteDevice accountId deviceId) :=
  .bind (loadActiveDevice_fails nofun nofun) fun _ => .bind .now fun _ =>
    .bind .updateDevice fun _ => .pure

theorem createPairingCodeLoop_fails {createdAt : Timestamp} {attempts : Nat} :
    FailsOnly Other (createPairingCodeLoop ext accountId createdAt attempts) := by
  induction attempts with
  | zero => exact .throw nofun
  | succ attempts ih =>
      refine .bind .lift fun _ => .bind .newUuid fun _ => .bind .lift fun result => ?_
      cases result with
      | ok row => exact .pure
      | error error => exact ih

theorem createPairingCode_fails : FailsOnly Other (createPairingCode ext accountId) :=
  .bind .now fun _ => createPairingCodeLoop_fails

end Errors

section Handlers

variable {accountId : AccountId} {log : Log}

theorem FailsOnly.reasoned {α : Type} {route : ProtectedRoute} {p : ServerTry α}
    {respond : α → HttpResponse} (h : FailsOnly Other p) (hrevokes : revokesTokens route = false)
    (hrespond : ∀ value, (respond value).status.isSuccess = true) :
    Handles anything (p >>= fun value => (Pure.pure (respond value) : ServerTry HttpResponse)) Civil
      (Reasoned ext accountId route) log := by
  refine .bind ((h log).mono (fun value _ _ => .pure (hrespond value)) fun error _ hother => ?_)
  refine ⟨fun hstatus => (hother hstatus).elim, fun hyes => ?_⟩
  rw [hrevokes] at hyes
  cases hyes

theorem loadAccount_handles {post : Account → Log → Prop} {fails : ServerError → Log → Prop}
    (h : ∀ account,
      post account (log ++ [⟨.query .db (.findAccount accountId.uuid), .ok (some account)⟩]))
    (hmissing : fails .unauthorized (log ++ [⟨.query .db (.findAccount accountId.uuid), .ok none⟩]))
    (hdatabase : ∀ message, fails (.database message)
      (log ++ [⟨.query .db (.findAccount accountId.uuid), .error message⟩])) :
    Handles anything (loadAccount accountId) post fails log := by
  refine .bind (.read rfl (fun account => ?_) hdatabase)
  cases account with
  | none => exact .throw hmissing
  | some account => exact .pure (h account)

theorem me_reasoned : Handles anything (handleProtected ext accountId .me) Civil
    (Reasoned ext accountId .me) [] := by
  refine .bind (.bind (loadAccount_handles (fun _ => .pure (.pure rfl)) ?_ fun _ => ?_))
  · exact ⟨fun _ => .inl (by simp [Vanished]), nofun⟩
  · exact ⟨nofun, nofun⟩

theorem withTransaction_other {α : Type} {body : ServerTry α} {effects : List Effect}
    (hbody : FailsOnly Other body) (htouches : body.run.All (Touches effects))
    (hcommit : .commit ∉ effects) (hlog : ¬Committed log) :
    Handles anything (withTransaction body) (fun _ _ => True)
      (fun error log' => Other error ∧ ¬Committed log') log := by
  have hbegun : ¬Committed (log ++ [⟨.begin, .ok ()⟩]) := (committed_snoc (by simp)).not.mpr hlog
  refine .withTransaction (fun _ => ⟨nofun, (committed_snoc (by simp)).not.mpr hlog⟩) ?_
  refine (Handles.uncommitted (hbody _) htouches hcommit hbegun).mono ?_ ?_
  · rintro _ log' ⟨-, hlog'⟩
    exact ⟨trivial, trivial, fun _ => ⟨nofun, by simpa [Committed] using hlog'⟩⟩
  · rintro error log' ⟨hother, hlog'⟩
    exact ⟨hother, (committed_snoc (by simp)).not.mpr hlog'⟩

theorem Reasoned.of_other {route : ProtectedRoute} {error : ServerError} (hother : Other error)
    (hlog : ¬Committed log) : Reasoned ext accountId route error log :=
  ⟨fun hstatus => (hother hstatus).elim, fun _ => hlog⟩

theorem verifyPassword_error {password passwordHash : String} {error : ServerError}
    (h : verifyPassword ext password passwordHash = .error error) :
    ext.verifyPassword password passwordHash = false := by
  unfold verifyPassword at h
  split at h
  · cases h
  · rename_i hwrong
    simpa using hwrong

theorem other_database {message : String} : Other (.database message) := nofun

theorem loadAccount_reasoned {route : ProtectedRoute} {post : Account → Log → Prop}
    (h : ∀ account, post account [⟨.query .db (.findAccount accountId.uuid), .ok (some account)⟩]) :
    Handles anything (loadAccount accountId) post (Reasoned ext accountId route) [] := by
  refine loadAccount_handles h ⟨fun _ => .inl (by simp [Vanished]), fun _ => by simp [Committed]⟩ ?_
  exact fun _ => .of_other other_database (by simp [Committed])

theorem changePassword_reasoned {request : ChangePasswordRequest} :
    Handles anything (changePassword ext accountId request) (fun _ _ => True)
      (Reasoned ext accountId (.changePassword request)) [] := by
  refine .ite (fun _ => .bind (.throw (.of_other nofun nofun))) fun _ => .bind ?_
  refine .ite (fun _ => .throw (.of_other nofun nofun)) fun _ => .bind ?_
  refine loadAccount_reasoned fun account => .bind (.liftExcept (fun _ _ => .bind ?_) ?_)
  · refine .askTry ⟨trivial, ?_⟩
    rintro passwordHash _ rfl
    cases passwordHash with
    | error message => exact .of_other nofun (by simp [Committed])
    | ok passwordHash =>
        have htouches : (do
            let _ ← updateAccount .txn account.id
              { Account.ActiveModel.unchanged with passwordHash := some passwordHash }
            revokeAllForAccount .txn accountId : ServerTry Unit).run.All
              (Touches [.write .txn .update .account, .write .txn .update .refreshToken]) :=
          (updateAccount_touches (by decide)).tryBind fun _ =>
            revokeAllForAccount_touches (by decide)
        refine (withTransaction_other ?_ htouches (by decide) (by simp [Committed])).mono
          (fun _ _ => id) fun _ _ h => .of_other h.1 h.2
        exact .bind (.updateReturning .query .query) fun _ => .bind .now fun _ =>
          .bind .query fun _ => .pure
  · intro error herror
    refine ⟨fun _ => .inr ⟨account, by simp, verifyPassword_error herror⟩, fun _ => ?_⟩
    simp [Committed]

theorem decryptSecret_error {stored : String} {error : ServerError}
    (h : decryptSecret ext stored = .error error) :
    error = .auth .invalidCredentials ∨ Other error := by
  unfold decryptSecret at h
  dsimp only at h
  split at h
  · cases h
    exact .inr nofun
  split at h
  · cases h
    exact .inr nofun
  split at h
  · cases h
    exact .inr nofun
  split at h
  · cases h
    exact .inl rfl
  · cases h

theorem buildTotp_error {email secret : String} {error : ServerError}
    (h : buildTotp ext email secret = .error error) : ext.validTotp email secret = false := by
  unfold buildTotp at h
  split at h
  · cases h
  · rename_i hinvalid
    simpa using hinvalid

theorem buildOtpauthUri_error {email secret : String} {error : ServerError}
    (h : buildOtpauthUri ext email secret = .error error) : ext.validTotp email secret = false := by
  cases hbuild : buildTotp ext email secret with
  | ok => simp [buildOtpauthUri, hbuild, bind, Except.bind, pure, Except.pure] at h
  | error error' => exact buildTotp_error hbuild

theorem verifyTotp_handles {email secret code : String} :
    Handles anything (verifyTotp ext email secret code) (fun _ _ => True) (fun _ log' =>
      log <+: log' ∧ (ext.validTotp email secret = false ∨ isTotpCode (trimmed code) = false ∨
        ∃ time, ⟨.now, time⟩ ∈ log' ∧ ext.checkTotp secret time (trimmed code) = false)) log := by
  refine .bind (.liftExcept (fun _ _ => ?_) fun error herror => ?_)
  · refine .ite (fun hcode => .bind (.throw ⟨List.prefix_rfl, .inr (.inl ?_)⟩)) fun _ => ?_
    · simpa using hcode
    refine .bind (.now fun time => .ite (fun _ => .pure trivial) fun hcheck => .throw ?_)
    exact ⟨List.prefix_append _ _, .inr (.inr ⟨time, by simp, by simpa using hcheck⟩)⟩
  · exact ⟨List.prefix_rfl, .inl (buildTotp_error herror)⟩

theorem acceptsTotp_handles {account : Account} {code : String} :
    Handles anything (acceptsTotp ext account code) (fun _ _ => True)
      (fun error _ => error.statusCode = .unauthorized → Unreadable ext account) log := by
  unfold acceptsTotp
  split
  · exact .pure trivial
  · rename_i stored hstored
    refine .bind (.liftExcept (fun secret _ => .bind ?_) fun error herror hstatus => ?_)
    · refine Prog.ensures_lift.mpr (Prog.Ensures.mono verifyTotp_handles fun result log' _ => ?_)
      cases result <;> exact .pure trivial
    · rcases decryptSecret_error herror with rfl | hother
      · exact ⟨stored, hstored, herror⟩
      · exact (hother hstatus).elim

theorem verifyTotpOrRecovery_handles {account : Account} {code : String} :
    Handles anything (verifyTotpOrRecovery ext accountId account code) (fun _ _ => True)
      (fun error log' => error.statusCode = .unauthorized →
        WrongFactor ext accountId account code log') log := by
  refine .bind (acceptsTotp_handles.mono (fun accepted log' _ => ?_) fun error log' h hstatus =>
    .inl (h hstatus))
  refine .ite (fun _ => .pure trivial) fun _ => .bind (.bind (.now fun time => .bind ?_))
  refine .query trivial (fun count => .pure ?_) fun _ => nofun
  refine .ite (fun _ => .pure trivial) fun hcount => .throw fun _ => .inr ⟨time, ?_⟩
  obtain rfl : count = (0 : Nat) := by simpa using hcount
  simp

theorem totpSetup_reasoned :
    Handles anything (totpSetup ext accountId) (fun _ _ => True)
      (Reasoned ext accountId .totpSetup) [] := by
  refine .bind (loadAccount_reasoned fun account => ?_)
  refine .ite (fun _ => .bind (.throw ⟨nofun, nofun⟩)) fun _ => .bind
    (.ask trivial fun secret => ?_)
  refine .bind (.askTry ⟨trivial, ?_⟩)
  rintro encrypted _ rfl
  cases encrypted with
  | error message => exact ⟨nofun, nofun⟩
  | ok encrypted =>
      refine .bind (.liftExcept (fun _ _ => ?_) fun error herror => ?_)
      · have hupdate : FailsOnly Other (updateAccount .db account.id
            { Account.ActiveModel.unchanged with
              totpSecret := some (some encrypted), totpEnabled := some false }) :=
          .updateReturning .query .query
        refine .bind ((hupdate _).mono (fun _ _ _ => .pure trivial) fun error _ hother => ?_)
        exact ⟨fun hstatus => (hother hstatus).elim, nofun⟩
      · refine ⟨fun _ => .inr ⟨account, by simp, secret, by simp, ?_⟩, nofun⟩
        exact buildOtpauthUri_error herror

theorem insertRecoveryCodes_fails {time : Timestamp} {codes : List String} :
    FailsOnly Other (insertRecoveryCodes ext accountId time codes) := by
  induction codes with
  | nil => exact .pure
  | cons code codes ih =>
      exact .bind .newUuid fun _ => .bind (.insertReturning .query .query) fun _ => ih

theorem totpEnable_reasoned {request : TotpEnableRequest} :
    Handles anything (totpEnable ext accountId request) (fun _ _ => True)
      (Reasoned ext accountId (.totpEnable request)) [] := by
  refine .ite (fun _ => .bind (.throw ⟨nofun, nofun⟩)) fun _ => .bind ?_
  refine loadAccount_reasoned fun account => .ite (fun _ => .bind (.throw ⟨nofun, nofun⟩)) fun _ => ?_
  split
  · exact .throw ⟨nofun, nofun⟩
  · rename_i stored hstored
    refine .bind (.liftExcept (fun secret hsecret => .bind ?_) fun error herror => ⟨?_, nofun⟩)
    · refine verifyTotp_handles.mono (fun _ log' _ => ?_) fun _ log' hwrong => ⟨fun _ => ?_, nofun⟩
      · refine .bind (.ask trivial fun recoveryCodes => .bind (.now fun time => ?_))
        have hbody : FailsOnly Other (do
            let _ ← query .txn (.deleteRecoveryCodes accountId.uuid)
            insertRecoveryCodes ext accountId time recoveryCodes
            let _ ← updateAccount .txn account.id
              { Account.ActiveModel.unchanged with totpEnabled := some true }) :=
          .bind .query fun _ => .bind insertRecoveryCodes_fails fun _ =>
            .bind (.updateReturning .query .query) fun _ => .pure
        refine .bind ((hbody.withTransaction _).mono (fun _ _ _ => .pure trivial) ?_)
        exact fun error _ hother => ⟨fun hstatus => (hother hstatus).elim, nofun⟩
      · exact .inr ⟨account, hwrong.1.subset (by simp), .inr
          ⟨stored, secret, hstored, hsecret, hwrong.2⟩⟩
    · intro hstatus
      rcases decryptSecret_error herror with rfl | hother
      · exact .inr ⟨account, by simp, .inl ⟨stored, hstored, herror⟩⟩
      · exact (hother hstatus).elim

theorem totpDisable_reasoned {request : TotpDisableRequest} :
    Handles anything (totpDisable ext accountId request) (fun _ _ => True)
      (Reasoned ext accountId (.totpDisable request)) [] := by
  refine .ite (fun _ => .bind (.throw (.of_other nofun nofun))) fun _ => .bind ?_
  refine loadAccount_reasoned fun account => .ite (fun _ => .bind (.throw ?_)) fun _ => ?_
  · exact .of_other nofun (by simp [Committed])
  refine .bind (.liftExcept (fun _ _ => .bind ?_) fun error herror => ⟨?_, ?_⟩)
  · have htouches : (verifyTotpOrRecovery ext accountId account (trimmed request.code)).run.All
        (Touches [.write .db .update .recoveryCode]) := verifyTotpOrRecovery_touches (by decide)
    have hbody : (do
        let _ ← query .txn (.deleteRecoveryCodes accountId.uuid)
        let _ ← updateAccount .txn account.id
          { Account.ActiveModel.unchanged with
            totpSecret := some none, totpEnabled := some false }
        revokeAllForAccount .txn accountId : ServerTry Unit).run.All
          (Touches [.write .txn .delete .recoveryCode, .write .txn .update .account,
            .write .txn .update .refreshToken]) :=
      (all_write rfl (by decide)).tryBind fun _ =>
        (updateAccount_touches (by decide)).tryBind fun _ => revokeAllForAccount_touches (by decide)
    refine (Handles.uncommitted verifyTotpOrRecovery_handles.grows htouches (by decide)
      (by simp [Committed])).mono ?_ ?_
    · rintro _ log' ⟨-, hlog'⟩
      refine (withTransaction_other ?_ hbody (by decide) hlog').mono (fun _ _ => id)
        fun _ _ h => .of_other h.1 h.2
      exact .bind .query fun _ => .bind (.updateReturning .query .query) fun _ =>
        .bind .now fun _ => .bind .query fun _ => .pure
    · rintro error log' ⟨⟨hwrong, hgrown⟩, hlog'⟩
      refine ⟨fun hstatus => .inr ⟨account, hgrown.subset (by simp), .inr (hwrong hstatus)⟩, ?_⟩
      exact fun _ => hlog'
  · exact fun _ => .inr ⟨account, by simp, .inl (verifyPassword_error herror)⟩
  · exact fun _ => by simp [Committed]

/-- A handler with an account answers 401 for a reason, and revokes tokens with success only. -/
theorem handleProtected_reasoned {route : ProtectedRoute} :
    Handles anything (handleProtected ext accountId route) Civil
      (Reasoned ext accountId route) [] := by
  cases route with
  | me => exact me_reasoned
  | changePassword request =>
      exact .bind (changePassword_reasoned.mono (fun _ _ _ => .pure rfl) fun _ _ => id)
  | totpSetup => exact .bind (totpSetup_reasoned.mono (fun _ _ _ => .pure rfl) fun _ _ => id)
  | totpEnable request =>
      exact .bind (totpEnable_reasoned.mono (fun _ _ _ => .pure rfl) fun _ _ => id)
  | totpDisable request =>
      exact .bind (totpDisable_reasoned.mono (fun _ _ _ => .pure rfl) fun _ _ => id)
  | listDevices => exact listDevices_fails.reasoned rfl fun _ => rfl
  | upsertDevice deviceId request => exact upsertDevice_fails.reasoned rfl fun _ => rfl
  | patchDevice deviceId request => exact patchDevice_fails.reasoned rfl fun _ => rfl
  | deleteDevice deviceId => exact deleteDevice_fails.reasoned rfl fun _ => rfl
  | heartbeatDevice deviceId =>
      exact (heartbeatDevice_fails nofun nofun fun _ => nofun).reasoned rfl fun _ => rfl
  | createPairingCode => exact createPairingCode_fails.reasoned rfl fun _ => rfl

theorem requireAuth_handles {authorization : Option String} {token : String} {claims : Claims}
    (htoken : authorization.bind (stripPrefix "Bearer ") = some token)
    (hopen : ext.openJwt token = some claims) (hpending : claims.mfaPending ≠ some true)
    (haccount : claims.accountId = .ok accountId) :
    Handles anything (requireAuth ext authorization) (fun accountId' _ => accountId' = accountId)
      (fun error log' => error.statusCode = .unauthorized → Vanished accountId log' ∨
        ∃ time : Timestamp, ⟨.now, time⟩ ∈ log' ∧ claims.exp + LEEWAY < time / SECOND) log := by
  unfold requireAuth
  rw [htoken]
  refine .bind (.bind (.bind (.now fun time => .pure ?_)))
  by_cases htime : time / SECOND ≤ claims.exp + LEEWAY
  · have hdecode : decode ext (time / SECOND) token = some claims := by
      simp [decode, hopen, htime]
    rw [hdecode]
    refine .ite (fun h => (hpending h).elim) fun _ => .liftExcept (fun accountId' haccount' => ?_) ?_
    · obtain rfl := Except.ok.inj (haccount.symm.trans haccount')
      refine .bind (.read rfl (fun account => ?_) fun _ => nofun)
      cases account with
      | none => exact .throw fun _ => .inl (by simp [Vanished])
      | some account => exact .pure rfl
    · intro error herror
      cases haccount.symm.trans herror
  · have hlate := Nat.not_le.mp htime
    have hdecode : decode ext (time / SECOND) token = none := by
      simpa [decode, hopen] using hlate
    rw [hdecode]
    exact .throw fun _ => .inr ⟨time, by simp, hlate⟩

end Handlers

section Requests

variable {τ : Type} [DecidableEq τ] {task : τ} {state state' : ServerState τ} {log : Log}
  {response : HttpResponse} {authorization : Option String} {route : ProtectedRoute}
  {token : String} {accountId : AccountId}

/-- An access token is accepted up to a time, and has an account. -/
structure AccessWorks (ext : Externals) (tables : Tables) (clock : Timestamp) (token : String)
    (accountId : AccountId) : Prop where
  opens : ∃ claims, ext.openJwt token = some claims ∧ claims.mfaPending ≠ some true ∧
    claims.accountId = .ok accountId ∧ clock / SECOND ≤ claims.exp + LEEWAY
  present : ∃ account ∈ tables.account, account.id = accountId.uuid

/-- A refresh token can be exchanged up to a time. -/
def RefreshWorks (ext : Externals) (tables : Tables) (clock : Timestamp) (raw : String) : Prop :=
  trimmed raw ≠ "" ∧ ∃ row ∈ tables.refreshToken, row.tokenHash = hashToken ext (trimmed raw) ∧
    row.revokedAt = none ∧ clock ≤ row.expiresAt ∧
    ∃ account ∈ tables.account, account.id = row.accountId

theorem Passes.not_vanished (h : Passes ext isolation task state log state')
    (hpresent : ∃ account ∈ state.database.committed.account, account.id = accountId.uuid) :
    ¬Vanished accountId log := by
  intro hmem
  obtain ⟨before, after, rfl⟩ := List.append_of_mem hmem
  obtain ⟨first, second, hbefore, hperform, -⟩ := h.split
  obtain ⟨database, hquery, -⟩ := perform_query hperform
  obtain ⟨committed, hrun, -⟩ := Database.query_db hquery
  obtain ⟨account, hmem, hid⟩ := hpresent
  obtain ⟨account', hmem', hid'⟩ := hbefore.accountKept account hmem
  have hnone := (Prod.mk.inj (Except.ok.inj hrun)).1
  have hother := List.find?_eq_none.mp hnone account' hmem'
  simp [hid', hid] at hother

theorem serve_protectedly
    (h : Performs ext isolation task (serve ext (.protectedly authorization route)) state log
      response state') :
    (∃ error, Alone ext isolation task (requireAuth ext authorization) state log (.error error)
        state' ∧ response = error.intoResponse) ∨
      ∃ accountId first second middle, log = first ++ second ∧
        Alone ext isolation task (requireAuth ext authorization) state first (.ok accountId)
          middle ∧
        Performs ext isolation task (finish (handleProtected ext accountId route)) middle second
          response state' := by
  obtain ⟨first, rest, result, middle, rfl, hrun, hfinish⟩ := Prog.Exec.bind_inv h
  rw [ExceptT.run_bind] at hrun
  obtain ⟨auth, second, result', middle', rfl, hauth, hrest⟩ := Prog.Exec.bind_inv hrun
  cases result' with
  | error error =>
      cases hrest
      cases hfinish
      refine .inl ⟨error, ?_, rfl⟩
      simpa using hauth
  | ok accountId =>
      exact .inr ⟨accountId, auth, second ++ rest, middle', by simp, hauth,
        Prog.Exec.bind hrest hfinish⟩

theorem Passes.looked (h : Passes ext isolation task state log state')
    (hidle : state.database.pending task = none)
    (hlooks : ∀ exchange ∈ log, exchange.request.isLook = true) :
    state'.database.committed = state.database.committed := by
  refine (h.relates hidle (R := fun tables tables' => tables' = tables) (fun _ => rfl)
    (fun _ _ _ h₁ h₂ => h₂.trans h₁) ?_)
  intro conn statement result hmem _ result' tables tables' hrun
  have hlook := hlooks _ hmem
  cases conn with
  | txn => cases hlook
  | db => exact run_read (by simpa [ServerRequest.isLook] using hlook) hrun

theorem Passes.rows_kept (h : Passes ext isolation task state log state')
    (hidle : state.database.pending task = none)
    (htouches : ∀ exchange ∈ log,
      Touches (Call.protectedly accountId route).effects exchange.request)
    (hrevokes : revokesTokens route = true → ¬Committed log) :
    state.database.committed.refreshToken ⊆ state'.database.committed.refreshToken := by
  refine h.relates hidle (R := fun tables tables' => tables.refreshToken ⊆ tables'.refreshToken)
    (fun _ => List.Subset.refl _) (fun _ _ _ => List.Subset.trans) ?_
  intro conn statement result hmem hcommitted result' tables tables' hrun
  have hupdate : statement.writes ≠ some (.update, .refreshToken) := by
    intro hwrites
    have heffect := htouches _ hmem _ _ hwrites
    cases route with
    | changePassword | totpDisable =>
        cases conn with
        | db => simp [Call.effects] at heffect
        | txn => exact hrevokes rfl (hcommitted rfl)
    | _ => simp [Call.effects] at heffect
  rcases run_refreshToken hrun with hsame | ⟨new, rfl, -, hrows⟩ | ⟨_, _, rfl, -⟩ | ⟨_, _, rfl, -⟩
  · rw [hsame]
    exact List.Subset.refl _
  · rw [hrows]
    exact List.subset_append_left _ _
  · exact (hupdate rfl).elim
  · exact (hupdate rfl).elim

theorem FoundWith.mono {log' : Log} {wrong wrong' : Account → Prop}
    (h : FoundWith accountId log wrong) (hlog : log ⊆ log')
    (hwrong : ∀ account, wrong account → wrong' account) : FoundWith accountId log' wrong' := by
  obtain ⟨account, hfound, haccount⟩ := h
  exact ⟨account, hlog hfound, hwrong account haccount⟩

theorem Rejects.mono {log' : Log} (h : Rejects ext accountId log route) (hlog : log ⊆ log') :
    Rejects ext accountId log' route := by
  cases route with
  | changePassword request => exact FoundWith.mono h hlog fun _ => id
  | totpSetup =>
      refine FoundWith.mono h hlog ?_
      rintro account ⟨secret, hsecret, hinvalid⟩
      exact ⟨secret, hlog hsecret, hinvalid⟩
  | totpEnable request =>
      refine FoundWith.mono h hlog fun account hwrong => hwrong.imp_right ?_
      rintro ⟨stored, secret, hstored, hsecret, hcode⟩
      refine ⟨stored, secret, hstored, hsecret, hcode.imp_right (Or.imp_right ?_)⟩
      rintro ⟨time, hnow, hcheck⟩
      exact ⟨time, hlog hnow, hcheck⟩
  | totpDisable request =>
      refine FoundWith.mono h hlog fun account hwrong => hwrong.imp_right (Or.imp_right ?_)
      rintro ⟨time, hused⟩
      exact ⟨time, hlog hused⟩
  | _ => exact h.elim

theorem AccessWorks.kept {tables tables' : Tables} {clock : Timestamp}
    (h : AccessWorks ext tables clock token accountId) (hkept : AccountKept tables tables') :
    AccessWorks ext tables' clock token accountId := by
  obtain ⟨account, hmem, hid⟩ := h.present
  obtain ⟨account', hmem', hid'⟩ := hkept account hmem
  exact ⟨h.opens, account', hmem', hid'.trans hid⟩

/-- A request with a token that works is answered 401 only where what it brings is wrong, and
leaves the refresh tokens unless it succeeds in revoking them. -/
theorem serve_agrees
    (h : Performs ext isolation task (serve ext (.protectedly authorization route)) state log
      response state')
    (hidle : state.database.pending task = none)
    (htoken : authorization.bind (stripPrefix "Bearer ") = some token)
    (haccess : AccessWorks ext state.database.committed state'.clock token accountId) :
    (response.status = .unauthorized → Rejects ext accountId log route) ∧
      (state.database.committed.refreshToken ⊆ state'.database.committed.refreshToken ∨
        revokesTokens route = true ∧ response.status.isSuccess = true) := by
  obtain ⟨claims, hopen, hpending, haccount, htime⟩ := haccess.opens
  have hauthorized : Handles anything (requireAuth ext authorization) _ _ [] :=
    requireAuth_handles htoken hopen hpending haccount
  rcases serve_protectedly h with
    ⟨error, hauth, rfl⟩ | ⟨accountId', first, second, middle, rfl, hauth, hrun⟩
  · have hlooks := Prog.Exec.all hauth requireAuth_looks
    refine ⟨fun hstatus => ?_, .inl ?_⟩
    · rcases hauth.handles hauthorized hstatus with hvanished | ⟨time, hnow, hlate⟩
      · exact (hauth.passes.not_vanished haccess.present hvanished).elim
      · have hseconds : time / SECOND ≤ state'.clock / SECOND :=
          Nat.div_le_div_right (hauth.passes.clock.2 time hnow).2
        exact (Nat.not_le.mpr hlate (hseconds.trans htime)).elim
    · rw [hauth.passes.looked hidle hlooks]
      exact List.Subset.refl _
  · obtain rfl : accountId' = accountId := Prog.Ensures.told hauthorized hauth
    have hlooks := Prog.Exec.all hauth requireAuth_looks
    have htables := hauth.passes.looked hidle hlooks
    have hmiddle := hauth.passes.pending hidle
    rw [pendingAfter_looks hlooks] at hmiddle
    have hhandled : Handles anything (handleProtected ext accountId' route) _ _ [] :=
      handleProtected_reasoned
    have htouches : (handleProtected ext accountId' route).run.All
        (Touches (Call.protectedly accountId' route).effects) :=
      handle_touches ext (.protectedly accountId' route)
    rw [← htables]
    rcases finish_inv hrun with halone | ⟨error, halone, rfl⟩
    · have hsuccess : response.status.isSuccess = true := Prog.Ensures.told hhandled halone
      refine ⟨fun hstatus => ?_, ?_⟩
      · rw [hstatus] at hsuccess
        cases hsuccess
      · by_cases hrevokes : revokesTokens route = true
        · exact .inr ⟨hrevokes, hsuccess⟩
        · exact .inl (halone.passes.rows_kept hmiddle (Prog.Exec.all halone htouches)
            fun h => (hrevokes h).elim)
    · have hreasoned := halone.handles hhandled
      refine ⟨fun hstatus => ?_, .inl ?_⟩
      · rcases hreasoned.reason hstatus with hvanished | hrejects
        · rw [← htables] at haccess
          exact (halone.passes.not_vanished haccess.present hvanished).elim
        · exact hrejects.mono (List.subset_append_right first second)
      · exact halone.passes.rows_kept hmiddle (Prog.Exec.all halone htouches) hreasoned.undone

end Requests

end Failsafe.Server
