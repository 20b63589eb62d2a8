import Failsafe.Server.Lineage
import Failsafe.Server.OneTime

/-!
For which account a call may act: every credential that a call stores or sends belongs to
an account that its history entitles it to.
-/

namespace Failsafe.Server

open Failsafe.Core Failsafe.Lib

variable {ext : Externals}

/-- The history shows that the call may act for an account. -/
inductive Entitled (ext : Externals) : Call → Log → Uuid → Prop
  | registered {log : Log} {request : AuthRegisterRequest} {row : Account} :
      ⟨.query .db (.insertAccount row), .ok ()⟩ ∈ log →
      Entitled ext (.publicly (.register request)) log row.id
  | loggedIn {log : Log} {request : AuthLoginRequest} {account : Account} :
      ⟨.query .db (.findAccountByEmail (normalizeEmail ext request.email)),
        .ok (some account)⟩ ∈ log →
      ext.verifyPassword request.password account.passwordHash = true →
      account.totpEnabled = false → Entitled ext (.publicly (.login request)) log account.id
  | secondFactor {log : Log} {request : AuthMfaLoginRequest} {accountId : AccountId} :
      SecondFactor ext accountId (trimmed request.code) log →
      Entitled ext (.publicly (.loginMfa request)) log accountId.uuid
  | refreshed {log : Log} {request : AuthRefreshRequest} {record : RefreshToken} :
      ⟨.query .txn (.findRefreshTokenByHash (hashToken ext (trimmed request.refreshToken))),
        .ok (some record)⟩ ∈ log →
      Entitled ext (.publicly (.refresh request)) log record.accountId
  | redeemed {log : Log} {request : PairingRedeemRequest} {code : String}
      {record : PairingCode} : normalizeCode ext request.code = some code →
      ⟨.query .txn (.findPairingCodeByCode code), .ok (some record)⟩ ∈ log →
      Entitled ext (.publicly (.redeemPairingCode request)) log record.accountId
  | authenticated {log : Log} {accountId : AccountId} {route : ProtectedRoute} :
      Entitled ext (.protectedly accountId route) log accountId.uuid
  | loaded {log : Log} {accountId : AccountId} {route : ProtectedRoute} {account : Account} :
      ⟨.query .db (.findAccount accountId.uuid), .ok (some account)⟩ ∈ log →
      Entitled ext (.protectedly accountId route) log account.id

/-- A statement was made directly, or in a transaction that was committed. -/
def Wrote (log : Log) (statement : Statement) : Prop :=
  (∃ result, ⟨.query .db statement, .ok result⟩ ∈ log) ∨
    ∃ before after entries result, log = before ++ ⟨.commit, .ok ()⟩ :: after ∧
      pendingAfter before = some entries ∧ ⟨statement, result⟩ ∈ entries

/-- Tokens were signed and stored for an account. -/
def Issued (ext : Externals) (accountId : Uuid) (response : AuthResponse) (log : Log) : Prop :=
  ∃ token raw claims new, response = .authenticated token raw ∧
    ⟨.encodeJwt claims, .ok token⟩ ∈ log ∧ claims.sub = Uuid.toText accountId ∧
    Wrote log (.insertRefreshToken new) ∧ new.tokenHash = hashToken ext raw ∧
    new.accountId = accountId

/-- The credentials in a response are of accounts that the call may act for. -/
def Tells (ext : Externals) (call : Call) (response : HttpResponse) (log : Log) : Prop :=
  match response.body with
  | .auth response =>
      (∃ accountId, Issued ext accountId response log ∧ Entitled ext call log accountId) ∨
        ∃ token claims, response = .mfa token ∧ ⟨.encodeJwt claims, .ok token⟩ ∈ log ∧
          claims.mfaPending = some true
  | .pairingCreate response => ∃ new, Wrote log (.insertPairingCode new) ∧
      new.code = response.code ∧ Entitled ext call log new.accountId
  | .totpEnable response => ∀ code ∈ response.recoveryCodes, ∃ new,
      Wrote log (.insertRecoveryCode new) ∧ new.codeHash = hashRecoveryCode ext code ∧
      Entitled ext call log new.accountId
  | _ => True

/-- A call only writes rows of accounts that it may act for. -/
def OwnerGuard (ext : Externals) (call : Call) (log : Log) : ServerRequest → Prop
  | .query _ (.insertRefreshToken new) => Entitled ext call log new.accountId
  | .query _ (.insertPairingCode new) => Entitled ext call log new.accountId
  | .query _ (.insertRecoveryCode new) => Entitled ext call log new.accountId
  | .query _ (.updateAccount id _) => Entitled ext call log id
  | .query _ (.updateRefreshToken _ active) => active.accountId = none
  | _ => True

instance (call : Call) : Lenient (OwnerGuard ext call) := by
  constructor
  intro log request hquiet
  cases request with
  | query conn statement =>
      cases statement <;> trivial
  | _ => trivial

section Logs

variable {log log' : Log} {call : Call}

theorem Entitled.mono {id : Uuid} (h : Entitled ext call log id) (hlog : log <+: log') :
    Entitled ext call log' id := by
  cases h with
  | registered hinsert => exact .registered (hlog.subset hinsert)
  | loggedIn hfound hpassword htotp => exact .loggedIn (hlog.subset hfound) hpassword htotp
  | secondFactor hshown => exact .secondFactor (hshown.mono hlog)
  | refreshed hfound => exact .refreshed (hlog.subset hfound)
  | redeemed hcode hfound => exact .redeemed hcode (hlog.subset hfound)
  | authenticated => exact .authenticated
  | loaded hfound => exact .loaded (hlog.subset hfound)

theorem Wrote.committed {entries : List schema.Entry} {statement : Statement}
    (hpending : pendingAfter log = some entries)
    (hmem : ∃ result, ⟨statement, result⟩ ∈ entries) :
    Wrote (log ++ [⟨.commit, .ok ()⟩]) statement := by
  obtain ⟨result, hmem⟩ := hmem
  exact .inr ⟨log, [], entries, result, rfl, hpending, hmem⟩

end Logs

theorem ownerGuard_of_touches {call : Call} {effects : List Effect} {log : Log}
    {request : ServerRequest} (h : Touches effects request)
    (heffects : ∀ conn, .write conn .insert .refreshToken ∉ effects ∧
      .write conn .update .refreshToken ∉ effects ∧ .write conn .insert .pairingCode ∉ effects ∧
      .write conn .insert .recoveryCode ∉ effects ∧ .write conn .update .account ∉ effects) :
    OwnerGuard ext call log request := by
  cases request with
  | query conn statement =>
      obtain ⟨htoken, hrevoke, hpairing, hrecovery, haccount⟩ := heffects conn
      cases statement with
      | insertRefreshToken => exact (htoken (h _ _ rfl)).elim
      | updateRefreshToken => exact (hrevoke (h _ _ rfl)).elim
      | insertPairingCode => exact (hpairing (h _ _ rfl)).elim
      | insertRecoveryCode => exact (hrecovery (h _ _ rfl)).elim
      | updateAccount => exact (haccount (h _ _ rfl)).elim
      | _ => trivial
  | _ => trivial

section Rules

variable {guard : Log → ServerRequest → Prop} [Lenient guard] {log : Log}

theorem issueWithTtl_obeys {accountId : AccountId} {ttl : Nat} {mfaPending : Option Bool}
    {post : String → Log → Prop}
    (h : ∀ (time : Timestamp) claims token, claims.sub = AccountId.toText accountId →
      claims.mfaPending = mfaPending →
      post token (log ++ [⟨.now, time⟩] ++ [⟨.encodeJwt claims, .ok token⟩])) :
    Obeys guard (issueWithTtl accountId ttl mfaPending) post log := by
  refine .bind (.bind (.now fun time => .pure (.askTry ⟨Lenient.allow _ _ rfl, ?_⟩)))
  rintro token _ rfl
  cases token with
  | error message => trivial
  | ok token => exact h _ _ _ rfl rfl

theorem issueAuthResponse_issues {accountId : AccountId}
    (hinsert : ∀ log' new, log <+: log' → new.accountId = accountId.uuid →
      guard log' (.query .db (.insertRefreshToken new))) :
    Obeys guard (issueAuthResponse ext accountId)
      (fun response log' => Issued ext accountId.uuid response log') log := by
  refine .bind (issueWithTtl_obeys fun iat claims token hsub _ => .bind (.bind ?_))
  refine .ask (Lenient.allow _ _ rfl) fun raw => .bind (.bind (.now fun time => .bind ?_))
  refine .newUuid fun id => .pure (.bind ?_)
  let new : RefreshToken :=
    { id, accountId := accountId.uuid, tokenHash := hashToken ext raw,
      expiresAt := time + REFRESH_TOKEN_TTL, revokedAt := none, createdAt := time }
  refine .insertRefreshToken (hinsert _ new ?_ rfl) fun row => ?_
  · simp
  · refine .pure (.pure ⟨token, raw, claims, new, rfl, by simp, hsub, .inl ⟨(), ?_⟩, rfl, rfl⟩)
    simp [new]

end Rules

section Calls

variable {log : Log}

theorem rotate_obeys {raw : String} {guard : Log → ServerRequest → Prop} [Lenient guard]
    (hupdate : ∀ log' id time, guard log' (.query .txn (.updateRefreshToken id (revoking time))))
    (hinsert : ∀ log' record new, ⟨.query .txn (.findRefreshTokenByHash (hashToken ext raw)),
        .ok (some record)⟩ ∈ log' → new.accountId = record.accountId →
      guard log' (.query .txn (.insertRefreshToken new))) (hcommit : ∀ log', guard log' .commit) :
    Obeys guard (rotate ext raw) (fun response log' => ∃ record,
      ⟨.query .txn (.findRefreshTokenByHash (hashToken ext raw)), .ok (some record)⟩ ∈ log' ∧
        Issued ext record.accountId response log') log := by
  refine .withTransaction (.bind (.bind (.read rfl fun record => ?_)))
  cases record with
  | none => exact .throw
  | some record =>
      refine .ite (fun _ => .bind .throw) fun _ => .bind (.now fun time => ?_)
      refine .ite (fun _ => .bind .throw) fun _ => .bind (.read rfl fun account => ?_)
      cases account with
      | none => exact .throw
      | some account =>
          refine .pure (.bind (.bind (.now fun revokedAt => .bind ?_)))
          refine .updateRefreshToken (hupdate _ _ _) fun count record' => ?_
          refine .pure (.bind (.ask (Lenient.allow _ _ rfl) fun newRaw => ?_))
          refine .bind (.bind (.now fun createdAt => .bind (.newUuid fun id => .pure ?_)))
          let new : RefreshToken :=
            { id, accountId := record.accountId, tokenHash := hashToken ext newRaw,
              expiresAt := createdAt + REFRESH_TOKEN_TTL, revokedAt := none, createdAt }
          refine .bind
            (.insertRefreshToken (hinsert _ record new (by simp) rfl) fun row => .bind ?_)
          refine issueWithTtl_obeys fun iat claims token hsub _ => .pure ⟨hcommit _, record, ?_, ?_⟩
          · simp
          · refine ⟨token, newRaw, claims, new, rfl, by simp, hsub, ?_, rfl, rfl⟩
            exact .committed (by simp only [pendingAfter_append]; rfl) ⟨(), by simp [new]⟩

theorem insertRecoveryCodes_obeys {guard : Log → ServerRequest → Prop} [Lenient guard]
    {accountId : AccountId} {time : Timestamp} {codes : List String}
    {entries : List schema.Entry} (hpending : pendingAfter log = some entries)
    (hinsert : ∀ log' new, new.accountId = accountId.uuid →
      guard log' (.query .txn (.insertRecoveryCode new))) :
    Obeys guard (insertRecoveryCodes ext accountId time codes) (fun _ log' => ∃ entries',
      pendingAfter log' = some entries' ∧ entries ⊆ entries' ∧ ∀ code ∈ codes, ∃ new,
        ⟨.insertRecoveryCode new, ()⟩ ∈ entries' ∧ new.codeHash = hashRecoveryCode ext code ∧
          new.accountId = accountId.uuid) log := by
  induction codes generalizing log entries with
  | nil => exact .pure ⟨entries, hpending, List.Subset.refl _, by simp⟩
  | cons code codes ih =>
      refine .bind (.newUuid fun id => .bind ?_)
      let new : RecoveryCode :=
        { id, accountId := accountId.uuid, codeHash := hashRecoveryCode ext code,
          usedAt := none, createdAt := time }
      refine .insertRecoveryCode (hinsert _ new rfl) fun row => ?_
      have hpending' : pendingAfter (log ++ [⟨.newUuid, id⟩] ++
          [⟨.query .txn (.insertRecoveryCode new), .ok ()⟩] ++
          [⟨.query .txn (.findRecoveryCode new.id), .ok (some row)⟩]) =
            some (entries ++ [⟨.insertRecoveryCode new, ()⟩] ++
              [⟨.findRecoveryCode new.id, some row⟩]) := by
        simp only [pendingAfter_append, hpending]
        rfl
      refine (ih hpending').mono ?_
      rintro _ log' ⟨entries', hentries', hsubset, hcodes⟩
      refine ⟨entries', hentries', fun entry hmem => hsubset (by simp [hmem]), ?_⟩
      intro code' hmem
      rcases List.mem_cons.mp hmem with rfl | hmem
      · exact ⟨new, hsubset (by simp), rfl, rfl⟩
      · exact hcodes code' hmem

theorem tells_issued {call : Call} {accountId : Uuid} {response : AuthResponse}
    (h : Issued ext accountId response log) (hentitled : Entitled ext call log accountId) :
    Tells ext call (json (.auth response)) log :=
  .inl ⟨accountId, h, hentitled⟩

theorem issue_tells {call : Call} {accountId : AccountId}
    (hentitled : Entitled ext call log accountId.uuid) :
    Obeys (OwnerGuard ext call) (issueAuthResponse ext accountId)
      (fun response log' => Tells ext call (json (.auth response)) log') log := by
  have hissue : Obeys (OwnerGuard ext call) (issueAuthResponse ext accountId)
      (fun response log' => Issued ext accountId.uuid response log') log := by
    refine issueAuthResponse_issues fun log' new hlog hnew => ?_
    rw [OwnerGuard, hnew]
    exact hentitled.mono hlog
  exact hissue.grows.mono fun response log' h => tells_issued h.1 (hentitled.mono h.2)

theorem register_tells {request : AuthRegisterRequest} :
    Obeys (OwnerGuard ext (.publicly (.register request))) (register ext request)
      (fun response log' => Tells ext (.publicly (.register request)) (json (.auth response)) log')
      log := by
  refine .ite (fun _ => .bind .throw) fun _ => .bind (.ite (fun _ => .throw) fun _ => ?_)
  refine .bind (.read rfl fun existing => .ite (fun _ => .bind .throw) fun _ => ?_)
  refine .bind (.newUuid fun id => .bind (.now fun time => .bind (.askTry ⟨trivial, ?_⟩)))
  rintro passwordHash _ rfl
  cases passwordHash with
  | error message => trivial
  | ok passwordHash =>
      let row := newAccount id (normalizeEmail ext request.email) passwordHash time
      refine .bind (.insertAccount trivial fun _ => issue_tells ?_)
      have hentitled {log' : Log} (hinsert : ⟨.query .db (.insertAccount row), .ok ()⟩ ∈ log') :
          Entitled ext (.publicly (.register request)) log' row.id := .registered hinsert
      exact hentitled (by simp [row])

theorem login_tells {request : AuthLoginRequest} :
    Obeys (OwnerGuard ext (.publicly (.login request))) (login ext request)
      (fun response log' => Tells ext (.publicly (.login request)) (json (.auth response)) log')
      log := by
  refine .bind (.read rfl fun account => ?_)
  cases account with
  | none => exact .throw
  | some account =>
      refine .bind (.liftExcept fun _ hpassword => .ite (fun _ => .bind ?_) fun htotp => ?_)
      · refine issueWithTtl_obeys fun iat claims token _ hpending => .pure (.inr ?_)
        exact ⟨token, claims, rfl, by simp, hpending⟩
      · refine issue_tells (.loggedIn (by simp) ?_ (Bool.eq_false_iff.mpr htotp))
        unfold verifyPassword at hpassword
        split at hpassword
        · assumption
        · cases hpassword

theorem loginMfa_tells {request : AuthMfaLoginRequest} :
    Obeys (OwnerGuard ext (.publicly (.loginMfa request))) (loginMfa ext request)
      (fun response log' => Tells ext (.publicly (.loginMfa request)) (json (.auth response)) log')
      log := by
  refine .ite (fun _ => .bind .throw) fun _ => .bind ?_
  refine (Obeys.of_all validateMfaPending_quiet Lenient.allow).mono ?_
  intro accountId log' _
  refine .bind (loadAccount_obeys fun account => .ite (fun _ => .bind .throw) fun _ => .bind ?_)
  refine (verifyLoaded_obeys (.read unwritten_db) fun _ _ => trivial).mono ?_
  exact fun _ log'' hshown => issue_tells (.secondFactor hshown)

theorem refresh_tells {request : AuthRefreshRequest} :
    Obeys (OwnerGuard ext (.publicly (.refresh request))) (refresh ext request)
      (fun response log' => Tells ext (.publicly (.refresh request)) (json (.auth response)) log')
      log := by
  refine .ite (fun _ => .bind .throw) fun _ => ?_
  refine (rotate_obeys (fun _ _ _ => rfl) (fun log' record new hfound hnew => ?_)
    fun _ => trivial).mono fun response log' h => ?_
  · rw [OwnerGuard, hnew]
    exact .refreshed hfound
  · obtain ⟨record, hfound, hissued⟩ := h
    exact tells_issued hissued (.refreshed hfound)

theorem redeemPairingCode_tells {request : PairingRedeemRequest} :
    Obeys (OwnerGuard ext (.publicly (.redeemPairingCode request))) (redeemPairingCode ext request)
      (fun response log' =>
        Tells ext (.publicly (.redeemPairingCode request)) (json (.auth response)) log') log := by
  unfold redeemPairingCode
  split
  · exact .throw
  rename_i code hcode
  refine .bind (.withTransaction (.bind (.read rfl fun record => ?_)))
  cases record with
  | none => exact .throw
  | some record =>
      refine .bind (.now fun time => .ite (fun _ => .bind .throw) fun _ => ?_)
      refine .ite (fun _ => .bind .throw) fun _ => .bind ?_
      have htouches : (registerPaired ⟨record.accountId⟩ request.device).run.All
          (Touches redeemEffects) := registerPaired_touches (by decide) (by decide)
      have hpaired : Obeys (OwnerGuard ext (.publicly (.redeemPairingCode request)))
          (registerPaired ⟨record.accountId⟩ request.device) (fun _ _ => True) (log ++
            [⟨.begin, .ok ()⟩] ++ [⟨.query .txn (.findPairingCodeByCode code), .ok (some record)⟩] ++
            [⟨.now, time⟩]) :=
        .of_all htouches fun _ _ h => ownerGuard_of_touches h (by simp)
      refine hpaired.grows.mono ?_
      rintro _ log' ⟨-, hlog⟩
      refine .bind (.now fun usedAt => .bind (.query trivial fun count => ?_))
      refine .ite (fun _ => .bind .throw) fun _ => .pure ⟨trivial, issue_tells ?_⟩
      refine .redeemed hcode ?_
      have hfound : ⟨.query .txn (.findPairingCodeByCode code), .ok (some record)⟩ ∈ log' :=
        hlog.subset (by simp)
      simp [hfound]

theorem totpSetup_obeys {accountId : AccountId} :
    Obeys (OwnerGuard ext (.protectedly accountId .totpSetup)) (totpSetup ext accountId)
      (fun _ _ => True) log := by
  refine .bind (loadAccount_obeys fun account => .ite (fun _ => .bind .throw) fun _ => .bind ?_)
  refine .ask trivial fun secret => .bind (.askTry ⟨trivial, ?_⟩)
  rintro encrypted _ rfl
  cases encrypted with
  | error message => trivial
  | ok encrypted =>
      refine .bind (.liftExcept fun uri _ => .bind (.updateAccount (.loaded ?_) fun _ _ => trivial))
      simp

theorem changePassword_obeys {accountId : AccountId} {request : ChangePasswordRequest} :
    Obeys (OwnerGuard ext (.protectedly accountId (.changePassword request)))
      (changePassword ext accountId request) (fun _ _ => True) log := by
  refine .ite (fun _ => .bind .throw) fun _ => .bind (.ite (fun _ => .throw) fun _ => ?_)
  refine .bind (loadAccount_obeys fun account => .bind (.liftExcept fun _ _ => .bind ?_))
  refine .askTry ⟨trivial, ?_⟩
  rintro passwordHash _ rfl
  cases passwordHash with
  | error message => trivial
  | ok passwordHash =>
      refine .withTransaction (.bind (.updateAccount (.loaded (by simp)) fun _ _ => .bind ?_))
      exact .now fun _ => .bind (.query trivial fun _ => .pure ⟨trivial, trivial⟩)

theorem totpEnable_tells {accountId : AccountId} {request : TotpEnableRequest} :
    Obeys (OwnerGuard ext (.protectedly accountId (.totpEnable request)))
      (totpEnable ext accountId request) (fun response log' =>
        Tells ext (.protectedly accountId (.totpEnable request)) (json (.totpEnable response)) log')
      log := by
  refine .ite (fun _ => .bind .throw) fun _ => .bind (loadAccount_obeys fun account => ?_)
  refine .ite (fun _ => .bind .throw) fun _ => ?_
  cases account.totpSecret with
  | none => exact .throw
  | some stored =>
      refine .bind (.liftExcept fun secret _ => .bind (verifyTotp_obeys fun time _ => .bind ?_))
      refine .ask trivial fun recoveryCodes => .bind (.now fun time' => .bind ?_)
      refine .withTransaction (.bind (.query trivial fun count => .bind ?_))
      refine (insertRecoveryCodes_obeys (by simp only [pendingAfter_append]; rfl)
        fun log' new hnew => ?_).grows.mono ?_
      · rw [OwnerGuard, hnew]
        exact .authenticated
      · rintro _ log' ⟨⟨entries, hpending, -, hcodes⟩, hlog⟩
        have hfound : ⟨.query .db (.findAccount accountId.uuid), .ok (some account)⟩ ∈ log' :=
          hlog.subset (by simp)
        refine .bind (.updateAccount (.loaded hfound) fun count' row => ?_)
        refine .pure ⟨trivial, .pure fun code hmem => ?_⟩
        obtain ⟨new, hnew, hhash, haccount⟩ := hcodes code hmem
        refine ⟨new, .committed (by simp only [pendingAfter_append, hpending]; rfl)
          ⟨(), List.mem_append_left _ (List.mem_append_left _ hnew)⟩, hhash, ?_⟩
        rw [haccount]
        exact .authenticated

theorem totpDisable_owner {accountId : AccountId} {request : TotpDisableRequest} :
    Obeys (OwnerGuard ext (.protectedly accountId (.totpDisable request)))
      (totpDisable ext accountId request) (fun _ _ => True) log := by
  refine .ite (fun _ => .bind .throw) fun _ => .bind (loadAccount_obeys fun account => ?_)
  refine .ite (fun _ => .bind .throw) fun _ => .bind (.liftExcept fun _ _ => .bind ?_)
  refine (verifyTotpOrRecovery_obeys fun _ _ => trivial).grows.mono ?_
  rintro _ log' ⟨-, hlog⟩
  refine .withTransaction (.bind (.query trivial fun _ => .bind (.updateAccount (.loaded ?_) ?_)))
  · have hfound := hlog.subset (List.mem_append_right log (List.mem_singleton_self _))
    simp [hfound]
  · exact fun _ _ => .bind (.now fun _ => .bind (.query trivial fun _ => .pure ⟨trivial, trivial⟩))

theorem logout_obeys {request : AuthLogoutRequest} :
    Obeys (OwnerGuard ext (.publicly (.logout request))) (logout ext request) (fun _ _ => True)
      log := by
  refine .ite (fun _ => trivial) fun _ => .bind (.read rfl fun record => ?_)
  cases record with
  | none => trivial
  | some record =>
      refine .ite (fun _ => .bind (.now fun time => .bind ?_)) fun _ => trivial
      exact .updateRefreshToken rfl fun _ _ => trivial

theorem createPairingCode_tells {accountId : AccountId} :
    Obeys (OwnerGuard ext (.protectedly accountId .createPairingCode))
      (createPairingCode ext accountId) (fun response log' =>
        Tells ext (.protectedly accountId .createPairingCode) (json (.pairingCreate response)) log')
      log := by
  refine .bind (.now fun createdAt => ?_)
  generalize 10 = attempts
  generalize log ++ [(⟨.now, createdAt⟩ : Exchange ServerSig)] = log'
  induction attempts generalizing log' with
  | zero => exact .throw
  | succ attempts ih =>
      refine .bind (.ask trivial fun code => .bind (.newUuid fun id => .bind ?_))
      let new : PairingCode :=
        { id, accountId := accountId.uuid, code, expiresAt := createdAt + PAIRING_TTL,
          usedAt := none, createdAt }
      have hinsert : Obeys (OwnerGuard ext (.protectedly accountId .createPairingCode))
          (insertPairingCode .db new)
          (fun _ log'' => ⟨.query .db (.insertPairingCode new), .ok ()⟩ ∈ log'')
          (log' ++ [⟨.generateCode, code⟩] ++ [⟨.newUuid, id⟩]) :=
        .insertPairingCode .authenticated fun _ => by simp
      refine Prog.ensures_lift.mpr (Prog.Ensures.mono hinsert fun result log'' hresult => ?_)
      cases result with
      | ok row => exact .pure ⟨new, .inl ⟨(), hresult⟩, rfl, .authenticated⟩
      | error error => exact ih log''

theorem webServe_body (ext : Externals) (path : String) :
    ∃ text, (webServe ext path).body = .text text := by
  unfold webServe
  dsimp only
  split
  · exact ⟨_, rfl⟩
  · split <;> exact ⟨_, rfl⟩

/-- Every call writes, and tells, only what belongs to accounts that it may act for. -/
theorem handle_tells (call : Call) :
    Obeys (OwnerGuard ext call) (handle ext call) (fun response log => Tells ext call response log)
      [] := by
  have hother {α : Type} {p : ServerTry α} {effects : List Effect}
      (htouches : p.run.All (Touches effects))
      (heffects : ∀ conn, .write conn .insert .refreshToken ∉ effects ∧
        .write conn .update .refreshToken ∉ effects ∧ .write conn .insert .pairingCode ∉ effects ∧
        .write conn .insert .recoveryCode ∉ effects ∧ .write conn .update .account ∉ effects) :
      Obeys (OwnerGuard ext call) p (fun _ _ => True) [] :=
    .of_all htouches fun _ _ h => ownerGuard_of_touches h heffects
  cases call with
  | publicly route =>
      cases route with
      | register => exact .bind (register_tells.mono fun _ _ h => .pure h)
      | login => exact .bind (login_tells.mono fun _ _ h => .pure h)
      | loginMfa => exact .bind (loginMfa_tells.mono fun _ _ h => .pure h)
      | refresh => exact .bind (refresh_tells.mono fun _ _ h => .pure h)
      | logout => exact .bind (logout_obeys.mono fun _ _ _ => .pure trivial)
      | redeemPairingCode => exact .bind (redeemPairingCode_tells.mono fun _ _ h => .pure h)
      | listFeatures => exact .pure trivial
      | health => exact .pure trivial
      | fallback path =>
          obtain ⟨text, htext⟩ := webServe_body ext path
          refine .pure ?_
          rw [Tells, htext]
          trivial
  | protectedly accountId route =>
      cases route with
      | me =>
          have htouches : (me accountId).run.All (Touches []) := me_touches
          exact .bind ((hother htouches (by simp)).mono fun _ _ _ => .pure trivial)
      | changePassword => exact .bind (changePassword_obeys.mono fun _ _ _ => .pure trivial)
      | totpSetup => exact .bind (totpSetup_obeys.mono fun _ _ _ => .pure trivial)
      | totpEnable => exact .bind (totpEnable_tells.mono fun _ _ h => .pure h)
      | totpDisable => exact .bind (totpDisable_owner.mono fun _ _ _ => .pure trivial)
      | createPairingCode => exact .bind (createPairingCode_tells.mono fun _ _ h => .pure h)
      | listDevices =>
          have htouches : (listDevices ext accountId).run.All (Touches []) := listDevices_touches
          exact .bind ((hother htouches (by simp)).mono fun _ _ _ => .pure trivial)
      | upsertDevice =>
          exact .bind ((hother upsertDevice_touches (by simp)).mono fun _ _ _ => .pure trivial)
      | patchDevice =>
          exact .bind ((hother patchDevice_touches (by simp)).mono fun _ _ _ => .pure trivial)
      | deleteDevice =>
          exact .bind ((hother deleteDevice_touches (by simp)).mono fun _ _ _ => .pure trivial)
      | heartbeatDevice =>
          exact .bind ((hother heartbeatDevice_touches (by simp)).mono fun _ _ _ => .pure trivial)

theorem finish_tells (call : Call) :
    (finish (handle ext call)).Ensures (OwnerGuard ext call) Prog.heard
      (fun response log => Tells ext call response log) [] := by
  refine Prog.ensures_bind.mpr (Prog.Ensures.mono (handle_tells call) ?_)
  intro result log hresult
  cases result with
  | ok response => exact hresult
  | error error => trivial

end Calls

end Failsafe.Server
