import Failsafe.Server.AuthRules

/-!
Pairing codes and recovery codes work once, whatever calls run at the same time.
-/

namespace Failsafe.Server

open Failsafe.Core Failsafe.Lib

variable {ext : Externals}

section Redeem

/-- What a transaction that redeems a code has done before it commits: the code was read
as an unused one, the clock was read next, and the last statement has used it. -/
def Redeems (code : String) (log : Log) : Prop :=
  ∃ record time usedAt count before between,
    log = before ++ ⟨.query .txn (.findPairingCodeByCode code), .ok (some record)⟩ ::
      ⟨.now, time⟩ :: between ++ [⟨.query .txn (.usePairingCode record.id usedAt), .ok count⟩] ∧
    Unwritten .txn before ∧ record.usedAt = none ∧ time ≤ record.expiresAt ∧ count ≠ 0

/-- What a redemption may do after its history. -/
def RedeemGuard (ext : Externals) (request : PairingRedeemRequest) (log : Log) :
    ServerRequest → Prop
  | .commit => ∃ code, normalizeCode ext request.code = some code ∧ Redeems code log
  | .query .db statement =>
      ∀ kind table, statement.writes = some (kind, table) → table = .refreshToken
  | .respond response =>
      (response.status = .ok → Committed log) ∧
        (Committed log → response.status = .ok ∨ response.status = .internalServerError)
  | _ => True

instance (request : PairingRedeemRequest) : Lenient (RedeemGuard ext request) := by
  constructor
  intro log request hquiet
  cases request with
  | commit | respond => cases hquiet
  | query conn statement =>
      cases conn with
      | txn => trivial
      | db =>
          intro kind table hwrites
          cases statement <;> cases hquiet <;> cases hwrites
  | _ => trivial

variable {log : Log}

/-- The effects of the transaction of a redemption. -/
abbrev redeemEffects : List Effect :=
  [.write .txn .insert .device, .write .txn .update .device, .write .txn .update .pairingCode]

theorem redeemInTransaction_handles {request : PairingRedeemRequest} {code : String}
    {device : Option DeviceUpsertRequest} (hopen : Unwritten .txn log) (hlog : ¬Committed log) :
    Handles (RedeemGuard ext request) (redeemInTransaction code device)
      (fun _ log' => Redeems code log' ∧ ¬Committed log') (fun _ log' => ¬Committed log') log := by
  have hobeys : Obeys (RedeemGuard ext request) (redeemInTransaction code device)
      (fun _ log' => Redeems code log') log := by
    refine .bind (.read rfl fun record => ?_)
    cases record with
    | none => exact .throw
    | some record =>
        refine .bind (.now fun time => .ite (fun _ => .bind .throw) fun hexpires =>
          .ite (fun _ => .bind .throw) fun hused => ?_)
        have hpaired : Obeys (RedeemGuard ext request) (registerPaired ⟨record.accountId⟩ device)
            (fun _ _ => True) (log ++
              [⟨.query .txn (.findPairingCodeByCode code), .ok (some record)⟩] ++
              [⟨.now, time⟩]) := by
          have htouches : (registerPaired ⟨record.accountId⟩ device).run.All
              (Touches redeemEffects) := registerPaired_touches (by decide) (by decide)
          refine .of_all htouches fun log' request' htouches' => ?_
          cases request' with
          | query conn statement =>
              cases conn with
              | txn => trivial
              | db =>
                  intro kind table hwrites
                  simpa using htouches' _ _ hwrites
          | commit => simp [Touches] at htouches'
          | respond => exact htouches'.elim
          | _ => trivial
        refine .bind (hpaired.grows.mono ?_)
        rintro _ log' ⟨-, between, rfl⟩
        refine .bind (.now fun usedAt => .bind (.query trivial fun count => ?_))
        refine .ite (fun _ => .bind .throw) fun hcount => .pure ?_
        refine ⟨record, time, usedAt, count, log, between ++ [⟨.now, usedAt⟩], by simp, hopen, ?_,
          Nat.not_lt.mp hexpires, hcount⟩
        simpa using hused
  have htouches : (redeemInTransaction code device).run.All (Touches redeemEffects) :=
    redeemInTransaction_touches (by decide) (by decide) (by decide)
  refine Handles.mono (Handles.keeping hobeys htouches ?_ hlog)
    (fun _ _ h => h) fun _ _ h => h.2
  intro log' request' response htouches hlog'
  rw [committed_snoc]
  · exact hlog'
  · rintro rfl
    simp [Touches] at htouches

/-- A redemption commits only after it has used its code, and answers with success only
after the commit; after the commit only issuing the tokens can fail. -/
theorem redeemGuard_ensures (request : PairingRedeemRequest) :
    ((Call.publicly (.redeemPairingCode request)).run ext).Ensures (RedeemGuard ext request)
      Prog.heard (fun _ _ => True) [] := by
  have hrejected {log : Log} {error : ServerError} (hlog : ¬Committed log) :
      RedeemGuard ext request log (.respond error.intoResponse) :=
    ⟨fun hok => (error.statusCode_ne_ok hok).elim, fun hcommitted => (hlog hcommitted).elim⟩
  refine Handles.run (.bind ?_)
  unfold redeemPairingCode
  split
  · exact .throw (hrejected List.not_mem_nil)
  rename_i code hcode
  refine .bind (.withTransaction (fun message => ?_) ?_)
  · exact hrejected (by simp [Committed])
  refine (redeemInTransaction_handles unwritten_begin (by simp [Committed])).mono ?_ ?_
  · rintro accountId log' ⟨hredeems, hlog'⟩
    refine ⟨⟨code, hcode, hredeems⟩, ?_, fun message => hrejected ?_⟩
    · have hcommitted : Committed (log' ++ [⟨.commit, .ok ()⟩]) := by simp [Committed]
      refine (issueAuthResponse_handles fun _ _ => ?_).grows.mono ?_ ?_
      · exact fun kind table hwrites => (Prod.mk.inj (Option.some.inj hwrites)).2.symm
      · exact fun response log'' h => .pure ⟨fun _ => hcommitted.mono h.2, fun _ => .inl rfl⟩
      · exact fun error log'' h => ⟨fun _ => hcommitted.mono h.2, fun _ => .inr h.1⟩
    · simpa [Committed] using hlog'
  · intro error log' hlog'
    exact hrejected ((committed_snoc (by simp)).not.mpr hlog')

end Redeem

section Recovery

/-- A request showed the second factor of an account: its secret accepted the code, or an
unused recovery code was used. -/
def SecondFactor (ext : Externals) (accountId : AccountId) (code : String) (log : Log) : Prop :=
  (∃ account, Saw log (.findAccount accountId.uuid) (some account) ∧
    TotpAccepted ext account code log) ∨ RecoveryAccepted ext accountId code log

/-- What a call may do about recovery codes after its history. -/
def RecoveryGuard (ext : Externals) (call : Call) (log : Log) : ServerRequest → Prop
  | .query .db (.deleteRecoveryCodes _) => False
  | .commit => ∀ accountId request, call = .protectedly accountId (.totpDisable request) →
      SecondFactor ext accountId (trimmed request.code) log
  | .respond response => ∀ request, call = .publicly (.loginMfa request) →
      response.status = .ok → ∃ accountId, SecondFactor ext accountId (trimmed request.code) log
  | _ => True

instance (call : Call) : Lenient (RecoveryGuard ext call) := by
  constructor
  intro log request hquiet
  cases request with
  | commit | respond => cases hquiet
  | query conn statement =>
      cases conn with
      | txn => trivial
      | db =>
          cases statement with
          | deleteRecoveryCodes => cases hquiet
          | _ => trivial
  | _ => trivial

variable {log : Log}

theorem SecondFactor.mono {accountId : AccountId} {code : String} {log' : Log}
    (h : SecondFactor ext accountId code log) (hlog : log <+: log') :
    SecondFactor ext accountId code log' := by
  rcases h with ⟨account, hsaw, stored, secret, time, hstored, hsecret, hnow, hcheck⟩ |
    ⟨time, count, huse, hcount⟩
  · exact .inl ⟨account, hsaw.mono hlog, stored, secret, time, hstored, hsecret,
      hlog.subset hnow, hcheck⟩
  · exact .inr ⟨time, count, hlog.subset huse, hcount⟩

theorem verifyLoaded_obeys {guard : Log → ServerRequest → Prop} [Lenient guard]
    {accountId : AccountId} {account : Account} {code : String}
    (hsaw : Saw log (.findAccount accountId.uuid) (some account))
    (huse : ∀ log' time, guard log'
      (.query .db (.useRecoveryCode accountId.uuid (hashRecoveryCode ext code) time))) :
    Obeys guard (verifyTotpOrRecovery ext accountId account code)
      (fun _ log' => SecondFactor ext accountId code log') log := by
  refine (verifyTotpOrRecovery_obeys huse).grows.mono ?_
  rintro _ log' ⟨htotp | hrecovery, hlog'⟩
  · exact .inl ⟨account, hsaw.mono hlog', htotp⟩
  · exact .inr hrecovery

theorem loginMfa_obeys {guard : Log → ServerRequest → Prop} [Lenient guard]
    {request : AuthMfaLoginRequest}
    (huse : ∀ log' accountId codeHash time,
      guard log' (.query .db (.useRecoveryCode accountId codeHash time)))
    (hinsert : ∀ log' new, guard log' (.query .db (.insertRefreshToken new))) :
    Obeys guard (loginMfa ext request) (fun _ log' =>
      ∃ accountId, SecondFactor ext accountId (trimmed request.code) log') log := by
  refine .ite (fun _ => .bind .throw) fun _ => .bind ?_
  refine (Obeys.of_all validateMfaPending_quiet Lenient.allow).mono ?_
  intro accountId log' _
  refine .bind (loadAccount_obeys fun account => .ite (fun _ => .bind .throw) fun _ => .bind ?_)
  refine (verifyLoaded_obeys (.read unwritten_db) fun _ _ => huse _ _ _ _).mono ?_
  intro _ log'' hshown
  refine (issueAuthResponse_handles hinsert).grows.mono ?_ fun _ _ _ => trivial
  exact fun _ log₃ h => ⟨accountId, hshown.mono h.2⟩

theorem totpDisable_obeys {accountId : AccountId} {request : TotpDisableRequest} :
    Obeys (RecoveryGuard ext (.protectedly accountId (.totpDisable request)))
      (totpDisable ext accountId request) (fun _ _ => True) log := by
  refine .ite (fun _ => .bind .throw) fun _ => .bind (loadAccount_obeys fun account => ?_)
  refine .ite (fun _ => .bind .throw) fun _ => .bind (.liftExcept fun _ _ => .bind ?_)
  refine (verifyLoaded_obeys (.read unwritten_db) fun _ _ => trivial).mono ?_
  intro _ log' hshown
  refine .withTransaction (.bind (.query trivial fun _ => .bind (.updateAccount trivial ?_)))
  refine fun _ _ => .bind (.now fun _ => .bind (.query trivial fun _ => .pure ⟨?_, trivial⟩))
  rintro _ _ ⟨⟩
  exact hshown.mono (by simp)

/-- Recovery codes are only deleted in transactions; a login or a disabling that is
accepted has shown the second factor. -/
theorem recoveryGuard_ensures (call : Call) :
    (call.run ext).Ensures (RecoveryGuard ext call) Prog.heard (fun _ _ => True) [] := by
  have hother (hdelete : .write .db .delete .recoveryCode ∉ call.effects)
      (hlogin : ∀ request, call ≠ .publicly (.loginMfa request))
      (hdisable : ∀ accountId request, call ≠ .protectedly accountId (.totpDisable request)) :
      (call.run ext).Ensures (RecoveryGuard ext call) Prog.heard (fun _ _ => True) [] := by
    refine Obeys.run (.of_all (handle_touches ext call) fun log request htouches => ?_)
      fun _ _ request hcall => (hlogin request hcall).elim
    cases request with
    | commit => exact fun accountId request hcall => (hdisable accountId request hcall).elim
    | respond => exact htouches.elim
    | query conn statement =>
        cases conn with
        | txn => trivial
        | db =>
            cases statement with
            | deleteRecoveryCodes => exact hdelete (htouches _ _ rfl)
            | _ => trivial
    | _ => trivial
  cases call with
  | publicly route =>
      cases route with
      | loginMfa request =>
          refine Handles.run (.bind ?_)
          have hlogin : Obeys (RecoveryGuard ext (.publicly (.loginMfa request)))
              (loginMfa ext request) (fun _ log' =>
                ∃ accountId, SecondFactor ext accountId (trimmed request.code) log') [] :=
            loginMfa_obeys (fun _ _ _ _ => trivial) fun _ _ => trivial
          refine Handles.mono hlogin ?_ ?_
          · rintro response log hshown request' ⟨⟩ -
            exact hshown
          · exact fun error log _ request' _ hok => (error.statusCode_ne_ok hok).elim
      | _ => exact hother (by simp [Call.effects]) (by simp) (by simp)
  | protectedly accountId route =>
      cases route with
      | totpDisable request =>
          refine Obeys.run (.bind (totpDisable_obeys.mono fun _ _ _ => trivial)) ?_
          exact fun log response request' hcall => by cases hcall
      | _ => exact hother (by simp [Call.effects]) (by simp) (by simp)

end Recovery

section Rows

/-- Pairing codes stay as they were issued, and used ones stay used. -/
def PairingKept (tables tables' : Tables) : Prop :=
  ∀ row ∈ tables.pairingCode, ∃ row' ∈ tables'.pairingCode,
    row'.id = row.id ∧ row'.code = row.code ∧ row'.expiresAt = row.expiresAt ∧
      (row.usedAt.isSome = true → row'.usedAt.isSome = true)

theorem PairingKept.refl (tables : Tables) : PairingKept tables tables :=
  fun row hmem => ⟨row, hmem, rfl, rfl, rfl, id⟩

theorem PairingKept.trans {tables₁ tables₂ tables₃ : Tables} (h : PairingKept tables₁ tables₂)
    (h' : PairingKept tables₂ tables₃) : PairingKept tables₁ tables₃ := by
  intro row hmem
  obtain ⟨row', hmem', hid, hcode, hexpires, hused⟩ := h row hmem
  obtain ⟨row'', hmem'', hid', hcode', hexpires', hused'⟩ := h' row' hmem'
  exact ⟨row'', hmem'', hid'.trans hid, hcode'.trans hcode, hexpires'.trans hexpires,
    fun h => hused' (hused h)⟩

theorem run_pairingKept {statement : Statement} {result : statement.Result}
    {tables tables' : Tables} (h : statement.run tables = .ok (result, tables')) :
    PairingKept tables tables' := by
  intro row hmem
  rcases run_pairingCode h with hsame | ⟨new, rfl, -, hrows⟩ | ⟨id, usedAt, rfl, hrows⟩
  · exact ⟨row, hsame ▸ hmem, rfl, rfl, rfl, fun h => h⟩
  · exact ⟨row, by simp [hrows, hmem], rfl, rfl, rfl, fun h => h⟩
  · refine ⟨_, hrows ▸ List.mem_map_of_mem hmem, ?_⟩
    split <;> simp

theorem replay_pairingKept {firm : Statement → Bool} {entries : List schema.Entry}
    {tables tables' : Tables} (h : schema.replay firm entries tables = some tables') :
    PairingKept tables tables' :=
  Schema.replay_induction PairingKept.refl (fun _ _ _ => PairingKept.trans)
    (fun _ _ _ _ _ hrun _ => run_pairingKept hrun) h

/-- An unused row of a code. -/
def Fresh (code : String) (tables : Tables) : Prop :=
  ∃ row ∈ tables.pairingCode, row.code = code ∧ row.usedAt = none

def Spent (code : String) (tables : Tables) : Prop :=
  ∃ row ∈ tables.pairingCode, row.code = code ∧ row.usedAt.isSome = true

theorem Spent.kept {code : String} {tables tables' : Tables} (h : Spent code tables)
    (hkept : PairingKept tables tables') : Spent code tables' := by
  obtain ⟨row, hmem, hcode, hused⟩ := h
  obtain ⟨row', hmem', -, hcode', -, hused'⟩ := hkept row hmem
  exact ⟨row', hmem', hcode'.trans hcode, hused' hused⟩

theorem Spent.not_fresh {code : String} {tables : Tables} (h : Spent code tables)
    (hunique : tables.Unique) : ¬Fresh code tables := by
  rintro ⟨row, hmem, hcode, hfresh⟩
  obtain ⟨row', hmem', hcode', hused⟩ := h
  obtain rfl := List.inj_on_of_nodup_map hunique.code hmem hmem' (hcode.trans hcode'.symm)
  rw [hfresh] at hused
  cases hused

theorem run_usePairingCode {id : Uuid} {usedAt : Timestamp} {count : Nat}
    {tables tables' : Tables}
    (h : (Statement.usePairingCode id usedAt).run tables = .ok (count, tables'))
    (hcount : count ≠ 0) :
    ∃ row ∈ tables.pairingCode, row.id = id ∧ row.usedAt = none ∧
      { row with usedAt := some usedAt } ∈ tables'.pairingCode := by
  obtain ⟨hnumber, rfl⟩ := Prod.mk.inj (Except.ok.inj h)
  obtain ⟨row, hmem, hcond⟩ := List.countP_pos_iff.mp
    (Nat.pos_of_ne_zero (hnumber ▸ hcount : List.countP _ tables.pairingCode ≠ 0))
  have hrow := hcond
  simp only [Bool.and_eq_true, beq_iff_eq, Option.isNone_iff_eq_none] at hrow
  refine ⟨row, hmem, hrow.1, hrow.2, ?_⟩
  refine List.mem_map.mpr ⟨row, hmem, ?_⟩
  rw [if_pos hcond]

theorem replay_redeems {firm : Statement → Bool} (hfirm : ∀ statement : Statement,
      statement.isWrite = true → firm statement = true) {entries : List schema.Entry}
    {id : Uuid} {usedAt : Timestamp} {count : Nat} {tables tables' : Tables}
    (h : schema.replay firm (entries ++ [⟨.usePairingCode id usedAt, count⟩]) tables =
      some tables') (hunique : tables.Unique) (hcount : count ≠ 0) {code : String}
    (hrow : ∃ row ∈ tables.pairingCode, row.id = id ∧ row.code = code) :
    Fresh code tables ∧ Spent code tables' := by
  obtain ⟨before, result, after, hbefore, hrun, hresult, hafter⟩ := Schema.replay_split h
  rw [hresult (hfirm _ rfl)] at hrun
  obtain rfl := Option.some.inj hafter
  obtain ⟨row, hmem, hid, hcode⟩ := hrow
  obtain ⟨row', hmem', hid', hcode', -, hused'⟩ := replay_pairingKept hbefore row hmem
  obtain ⟨unused, hmem'', hid'', hunused, hused⟩ := run_usePairingCode hrun hcount
  obtain rfl := List.inj_on_of_nodup_map (replay_unique hbefore hunique).pairingCodeId hmem' hmem''
    (hid'.trans (hid.trans hid''.symm))
  constructor
  · refine ⟨row, hmem, hcode, ?_⟩
    rw [← Option.not_isSome_iff_eq_none]
    intro hsome
    rw [hunused] at hused'
    cases hused' hsome
  · exact ⟨_, hused, hcode'.trans hcode, rfl⟩

/-- A used row of a recovery code. -/
def CodeSpent (accountId : Uuid) (codeHash : String) (tables : Tables) : Prop :=
  ∃ row ∈ tables.recoveryCode, row.accountId = accountId ∧ row.codeHash = codeHash ∧
    row.usedAt.isSome = true

theorem CodeSpent.run {accountId : Uuid} {codeHash : String} {statement : Statement}
    {result : statement.Result} {tables tables' : Tables} (h : CodeSpent accountId codeHash tables)
    (hrun : statement.run tables = .ok (result, tables'))
    (hdelete : statement ≠ .deleteRecoveryCodes accountId) :
    CodeSpent accountId codeHash tables' := by
  obtain ⟨row, hmem, haccount, hhash, hused⟩ := h
  rcases run_recoveryCode hrun with
    hsame | ⟨new, rfl, -, hrows⟩ | ⟨accountId', rfl, hrows⟩ | ⟨_, _, usedAt, rfl, hrows⟩
  · exact ⟨row, hsame ▸ hmem, haccount, hhash, hused⟩
  · exact ⟨row, by simp [hrows, hmem], haccount, hhash, hused⟩
  · refine ⟨row, ?_, haccount, hhash, hused⟩
    rw [hrows, List.mem_filter]
    refine ⟨hmem, ?_⟩
    rw [haccount, Bool.not_eq_true', beq_eq_false_iff_ne]
    rintro rfl
    exact hdelete rfl
  · refine ⟨_, hrows ▸ List.mem_map_of_mem hmem, ?_⟩
    split
    · exact ⟨haccount, hhash, rfl⟩
    · exact ⟨haccount, hhash, hused⟩

theorem run_useRecoveryCode {accountId : Uuid} {codeHash : String} {usedAt : Timestamp}
    {count : Nat} {tables tables' : Tables}
    (h : (Statement.useRecoveryCode accountId codeHash usedAt).run tables =
      .ok (count, tables')) (hcount : 0 < count) :
    ∃ row ∈ tables.recoveryCode, row.accountId = accountId ∧ row.codeHash = codeHash ∧
      row.usedAt = none ∧ { row with usedAt := some usedAt } ∈ tables'.recoveryCode := by
  obtain ⟨hnumber, rfl⟩ := Prod.mk.inj (Except.ok.inj h)
  obtain ⟨row, hmem, hcond⟩ := List.countP_pos_iff.mp
    (hnumber ▸ hcount : 0 < List.countP _ tables.recoveryCode)
  have hrow := hcond
  simp only [Bool.and_eq_true, beq_iff_eq, Option.isNone_iff_eq_none] at hrow
  refine ⟨row, hmem, hrow.1.1, hrow.1.2, hrow.2, List.mem_map.mpr ⟨row, hmem, ?_⟩⟩
  rw [if_pos hcond]

end Rows

section Runs

variable {τ : Type} [DecidableEq τ] {isolation : Isolation}
  {cond : ServerState τ → ServerLabel τ → Prop}
  {pool pool₁ pool₂ pool' : Pool ServerSig τ (ServerState τ)} {labels : List (ServerLabel τ)}

theorem ServerRun.pairingKept (h : ServerRun ext isolation cond pool labels pool') :
    PairingKept pool.state.database.committed pool'.state.database.committed :=
  ServerRun.every h PairingKept.refl (fun _ _ _ => PairingKept.trans)
    fun _ _ _ _ => run_pairingKept

section Redemptions

variable {task : τ} {request : PairingRedeemRequest}

theorem ServerRun.redeems (h : ServerRun ext isolation cond pool labels pool₁)
    (hidle : Idle pool)
    (hcall : .event ⟨task, .publicly (.redeemPairingCode request)⟩ ∈ labels)
    (hstep : (serverWorld ext isolation).step pool₁ (.call task .commit (.ok ())) = some pool₂) :
    ∃ code, normalizeCode ext request.code = some code ∧ Redeems code (trace task labels) :=
  ServerRun.asked_by h hidle hcall hstep (redeemGuard_ensures request)

theorem ServerRun.redeem_commit (h : ServerRun ext isolation cond pool labels pool₁)
    (hidle : Idle pool) (hunique : pool.state.database.committed.Unique)
    (hcall : .event ⟨task, .publicly (.redeemPairingCode request)⟩ ∈ labels)
    (hstep : (serverWorld ext isolation).step pool₁ (.call task .commit (.ok ())) = some pool₂) :
    ∃ code, normalizeCode ext request.code = some code ∧
      Fresh code pool₁.state.database.committed ∧
      Spent code pool₂.state.database.committed := by
  obtain ⟨code, hcode, record, time, usedAt, count, before, between, htrace, hopen, -, -, hcount⟩ :=
    h.redeems hidle hcall hstep
  refine ⟨code, hcode, ?_⟩
  obtain ⟨entries, hpending, hreplay⟩ := h.commit_replays hidle hstep
  rw [htrace, pendingAfter_append] at hpending
  obtain ⟨entries, -, rfl⟩ := Option.map_eq_some_iff.mp hpending
  refine replay_redeems isolation.firm_write hreplay (h.unique hunique) hcount ?_
  -- the row that was read is still there
  have hread : trace task labels = before ++
      ⟨.query .txn (.findPairingCodeByCode code), .ok (some record)⟩ ::
      (⟨.now, time⟩ :: between ++ [⟨.query .txn (.usePairingCode record.id usedAt), .ok count⟩]) := by
    simp [htrace]
  obtain ⟨earlier, later, pool₀, -, hlater, -, hrun⟩ := h.read_committed hidle hread rfl hopen
  have hfound := (Prod.mk.inj (Except.ok.inj hrun)).1
  obtain ⟨row, hmem, hid, hrow, -⟩ := hlater.pairingKept record (List.mem_of_find?_eq_some hfound)
  exact ⟨row, hmem, hid, hrow.trans (by simpa using List.find?_some hfound)⟩

/-- A redemption that has committed looked at the clock, while it was running, at a time
that was not after the end of its code. -/
theorem ServerRun.redeem_in_time (h : ServerRun ext isolation cond pool labels pool')
    (hidle : Idle pool)
    (hcall : .event ⟨task, .publicly (.redeemPairingCode request)⟩ ∈ labels)
    (hcommitted : Committed (trace task labels)) :
    ∃ code earlier later pool₁, normalizeCode ext request.code = some code ∧
      labels = earlier ++ later ∧
      .event ⟨task, .publicly (.redeemPairingCode request)⟩ ∈ earlier ∧
      ServerRun ext isolation cond pool earlier pool₁ ∧
      ∃ row ∈ pool₁.state.database.committed.pairingCode, row.code = code ∧
        pool₁.state.clock ≤ row.expiresAt := by
  obtain ⟨earlier, later, pool₁, pool₂, rfl, hearlier, hcond, hstep, hlater⟩ :=
    h.commit_step hcommitted
  have hstarted := ServerRun.call_mem_step h hidle hcall
  obtain ⟨code, hcode, record, time, usedAt, count, before, between, htrace, hopen, -, hexpires, -⟩ :=
    hearlier.redeems hidle hstarted hstep
  have hlooked : trace task earlier = (before ++
      [⟨.query .txn (.findPairingCodeByCode code), .ok (some record)⟩]) ++
      ⟨.now, time⟩ :: (between ++ [⟨.query .txn (.usePairingCode record.id usedAt), .ok count⟩]) := by
    simp [htrace]
  obtain ⟨first, second, middle, middle', rfl, hfirst, hmiddle, hcond', hnow, hsecond⟩ :=
    hearlier.split_trace hlooked
  obtain ⟨_, _, pool₀, -, hkept, -, hrun⟩ := ServerRun.read_committed hmiddle hidle hfirst rfl hopen
  have hfound := (Prod.mk.inj (Except.ok.inj hrun)).1
  obtain ⟨row, hmem, -, hrow, hrowExpires, -⟩ :=
    ServerRun.pairingKept hkept record (List.mem_of_find?_eq_some hfound)
  have hstarted' := ServerRun.call_mem_step hearlier hidle hstarted
  refine ⟨code, first ++ [.call task .now time], second ++ .call task .commit (.ok ()) :: later,
    middle', hcode, by simp, by simp [hstarted'], .snoc hmiddle hcond' hnow, ?_⟩
  obtain ⟨-, hstate⟩ := perform_now (perform_of_step hnow)
  rw [hstate]
  refine ⟨row, hmem, hrow.trans (by simpa using List.find?_some hfound), ?_⟩
  exact hexpires.trans (le_of_eq hrowExpires.symm)

theorem ServerRun.redeem_order {task' : τ} {request' : PairingRedeemRequest}
    {labels' : List (ServerLabel τ)}
    (h : ServerRun ext isolation cond pool
      (labels ++ .call task .commit (.ok ()) :: labels') pool₁) (hidle : Idle pool)
    (hunique : pool.state.database.committed.Unique)
    (hcall : .event ⟨task, .publicly (.redeemPairingCode request)⟩ ∈ labels)
    (hcall' : .event ⟨task', .publicly (.redeemPairingCode request')⟩ ∈
      labels ++ .call task .commit (.ok ()) :: labels')
    (hcode : normalizeCode ext request.code = normalizeCode ext request'.code) :
    (serverWorld ext isolation).step pool₁ (.call task' .commit (.ok ())) = none := by
  rw [Option.eq_none_iff_forall_ne_some]
  intro pool₄ hstep'
  obtain ⟨pool₂, pool₃, hfirst, -, hstep, hrest⟩ := World.Run.split_inv h
  obtain ⟨code, hcode₁, -, hspent⟩ := ServerRun.redeem_commit hfirst hidle hunique hcall hstep
  obtain ⟨code', hcode₂, hfresh, -⟩ := h.redeem_commit hidle hunique hcall' hstep'
  obtain rfl := Option.some.inj (hcode₁.symm.trans (hcode.trans hcode₂))
  exact (hspent.kept (ServerRun.pairingKept hrest)).not_fresh (h.unique hunique) hfresh

theorem ServerRun.redeem_once {task' : τ} {request' : PairingRedeemRequest}
    (h : ServerRun ext isolation cond pool labels pool') (hidle : Idle pool)
    (hunique : pool.state.database.committed.Unique)
    (hcall : .event ⟨task, .publicly (.redeemPairingCode request)⟩ ∈ labels)
    (hcall' : .event ⟨task', .publicly (.redeemPairingCode request')⟩ ∈ labels)
    (hcode : normalizeCode ext request.code = normalizeCode ext request'.code)
    (hcommitted : Committed (trace task labels)) (hcommitted' : Committed (trace task' labels)) :
    task = task' := by
  obtain ⟨earlier, later, pool₁, pool₂, rfl, hearlier, -, hstep, -⟩ := h.commit_step hcommitted
  obtain ⟨earlier', later', pool₃, pool₄, hlabels, hearlier', -, hstep', -⟩ :=
    h.commit_step hcommitted'
  have hstarted := ServerRun.call_mem_step h hidle hcall
  rw [hlabels] at h hcall'
  have hstarted' := ServerRun.call_mem_step h hidle hcall'
  refine (Label.call.inj (eq_of_split hlabels ?_ ?_).2.1).1
  · rintro middle rfl
    rw [ServerRun.redeem_order hearlier' hidle hunique hstarted hstarted' hcode] at hstep'
    cases hstep'
  · rintro middle rfl
    rw [ServerRun.redeem_order hearlier hidle hunique hstarted' hstarted hcode.symm] at hstep
    cases hstep

theorem ServerRun.redeem_leaves (h : ServerRun ext isolation cond pool labels pool₁)
    (hidle : Idle pool)
    (hcall : .event ⟨task, .publicly (.redeemPairingCode request)⟩ ∈ labels)
    {request' : ServerRequest} {response : request'.Response}
    (hstep : (serverWorld ext isolation).step pool₁ (.call task request' response) = some pool₂)
    (hne : (⟨request', response⟩ : Exchange ServerSig) ≠ ⟨.commit, .ok ()⟩) :
    pool₂.state.database.committed.device = pool₁.state.database.committed.device ∧
      pool₂.state.database.committed.pairingCode =
        pool₁.state.database.committed.pairingCode := by
  rcases perform_committed (perform_of_step hstep) with
    hsame | ⟨statement, result, hexchange, hrun⟩ | ⟨hexchange, -⟩
  · rw [hsame]
    exact ⟨rfl, rfl⟩
  · have hguard := ServerRun.asked_by h hidle hcall hstep (redeemGuard_ensures request)
    obtain rfl : request' = .query .db statement := congrArg Exchange.request hexchange
    constructor
    · refine run_device_frame hrun fun kind hwrites => ?_
      cases hguard _ _ hwrites
    · refine run_pairingCode_frame hrun fun kind hwrites => ?_
      cases hguard _ _ hwrites
  · exact (hne hexchange).elim

end Redemptions

section Recoveries

variable {accountId : Uuid} {codeHash : String}

/-- The transaction of a task has deleted the recovery codes of an account. -/
def Deletes (accountId : Uuid) (log : Log) : Prop :=
  ∃ count : Nat, ⟨.query .txn (.deleteRecoveryCodes accountId), .ok count⟩ ∈ log

/-- After these labels, a task commits such a transaction. -/
def DeletedBetween (accountId : Uuid) (labels middle : List (ServerLabel τ)) : Prop :=
  ∃ first deleter second, middle = first ++ .call deleter .commit (.ok ()) :: second ∧
    Deletes accountId (trace deleter (labels ++ first))

theorem ServerRun.codeSpent (h : ServerRun ext isolation cond pool labels pool₁)
    (hidle : Idle pool) {labels' : List (ServerLabel τ)}
    (hrest : ServerRun ext isolation cond pool₁ labels' pool₂)
    (hspent : CodeSpent accountId codeHash pool₁.state.database.committed) :
    CodeSpent accountId codeHash pool₂.state.database.committed ∨
      DeletedBetween accountId labels labels' := by
  induction hrest with
  | nil => exact .inl hspent
  | snoc hbefore hcond hstep ih =>
      rename_i middle last labels' label
      rcases ih with ih | ⟨first, deleter, second, rfl, hdeleted⟩
      · cases label with
        | event arrival =>
            rw [state_of_arrival hstep]
            exact .inl ih
        | call task request response =>
            have hreached := World.Run.append h hbefore
            rcases perform_committed (perform_of_step hstep) with
              hsame | ⟨statement, result, hexchange, hrun⟩ | ⟨hexchange, -⟩
            · exact .inl (hsame ▸ ih)
            · refine .inl (ih.run hrun ?_)
              rintro rfl
              obtain rfl : request = .query .db _ := congrArg Exchange.request hexchange
              obtain ⟨call, -, hguard⟩ := ServerRun.asked hreached hidle hstep
              exact hguard _ _ (recoveryGuard_ensures call)
            · obtain ⟨rfl, hresponse⟩ := Exchange.mk.inj hexchange
              obtain rfl := eq_of_heq hresponse
              obtain ⟨entries, hpending, hreplay⟩ := ServerRun.commit_replays hreached hidle hstep
              by_cases hdelete : ∃ entry ∈ entries, entry.statement = .deleteRecoveryCodes accountId
              · obtain ⟨⟨statement, result⟩, hentry, rfl⟩ := hdelete
                obtain ⟨before, after, htrace⟩ := pendingAfter_mem hpending hentry
                exact .inr ⟨labels', task, [], rfl, result, by simp [htrace]⟩
              · refine .inl (Schema.replay_induction
                  (R := fun before after => CodeSpent accountId codeHash before →
                    CodeSpent accountId codeHash after) (fun _ => id)
                  (fun _ _ _ h₁ h₂ h => h₂ (h₁ h)) ?_ hreplay ih)
                intro entry hentry _ _ _ hrun _ hbefore
                exact hbefore.run hrun fun hstatement => hdelete ⟨entry, hentry, hstatement⟩
      · exact .inr ⟨first, deleter, second ++ [label], by simp, hdeleted⟩

theorem ServerRun.recovery_once (h : ServerRun ext isolation cond pool labels pool₁)
    (hidle : Idle pool) (hunique : pool.state.database.committed.Unique)
    {task task' : τ} {time time' : Timestamp} {count count' : Nat}
    {middle : List (ServerLabel τ)} {pool₃ pool₄ : Pool ServerSig τ (ServerState τ)}
    (hcond : cond pool₁.state
      (.call task (.query .db (.useRecoveryCode accountId codeHash time)) (.ok count)))
    (hstep : (serverWorld ext isolation).step pool₁
      (.call task (.query .db (.useRecoveryCode accountId codeHash time)) (.ok count)) =
        some pool₂) (hcount : 0 < count)
    (hmiddle : ServerRun ext isolation cond pool₂ middle pool₃)
    (hstep' : (serverWorld ext isolation).step pool₃
      (.call task' (.query .db (.useRecoveryCode accountId codeHash time')) (.ok count')) =
        some pool₄) (hcount' : 0 < count') :
    DeletedBetween accountId (labels ++
      [.call task (.query .db (.useRecoveryCode accountId codeHash time)) (.ok count)])
        middle := by
  obtain ⟨row, -, haccount, hhash, -, hused⟩ := run_useRecoveryCode (run_of_step hstep) hcount
  have hspent : CodeSpent accountId codeHash pool₂.state.database.committed :=
    ⟨_, hused, haccount, hhash, rfl⟩
  have hafter := World.Run.snoc h hcond hstep
  rcases ServerRun.codeSpent hafter hidle hmiddle hspent with hspent' | hdeleted
  · -- the row of the code is a used one, and the only one
    obtain ⟨row', hmem', -, hhash', hused'⟩ := hspent'
    obtain ⟨row'', hmem'', -, hhash'', hunused, -⟩ :=
      run_useRecoveryCode (run_of_step hstep') hcount'
    have hcodes := (ServerRun.unique (World.Run.append hafter hmiddle) hunique).codeHash
    obtain rfl := List.inj_on_of_nodup_map hcodes hmem' hmem'' (hhash'.trans hhash''.symm)
    rw [hunused] at hused'
    cases hused'
  · exact hdeleted

end Recoveries

/-- A task is a redemption of this code. -/
def Redemption (ext : Externals) (labels : List (ServerLabel τ)) (task : τ) (code : String) :
    Prop :=
  ∃ request, .event ⟨task, .publicly (.redeemPairingCode request)⟩ ∈ labels ∧
    normalizeCode ext request.code = some code

/-- What holds of the one-time credentials in a run.  A redemption is accepted when its
transaction is committed. -/
structure OneTime (ext : Externals) (isolation : Isolation)
    (cond : ServerState τ → ServerLabel τ → Prop) (pool : Pool ServerSig τ (ServerState τ))
    (labels : List (ServerLabel τ)) : Prop where
  redeemed_once : ∀ code task task', Redemption ext labels task code →
    Redemption ext labels task' code → Committed (trace task labels) →
    Committed (trace task' labels) → task = task'
  redeemed_in_time : ∀ code task, Redemption ext labels task code →
    Committed (trace task labels) →
    ∃ earlier later pool₁, labels = earlier ++ later ∧ Redemption ext earlier task code ∧
      ServerRun ext isolation cond pool earlier pool₁ ∧
      ∃ row ∈ pool₁.state.database.committed.pairingCode, row.code = code ∧
        pool₁.state.clock ≤ row.expiresAt
  rejected : ∀ task request, .event ⟨task, .publicly (.redeemPairingCode request)⟩ ∈ labels →
    ¬Committed (trace task labels) → ∀ earlier later request' response pool₁ pool₂,
      labels = earlier ++ .call task request' response :: later →
      ServerRun ext isolation cond pool earlier pool₁ →
      (serverWorld ext isolation).step pool₁ (.call task request' response) = some pool₂ →
      pool₂.state.database.committed.device = pool₁.state.database.committed.device ∧
        pool₂.state.database.committed.pairingCode =
          pool₁.state.database.committed.pairingCode
  /-- After the commit only issuing the tokens can fail. -/
  answered : ∀ task request, .event ⟨task, .publicly (.redeemPairingCode request)⟩ ∈ labels →
    ∀ earlier later response, labels = earlier ++ .call task (.respond response) () :: later →
      (response.status = .ok → Committed (trace task earlier)) ∧
        (Committed (trace task earlier) →
          response.status = .ok ∨ response.status = .internalServerError)
  logged_in : ∀ task request, .event ⟨task, .publicly (.loginMfa request)⟩ ∈ labels →
    ∀ earlier later response, labels = earlier ++ .call task (.respond response) () :: later →
      response.status = .ok →
      ∃ accountId, SecondFactor ext accountId (trimmed request.code) (trace task earlier)
  disabled : ∀ task accountId request,
    .event ⟨task, .protectedly accountId (.totpDisable request)⟩ ∈ labels →
    Committed (trace task labels) →
    SecondFactor ext accountId (trimmed request.code) (trace task labels)
  recovered : ∀ accountId codeHash earlier later task time count pool₁ pool₂,
    labels = earlier ++ .call task
      (.query .db (.useRecoveryCode accountId codeHash time)) (.ok count) :: later → 0 < count →
    ServerRun ext isolation cond pool earlier pool₁ →
    (serverWorld ext isolation).step pool₁ (.call task
      (.query .db (.useRecoveryCode accountId codeHash time)) (.ok count)) = some pool₂ →
    ∃ row ∈ pool₁.state.database.committed.recoveryCode, row.accountId = accountId ∧
      row.codeHash = codeHash ∧ row.usedAt = none ∧
      { row with usedAt := some time } ∈ pool₂.state.database.committed.recoveryCode
  /-- A code works again only when the codes of the account have been deleted since. -/
  recovered_once : ∀ accountId codeHash earlier middle later task task' time time' count count',
    labels = earlier ++ .call task
        (.query .db (.useRecoveryCode accountId codeHash time)) (.ok count) :: middle ++
      .call task' (.query .db (.useRecoveryCode accountId codeHash time')) (.ok count') ::
        later → 0 < count → 0 < count' →
    DeletedBetween accountId (earlier ++ [.call task
      (.query .db (.useRecoveryCode accountId codeHash time)) (.ok count)]) middle

/-- Whatever calls run at the same time, a pairing code is redeemed once, and not after its
end; a redemption that is not accepted leaves the devices and the codes as they are; and a
recovery code is used once, by a request that needs it. -/
theorem one_time (hidle : Idle pool) (hunique : pool.state.database.committed.Unique)
    (h : ServerRun ext isolation cond pool labels pool') :
    OneTime ext isolation cond pool labels where
  redeemed_once := by
    rintro code task task' ⟨request, hcall, hcode⟩ ⟨request', hcall', hcode'⟩ hcommitted hcommitted'
    exact ServerRun.redeem_once h hidle hunique hcall hcall' (hcode.trans hcode'.symm) hcommitted
      hcommitted'
  redeemed_in_time := by
    rintro code task ⟨request, hcall, hcode⟩ hcommitted
    obtain ⟨code', earlier, later, pool₁, hcode', hlabels, hcall', hearlier, hrow⟩ :=
      ServerRun.redeem_in_time h hidle hcall hcommitted
    obtain rfl := Option.some.inj (hcode.symm.trans hcode')
    exact ⟨earlier, later, pool₁, hlabels, ⟨request, hcall', hcode⟩, hearlier, hrow⟩
  rejected := by
    rintro task request hcall hrejected earlier later request' response pool₁ pool₂ rfl hearlier
      hstep
    refine ServerRun.redeem_leaves hearlier hidle (ServerRun.call_mem_step h hidle hcall) hstep ?_
    intro hexchange
    refine hrejected ?_
    simp [Committed, trace, Label.exchange, ← hexchange]
  answered := by
    rintro task request hcall earlier later response rfl
    obtain ⟨pool₁, pool₂, hearlier, -, hstep, -⟩ := World.Run.split_inv h
    exact ServerRun.asked_by hearlier hidle (ServerRun.call_mem_step h hidle hcall) hstep
      (redeemGuard_ensures request)
  logged_in := by
    rintro task request hcall earlier later response rfl hok
    obtain ⟨pool₁, pool₂, hearlier, -, hstep, -⟩ := World.Run.split_inv h
    have hshown := ServerRun.asked_by hearlier hidle (ServerRun.call_mem_step h hidle hcall) hstep
      (recoveryGuard_ensures _)
    exact hshown request rfl hok
  disabled := by
    rintro task accountId request hcall hcommitted
    obtain ⟨earlier, later, pool₁, pool₂, rfl, hearlier, -, hstep, -⟩ := h.commit_step hcommitted
    have hshown := ServerRun.asked_by hearlier hidle (ServerRun.call_mem_step h hidle hcall) hstep
      (recoveryGuard_ensures _)
    exact (hshown _ _ rfl).mono (by simp [trace])
  recovered := by
    rintro accountId codeHash earlier later task time count pool₁ pool₂ - hcount - hstep
    exact run_useRecoveryCode (run_of_step hstep) hcount
  recovered_once := by
    rintro accountId codeHash earlier middle later task task' time time' count count' rfl hcount
      hcount'
    obtain ⟨pool₃, pool₄, hbefore, -, hstep', -⟩ := World.Run.split_inv h
    obtain ⟨pool₁, pool₂, hearlier, hcond, hstep, hmiddle⟩ := World.Run.split_inv hbefore
    exact ServerRun.recovery_once hearlier hidle hunique hcond hstep hcount hmiddle hstep' hcount'

end Runs

/-- Of two devices that redeem one code at the same time only the first is registered. -/
theorem code_redeemed_by_phone :
    ∃ labels pool, ServerRun sampleExternals .readCommitted (fun _ _ => True)
        (idleServer (τ := Nat) .empty 0) labels pool ∧
      pool.state.database.committed.device.map Device.name = ["Phone"] ∧
      pool.finished 2 = true ∧ pool.finished 3 = true ∧
      OneTime sampleExternals .readCommitted (fun _ _ => True) (idleServer .empty 0) labels := by
  let phone : DeviceUpsertRequest :=
    { deviceId := ⟨77⟩, name := "Phone", irohPublicKey := "k1",
      enabledFeatures := [⟨"clipboard"⟩] }
  let script : List (Move Nat (Arrival Nat)) :=
    .event ⟨0, .publicly (.register { email := "a@b.c", password := "hunter22" })⟩ ::
      List.replicate 12 (.tick 0) ++
    .event ⟨1, .protectedly ⟨1⟩ .createPairingCode⟩ :: List.replicate 6 (.tick 1) ++
    .event ⟨2, .publicly (.redeemPairingCode { code := "aaaaaaa3", device := some phone })⟩ ::
    .event ⟨3, .publicly (.redeemPairingCode
      { code := "AAAAAAA3",
        device := some { phone with deviceId := ⟨88⟩, name := "Tablet" } })⟩ ::
    List.replicate 7 (.tick 2) ++ List.replicate 7 (.tick 3) ++ List.replicate 11 (.tick 2) ++
      List.replicate 4 (.tick 3)
  have hsome : ((serverWorld sampleExternals .readCommitted).follow (fun _ _ => True)
      (fun task state => state.oblige .readCommitted task) script (idleServer .empty 0)).any
        (fun result =>
          result.2.state.database.committed.device.map Device.name == ["Phone"] &&
            (result.2.finished 2 && result.2.finished 3)) = true := by
    decide +kernel
  obtain ⟨⟨labels, pool⟩, hfollow, hend⟩ := (Option.any_eq_true _ _).mp hsome
  simp only [Bool.and_eq_true, beq_iff_eq] at hend
  have hrun := World.run_of_follow hfollow
  exact ⟨labels, pool, hrun, hend.1, hend.2.1, hend.2.2,
    one_time (idle_idleServer _ _) Tables.unique_empty hrun⟩

end Failsafe.Server
