import Failsafe.Server.OneTime

/-!
The second factor of an account under calls that race: which calls switch it and change its
secret, and the runs in which it is only switched off by a call that may.
-/

namespace Failsafe.Server

open Failsafe.Core Failsafe.Lib

variable {ext : Externals}

/-- The call has loaded the account before anything else. -/
def Loaded (accountId : AccountId) (account : Account) (log : Log) : Prop :=
  [⟨.query .db (.findAccount accountId.uuid), .ok (some account)⟩] <+: log

/-- The account is shown to be the user's: its password, and its second factor. -/
def Disables (ext : Externals) (accountId : AccountId) (request : TotpDisableRequest) (log : Log) :
    Prop :=
  ∃ account, Loaded accountId account log ∧
    ext.verifyPassword request.password account.passwordHash = true ∧
    SecondFactor ext accountId (trimmed request.code) log

/-- The secret of the account, as the call has loaded it, has accepted the code. -/
def Verifies (ext : Externals) (accountId : AccountId) (account : Account)
    (request : TotpEnableRequest) (log : Log) : Prop :=
  Loaded accountId account log ∧ TotpAccepted ext account request.code log

/-- The columns of an account that a call sets. -/
inductive AccountUpdate : Call → Log → Conn → Uuid → Account.ActiveModel → Prop
  | password {accountId : AccountId} {request : ChangePasswordRequest} {log : Log} {id : Uuid}
      {passwordHash : String} :
      AccountUpdate (.protectedly accountId (.changePassword request)) log .txn id
        { Account.ActiveModel.unchanged with passwordHash := some passwordHash }
  | setup {accountId : AccountId} {log : Log} {account : Account} {encrypted : String} :
      Loaded accountId account log →
      AccountUpdate (.protectedly accountId .totpSetup) log .db account.id
        { Account.ActiveModel.unchanged with
          totpSecret := some (some encrypted), totpEnabled := some false }
  | enable {accountId : AccountId} {request : TotpEnableRequest} {log : Log} {account : Account} :
      Loaded accountId account log →
      AccountUpdate (.protectedly accountId (.totpEnable request)) log .txn account.id
        { Account.ActiveModel.unchanged with totpEnabled := some true }
  | disable {accountId : AccountId} {request : TotpDisableRequest} {log : Log}
      {account : Account} : Loaded accountId account log →
      AccountUpdate (.protectedly accountId (.totpDisable request)) log .txn account.id
        { Account.ActiveModel.unchanged with
          totpSecret := some none, totpEnabled := some false }

/-- What a call may do to accounts after its history. -/
def AccountGuard (ext : Externals) (call : Call) (log : Log) : ServerRequest → Prop
  | .query .db (.insertAccount new) => new.totpEnabled = false
  | .query .txn (.insertAccount _) => False
  | .query conn (.updateAccount id active) => AccountUpdate call log conn id active
  | .commit =>
      (∀ accountId request, call = .protectedly accountId (.totpEnable request) →
        ∃ account, Verifies ext accountId account request log) ∧
      ∀ accountId request, call = .protectedly accountId (.totpDisable request) →
        Disables ext accountId request log
  | _ => True

instance (call : Call) : Lenient (AccountGuard ext call) := by
  constructor
  intro log request hquiet
  cases request with
  | commit => cases hquiet
  | query conn statement =>
      cases statement with
      | insertAccount | updateAccount => cases hquiet
      | _ => cases conn <;> trivial
  | _ => trivial

section Logs

variable {accountId : AccountId} {account : Account} {log log' : Log}

theorem Loaded.mono (h : Loaded accountId account log) (hlog : log <+: log') :
    Loaded accountId account log' :=
  h.trans hlog

theorem Loaded.first :
    Loaded accountId account [⟨.query .db (.findAccount accountId.uuid), .ok (some account)⟩] :=
  List.prefix_rfl

theorem Loaded.saw (h : Loaded accountId account log) :
    Saw log (.findAccount accountId.uuid) (some account) := by
  obtain ⟨rest, rfl⟩ := h
  exact ⟨.db, [], rest, rfl, unwritten_db⟩

theorem Loaded.unique {account' : Account} (h : Loaded accountId account log)
    (h' : Loaded accountId account' log) : account = account' := by
  obtain ⟨rest, rfl⟩ := h
  obtain ⟨rest', hrest⟩ := h'
  simp only [List.cons_append, List.nil_append, List.cons.injEq, Exchange.mk.injEq, heq_eq_eq,
    Except.ok.injEq, Option.some.injEq, true_and] at hrest
  exact hrest.1.symm

end Logs

section Guards

theorem accountGuard_of_touches {call : Call} {effects : List Effect} {log : Log}
    {request : ServerRequest} (h : Touches effects request)
    (heffects : ∀ conn, .write conn .insert .account ∉ effects ∧
      .write conn .update .account ∉ effects)
    (hcommit : .commit ∈ effects →
      (∀ accountId request, call ≠ .protectedly accountId (.totpEnable request)) ∧
      ∀ accountId request, call ≠ .protectedly accountId (.totpDisable request)) :
    AccountGuard ext call log request := by
  cases request with
  | commit =>
      obtain ⟨henable, hdisable⟩ := hcommit h
      exact ⟨fun _ _ hcall => (henable _ _ hcall).elim, fun _ _ hcall => (hdisable _ _ hcall).elim⟩
  | query conn statement =>
      cases statement with
      | insertAccount => exact ((heffects conn).1 (h _ _ rfl)).elim
      | updateAccount => exact ((heffects conn).2 (h _ _ rfl)).elim
      | _ => cases conn <;> trivial
  | _ => trivial

theorem register_account {request : AuthRegisterRequest} {log : Log} :
    Obeys (AccountGuard ext (.publicly (.register request))) (register ext request)
      (fun _ _ => True) log := by
  refine .ite (fun _ => .bind .throw) fun _ => .bind (.ite (fun _ => .throw) fun _ => ?_)
  refine .bind (.read rfl fun existing => .ite (fun _ => .bind .throw) fun _ => ?_)
  refine .bind (.newUuid fun id => .bind (.now fun time => .bind (.askTry ⟨trivial, ?_⟩)))
  rintro passwordHash _ rfl
  cases passwordHash with
  | error message => trivial
  | ok passwordHash =>
      refine .bind (.insertAccount rfl fun _ => ?_)
      exact (issueAuthResponse_handles fun _ _ => trivial).mono (fun _ _ _ => trivial)
        fun _ _ _ => trivial

theorem changePassword_account {accountId : AccountId} {request : ChangePasswordRequest}
    {log : Log} :
    Obeys (AccountGuard ext (.protectedly accountId (.changePassword request)))
      (changePassword ext accountId request) (fun _ _ => True) log := by
  refine .ite (fun _ => .bind .throw) fun _ => .bind (.ite (fun _ => .throw) fun _ => ?_)
  refine .bind (loadAccount_obeys fun account => .bind (.liftExcept fun _ _ => .bind ?_))
  refine .askTry ⟨trivial, ?_⟩
  rintro passwordHash _ rfl
  cases passwordHash with
  | error message => trivial
  | ok passwordHash =>
      refine .withTransaction (.bind (.updateAccount .password fun _ _ => .bind ?_))
      exact .now fun _ => .bind (.query trivial fun _ => .pure ⟨⟨by simp, by simp⟩, trivial⟩)

theorem totpSetup_account {accountId : AccountId} :
    Obeys (AccountGuard ext (.protectedly accountId .totpSetup)) (totpSetup ext accountId)
      (fun _ _ => True) [] := by
  refine .bind (loadAccount_obeys fun account => .ite (fun _ => .bind .throw) fun _ => .bind ?_)
  refine .ask trivial fun secret => .bind (.askTry ⟨trivial, ?_⟩)
  rintro encrypted _ rfl
  cases encrypted with
  | error message => trivial
  | ok encrypted =>
      refine .bind (.liftExcept fun uri _ => .bind (.updateAccount (.setup ?_) fun _ _ => trivial))
      exact Loaded.first.mono (by simp)

theorem totpEnable_account {accountId : AccountId} {request : TotpEnableRequest} :
    Obeys (AccountGuard ext (.protectedly accountId (.totpEnable request)))
      (totpEnable ext accountId request) (fun _ _ => True) [] := by
  refine .ite (fun _ => .bind .throw) fun _ => .bind (loadAccount_obeys fun account => ?_)
  refine .ite (fun _ => .bind .throw) fun _ => ?_
  split
  · exact .throw
  rename_i stored hstored
  refine .bind (.liftExcept fun secret hsecret => .bind (verifyTotp_obeys fun time hcheck => ?_))
  refine .bind (.ask trivial fun recoveryCodes => .bind (.now fun time' => .bind ?_))
  refine .withTransaction (.bind (.query trivial fun count => .bind ?_))
  have htouches : (insertRecoveryCodes ext accountId time' recoveryCodes).run.All
      (Touches [.write .txn .insert .recoveryCode]) := insertRecoveryCodes_touches (by simp)
  refine (Obeys.of_all htouches fun _ _ h => accountGuard_of_touches h (by simp)
    (by simp)).grows.mono ?_
  rintro _ log' ⟨-, hlog⟩
  have hloaded : Loaded accountId account log' := Loaded.first.mono (.trans (by simp) hlog)
  have hnow : ⟨.now, time⟩ ∈ log' := hlog.subset (by simp)
  refine .bind (.updateAccount (.enable hloaded) fun _ _ => .pure ⟨⟨?_, by simp⟩, trivial⟩)
  rintro _ _ ⟨⟩
  exact ⟨account, hloaded.mono (by simp), stored, secret, time, hstored, hsecret, by simp [hnow],
    hcheck⟩

theorem totpDisable_account {accountId : AccountId} {request : TotpDisableRequest} :
    Obeys (AccountGuard ext (.protectedly accountId (.totpDisable request)))
      (totpDisable ext accountId request) (fun _ _ => True) [] := by
  refine .ite (fun _ => .bind .throw) fun _ => .bind (loadAccount_obeys fun account => ?_)
  refine .ite (fun _ => .bind .throw) fun _ => .bind (.liftExcept fun _ hpassword => .bind ?_)
  refine (verifyLoaded_obeys Loaded.first.saw fun _ _ => trivial).grows.mono ?_
  rintro _ log' ⟨hshown, hlog⟩
  have hloaded : Loaded accountId account log' := Loaded.first.mono hlog
  refine .withTransaction (.bind (.query trivial fun _ => .bind (.updateAccount (.disable ?_) ?_)))
  · exact hloaded.mono (by simp)
  refine fun _ _ => .bind (.now fun _ => .bind (.query trivial fun _ => .pure ⟨⟨by simp, ?_⟩, ?_⟩))
  · rintro _ _ ⟨⟩
    refine ⟨account, hloaded.mono (by simp), ?_, hshown.mono (by simp)⟩
    unfold verifyPassword at hpassword
    split at hpassword
    · assumption
    · cases hpassword
  · trivial

theorem accountGuard_ensures (call : Call) :
    (call.run ext).Ensures (AccountGuard ext call) Prog.heard (fun _ _ => True) [] := by
  have hother (heffects : ∀ conn, .write conn .insert .account ∉ call.effects ∧
      .write conn .update .account ∉ call.effects) (hcommit : .commit ∈ call.effects →
        (∀ accountId request, call ≠ .protectedly accountId (.totpEnable request)) ∧
        ∀ accountId request, call ≠ .protectedly accountId (.totpDisable request)) :
      (call.run ext).Ensures (AccountGuard ext call) Prog.heard (fun _ _ => True) [] := by
    refine Obeys.run (.of_all (handle_touches ext call) fun log request htouches => ?_)
      fun _ _ => trivial
    exact accountGuard_of_touches htouches heffects hcommit
  cases call with
  | publicly route =>
      cases route with
      | register =>
          refine Obeys.run (.bind (register_account.mono fun _ _ _ => .pure trivial)) ?_
          exact fun _ _ => trivial
      | _ => exact hother (by simp [Call.effects]) (by simp)
  | protectedly accountId route =>
      cases route with
      | changePassword =>
          refine Obeys.run (.bind (changePassword_account.mono fun _ _ _ => .pure trivial)) ?_
          exact fun _ _ => trivial
      | totpSetup =>
          refine Obeys.run (.bind (totpSetup_account.mono fun _ _ _ => .pure trivial)) ?_
          exact fun _ _ => trivial
      | totpEnable =>
          refine Obeys.run (.bind (totpEnable_account.mono fun _ _ _ => .pure trivial)) ?_
          exact fun _ _ => trivial
      | totpDisable =>
          refine Obeys.run (.bind (totpDisable_account.mono fun _ _ _ => .pure trivial)) ?_
          exact fun _ _ => trivial
      | _ => exact hother (by simp [Call.effects]) (by simp [Call.effects])

end Guards

section Rows

variable {id : Uuid} {statement : Statement} {result : statement.Result}
  {tables tables' : Tables}

theorem run_account_from (h : statement.run tables = .ok (result, tables')) {row' : Account}
    (hmem : row' ∈ tables'.account) :
    row' ∈ tables.account ∨ statement = .insertAccount row' ∨
      ∃ active, statement = .updateAccount row'.id active ∧
        ∃ row ∈ tables.account, row.id = row'.id ∧ row' = active.apply row := by
  rcases run_account h with hsame | ⟨new, rfl, -, hrows⟩ | ⟨id, active, rfl, hrows⟩
  · exact .inl (hsame ▸ hmem)
  · rw [hrows] at hmem
    rcases List.mem_append.mp hmem with hold | hnew
    · exact .inl hold
    · obtain rfl := List.mem_singleton.mp hnew
      exact .inr (.inl rfl)
  · rw [hrows] at hmem
    obtain ⟨row, hrow, rfl⟩ := List.mem_map.mp hmem
    split
    · rename_i hid
      subst hid
      exact .inr (.inr ⟨active, rfl, row, hrow, rfl, rfl⟩)
    · exact .inl hrow

theorem run_account_to (h : statement.run tables = .ok (result, tables')) {row : Account}
    (hmem : row ∈ tables.account) :
    row ∈ tables'.account ∨ ∃ active, statement = .updateAccount row.id active ∧
      active.apply row ∈ tables'.account := by
  rcases run_account h with hsame | ⟨new, rfl, -, hrows⟩ | ⟨id, active, rfl, hrows⟩
  · exact .inl (hsame ▸ hmem)
  · exact .inl (by simp [hrows, hmem])
  · by_cases hid : row.id = id
    · subst hid
      refine .inr ⟨active, rfl, ?_⟩
      rw [hrows]
      exact List.mem_map.mpr ⟨row, hmem, if_pos rfl⟩
    · refine .inl ?_
      rw [hrows]
      exact List.mem_map.mpr ⟨row, hmem, if_neg hid⟩

/-- The account has the second factor switched on. -/
def On (id : Uuid) (tables : Tables) : Prop :=
  ∃ row ∈ tables.account, row.id = id ∧ row.totpEnabled = true

/-- A row that has it switched on had it before, with the same secret. -/
def OldKey (id : Uuid) (tables tables' : Tables) : Prop :=
  ∀ row' ∈ tables'.account, row'.id = id → row'.totpEnabled = true →
    ∃ row ∈ tables.account, row.id = id ∧ row.totpEnabled = true ∧
      row.totpSecret = row'.totpSecret

/-- No secret is changed. -/
def SameKey (id : Uuid) (tables tables' : Tables) : Prop :=
  ∀ row' ∈ tables'.account, row'.id = id →
    ∃ row ∈ tables.account, row.id = id ∧ row.totpSecret = row'.totpSecret

theorem OldKey.refl (id : Uuid) (tables : Tables) : OldKey id tables tables :=
  fun row hmem hid hon => ⟨row, hmem, hid, hon, rfl⟩

theorem OldKey.trans {tables₁ tables₂ tables₃ : Tables} (h : OldKey id tables₁ tables₂)
    (h' : OldKey id tables₂ tables₃) : OldKey id tables₁ tables₃ := by
  intro row'' hmem'' hid'' hon''
  obtain ⟨row', hmem', hid', hon', hkey'⟩ := h' row'' hmem'' hid'' hon''
  obtain ⟨row, hmem, hid, hon, hkey⟩ := h row' hmem' hid' hon'
  exact ⟨row, hmem, hid, hon, hkey.trans hkey'⟩

theorem SameKey.refl (id : Uuid) (tables : Tables) : SameKey id tables tables :=
  fun row hmem hid => ⟨row, hmem, hid, rfl⟩

theorem SameKey.trans {tables₁ tables₂ tables₃ : Tables} (h : SameKey id tables₁ tables₂)
    (h' : SameKey id tables₂ tables₃) : SameKey id tables₁ tables₃ := by
  intro row'' hmem'' hid''
  obtain ⟨row', hmem', hid', hkey'⟩ := h' row'' hmem'' hid''
  obtain ⟨row, hmem, hid, hkey⟩ := h row' hmem' hid'
  exact ⟨row, hmem, hid, hkey.trans hkey'⟩

variable {call : Call} {log : Log} {conn : Conn}

theorem run_oldKey (hguard : AccountGuard ext call log (.query conn statement))
    (h : statement.run tables = .ok (result, tables'))
    (hother : ∀ accountId request account, call = .protectedly accountId (.totpEnable request) →
      Loaded accountId account log → conn = .txn → account.id ≠ id) : OldKey id tables tables' := by
  intro row' hmem' hid hon
  rcases run_account_from h hmem' with hold | rfl | ⟨active, rfl, row, hmem, hrow, happly⟩
  · exact ⟨row', hold, hid, hon, rfl⟩
  · cases conn with
    | db => exact (Bool.false_ne_true (hguard.symm.trans hon)).elim
    | txn => exact hguard.elim
  · have hupdate : AccountUpdate call log conn row'.id active := by cases conn <;> exact hguard
    generalize row'.id = id' at hupdate hid hrow
    cases hupdate with
    | password =>
        subst happly
        exact ⟨row, hmem, hrow.trans hid, hon, rfl⟩
    | setup | disable =>
        subst happly
        cases hon
    | enable hloaded => exact (hother _ _ _ rfl hloaded rfl hid).elim

theorem run_sameKey {accountId : AccountId} {request : TotpEnableRequest}
    (hguard : AccountGuard ext (.protectedly accountId (.totpEnable request)) log
      (.query .txn statement)) (h : statement.run tables = .ok (result, tables')) :
    SameKey id tables tables' := by
  intro row' hmem' hid
  rcases run_account_from h hmem' with hold | rfl | ⟨active, rfl, row, hmem, hrow, happly⟩
  · exact ⟨row', hold, hid, rfl⟩
  · exact hguard.elim
  · have hupdate : AccountUpdate (.protectedly accountId (.totpEnable request)) log .txn row'.id
      active := hguard
    generalize row'.id = id' at hupdate hid hrow
    cases hupdate with
    | enable =>
        subst happly
        exact ⟨row, hmem, hrow.trans hid, rfl⟩

theorem run_on (hguard : AccountGuard ext call log (.query conn statement))
    (h : statement.run tables = .ok (result, tables'))
    (hsetup : ∀ accountId account active, call = .protectedly accountId .totpSetup →
      Loaded accountId account log → conn = .db → statement = .updateAccount id active →
      account.id ≠ id)
    (hdisable : ∀ accountId request account,
      call = .protectedly accountId (.totpDisable request) → Loaded accountId account log →
      conn = .txn → account.id ≠ id) (hon : On id tables) : On id tables' := by
  obtain ⟨row, hmem, hid, hon⟩ := hon
  rcases run_account_to h hmem with hold | ⟨active, rfl, hmem'⟩
  · exact ⟨row, hold, hid, hon⟩
  · have hupdate : AccountUpdate call log conn row.id active := by cases conn <;> exact hguard
    have hid' : (active.apply row).id = id := hid
    refine ⟨_, hmem', hid', ?_⟩
    rw [hid] at hupdate hsetup
    cases hupdate with
    | password => exact hon
    | setup hloaded => exact (hsetup _ _ _ rfl hloaded rfl rfl rfl).elim
    | enable => rfl
    | disable hloaded => exact (hdisable _ _ _ rfl hloaded rfl rfl).elim

end Rows

section Runs

variable {τ : Type} [DecidableEq τ] {isolation : Isolation}
  {cond : ServerState τ → ServerLabel τ → Prop}
  {pool pool₁ pool₂ pool' : Pool ServerSig τ (ServerState τ)}
  {labels : List (ServerLabel τ)} {accountId : AccountId}

/-- Among the steps `later` of a run of `labels`, the account is switched on. -/
def SwitchesOn (accountId : AccountId) (labels later : List (ServerLabel τ)) : Prop :=
  ∃ task request, .call task .commit (.ok ()) ∈ later ∧
    .event ⟨task, .protectedly accountId (.totpEnable request)⟩ ∈ labels

/-- Calls for the account do not overtake each other: a set-up writes while it is still
switched off, and it is switched on while its secret is the one that was loaded. -/
structure Unraced (ext : Externals) (isolation : Isolation)
    (cond : ServerState τ → ServerLabel τ → Prop) (pool : Pool ServerSig τ (ServerState τ))
    (accountId : AccountId) (labels : List (ServerLabel τ)) : Prop where
  setup : ∀ earlier later task active count pool₁,
    labels = earlier ++
      .call task (.query .db (.updateAccount accountId.uuid active)) (.ok count) :: later →
    .event ⟨task, .protectedly accountId .totpSetup⟩ ∈ earlier →
    ServerRun ext isolation cond pool earlier pool₁ →
    ¬On accountId.uuid pool₁.state.database.committed
  enable : ∀ earlier later task request account pool₁,
    labels = earlier ++ .call task .commit (.ok ()) :: later →
    .event ⟨task, .protectedly accountId (.totpEnable request)⟩ ∈ earlier →
    ServerRun ext isolation cond pool earlier pool₁ →
    Loaded accountId account (trace task earlier) →
    ∀ row ∈ pool₁.state.database.committed.account, row.id = accountId.uuid →
      row.totpSecret = account.totpSecret

/-- The secret has been stored since the run began with it, or the call that switched the
account on last has verified its code with it. -/
def Keyed (ext : Externals) (start : Tables) (accountId : AccountId) (totpSecret : Option String)
    (labels : List (ServerLabel τ)) : Prop :=
  ((∃ row ∈ start.account, row.id = accountId.uuid ∧ row.totpEnabled = true ∧
      row.totpSecret = totpSecret) ∧ ¬SwitchesOn accountId labels labels) ∨
    ∃ earlier later task request account,
      labels = earlier ++ .call task .commit (.ok ()) :: later ∧
      .event ⟨task, .protectedly accountId (.totpEnable request)⟩ ∈ earlier ∧
      Verifies ext accountId account request (trace task earlier) ∧
      account.totpSecret = totpSecret ∧ ¬SwitchesOn accountId labels later

/-- What holds of the second factor of an account in every state of a run. -/
structure TotpKept (ext : Externals) (isolation : Isolation)
    (cond : ServerState τ → ServerLabel τ → Prop) (pool : Pool ServerSig τ (ServerState τ))
    (accountId : AccountId) (labels : List (ServerLabel τ)) : Prop where
  switched_off : ∀ earlier later task (request : ServerRequest) response pool₁ pool₂,
    labels = earlier ++ .call task request response :: later →
    ServerRun ext isolation cond pool earlier pool₁ →
    (serverWorld ext isolation).step pool₁ (.call task request response) = some pool₂ →
    On accountId.uuid pool₁.state.database.committed →
    ¬On accountId.uuid pool₂.state.database.committed →
    (⟨request, response⟩ : Exchange ServerSig) = ⟨.commit, .ok ()⟩ ∧
      ∃ request', .event ⟨task, .protectedly accountId (.totpDisable request')⟩ ∈ earlier ∧
        Disables ext accountId request' (trace task earlier)
  keyed : ∀ earlier later pool₁, labels = earlier ++ later →
    ServerRun ext isolation cond pool earlier pool₁ →
    ∀ row ∈ pool₁.state.database.committed.account, row.id = accountId.uuid →
      row.totpEnabled = true →
      Keyed ext pool.state.database.committed accountId row.totpSecret earlier

theorem Unraced.prefix {earlier later : List (ServerLabel τ)}
    (h : Unraced ext isolation cond pool accountId (earlier ++ later)) :
    Unraced ext isolation cond pool accountId earlier where
  setup := by
    rintro first second task active count pool₁ rfl
    exact h.setup first (second ++ later) task active count pool₁ (by simp)
  enable := by
    rintro first second task request account pool₁ rfl
    exact h.enable first (second ++ later) task request account pool₁ (by simp)

theorem ServerRun.loaded_id (h : ServerRun ext isolation cond pool labels pool₁)
    (hidle : Idle pool) {task : τ} {account : Account}
    (hloaded : Loaded accountId account (trace task labels)) : account.id = accountId.uuid := by
  obtain ⟨_, _, pool₂, -, -, hrun⟩ := ServerRun.saw h hidle hloaded.saw rfl
  have hfound := (Prod.mk.inj (Except.ok.inj hrun)).1
  simpa using List.find?_some hfound

section Step

variable {task : τ} {request : ServerRequest} {response : request.Response}

theorem ServerRun.oldKey (h : ServerRun ext isolation cond pool labels pool₁) (hidle : Idle pool)
    (hstep : (serverWorld ext isolation).step pool₁ (.call task request response) = some pool₂)
    (hother : ¬SwitchesOn accountId labels [.call task request response]) :
    OldKey accountId.uuid pool₁.state.database.committed pool₂.state.database.committed := by
  refine ServerRun.changes h hidle hstep (OldKey.refl _) (fun _ _ _ => OldKey.trans) ?_
  intro call log conn statement result tables tables' hexchange hcall hlog hguard _ hrun
  have haccount := hguard _ _ (accountGuard_ensures call)
  refine run_oldKey haccount hrun ?_
  rintro accountId' request' account rfl hloaded rfl hid
  -- an enabling only writes to the account that it was called for
  have hid' := ServerRun.loaded_id h hidle (hloaded.mono hlog)
  obtain rfl : accountId' = accountId := congrArg AccountId.mk (hid'.symm.trans hid)
  obtain ⟨rfl, hresponse⟩ := Exchange.mk.inj hexchange
  obtain rfl := eq_of_heq hresponse
  exact hother ⟨task, request', List.mem_singleton_self _, hcall⟩

theorem ServerRun.sameKey (h : ServerRun ext isolation cond pool labels pool₁) (hidle : Idle pool)
    {request : TotpEnableRequest}
    (hcall : .event ⟨task, .protectedly accountId (.totpEnable request)⟩ ∈ labels)
    (hstep : (serverWorld ext isolation).step pool₁ (.call task .commit (.ok ())) = some pool₂) :
    SameKey accountId.uuid pool₁.state.database.committed pool₂.state.database.committed := by
  refine ServerRun.changes h hidle hstep (SameKey.refl _) (fun _ _ _ => SameKey.trans) ?_
  intro call log conn statement result tables tables' hexchange hcall' _ hguard _ hrun
  obtain rfl := ServerRun.call_unique h hcall hcall'
  cases conn with
  | db => cases hexchange
  | txn => exact run_sameKey (hguard _ _ (accountGuard_ensures _)) hrun

theorem ServerRun.switched_off (h : ServerRun ext isolation cond pool labels pool₁)
    (hidle : Idle pool)
    (hstep : (serverWorld ext isolation).step pool₁ (.call task request response) = some pool₂)
    (hon : On accountId.uuid pool₁.state.database.committed)
    (hoff : ¬On accountId.uuid pool₂.state.database.committed) :
    (∃ active count, (⟨request, response⟩ : Exchange ServerSig) =
        ⟨.query .db (.updateAccount accountId.uuid active), .ok count⟩ ∧
      .event ⟨task, .protectedly accountId .totpSetup⟩ ∈ labels) ∨
    ((⟨request, response⟩ : Exchange ServerSig) = ⟨.commit, .ok ()⟩ ∧
      ∃ request', .event ⟨task, .protectedly accountId (.totpDisable request')⟩ ∈ labels ∧
        Disables ext accountId request' (trace task labels)) := by
  by_contra hneither
  refine hoff (ServerRun.changes h hidle hstep
    (R := fun tables tables' => On accountId.uuid tables → On accountId.uuid tables')
    (fun _ => id) (fun _ _ _ h₁ h₂ h => h₂ (h₁ h)) ?_ hon)
  intro call log conn statement result tables tables' hexchange hcall hlog hguard _ hrun
  have hown {accountId' : AccountId} {account : Account}
      (hloaded : Loaded accountId' account log) (hid : account.id = accountId.uuid) :
      accountId' = accountId := by
    have hid' := ServerRun.loaded_id h hidle (hloaded.mono hlog)
    exact congrArg AccountId.mk (hid'.symm.trans hid)
  refine run_on (hguard _ _ (accountGuard_ensures call)) hrun ?_ ?_
  · rintro accountId' account active rfl hloaded rfl rfl hid
    obtain rfl := hown hloaded hid
    exact hneither (.inl ⟨active, result, hexchange, hcall⟩)
  · rintro accountId' request' account rfl hloaded rfl hid
    obtain rfl := hown hloaded hid
    obtain ⟨rfl, hresponse⟩ := Exchange.mk.inj hexchange
    have hcommit := ServerRun.asked_by h hidle hcall hstep (accountGuard_ensures _)
    exact hneither (.inr ⟨hexchange, request', hcall, hcommit.2 _ _ rfl⟩)

end Step

theorem ServerRun.not_switchesOn {label : ServerLabel τ} {later : List (ServerLabel τ)}
    (h : ServerRun ext isolation cond pool (labels ++ [label]) pool') (hidle : Idle pool)
    (hlater : ∀ label ∈ later, label ∈ labels) (hnone : ¬SwitchesOn accountId labels later)
    (hlabel : ¬SwitchesOn accountId (labels ++ [label]) [label]) :
    ¬SwitchesOn accountId (labels ++ [label]) (later ++ [label]) := by
  rintro ⟨task, request, hcommit, hcall⟩
  rcases List.mem_append.mp hcommit with hold | hnew
  · obtain ⟨first, second, rfl⟩ := List.append_of_mem (hlater _ hold)
    rw [List.append_assoc, List.cons_append] at h hcall
    have hstarted := ServerRun.call_mem_step h hidle hcall
    exact hnone ⟨task, request, hold, List.mem_append_left _ hstarted⟩
  · exact hlabel ⟨task, request, hnew, hcall⟩

theorem ServerRun.keyed (h : ServerRun ext isolation cond pool labels pool') (hidle : Idle pool)
    (hunraced : Unraced ext isolation cond pool accountId labels) :
    ∀ row ∈ pool'.state.database.committed.account, row.id = accountId.uuid →
      row.totpEnabled = true →
      Keyed ext pool.state.database.committed accountId row.totpSecret labels := by
  induction h with
  | nil =>
      refine fun row hmem hid hon => .inl ⟨⟨row, hmem, hid, hon, rfl⟩, ?_⟩
      rintro ⟨_, _, hcommit, -⟩
      cases hcommit
  | snoc hbefore hcond hstep ih =>
      rename_i middle last labels label
      have hkeyed := ih hunraced.prefix
      have hrun := World.Run.snoc hbefore hcond hstep
      intro row' hmem' hid' hon'
      by_cases hlabel : SwitchesOn accountId (labels ++ [label]) [label]
      · -- the call that is committed now has verified its code with the secret
        obtain ⟨task, request, hcommit, hcall⟩ := hlabel
        obtain rfl := List.mem_singleton.mp hcommit
        have hstarted : .event ⟨task, .protectedly accountId (.totpEnable request)⟩ ∈ labels := by
          simpa using hcall
        obtain ⟨account, hverifies⟩ := (ServerRun.asked_by hbefore hidle hstarted hstep
          (accountGuard_ensures _)).1 _ _ rfl
        obtain ⟨row, hmem, hid, hkey⟩ := ServerRun.sameKey hbefore hidle hstarted hstep row' hmem' hid'
        refine .inr ⟨labels, [], task, request, account, rfl, hstarted, hverifies, ?_, ?_⟩
        · rw [← hkey]
          exact (hunraced.enable labels [] task request account middle rfl hstarted hbefore
            hverifies.1 row hmem hid).symm
        · rintro ⟨_, _, hcommit', -⟩
          cases hcommit'
      · have hold : OldKey accountId.uuid middle.state.database.committed
            last.state.database.committed := by
          cases label with
          | event arrival =>
              rw [state_of_arrival hstep]
              exact .refl _ _
          | call task request response =>
              refine ServerRun.oldKey hbefore hidle hstep fun hswitches => hlabel ?_
              obtain ⟨task', request', hcommit, hcall⟩ := hswitches
              exact ⟨task', request', hcommit, List.mem_append_left _ hcall⟩
        obtain ⟨row, hmem, hid, hon, hkey⟩ := hold row' hmem' hid' hon'
        rw [← hkey]
        rcases hkeyed row hmem hid hon with ⟨hstart, hnone⟩ |
          ⟨earlier, later, task, request, account, rfl, hstarted, hverifies, hsecret, hnone⟩
        · exact .inl ⟨hstart, ServerRun.not_switchesOn hrun hidle (fun _ => id) hnone hlabel⟩
        · refine .inr ⟨earlier, later ++ [label], task, request, account, by simp, hstarted,
            hverifies, hsecret, ?_⟩
          exact ServerRun.not_switchesOn hrun hidle (by simp +contextual) hnone hlabel

/-- In a run in which no set-up writes to an account that has been switched on meanwhile, and
none is switched on with a secret that has been replaced meanwhile, the second factor is only
switched off by who shows it, and its secret is the one that was verified. -/
theorem totp_kept (h : ServerRun ext isolation cond pool labels pool') (hidle : Idle pool)
    (hunraced : Unraced ext isolation cond pool accountId labels) :
    TotpKept ext isolation cond pool accountId labels where
  switched_off := by
    rintro earlier later task request response pool₁ pool₂ rfl hearlier hstep hon hoff
    rcases ServerRun.switched_off hearlier hidle hstep hon hoff with
      ⟨active, count, hexchange, hsetup⟩ | hdisabled
    · obtain ⟨rfl, hresponse⟩ := Exchange.mk.inj hexchange
      obtain rfl := eq_of_heq hresponse
      exact (hunraced.setup earlier later task active count pool₁ rfl hsetup hearlier hon).elim
    · exact hdisabled
  keyed := by
    rintro earlier later pool₁ rfl hearlier
    exact ServerRun.keyed hearlier hidle hunraced.prefix

end Runs

/-- A step of calls that do not overtake each other, of which task 2 switches an account on. -/
def inTurn (state : ServerState Nat) : ServerLabel Nat → Bool
  | .event ⟨task, .protectedly _ (.totpEnable _)⟩ => task == 2
  | .call _ (.query .db (.updateAccount _ _)) _ =>
      state.database.committed.account.all fun row => !row.totpEnabled
  | .call _ .commit _ =>
      state.database.committed.account.all fun row =>
        row.totpSecret == some "nonce:JBSWY3DPEHPK3PXP"
  | .call task (.query .db (.findAccount _)) (.ok (some account)) =>
      task != 2 || account.totpSecret == some "nonce:JBSWY3DPEHPK3PXP"
  | _ => true

theorem unraced_inTurn {isolation : Isolation} {pool pool' : Pool ServerSig Nat (ServerState Nat)}
    {labels : List (ServerLabel Nat)} {accountId : AccountId}
    (h : ServerRun ext isolation (fun state label => inTurn state label = true) pool labels pool') :
    Unraced ext isolation (fun state label => inTurn state label = true) pool accountId labels where
  setup := by
    rintro earlier later task active count pool₁ rfl - hearlier ⟨row, hmem, -, hon⟩
    have hoff := List.all_eq_true.mp (h.at_split hearlier) row hmem
    rw [hon] at hoff
    cases hoff
  enable := by
    rintro earlier later task request account pool₁ rfl hcall hearlier ⟨rest, hloaded⟩ row hmem -
    have hstored := List.all_eq_true.mp (h.at_split hearlier) row hmem
    obtain ⟨first, second, rfl⟩ := List.append_of_mem hcall
    obtain ⟨_, _, -, htask, -, -⟩ := hearlier.split_inv
    obtain rfl : task = 2 := eq_of_beq htask
    have hfirst : trace 2 (first ++ .event ⟨2, .protectedly accountId (.totpEnable request)⟩ ::
        second) = [] ++ ⟨.query .db (.findAccount accountId.uuid), .ok (some account)⟩ :: rest :=
      hloaded.symm
    obtain ⟨_, _, _, _, -, -, -, hseen, -, -⟩ := hearlier.split_trace hfirst
    have hsecret : account.totpSecret = some "nonce:JBSWY3DPEHPK3PXP" := by
      simpa [inTurn] using hseen
    rw [hsecret]
    exact eq_of_beq hstored

/-- An account that is registered, set up, switched on and switched off again. -/
theorem totp_kept_in_turn :
    ∃ labels pool, ServerRun sampleExternals .serializable
        (fun state label => inTurn state label = true) (idleServer (τ := Nat) .empty 0)
        labels pool ∧
      pool.finished 2 = true ∧ pool.finished 3 = true ∧
      pool.state.database.committed.account.map Account.totpEnabled = [false] ∧
      TotpKept sampleExternals .serializable (fun state label => inTurn state label = true)
        (idleServer .empty 0) ⟨1⟩ labels := by
  let script : List (Move Nat (Arrival Nat)) :=
    .event ⟨0, .publicly (.register { email := "a@b.c", password := "hunter22" })⟩ ::
      List.replicate 13 (.tick 0) ++
    .event ⟨1, .protectedly ⟨1⟩ .totpSetup⟩ :: List.replicate 6 (.tick 1) ++
    .event ⟨2, .protectedly ⟨1⟩ (.totpEnable { code := "123456" })⟩ ::
      List.replicate 40 (.tick 2) ++
    .event ⟨3, .protectedly ⟨1⟩ (.totpDisable { password := "hunter22", code := "123456" })⟩ ::
      List.replicate 10 (.tick 3)
  have hsome : ((serverWorld sampleExternals .serializable).follow
      (fun state label => inTurn state label = true)
      (fun task state => state.oblige .serializable task) script (idleServer .empty 0)).any
        (fun result => result.2.finished 2 && (result.2.finished 3 &&
          result.2.state.database.committed.account.map Account.totpEnabled == [false])) = true := by
    decide +kernel
  obtain ⟨⟨labels, pool⟩, hfollow, hend⟩ := (Option.any_eq_true _ _).mp hsome
  simp only [Bool.and_eq_true, beq_iff_eq] at hend
  have hrun := World.run_of_follow hfollow
  exact ⟨labels, pool, hrun, hend.1, hend.2.1, hend.2.2,
    totp_kept hrun (idle_idleServer _ _) (unraced_inTurn hrun)⟩

def isQuery : ServerLabel Nat → Bool
  | .call _ (.query _ _) _ => true
  | _ => false

/-- A second set-up that has looked at the account before it is switched on switches it off
again. -/
theorem setup_switches_off :
    ¬∀ (labels : List (ServerLabel Nat)) pool accountId,
      ServerRun sampleExternals .serializable (fun _ _ => True) (idleServer .empty 0) labels pool →
      TotpKept sampleExternals .serializable (fun _ _ => True) (idleServer .empty 0) accountId
        labels := by
  intro hclaim
  let script : List (Move Nat (Arrival Nat)) :=
    .event ⟨0, .publicly (.register { email := "a@b.c", password := "hunter22" })⟩ ::
      List.replicate 13 (.tick 0) ++
    .event ⟨1, .protectedly ⟨1⟩ .totpSetup⟩ :: List.replicate 6 (.tick 1) ++
    .event ⟨2, .protectedly ⟨1⟩ .totpSetup⟩ :: List.replicate 3 (.tick 2) ++
    .event ⟨3, .protectedly ⟨1⟩ (.totpEnable { code := "123456" })⟩ ::
      List.replicate 39 (.tick 3)
  let oracle (task : Nat) (state : ServerState Nat) := state.oblige .serializable task
  have hsome : ((serverWorld sampleExternals .serializable).follow (fun _ _ => True) oracle script
      (idleServer .empty 0)).any (fun result =>
        result.2.state.database.committed.account.map (fun row => (row.id, row.totpEnabled)) ==
          [(1, true)] &&
        ((serverWorld sampleExternals .serializable).move (fun _ _ => True) oracle result.2
          (.tick 2)).any (fun last =>
            isQuery last.1 && last.2.state.database.committed.account.map
              (fun row => row.totpEnabled) ==
              [false])) = true := by
    decide +kernel
  obtain ⟨⟨labels, pool₁⟩, hfollow, hend⟩ := (Option.any_eq_true _ _).mp hsome
  rw [Bool.and_eq_true, beq_iff_eq] at hend
  obtain ⟨⟨label, pool₂⟩, hmove, hoff⟩ := (Option.any_eq_true _ _).mp hend.2
  rw [Bool.and_eq_true, beq_iff_eq] at hoff
  obtain ⟨hcond, hstep⟩ := World.step_of_move hmove
  have hrun := World.run_of_follow hfollow
  cases label with
  | event => cases hoff.1
  | call task request response =>
      have hkept := hclaim _ _ ⟨1⟩ (.snoc hrun hcond hstep)
      have hon : On 1 pool₁.state.database.committed := by
        have hmem : ((1, true) : Uuid × Bool) ∈ pool₁.state.database.committed.account.map
            fun row => (row.id, row.totpEnabled) := by simp [hend.1]
        obtain ⟨row, hrow, heq⟩ := List.mem_map.mp hmem
        obtain ⟨hid, henabled⟩ := Prod.mk.inj heq
        exact ⟨row, hrow, hid, henabled⟩
      have hnone : ¬On 1 pool₂.state.database.committed := by
        rintro ⟨row, hrow, -, henabled⟩
        have hmem := List.mem_map_of_mem (f := fun row : Account => row.totpEnabled) hrow
        rw [hoff.2, henabled] at hmem
        simp at hmem
      obtain ⟨hexchange, -⟩ :=
        hkept.switched_off labels [] task request response pool₁ pool₂ rfl hrun hstep hon hnone
      obtain ⟨rfl, -⟩ := Exchange.mk.inj hexchange
      cases hoff.1

end Failsafe.Server
