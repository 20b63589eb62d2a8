import Failsafe.Server.Alone
import Failsafe.Server.OneTime

/-!
Requests that fail: a one-time credential is used up when a call fails after the handler
has written to the database outside of a transaction, or has committed one.
-/

namespace Failsafe.Server

open Failsafe.Core Failsafe.Lib

/-- Whether a statement has written, by what it returned. -/
def Statement.changes : (statement : Statement) → statement.Result → Bool
  | .insertAccount _, _ | .insertDevice _, _ | .insertPairingCode _, _ => true
  | .insertRecoveryCode _, _ | .insertRefreshToken _, _ => true
  | .updateAccount _ _, (count : Nat) | .updateDevice _ _, (count : Nat)
  | .usePairingCode _ _, (count : Nat) | .deleteRecoveryCodes _, (count : Nat)
  | .useRecoveryCode _ _ _, (count : Nat) | .updateRefreshToken _ _, (count : Nat)
  | .revokeRefreshTokens _ _, (count : Nat) => decide (0 < count)
  | _, _ => false

/-- An exchange whose effect a failure afterwards does not undo. -/
def durable : Exchange ServerSig → Bool
  | ⟨.commit, .ok ()⟩ => true
  | ⟨.query .db statement, .ok result⟩ => statement.changes result
  | _ => false

/-- A call to the database, or for the tokens, that failed. -/
def failed : Exchange ServerSig → Bool
  | ⟨.begin, .error _⟩ | ⟨.commit, .error _⟩ | ⟨.query _ _, .error _⟩ => true
  | ⟨.hashPassword _, .error _⟩ | ⟨.encryptSecret _, .error _⟩ | ⟨.encodeJwt _, .error _⟩ => true
  | _ => false

def Undurable (log : Log) : Prop :=
  ∀ exchange ∈ log, durable exchange = false

/-- One history leads to another without a durable effect. -/
def Leads (log log' : Log) : Prop :=
  ∃ rest, log' = log ++ rest ∧ Undurable rest

/-- One history leads to another without a durable effect, and a call failed. -/
def Breaks (log log' : Log) : Prop :=
  ∃ rest, log' = log ++ rest ∧ Undurable rest ∧ ∃ exchange ∈ rest, failed exchange = true

section Logs

variable {log log' : Log} {exchange : Exchange ServerSig}

theorem undurable_nil : Undurable [] :=
  fun _ hmem => by cases hmem

@[simp] theorem undurable_append : Undurable (log ++ log') ↔ Undurable log ∧ Undurable log' := by
  simp only [Undurable, List.mem_append]
  constructor
  · exact fun h => ⟨fun exchange hmem => h exchange (.inl hmem), fun exchange hmem =>
      h exchange (.inr hmem)⟩
  · rintro ⟨h, h'⟩ exchange (hmem | hmem)
    · exact h exchange hmem
    · exact h' exchange hmem

@[simp] theorem undurable_singleton : Undurable [exchange] ↔ durable exchange = false := by
  simp [Undurable]

theorem durable_of_failed (h : failed exchange = true) : durable exchange = false := by
  obtain ⟨request, response⟩ := exchange
  cases request with
  | «begin» | commit | hashPassword | encryptSecret | encodeJwt =>
      cases response with
      | ok => cases h
      | error => rfl
  | query conn statement =>
      cases response with
      | ok => cases h
      | error => cases conn <;> rfl
  | _ => cases h

theorem Leads.refl : Leads log log :=
  ⟨[], by simp, undurable_nil⟩

theorem Leads.snoc (h : Leads log log') (hexchange : durable exchange = false) :
    Leads log (log' ++ [exchange]) := by
  obtain ⟨rest, rfl, hrest⟩ := h
  exact ⟨rest ++ [exchange], by simp, by simp [hrest, hexchange]⟩

theorem Leads.trans {log'' : Log} (h : Leads log log') (h' : Leads log' log'') :
    Leads log log'' := by
  obtain ⟨rest, rfl, hrest⟩ := h
  obtain ⟨rest', rfl, hrest'⟩ := h'
  exact ⟨rest ++ rest', by simp, undurable_append.mpr ⟨hrest, hrest'⟩⟩

theorem Leads.undurable (h : Leads log log') (hlog : Undurable log) : Undurable log' := by
  obtain ⟨rest, rfl, hrest⟩ := h
  exact undurable_append.mpr ⟨hlog, hrest⟩

theorem Leads.breaks (h : Leads log log') (hexchange : failed exchange = true) :
    Breaks log (log' ++ [exchange]) := by
  obtain ⟨rest, rfl, hrest⟩ := h
  refine ⟨rest ++ [exchange], by simp, ?_, exchange, by simp, hexchange⟩
  simp [hrest, durable_of_failed hexchange]

theorem Breaks.leads (h : Breaks log log') : Leads log log' := by
  obtain ⟨rest, rfl, hrest, -⟩ := h
  exact ⟨rest, rfl, hrest⟩

theorem Breaks.snoc (h : Breaks log log') (hexchange : durable exchange = false) :
    Breaks log (log' ++ [exchange]) := by
  obtain ⟨rest, rfl, hrest, failure, hmem, hfailure⟩ := h
  refine ⟨rest ++ [exchange], by simp, by simp [hrest, hexchange], failure, ?_, hfailure⟩
  exact List.mem_append_left _ hmem

end Logs

section Effects

variable {statement : Statement} {result : statement.Result} {tables tables' : Tables}

theorem changes_of_reads (h : statement.writes = none) : statement.changes result = false := by
  cases statement <;> first | rfl | cases h

theorem map_of_countP {ρ : Type} {cond : ρ → Bool} {set : ρ → ρ} {rows : List ρ}
    (h : rows.countP cond = 0) :
    (rows.map fun row => if cond row then set row else row) = rows := by
  refine (List.map_congr_left fun row hmem => ?_).trans rows.map_id'
  rw [if_neg (List.countP_eq_zero.mp h row hmem)]

theorem filter_of_countP {ρ : Type} {cond : ρ → Bool} {rows : List ρ}
    (h : rows.countP cond = 0) : (rows.filter fun row => !cond row) = rows := by
  refine List.filter_eq_self.mpr fun row hmem => ?_
  simpa using List.countP_eq_zero.mp h row hmem

theorem run_unchanged (h : statement.run tables = .ok (result, tables'))
    (hchanges : statement.changes result = false) : tables' = tables := by
  have hzero {count : Nat} (hcount : decide (0 < count) = false) : count = 0 :=
    Nat.le_zero.mp (Nat.not_lt.mp (of_decide_eq_false hcount))
  cases statement with
  | insertAccount | insertDevice | insertPairingCode | insertRecoveryCode | insertRefreshToken =>
      cases hchanges
  | updateAccount | updateDevice | usePairingCode | useRecoveryCode | updateRefreshToken
  | revokeRefreshTokens =>
      obtain ⟨hcount, rfl⟩ := Prod.mk.inj (Except.ok.inj h)
      rw [map_of_countP (hcount.trans (hzero hchanges))]
  | deleteRecoveryCodes =>
      obtain ⟨hcount, rfl⟩ := Prod.mk.inj (Except.ok.inj h)
      rw [filter_of_countP (hcount.trans (hzero hchanges))]
  | _ => exact run_read rfl h

/-- A row of an account stays. -/
def AccountKept (tables tables' : Tables) : Prop :=
  ∀ row ∈ tables.account, ∃ row' ∈ tables'.account, row'.id = row.id

theorem AccountKept.refl (tables : Tables) : AccountKept tables tables :=
  fun row hmem => ⟨row, hmem, rfl⟩

theorem AccountKept.trans {tables₁ tables₂ tables₃ : Tables} (h : AccountKept tables₁ tables₂)
    (h' : AccountKept tables₂ tables₃) : AccountKept tables₁ tables₃ := by
  intro row hmem
  obtain ⟨row', hmem', hid⟩ := h row hmem
  obtain ⟨row'', hmem'', hid'⟩ := h' row' hmem'
  exact ⟨row'', hmem'', hid'.trans hid⟩

theorem run_accountKept (h : statement.run tables = .ok (result, tables')) :
    AccountKept tables tables' := by
  intro row hmem
  rcases run_account h with hsame | ⟨new, -, -, hrows⟩ | ⟨id, active, -, hrows⟩
  · exact ⟨row, hsame ▸ hmem, rfl⟩
  · exact ⟨row, by simp [hrows, hmem], rfl⟩
  · refine ⟨_, hrows ▸ List.mem_map_of_mem hmem, ?_⟩
    split <;> rfl

end Effects

section Passes

variable {τ : Type} [DecidableEq τ] {ext : Externals} {isolation : Isolation} {task : τ}
  {state state' : ServerState τ} {log : Log}

theorem perform_undurable {request : ServerRequest} {response : request.Response}
    (h : perform ext isolation task request response state = some state')
    (hdurable : durable ⟨request, response⟩ = false) :
    state'.database.committed = state.database.committed := by
  rcases perform_committed h with hsame | ⟨statement, result, hexchange, hrun⟩ | ⟨hexchange, -⟩
  · exact hsame
  · rw [hexchange] at hdurable
    exact run_unchanged hrun hdurable
  · rw [hexchange] at hdurable
    cases hdurable

theorem Passes.undurable (h : Passes ext isolation task state log state') (hlog : Undurable log) :
    state'.database.committed = state.database.committed := by
  induction h with
  | nil => rfl
  | snoc _ hperform ih =>
      obtain ⟨hbefore, hlast⟩ := undurable_append.mp hlog
      exact (perform_undurable hperform (undurable_singleton.mp hlast)).trans (ih hbefore)

/-- What a history cannot end in: a row that was just written, or that was there before, is
not found. -/
inductive Missing : Log → Prop
  | token {log : Log} {new : RefreshToken} :
      Missing (log ++ [⟨.query .db (.insertRefreshToken new), .ok ()⟩] ++
        [⟨.query .db (.findRefreshToken new.id), .ok none⟩])
  | update {log : Log} {id : Uuid} {account : Account} {active : Account.ActiveModel} :
      ⟨.query .db (.findAccount id), .ok (some account)⟩ ∈ log →
      Missing (log ++ [⟨.query .txn (.updateAccount account.id active), .ok (0 : Nat)⟩] ++
        [⟨.rollback, ()⟩])
  | account {log : Log} {id : Uuid} {account : Account} :
      ⟨.query .db (.findAccount id), .ok (some account)⟩ ∈ log →
      Missing (log ++ [⟨.query .txn (.findAccount account.id), .ok none⟩] ++
        [⟨.rollback, ()⟩])

theorem Passes.accountKept (h : Passes ext isolation task state log state') :
    AccountKept state.database.committed state'.database.committed :=
  h.every AccountKept.refl (fun _ _ _ => AccountKept.trans) fun _ _ _ _ => run_accountKept

theorem Passes.account_seen {middle : ServerState τ} {id : Uuid} {account : Account}
    (h : Passes ext isolation task state log middle)
    (hfound : ⟨.query .db (.findAccount id), .ok (some account)⟩ ∈ log) {statement : Statement}
    {result : statement.Result}
    (hperform : perform ext isolation task (.query .txn statement) (.ok result) middle =
      some state') :
    ∃ view view', statement.run view = .ok (result, view') ∧
      ∃ row ∈ view.account, row.id = account.id := by
  obtain ⟨before, after, rfl⟩ := List.append_of_mem hfound
  obtain ⟨first, second, -, hfind, hrest⟩ := h.split
  obtain ⟨database, hquery, hsecond⟩ := perform_query hfind
  obtain ⟨committed, hrun, rfl⟩ := Database.query_db hquery
  obtain ⟨hresult, hsame⟩ := Prod.mk.inj (Except.ok.inj hrun)
  have hmem : account ∈ second.database.committed.account := by
    rw [hsecond, ← hsame]
    exact List.mem_of_find?_eq_some hresult
  obtain ⟨database', hquery', -⟩ := perform_query hperform
  obtain ⟨entries, view, view', -, hview, hrun', -⟩ := Database.query_txn hquery'
  have hkept : AccountKept middle.database.committed view :=
    Schema.replay_induction AccountKept.refl (fun _ _ _ => AccountKept.trans)
      (fun _ _ _ _ _ hrun _ => run_accountKept hrun) hview
  exact ⟨view, view', hrun', (hrest.accountKept.trans hkept) account hmem⟩

theorem Passes.not_missing (h : Passes ext isolation task state log state') : ¬Missing log := by
  intro hmissing
  cases hmissing with
  | token =>
      rename_i new
      obtain ⟨first, hfirst, hfind⟩ := h.last
      obtain ⟨second, -, hinsert⟩ := hfirst.last
      obtain ⟨database, hquery, hstate⟩ := perform_query hinsert
      obtain ⟨committed, hrun, rfl⟩ := Database.query_db hquery
      obtain ⟨-, hrow⟩ := insert_ok hrun
      obtain ⟨-, hcommitted⟩ := Prod.mk.inj hrow
      have hmem : new ∈ first.database.committed.refreshToken := by
        rw [hstate, ← hcommitted]
        simp
      obtain ⟨database', hquery', -⟩ := perform_query hfind
      obtain ⟨committed', hrun', -⟩ := Database.query_db hquery'
      have hnone := (Prod.mk.inj (Except.ok.inj hrun')).1
      simpa using List.find?_eq_none.mp hnone new hmem
  | update hfound =>
      obtain ⟨first, hfirst, -⟩ := h.last
      obtain ⟨second, hsecond, hupdate⟩ := hfirst.last
      obtain ⟨view, view', hrun, row, hmem, hid⟩ := hsecond.account_seen hfound hupdate
      have hcount := (Prod.mk.inj (Except.ok.inj hrun)).1
      have hother := List.countP_eq_zero.mp (hcount : List.countP _ view.account = 0) row hmem
      exact hother (beq_iff_eq.mpr hid)
  | account hfound =>
      obtain ⟨first, hfirst, -⟩ := h.last
      obtain ⟨second, hsecond, hfind⟩ := hfirst.last
      obtain ⟨view, view', hrun, row, hmem, hid⟩ := hsecond.account_seen hfound hfind
      have hnone := (Prod.mk.inj (Except.ok.inj hrun)).1
      exact List.find?_eq_none.mp hnone row hmem (beq_iff_eq.mpr hid)

end Passes

section Rules

variable {ext : Externals} {guard : Log → ServerRequest → Prop} {log : Log} {α : Type}

theorem Handles.leads {p : ServerTry α} {post : α → Log → Prop}
    {fails : ServerError → Log → Prop} {effects : List Effect} {start : Log}
    (h : Handles guard p post fails log) (htouches : p.run.All (Touches effects))
    (hcommit : .commit ∉ effects) (hdb : ∀ kind table, .write .db kind table ∉ effects)
    (hlog : Leads start log) :
    Handles guard p (fun value log' => post value log' ∧ Leads start log')
      (fun error log' => fails error log' ∧ Leads start log') log := by
  refine Handles.keeping h htouches ?_ hlog
  intro log' request response htouched hlog'
  refine hlog'.snoc ?_
  cases request with
  | commit => exact (hcommit htouched).elim
  | query conn statement =>
      cases response with
      | error message => cases conn <;> rfl
      | ok result =>
          cases conn with
          | txn => rfl
          | db =>
              refine changes_of_reads (Option.eq_none_iff_forall_ne_some.mpr ?_)
              rintro ⟨kind, table⟩ hwrites
              exact hdb kind table (htouched kind table hwrites)
  | _ => rfl

variable [Lenient guard]

theorem issueAuthResponse_fails {accountId : AccountId}
    (hinsert : ∀ log' new, guard log' (.query .db (.insertRefreshToken new))) :
    Handles guard (issueAuthResponse ext accountId) (fun _ _ => True) (fun _ log' =>
      Breaks log log' ∨ Missing log' ∨ ∃ before new last, Leads log before ∧
        log' = before ++ [⟨.query .db (.insertRefreshToken new), .ok ()⟩] ++ [last] ∧
        failed last = true) log := by
  refine .bind (.bind (.bind (.now fun time => .pure (.askTry ⟨Lenient.allow _ _ rfl, ?_⟩))))
  rintro token _ rfl
  have hlead : Leads log (log ++ [⟨.now, time⟩]) := Leads.refl.snoc rfl
  cases token with
  | error message => exact .inl (hlead.breaks rfl)
  | ok token =>
      refine .bind (.bind (.ask (Lenient.allow _ _ rfl) fun raw => .bind ?_))
      refine .bind (.now fun time' => .bind (.newUuid fun id => .pure (.bind ?_)))
      refine .insertReturning (.query (hinsert _ _) (fun _ => .read rfl (fun row => ?_) ?_) ?_)
      · refine ⟨fun _ _ => trivial, ?_⟩
        rintro message rfl
        exact .inr (.inl .token)
      · intro message
        exact .inr (.inr ⟨_, _, _, .snoc (.snoc (.snoc (.snoc hlead rfl) rfl) rfl) rfl, rfl, rfl⟩)
      · intro message
        exact .inl (Leads.breaks (.snoc (.snoc (.snoc (.snoc hlead rfl) rfl) rfl) rfl) rfl)

/-- The second factor was shown with nothing written, or a recovery code was used. -/
def Verified (accountId : AccountId) (codeHash : String) (log log' : Log) : Prop :=
  Leads log log' ∨ ∃ before time count, Leads log before ∧
    log' = before ++ [⟨.query .db (.useRecoveryCode accountId.uuid codeHash time), .ok count⟩] ∧
    0 < count

theorem verifyTotpOrRecovery_fails {accountId : AccountId} {account : Account} {code : String}
    (huse : ∀ log' time, guard log'
      (.query .db (.useRecoveryCode accountId.uuid (hashRecoveryCode ext code) time))) :
    Handles guard (verifyTotpOrRecovery ext accountId account code)
      (fun _ log' => Verified accountId (hashRecoveryCode ext code) log log')
      (fun _ log' => Leads log log') log := by
  have htouches : (acceptsTotp ext account code).run.All (Touches []) := acceptsTotp_touches
  have haccepts : Handles guard (acceptsTotp ext account code) _ _ log :=
    Handles.leads acceptsTotp_obeys htouches (by simp) (by simp) (Leads.refl : Leads log log)
  refine .bind (Handles.mono haccepts (fun accepted log' h => ?_) fun _ _ h => h.2)
  refine .ite (fun _ => .pure (.inl h.2)) fun _ => .bind (.bind (.now fun time => .bind ?_))
  refine .query (huse _ time) (fun count => .pure ?_) fun message => h.2.snoc rfl |>.snoc rfl
  refine .ite (fun hcount => .pure (.inr ⟨_, time, count, h.2.snoc rfl, rfl, ?_⟩)) fun hcount => ?_
  · exact of_decide_eq_true hcount
  · exact .throw ((h.2.snoc rfl).snoc (eq_false_of_ne_true hcount))

theorem disabling_fails {id : Uuid} {accountId : AccountId} {account : Account}
    (hfound : ⟨.query .db (.findAccount id), .ok (some account)⟩ ∈ log)
    (hguard : ∀ log' statement, guard log' (.query .txn statement))
    (hcommit : ∀ log', guard log' .commit) :
    Handles guard (withTransaction do
        let _ ← query .txn (.deleteRecoveryCodes accountId.uuid)
        let _ ← updateAccount .txn account.id
          { Account.ActiveModel.unchanged with
            totpSecret := some none, totpEnabled := some false }
        revokeAllForAccount .txn accountId)
      (fun _ _ => True) (fun _ log' => Breaks log log' ∨ Missing log') log := by
  have hlead : Leads log (log ++ [⟨.begin, .ok ()⟩]) := Leads.refl.snoc rfl
  refine .withTransaction (fun message => .inl (Leads.refl.breaks rfl)) ?_
  refine .bind (.query (hguard _ _) (fun count => .bind ?_) fun message => ?_)
  · refine .updateReturning (.query (hguard _ _) (fun count' => ⟨fun message hzero => ?_,
      fun hcount => .read rfl (fun row => ⟨fun row' hrow => ?_, ?_⟩) fun message => ?_⟩)
        fun message => ?_)
    · subst hzero
      exact .inr (.update (List.mem_append_left _ (List.mem_append_left _ hfound)))
    · refine .bind (.now fun time => .bind (.query (hguard _ _) (fun count => ?_) ?_))
      · refine .pure ⟨hcommit _, trivial, fun message => .inl (Leads.breaks ?_ rfl)⟩
        exact .snoc (.snoc (.snoc (.snoc (.snoc hlead rfl) rfl) rfl) rfl) rfl
      · refine fun message => .inl (Breaks.snoc (Leads.breaks ?_ rfl) rfl)
        exact .snoc (.snoc (.snoc (.snoc hlead rfl) rfl) rfl) rfl
    · rintro message rfl
      exact .inr (.account (List.mem_append_left _ (List.mem_append_left _
        (List.mem_append_left _ hfound))))
    · exact .inl (Breaks.snoc (Leads.breaks (.snoc (.snoc hlead rfl) rfl) rfl) rfl)
    · exact .inl (Breaks.snoc (Leads.breaks (.snoc hlead rfl) rfl) rfl)
  · exact .inl (Breaks.snoc (Leads.breaks hlead rfl) rfl)

end Rules

/-- A request that is given a one-time credential. -/
inductive Attempt where
  | redeemPairingCode (request : PairingRedeemRequest)
  | loginMfa (request : AuthMfaLoginRequest)
  | totpDisable (accountId : AccountId) (request : TotpDisableRequest)
  | rotate (raw : String)
deriving DecidableEq, Repr

namespace Attempt

variable (ext : Externals)

def handler : Attempt → ServerTry Unit
  | .redeemPairingCode request => do
      let _ ← Server.redeemPairingCode ext request
  | .loginMfa request => do
      let _ ← Server.loginMfa ext request
  | .totpDisable accountId request => Server.totpDisable ext accountId request
  | .rotate raw => do
      let _ ← Server.rotate ext raw

/-- The pairing code that comes with the request. -/
def pairingCode : Attempt → Option String
  | .redeemPairingCode request => normalizeCode ext request.code
  | _ => none

/-- The digest of the code that comes with the request, as a recovery code. -/
def codeHash : Attempt → Option String
  | .loginMfa request => some (hashRecoveryCode ext (trimmed request.code))
  | .totpDisable _ request => some (hashRecoveryCode ext (trimmed request.code))
  | _ => none

end Attempt

/-- Devices, accounts and refresh tokens are as before, and so are the rows of the codes
that came with the request. -/
structure Unharmed (ext : Externals) (attempt : Attempt) (tables tables' : Tables) : Prop where
  device : tables'.device = tables.device
  account : tables'.account = tables.account
  refreshToken : tables'.refreshToken = tables.refreshToken
  pairingCode : ∀ row ∈ tables.pairingCode, attempt.pairingCode ext = some row.code →
    row ∈ tables'.pairingCode
  recoveryCode : ∀ row ∈ tables.recoveryCode, attempt.codeHash ext = some row.codeHash →
    row ∈ tables'.recoveryCode

/-- The effect that uses up a credential, and what came after it. -/
inductive Burns (ext : Externals) (attempt : Attempt) : Log → Exchange ServerSig → Log → Prop
  | redeemed {before after : Log} {code : String} : attempt.pairingCode ext = some code →
      Redeems code before → Burns ext attempt before ⟨.commit, .ok ()⟩ after
  | recovered {before after : Log} {accountId : Uuid} {codeHash : String} {time : Timestamp}
      {count : Nat} : attempt.codeHash ext = some codeHash → 0 < count →
      (∀ exchange ∈ after, durable exchange = true →
        ∃ new, exchange = ⟨.query .db (.insertRefreshToken new), .ok ()⟩) →
      Burns ext attempt before
        ⟨.query .db (.useRecoveryCode accountId codeHash time), .ok count⟩ after
  | issued {before : Log} {new : RefreshToken} {last : Exchange ServerSig} :
      Burns ext attempt before ⟨.query .db (.insertRefreshToken new), .ok ()⟩ [last]

/-- How a request can fail. -/
def Fails (ext : Externals) (attempt : Attempt) (log : Log) : Prop :=
  Undurable log ∨ Missing log ∨ ∃ before exchange after, log = before ++ exchange :: after ∧
    Undurable before ∧ Burns ext attempt before exchange after ∧
    ∃ later ∈ after, failed later = true

section Attempts

variable {ext : Externals}

theorem rotate_fails {raw : String} :
    Handles anything ((Attempt.rotate raw).handler ext) (fun _ _ => True)
      (fun _ log => Undurable log) [] := by
  have hbegun : Undurable [⟨.begin, .ok ()⟩] := undurable_singleton.mpr rfl
  have hobeys : Obeys anything (rotateInTransaction ext raw) (fun _ _ => True)
      [⟨.begin, .ok ()⟩] := .of_all (Prog.all_any _) fun _ _ _ => trivial
  have htouches : (rotateInTransaction ext raw).run.All
      (Touches [.write .txn .update .refreshToken, .write .txn .insert .refreshToken]) :=
    rotateInTransaction_touches (by decide) (by decide)
  refine .bind (.withTransaction (fun message => undurable_singleton.mpr rfl) ?_)
  refine (Handles.leads hobeys htouches (by simp) (by simp) Leads.refl).mono ?_ ?_
  · refine fun response log' h => ⟨trivial, trivial, fun message => ?_⟩
    exact (h.2.snoc rfl).undurable hbegun
  · exact fun error log' h => (h.2.snoc rfl).undurable hbegun

theorem redeemPairingCode_fails {request : PairingRedeemRequest} :
    Handles (RedeemGuard ext request) ((Attempt.redeemPairingCode request).handler ext)
      (fun _ _ => True) (fun _ log => Fails ext (.redeemPairingCode request) log) [] := by
  refine .bind ?_
  unfold Server.redeemPairingCode
  split
  · exact .throw (.inl undurable_nil)
  rename_i code hcode
  have hbegun : Undurable ([] ++ [⟨.begin, .ok ()⟩]) := undurable_singleton.mpr rfl
  have hhandles : Handles (RedeemGuard ext request) (redeemInTransaction code request.device)
      (fun _ log' => Redeems code log' ∧ ¬Committed log') (fun _ log' => ¬Committed log')
      ([] ++ [⟨.begin, .ok ()⟩]) :=
    redeemInTransaction_handles unwritten_begin (by simp [Committed])
  have htouches : (redeemInTransaction code request.device).run.All (Touches redeemEffects) :=
    redeemInTransaction_touches (by decide) (by decide) (by decide)
  refine .bind (.withTransaction (fun message => .inl (undurable_singleton.mpr rfl)) ?_)
  refine (hhandles.leads htouches (by simp) (by simp) Leads.refl).mono ?_ ?_
  · rintro accountId log ⟨⟨hredeems, -⟩, hlead⟩
    have hlog := hlead.undurable hbegun
    refine ⟨⟨code, hcode, hredeems⟩, ?_, fun message => .inl ?_⟩
    · refine (issueAuthResponse_fails fun _ _ => ?_).mono (fun _ _ _ => trivial) ?_
      · exact fun kind table hwrites => (Prod.mk.inj (Option.some.inj hwrites)).2.symm
      · rintro error log' (⟨rest, rfl, -, hfailed⟩ | hmissing |
          ⟨_, new, last, ⟨rest, rfl, -⟩, rfl, hlast⟩)
        · exact .inr (.inr ⟨log, _, rest, by simp, hlog, .redeemed hcode hredeems, hfailed⟩)
        · exact .inr (.inl hmissing)
        · exact .inr (.inr ⟨log, ⟨.commit, .ok ()⟩,
            rest ++ [⟨.query .db (.insertRefreshToken new), .ok ()⟩, last], by simp, hlog,
            .redeemed hcode hredeems, last, by simp, hlast⟩)
    · exact (hlead.snoc rfl).undurable hbegun
  · exact fun error log h => .inl ((h.2.snoc rfl).undurable hbegun)

theorem Verified.fails {attempt : Attempt} {accountId : AccountId} {codeHash : String}
    {log log' : Log} (h : Verified accountId codeHash [] log)
    (hcode : attempt.codeHash ext = some codeHash) (hbreaks : Breaks log log') :
    Fails ext attempt log' := by
  rcases h with hlead | ⟨before, time, count, hlead, rfl, hcount⟩
  · exact .inl (hbreaks.leads.undurable (hlead.undurable undurable_nil))
  · obtain ⟨rest, rfl, hrest, hfailed⟩ := hbreaks
    refine .inr (.inr ⟨before, _, rest, (List.append_cons ..).symm,
      hlead.undurable undurable_nil, .recovered hcode hcount ?_, hfailed⟩)
    intro exchange hmem hdurable
    rw [hrest exchange hmem] at hdurable
    cases hdurable

theorem Verified.after {accountId : AccountId} {codeHash : String} {start log log' : Log}
    (h : Verified accountId codeHash log log') (hlead : Leads start log) :
    Verified accountId codeHash start log' := by
  rcases h with h | ⟨before, time, count, h, hlog', hcount⟩
  · exact .inl (hlead.trans h)
  · exact .inr ⟨before, time, count, hlead.trans h, hlog', hcount⟩

theorem loadAccount_leads {accountId : AccountId} {start log : Log} (hlog : Leads start log) :
    Handles anything (loadAccount accountId)
      (fun account log' => ⟨.query .db (.findAccount accountId.uuid), .ok (some account)⟩ ∈ log' ∧
        Leads start log') (fun _ log' => True ∧ Leads start log') log := by
  have htouches : (loadAccount accountId).run.All (Touches []) := loadAccount_touches
  exact Handles.leads (loadAccount_obeys fun account => by simp) htouches (by simp) (by simp) hlog

theorem loginMfa_fails {request : AuthMfaLoginRequest} :
    Handles anything ((Attempt.loginMfa request).handler ext)
      (fun _ _ => True) (fun _ log => Fails ext (.loginMfa request) log) [] := by
  refine .bind (.ite (fun _ => .bind (.throw (.inl undurable_nil))) fun _ => .bind ?_)
  have hvalidate : Obeys anything (validateMfaPending ext (trimmed request.mfaToken))
      (fun _ _ => True) [] := .of_all validateMfaPending_quiet Lenient.allow
  have htouches : (validateMfaPending ext (trimmed request.mfaToken)).run.All (Touches []) :=
    validateMfaPending_touches
  refine (hvalidate.leads htouches (by simp) (by simp) Leads.refl).mono ?_ ?_
  · rintro accountId log ⟨-, hlog⟩
    refine .bind ((loadAccount_leads hlog).mono ?_ ?_)
    · rintro account log' ⟨-, hloaded⟩
      refine .ite (fun _ => .bind (.throw (.inl (hloaded.undurable undurable_nil)))) fun _ => ?_
      refine .bind ((verifyTotpOrRecovery_fails fun _ _ => trivial).mono ?_ ?_)
      · intro _ log'' hverified
        have hshown := hverified.after hloaded
        refine (issueAuthResponse_fails fun _ _ => trivial).mono (fun _ _ _ => trivial) ?_
        rintro error log₃ (hbreaks | hmissing | ⟨before, new, last, hlead, rfl, hlast⟩)
        · exact hshown.fails rfl hbreaks
        · exact .inr (.inl hmissing)
        · rcases hshown with hshown | ⟨before', time, count, hbefore, rfl, hcount⟩
          · exact .inr (.inr ⟨before, _, [last], (List.append_cons ..).symm,
              (hshown.trans hlead).undurable undurable_nil, .issued, last, by simp, hlast⟩)
          · obtain ⟨rest, rfl, hrest⟩ := hlead
            refine .inr (.inr ⟨before', _,
              rest ++ [⟨.query .db (.insertRefreshToken new), .ok ()⟩, last],
              by simp only [List.append_assoc]; rfl, hbefore.undurable undurable_nil,
              .recovered rfl hcount ?_, last, by simp, hlast⟩)
            intro exchange hmem hdurable
            simp only [List.mem_append, List.mem_cons, List.not_mem_nil, or_false] at hmem
            rcases hmem with hmem | rfl | rfl
            · rw [hrest exchange hmem] at hdurable
              cases hdurable
            · exact ⟨new, rfl⟩
            · rw [durable_of_failed hlast] at hdurable
              cases hdurable
      · exact fun error log'' h => .inl ((hloaded.trans h).undurable undurable_nil)
    · exact fun error log' h => .inl (h.2.undurable undurable_nil)
  · exact fun error log h => .inl (h.2.undurable undurable_nil)

theorem totpDisable_fails {accountId : AccountId} {request : TotpDisableRequest} :
    Handles anything ((Attempt.totpDisable accountId request).handler ext)
      (fun _ _ => True) (fun _ log => Fails ext (.totpDisable accountId request) log) [] := by
  refine .ite (fun _ => .bind (.throw (.inl undurable_nil))) fun _ => .bind ?_
  refine (loadAccount_leads Leads.refl).mono ?_ fun _ _ h => .inl (h.2.undurable undurable_nil)
  rintro account log ⟨hfound, hloaded⟩
  have hlog := hloaded.undurable undurable_nil
  refine .ite (fun _ => .bind (.throw (.inl hlog))) fun _ => ?_
  refine .bind (.liftExcept (fun _ _ => .bind ?_) fun _ _ => .inl hlog)
  refine (verifyTotpOrRecovery_fails fun _ _ => trivial).grows.mono ?_ ?_
  · rintro _ log' ⟨hverified, hahead⟩
    refine (disabling_fails (hahead.subset hfound) (fun _ _ => trivial) fun _ => trivial).mono
      (fun _ _ _ => trivial) ?_
    rintro error log'' (hbreaks | hmissing)
    · exact (hverified.after hloaded).fails rfl hbreaks
    · exact .inr (.inl hmissing)
  · exact fun error log' h => .inl ((hloaded.trans h.1).undurable undurable_nil)

variable {τ : Type} [DecidableEq τ] {isolation : Isolation} {task : τ} {attempt : Attempt}
  {state state' : ServerState τ}
  {before after log : Log} {exchange : Exchange ServerSig} {error : ServerError}

theorem Alone.fails
    (h : Alone ext isolation task (attempt.handler ext) state log (.error error) state') :
    Fails ext attempt log := by
  cases attempt with
  | redeemPairingCode request => exact h.handles redeemPairingCode_fails
  | loginMfa request => exact h.handles loginMfa_fails
  | totpDisable accountId request => exact h.handles totpDisable_fails
  | rotate raw => exact .inl (h.handles rotate_fails)

theorem Burns.durable (h : Burns ext attempt before exchange after) : durable exchange = true := by
  cases h with
  | redeemed => rfl
  | recovered _ hcount => exact decide_eq_true hcount
  | issued => rfl

theorem Passes.codeSpent {accountId : Uuid} {codeHash : String}
    (h : Passes ext isolation task state log state')
    (hlog : ∀ exchange ∈ log, Server.durable exchange = true →
      ∃ new, exchange = ⟨.query .db (.insertRefreshToken new), .ok ()⟩)
    (hspent : CodeSpent accountId codeHash state.database.committed) :
    CodeSpent accountId codeHash state'.database.committed := by
  induction h with
  | nil => exact hspent
  | snoc _ hperform ih =>
      rename_i log _ _ request response _
      have hmiddle := ih fun exchange hmem => hlog exchange (List.mem_append_left _ hmem)
      cases hdurable : Server.durable ⟨request, response⟩ with
      | false => rwa [perform_undurable hperform hdurable]
      | true =>
          obtain ⟨new, hexchange⟩ := hlog _ (by simp) hdurable
          obtain ⟨rfl, hresponse⟩ := Exchange.mk.inj hexchange
          obtain rfl := eq_of_heq hresponse
          obtain ⟨database, hquery, rfl⟩ := perform_query hperform
          obtain ⟨committed, hrun, rfl⟩ := Database.query_db hquery
          have hrun' : (Statement.insertRefreshToken new).run _ = .ok ((), committed) := hrun
          exact hmiddle.run hrun' nofun

theorem Passes.redeems {code : String} (h : Passes ext isolation task state log state')
    (hpending : state.database.pending task = none)
    (hunique : state.database.committed.Unique) (hundurable : Undurable log)
    (hredeems : Redeems code log) {state'' : ServerState τ}
    (hcommit : perform ext isolation task .commit (.ok ()) state' = some state'') :
    Fresh code state.database.committed ∧ Spent code state''.database.committed := by
  obtain ⟨record, time, usedAt, count, before, between, hlog, hopen, -, -, hcount⟩ := hredeems
  obtain ⟨database, hcommitted, hstate⟩ := perform_commit hcommit
  obtain ⟨entries, committed, hentries, hreplay, rfl⟩ := Database.commit_ok hcommitted
  rw [h.pending hpending, hlog, pendingAfter_append] at hentries
  obtain ⟨entries, -, rfl⟩ := Option.map_eq_some_iff.mp hentries
  rw [h.undurable hundurable] at hreplay
  rw [hstate]
  refine replay_redeems isolation.firm_write hreplay hunique hcount ?_
  have hread : log = before ++ ⟨.query .txn (.findPairingCodeByCode code), .ok (some record)⟩ ::
      (⟨.now, time⟩ :: between ++
        [⟨.query .txn (.usePairingCode record.id usedAt), .ok count⟩]) := by
    simp [hlog]
  rw [hread] at h hundurable
  obtain ⟨first, second, hfirst, hperform, -⟩ := h.split
  obtain ⟨database', hquery, -⟩ := perform_query hperform
  obtain ⟨entries', view, view', hentries', hview, hrun, -⟩ := Database.query_txn hquery
  rw [hfirst.pending hpending] at hentries'
  rw [replay_reads (hopen rfl _ hentries') hview,
    hfirst.undurable (undurable_append.mp hundurable).1] at hrun
  have hfound := (Prod.mk.inj (Except.ok.inj hrun)).1
  exact ⟨record, List.mem_of_find?_eq_some hfound, rfl, by simpa using List.find?_some hfound⟩

theorem Passes.burns (h : Passes ext isolation task state (before ++ exchange :: after) state')
    (hpending : state.database.pending task = none)
    (hunique : state.database.committed.Unique) (hbefore : Undurable before)
    (hburns : Burns ext attempt before exchange after)
    (hfailed : ∃ later ∈ after, failed later = true) :
    ¬Unharmed ext attempt state.database.committed state'.database.committed := by
  have hunique' := h.unique hunique
  obtain ⟨first, second, hfirst, hperform, hrest⟩ := h.split
  have hsame := hfirst.undurable hbefore
  intro hunharmed
  cases hburns with
  | redeemed hcode hredeems =>
      obtain ⟨⟨row, hmem, hrow, hfresh⟩, hspent⟩ :=
        hfirst.redeems hpending hunique hbefore hredeems hperform
      have hkept : PairingKept second.database.committed state'.database.committed :=
        hrest.every PairingKept.refl (fun _ _ _ => PairingKept.trans) fun _ _ _ _ => run_pairingKept
      refine (hspent.kept hkept).not_fresh hunique' ⟨row, ?_, hrow, hfresh⟩
      exact hunharmed.pairingCode row hmem (hcode.trans (congrArg some hrow.symm))
  | recovered hcode hcount hafter =>
      obtain ⟨database, hquery, rfl⟩ := perform_query hperform
      obtain ⟨committed, hrun, rfl⟩ := Database.query_db hquery
      obtain ⟨row, hmem, haccount, hhash, hunused, hused⟩ := run_useRecoveryCode hrun hcount
      have hspent := hrest.codeSpent hafter ⟨_, hused, haccount, hhash, rfl⟩
      obtain ⟨row', hmem', -, hhash', hused'⟩ := hspent
      rw [hsame] at hmem
      have hkept := hunharmed.recoveryCode row hmem (hcode.trans (congrArg some hhash.symm))
      obtain rfl := List.inj_on_of_nodup_map hunique'.codeHash hmem' hkept (hhash'.trans hhash.symm)
      rw [hunused] at hused'
      cases hused'
  | issued =>
      rename_i new last
      obtain ⟨later, hlater, hlast⟩ := hfailed
      obtain rfl := List.mem_singleton.mp hlater
      obtain ⟨database, hquery, hsecond⟩ := perform_query hperform
      obtain ⟨committed, hrun, rfl⟩ := Database.query_db hquery
      obtain ⟨-, hrow⟩ := insert_ok hrun
      obtain ⟨-, hcommitted⟩ := Prod.mk.inj hrow
      have hundurable : Undurable [later] := undurable_singleton.mpr (durable_of_failed hlast)
      have htokens := hunharmed.refreshToken
      rw [hrest.undurable hundurable, hsecond, ← hcommitted, hsame] at htokens
      simp at htokens

/-- A request that fails leaves its credential, devices, accounts and tokens as they were
exactly if no call failed after an effect that lasts. -/
theorem failed_request_harmless_iff (hpending : state.database.pending task = none)
    (hunique : state.database.committed.Unique)
    (h : Alone ext isolation task (attempt.handler ext) state log (.error error) state') :
    Unharmed ext attempt state.database.committed state'.database.committed ↔
      ∀ before exchange after, log = before ++ exchange :: after → durable exchange = true →
        ∀ later ∈ after, failed later = false := by
  rcases h.fails with
    hundurable | hmissing | ⟨before, exchange, after, rfl, hbefore, hburns, hfailed⟩
  · constructor
    · rintro - before exchange after rfl hdurable
      rw [hundurable exchange (by simp)] at hdurable
      cases hdurable
    · rintro -
      rw [h.passes.undurable hundurable]
      exact ⟨rfl, rfl, rfl, fun _ hmem _ => hmem, fun _ hmem _ => hmem⟩
  · exact (h.passes.not_missing hmissing).elim
  · constructor
    · exact fun hunharmed => (h.passes.burns hpending hunique hbefore hburns hfailed hunharmed).elim
    · intro hcond
      obtain ⟨later, hmem, hlater⟩ := hfailed
      rw [hcond before exchange after rfl hburns.durable later hmem] at hlater
      cases hlater

end Attempts

/-- Every request is obliged but the signing of tokens. -/
def unsigned (isolation : Isolation) (state : ServerState Unit) (request : ServerRequest) :
    Option request.Response :=
  match request with
  | .encodeJwt _ => some (.error "invalid key")
  | request => state.oblige isolation () request

/-- An account with a pairing code and a token. -/
def pairedTables : Tables :=
  { Tables.empty with
    account := [newAccount 1 "a@b.c" "argon2:hunter22" 0]
    pairingCode := [{ id := 2, accountId := 1, code := "ABCDEFGH", expiresAt := PAIRING_TTL,
                      usedAt := none, createdAt := 0 }]
    refreshToken := [{ id := 3, accountId := 1, tokenHash := "sha256:r", expiresAt := 1,
                       revokedAt := none, createdAt := 0 }] }

theorem unique_pairedTables : pairedTables.Unique := by
  constructor <;> simp [pairedTables, Tables.empty]

def refusal {α : Type} : Except ServerError α → Option ServerError
  | .ok _ => none
  | .error error => some error

/-- When the token cannot be signed, the code is used up and the device is registered. -/
theorem redemption_burns_code :
    ¬∀ (ext : Externals) (isolation : Isolation) (attempt : Attempt)
        (state state' : ServerState Unit) (log : Log) (error : ServerError),
      state.database.pending () = none → state.database.committed.Unique →
      Alone ext isolation () (attempt.handler ext) state log (.error error) state' →
      Unharmed ext attempt state.database.committed state'.database.committed := by
  intro hclaim
  let phone : DeviceUpsertRequest :=
    { deviceId := ⟨77⟩, name := "Phone", irohPublicKey := "k1",
      enabledFeatures := [⟨"clipboard"⟩] }
  let attempt : Attempt := .redeemPairingCode { code := "ABCDEFGH", device := some phone }
  have hsome : (Prog.drive (perform sampleExternals .serializable ()) (unsigned .serializable)
      (attempt.handler sampleExternals).run (.start pairedTables 0)).any (fun result =>
        (refusal result.2.1).any fun _ => result.2.2.database.committed.device != []) = true := by
    decide +kernel
  obtain ⟨⟨log, result, state'⟩, hdrive, hend⟩ := (Option.any_eq_true _ _).mp hsome
  cases result with
  | ok => cases hend
  | error error =>
      have hunharmed := hclaim _ _ attempt _ _ _ _ rfl unique_pairedTables
        (Prog.exec_of_drive hdrive)
      have hdevice : (state'.database.committed.device != []) = true := hend
      exact bne_iff_ne.mp hdevice hunharmed.device

/-- A rotation whose new token cannot be signed keeps the old one. -/
theorem failed_rotation_harmless :
    ∃ log state', Alone sampleExternals .serializable ()
        ((Attempt.rotate "r").handler sampleExternals) (.start pairedTables 0) log
        (.error (.auth (.jwt "invalid key"))) state' ∧
      (Unharmed sampleExternals (.rotate "r") pairedTables state'.database.committed ↔
        ∀ before exchange after, log = before ++ exchange :: after → durable exchange = true →
          ∀ later ∈ after, failed later = false) := by
  have hsome : (Prog.drive (perform sampleExternals .serializable ()) (unsigned .serializable)
      ((Attempt.rotate "r").handler sampleExternals).run (.start pairedTables 0)).any (fun result =>
        (refusal result.2.1).any (· == .auth (.jwt "invalid key"))) = true := by
    decide +kernel
  obtain ⟨⟨log, result, state'⟩, hdrive, hend⟩ := (Option.any_eq_true _ _).mp hsome
  cases result with
  | ok => cases hend
  | error error =>
      have hsame : (error == .auth (.jwt "invalid key")) = true := hend
      obtain rfl := eq_of_beq hsame
      have hexec := Prog.exec_of_drive hdrive
      exact ⟨log, state', hexec, failed_request_harmless_iff rfl unique_pairedTables hexec⟩

end Failsafe.Server
