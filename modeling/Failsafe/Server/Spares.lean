import Failsafe.Server.Alone
import Failsafe.Server.Entitlement

/-!
Calls that present no credential of an account: they make none either, and leave the row of
the account as it is.
-/

namespace Failsafe.Server

open Failsafe.Core Failsafe.Lib

variable {ext : Externals}

/-- A statement that makes no credential of an account and leaves its row as it is. -/
def Statement.Spares (id : Uuid) : Statement → Prop
  | .updateAccount id' _ => id' ≠ id
  | .insertPairingCode new => new.accountId ≠ id
  | .insertRecoveryCode new => new.accountId ≠ id
  | .insertRefreshToken new => new.accountId ≠ id
  | .updateRefreshToken _ active => active.accountId = none
  | _ => True

/-- The credentials of an account were there before. -/
structure NothingNew (account : Account) (tables tables' : Tables) : Prop where
  kept : account ∈ tables.account → account ∈ tables'.account
  refreshToken : ∀ row' ∈ tables'.refreshToken, row'.accountId = account.id →
    ∃ row ∈ tables.refreshToken, row.accountId = account.id ∧ row.tokenHash = row'.tokenHash
  pairingCode : ∀ row' ∈ tables'.pairingCode, row'.accountId = account.id →
    ∃ row ∈ tables.pairingCode, row.accountId = account.id ∧ row.code = row'.code
  recoveryCode : ∀ row' ∈ tables'.recoveryCode, row'.accountId = account.id →
    row'.usedAt = none → ∃ row ∈ tables.recoveryCode, row.accountId = account.id ∧
      row.codeHash = row'.codeHash ∧ row.usedAt = none

section Rows

variable {account : Account}

theorem NothingNew.refl (tables : Tables) : NothingNew account tables tables :=
  ⟨id, fun row hmem haccount => ⟨row, hmem, haccount, rfl⟩,
    fun row hmem haccount => ⟨row, hmem, haccount, rfl⟩,
    fun row hmem haccount hunused => ⟨row, hmem, haccount, rfl, hunused⟩⟩

theorem NothingNew.trans {tables₁ tables₂ tables₃ : Tables}
    (h : NothingNew account tables₁ tables₂) (h' : NothingNew account tables₂ tables₃) :
    NothingNew account tables₁ tables₃ where
  kept := fun hmem => h'.kept (h.kept hmem)
  refreshToken := by
    intro row'' hmem'' haccount''
    obtain ⟨row', hmem', haccount', hhash'⟩ := h'.refreshToken row'' hmem'' haccount''
    obtain ⟨row, hmem, haccount, hhash⟩ := h.refreshToken row' hmem' haccount'
    exact ⟨row, hmem, haccount, hhash.trans hhash'⟩
  pairingCode := by
    intro row'' hmem'' haccount''
    obtain ⟨row', hmem', haccount', hcode'⟩ := h'.pairingCode row'' hmem'' haccount''
    obtain ⟨row, hmem, haccount, hcode⟩ := h.pairingCode row' hmem' haccount'
    exact ⟨row, hmem, haccount, hcode.trans hcode'⟩
  recoveryCode := by
    intro row'' hmem'' haccount'' hunused''
    obtain ⟨row', hmem', haccount', hhash', hunused'⟩ :=
      h'.recoveryCode row'' hmem'' haccount'' hunused''
    obtain ⟨row, hmem, haccount, hhash, hunused⟩ := h.recoveryCode row' hmem' haccount' hunused'
    exact ⟨row, hmem, haccount, hhash.trans hhash', hunused⟩

theorem run_nothingNew {statement : Statement} {result : statement.Result}
    {tables tables' : Tables} (h : statement.run tables = .ok (result, tables'))
    (hspares : statement.Spares account.id) : NothingNew account tables tables' where
  kept := by
    intro hmem
    rcases run_account h with hsame | ⟨new, -, -, hrows⟩ | ⟨id, active, rfl, hrows⟩
    · exact hsame ▸ hmem
    · exact hrows ▸ List.mem_append_left _ hmem
    · rw [hrows]
      exact List.mem_map.mpr ⟨account, hmem, if_neg (Ne.symm hspares)⟩
  refreshToken := by
    intro row' hmem' haccount
    rcases run_refreshToken h with
      hsame | ⟨new, rfl, -, hrows⟩ | ⟨id, active, rfl, hrows⟩ | ⟨accountId, revokedAt, -, hrows⟩
    · exact ⟨row', hsame ▸ hmem', haccount, rfl⟩
    · rw [hrows] at hmem'
      rcases List.mem_append.mp hmem' with hmem | hnew
      · exact ⟨row', hmem, haccount, rfl⟩
      · obtain rfl := List.mem_singleton.mp hnew
        exact (hspares haccount).elim
    · rw [hrows] at hmem'
      obtain ⟨row, hmem, hrow⟩ := List.mem_map.mp hmem'
      split at hrow
      · subst hrow
        have hsame : (active.apply row).accountId = row.accountId := by
          rw [RefreshToken.ActiveModel.apply, show active.accountId = none from hspares]
          rfl
        exact ⟨row, hmem, hsame.symm.trans haccount, rfl⟩
      · exact ⟨row, hmem, hrow ▸ haccount, hrow ▸ rfl⟩
    · rw [hrows] at hmem'
      obtain ⟨row, hmem, hrow⟩ := List.mem_map.mp hmem'
      split at hrow <;> subst hrow <;> exact ⟨row, hmem, haccount, rfl⟩
  pairingCode := by
    intro row' hmem' haccount
    rcases run_pairingCode h with hsame | ⟨new, rfl, -, hrows⟩ | ⟨id, usedAt, -, hrows⟩
    · exact ⟨row', hsame ▸ hmem', haccount, rfl⟩
    · rw [hrows] at hmem'
      rcases List.mem_append.mp hmem' with hmem | hnew
      · exact ⟨row', hmem, haccount, rfl⟩
      · obtain rfl := List.mem_singleton.mp hnew
        exact (hspares haccount).elim
    · rw [hrows] at hmem'
      obtain ⟨row, hmem, hrow⟩ := List.mem_map.mp hmem'
      split at hrow <;> subst hrow <;> exact ⟨row, hmem, haccount, rfl⟩
  recoveryCode := by
    intro row' hmem' haccount hunused
    rcases run_recoveryCode h with
      hsame | ⟨new, rfl, -, hrows⟩ | ⟨accountId, -, hrows⟩ | ⟨accountId, codeHash, usedAt, -, hrows⟩
    · exact ⟨row', hsame ▸ hmem', haccount, rfl, hunused⟩
    · rw [hrows] at hmem'
      rcases List.mem_append.mp hmem' with hmem | hnew
      · exact ⟨row', hmem, haccount, rfl, hunused⟩
      · obtain rfl := List.mem_singleton.mp hnew
        exact (hspares haccount).elim
    · rw [hrows] at hmem'
      exact ⟨row', List.mem_of_mem_filter hmem', haccount, rfl, hunused⟩
    · rw [hrows] at hmem'
      obtain ⟨row, hmem, hrow⟩ := List.mem_map.mp hmem'
      split at hrow <;> subst hrow
      · cases hunused
      · exact ⟨row, hmem, haccount, rfl, hunused⟩

end Rows

/-- The tables while a task runs that makes no credential of an account. -/
structure Secure {τ : Type} (account : Account) (task : τ) (start : Tables)
    (state : ServerState τ) : Prop where
  unique : state.database.committed.Unique
  present : account ∈ state.database.committed.account
  nothingNew : NothingNew account start state.database.committed
  pending : ∀ entries, state.database.pending task = some entries →
    ∀ entry ∈ entries, entry.statement.Spares account.id

/-- What a read says of the rows of an account. -/
def Fact (account : Account) (start : Tables) : Exchange ServerSig → Prop
  | ⟨.query _ (.findAccount id), .ok (some row)⟩ =>
      row.id = id ∧ (row.id = account.id → row = account)
  | ⟨.query _ (.findAccountByEmail _), .ok (some row)⟩ => row.id = account.id → row = account
  | ⟨.query _ (.findRefreshTokenByHash hash), .ok (some record)⟩ =>
      record.accountId = account.id →
        ∃ row ∈ start.refreshToken, row.accountId = account.id ∧ row.tokenHash = hash
  | ⟨.query _ (.findPairingCodeByCode code), .ok (some record)⟩ =>
      record.accountId = account.id →
        ∃ row ∈ start.pairingCode, row.accountId = account.id ∧ row.code = code
  | ⟨.query _ (.useRecoveryCode id hash _), .ok (count : Nat)⟩ =>
      0 < count → id = account.id → ∃ row ∈ start.recoveryCode,
        row.accountId = account.id ∧ row.codeHash = hash ∧ row.usedAt = none
  | ⟨.query _ (.insertAccount row), .ok ()⟩ => row.id ≠ account.id
  | _ => True

section Secure

variable {τ : Type} [DecidableEq τ] {isolation : Isolation} {account : Account} {task : τ}
  {start : Tables} {state state' : ServerState τ} {log : Log}

theorem Secure.view (h : Secure account task start state) {conn : Conn} {statement : Statement}
    {result : statement.Result}
    (hperform : perform ext isolation task (.query conn statement) (.ok result) state =
      some state') :
    ∃ view view' : Tables, statement.run view = .ok (result, view') ∧ view.Unique ∧
      account ∈ view.account ∧ NothingNew account start view := by
  obtain ⟨database, hquery, -⟩ := perform_query hperform
  cases conn with
  | db =>
      obtain ⟨committed, hrun, -⟩ := Database.query_db hquery
      exact ⟨_, committed, hrun, h.unique, h.present, h.nothingNew⟩
  | txn =>
      obtain ⟨entries, view, view', hpending, hview, hrun, -⟩ := Database.query_txn hquery
      have hnew : NothingNew account state.database.committed view :=
        Schema.replay_induction NothingNew.refl (fun _ _ _ => NothingNew.trans)
          (fun entry hentry _ _ _ hrun _ => run_nothingNew hrun (h.pending _ hpending _ hentry))
          hview
      exact ⟨view, view', hrun, replay_unique hview h.unique, hnew.kept h.present,
        h.nothingNew.trans hnew⟩

theorem Secure.fact (h : Secure account task start state) {request : ServerRequest}
    {response : request.Response}
    (hperform : perform ext isolation task request response state = some state') :
    Fact account start ⟨request, response⟩ := by
  cases request with
  | query conn statement =>
      cases response with
      | error message => cases statement <;> trivial
      | ok result =>
          obtain ⟨view, view', hrun, hunique, hpresent, hnew⟩ := h.view hperform
          have hsame {row : Account} (hmem : row ∈ view.account) (hid : row.id = account.id) :
              row = account := List.inj_on_of_nodup_map hunique.accountId hmem hpresent hid
          cases statement with
          | findAccount id =>
              cases result with
              | none => trivial
              | some row =>
                  have hfound := (Prod.mk.inj (Except.ok.inj hrun)).1
                  refine ⟨?_, hsame (List.mem_of_find?_eq_some hfound)⟩
                  simpa using List.find?_some hfound
          | findAccountByEmail email =>
              cases result with
              | none => trivial
              | some row =>
                  have hfound := (Prod.mk.inj (Except.ok.inj hrun)).1
                  exact hsame (List.mem_of_find?_eq_some hfound)
          | findRefreshTokenByHash hash =>
              cases result with
              | none => trivial
              | some record =>
                  intro haccount
                  have hfound := (Prod.mk.inj (Except.ok.inj hrun)).1
                  obtain ⟨row, hmem, hrow, hhash⟩ :=
                    hnew.refreshToken record (List.mem_of_find?_eq_some hfound) haccount
                  exact ⟨row, hmem, hrow, hhash.trans (by simpa using List.find?_some hfound)⟩
          | findPairingCodeByCode code =>
              cases result with
              | none => trivial
              | some record =>
                  intro haccount
                  have hfound := (Prod.mk.inj (Except.ok.inj hrun)).1
                  obtain ⟨row, hmem, hrow, hcode⟩ :=
                    hnew.pairingCode record (List.mem_of_find?_eq_some hfound) haccount
                  exact ⟨row, hmem, hrow, hcode.trans (by simpa using List.find?_some hfound)⟩
          | useRecoveryCode id hash usedAt =>
              rintro hcount rfl
              obtain ⟨row, hmem, haccount, hhash, hunused, -⟩ := run_useRecoveryCode hrun hcount
              obtain ⟨row', hmem', haccount', hhash', hunused'⟩ :=
                hnew.recoveryCode row hmem haccount hunused
              exact ⟨row', hmem', haccount', hhash'.trans hhash, hunused'⟩
          | insertAccount row =>
              intro hid
              obtain ⟨hclash, -⟩ := insert_ok hrun
              have hother := hclash account hpresent
              simp [hid] at hother
          | _ => trivial
  | _ => trivial

theorem Secure.perform (h : Secure account task start state) {request : ServerRequest}
    {response : request.Response}
    (hperform : perform ext isolation task request response state = some state')
    (hspares : ∀ conn statement, request = .query conn statement →
      statement.Spares account.id) : Secure account task start state' := by
  have hpending : ∀ entries, state'.database.pending task = some entries →
      ∀ entry ∈ entries, entry.statement.Spares account.id := by
    intro entries hentries
    rw [perform_pending hperform, Function.update_self] at hentries
    unfold pendingStep at hentries
    split at hentries
    · obtain rfl := Option.some.inj hentries
      simp
    · cases hentries
    · cases hentries
    · rename_i statement result hexchange
      obtain ⟨rfl, -⟩ := Exchange.mk.inj hexchange
      obtain ⟨entries', hbefore, rfl⟩ := Option.map_eq_some_iff.mp hentries
      intro entry hmem
      rcases List.mem_append.mp hmem with hold | hnew
      · exact h.pending _ hbefore entry hold
      · obtain rfl := List.mem_singleton.mp hnew
        exact hspares _ _ rfl
    · exact h.pending entries hentries
  have hnew : state'.database.committed.Unique ∧
      NothingNew account state.database.committed state'.database.committed := by
    rcases perform_committed hperform with
      hsame | ⟨statement, result, hexchange, hrun⟩ | ⟨-, entries, hentries, hreplay⟩
    · rw [hsame]
      exact ⟨h.unique, .refl _⟩
    · exact ⟨run_unique hrun h.unique,
        run_nothingNew hrun (hspares _ _ (congrArg Exchange.request hexchange))⟩
    · refine ⟨replay_unique hreplay h.unique, ?_⟩
      exact Schema.replay_induction NothingNew.refl (fun _ _ _ => NothingNew.trans)
        (fun entry hentry _ _ _ hrun _ => run_nothingNew hrun (h.pending _ hentries _ hentry))
        hreplay
  exact ⟨hnew.1, hnew.2.kept h.present, h.nothingNew.trans hnew.2, hpending⟩

theorem Passes.secure (h : Passes ext isolation task state log state')
    (hspares : ∀ exchange ∈ log, ∀ conn statement, exchange.request = .query conn statement →
      statement.Spares account.id) (hsecure : Secure account task start state) :
    Secure account task start state' := by
  induction h with
  | nil => exact hsecure
  | snoc _ hperform ih =>
      refine (ih fun exchange hmem => hspares exchange ?_).perform hperform ?_
      · exact List.mem_append_left _ hmem
      · exact hspares _ (List.mem_append_right _ (List.mem_singleton_self _))

theorem Passes.wrote {statement : Statement} {P : Tables → Prop}
    (h : Passes ext isolation task state log state')
    (hspares : ∀ exchange ∈ log, ∀ conn statement, exchange.request = .query conn statement →
      statement.Spares account.id) (hsecure : Secure account task start state)
    (hpending : state.database.pending task = none)
    (hkept : ∀ tables tables', P tables → NothingNew account tables tables' → P tables')
    (hrun : ∀ tables result tables', tables.Unique →
      statement.run tables = .ok (result, tables') → P tables')
    (hwrote : Wrote log statement) : P state'.database.committed := by
  have hlater {before after : Log} {exchange : Exchange ServerSig} {middle : ServerState τ}
      (hlog : log = before ++ exchange :: after) (hmiddle : Secure account task start middle)
      (hrest : Passes ext isolation task middle after state')
      (hP : P middle.database.committed) : P state'.database.committed := by
    refine hkept _ _ hP (Secure.nothingNew (hrest.secure (fun exchange hmem => ?_)
      ⟨hmiddle.unique, hmiddle.present, .refl _, hmiddle.pending⟩))
    exact hspares exchange (by simp [hlog, hmem])
  have hearlier {before after : Log} {exchange : Exchange ServerSig} {middle : ServerState τ}
      (hlog : log = before ++ exchange :: after)
      (hbefore : Passes ext isolation task state before middle) :
      Secure account task start middle :=
    hbefore.secure (fun exchange hmem => hspares exchange (by simp [hlog, hmem])) hsecure
  rcases hwrote with ⟨result, hmem⟩ | ⟨before, after, entries, result, hlog, hentries, hmem⟩
  · obtain ⟨before, after, hlog⟩ := List.append_of_mem hmem
    rw [hlog] at h
    obtain ⟨first, second, hfirst, hperform, hrest⟩ := h.split
    have hsecure₁ := hearlier hlog hfirst
    have hsecure₂ := hsecure₁.perform hperform fun conn statement hquery =>
      hspares _ hmem conn statement hquery
    refine hlater hlog hsecure₂ hrest ?_
    obtain ⟨database, hquery, rfl⟩ := perform_query hperform
    obtain ⟨committed, hmade, rfl⟩ := Database.query_db hquery
    exact hrun _ _ _ hsecure₁.unique hmade
  · rw [hlog] at h
    obtain ⟨first, second, hfirst, hperform, hrest⟩ := h.split
    have hsecure₁ := hearlier hlog hfirst
    have hsecure₂ := hsecure₁.perform hperform fun _ _ hquery => by cases hquery
    refine hlater hlog hsecure₂ hrest ?_
    obtain ⟨database, hcommit, rfl⟩ := perform_commit hperform
    obtain ⟨entries', committed, hentries', hreplay, rfl⟩ := Database.commit_ok hcommit
    rw [hfirst.pending hpending, hentries, Option.some.injEq] at hentries'
    subst hentries'
    obtain ⟨made, later, rfl⟩ := List.append_of_mem hmem
    obtain ⟨view, result', view', hview, hmade, -, hrest'⟩ := Schema.replay_split hreplay
    refine hkept _ _ (hrun _ _ _ (replay_unique hview hsecure₁.unique) hmade) ?_
    refine Schema.replay_induction NothingNew.refl (fun _ _ _ => NothingNew.trans) ?_ hrest'
    intro entry hentry _ _ _ hrun' _
    have hopen := hfirst.pending hpending
    rw [hentries] at hopen
    exact run_nothingNew hrun' (hsecure₁.pending _ hopen entry (by simp [hentry]))

end Secure

section Calls

variable {account : Account} {start : Tables} {log full : Log} {call : Call}

/-- What a call presents is no credential of the account. -/
structure Unheld (ext : Externals) (account : Account) (start : Tables) (full : Log)
    (call : Call) : Prop where
  refreshToken : ∀ request, call = .publicly (.refresh request) →
    ∀ row ∈ start.refreshToken, row.accountId = account.id →
      row.tokenHash ≠ hashToken ext (trimmed request.refreshToken)
  pairingCode : ∀ request code, call = .publicly (.redeemPairingCode request) →
    normalizeCode ext request.code = some code → ∀ row ∈ start.pairingCode,
      row.accountId = account.id → row.code ≠ code
  recoveryCode : ∀ request, call = .publicly (.loginMfa request) →
    ∀ row ∈ start.recoveryCode, row.accountId = account.id → row.usedAt = none →
      row.codeHash ≠ hashRecoveryCode ext (trimmed request.code)
  totpCode : ∀ request, call = .publicly (.loginMfa request) → ∀ stored secret time,
    account.totpSecret = some stored → decryptSecret ext stored = .ok secret →
    ⟨.now, time⟩ ∈ full → ext.checkTotp secret time (trimmed (trimmed request.code)) = false
  caller : ∀ accountId route, call = .protectedly accountId route →
    accountId.uuid ≠ account.id

theorem Entitled.other {id : Uuid} (h : Entitled ext call log id)
    (hfacts : ∀ exchange ∈ log, Fact account start exchange) (hlog : log ⊆ full)
    (hunheld : Unheld ext account start full call) (henabled : account.totpEnabled = true) :
    id ≠ account.id := by
  intro hid
  cases h with
  | registered hinsert => exact hfacts _ hinsert hid
  | loggedIn hfound _ hdisabled =>
      rw [hfacts _ hfound hid, henabled] at hdisabled
      cases hdisabled
  | secondFactor hshown =>
      rcases hshown with ⟨found, hsaw, stored, secret, time, hstored, hsecret, hnow, hcheck⟩ |
        ⟨time, count, huse, hcount⟩
      · obtain ⟨conn, before, after, rfl, -⟩ := hsaw
        obtain ⟨hfound, hsame⟩ := hfacts _ (List.mem_append_right before List.mem_cons_self)
        obtain rfl := hsame (hfound.trans hid)
        have hfalse := hunheld.totpCode _ rfl stored secret time hstored hsecret (hlog hnow)
        rw [hcheck] at hfalse
        cases hfalse
      · obtain ⟨row, hmem, haccount, hhash, hunused⟩ := hfacts _ huse hcount hid
        exact hunheld.recoveryCode _ rfl row hmem haccount hunused hhash
  | refreshed hfound =>
      obtain ⟨row, hmem, haccount, hhash⟩ := hfacts _ hfound hid
      exact hunheld.refreshToken _ rfl row hmem haccount hhash
  | redeemed hcode hfound =>
      obtain ⟨row, hmem, haccount, hrow⟩ := hfacts _ hfound hid
      exact hunheld.pairingCode _ _ rfl hcode row hmem haccount hrow
  | authenticated => exact hunheld.caller _ _ rfl hid
  | loaded hfound =>
      obtain ⟨hrow, -⟩ := hfacts _ hfound
      exact hunheld.caller _ _ rfl (hrow.symm.trans hid)

theorem OwnerGuard.spares {request : ServerRequest} (h : OwnerGuard ext call log request)
    (hother : ∀ id, Entitled ext call log id → id ≠ account.id) {conn : Conn}
    {statement : Statement} (hquery : request = .query conn statement) :
    statement.Spares account.id := by
  subst hquery
  cases statement with
  | insertRefreshToken | insertPairingCode | insertRecoveryCode | updateAccount => exact hother _ h
  | updateRefreshToken => exact h
  | _ => trivial

variable {τ : Type} [DecidableEq τ] {isolation : Isolation} {task : τ}
  {state state' : ServerState τ}

theorem Passes.spares (h : Passes ext isolation task state log state')
    (hguard : ∀ before exchange after, log = before ++ exchange :: after →
      OwnerGuard ext call before exchange.request)
    (hsecure : Secure account task start state) (hlog : log ⊆ full)
    (hunheld : Unheld ext account start full call) (henabled : account.totpEnabled = true) :
    Secure account task start state' ∧ (∀ exchange ∈ log, Fact account start exchange) ∧
      ∀ exchange ∈ log, ∀ conn statement, exchange.request = .query conn statement →
        statement.Spares account.id := by
  induction h with
  | nil => exact ⟨hsecure, by simp, by simp⟩
  | snoc _ hperform ih =>
      rename_i log _ _ request response _
      obtain ⟨hmiddle, hfacts, hspares⟩ := ih
        (fun before exchange after hsplit => hguard before exchange (after ++ [_])
          (by rw [hsplit, List.append_assoc, List.cons_append]))
        (fun exchange hmem => hlog (List.mem_append_left _ hmem))
      have hlast : ∀ conn statement, request = .query conn statement →
          statement.Spares account.id := fun conn statement hquery =>
        (hguard log ⟨request, response⟩ [] rfl).spares (fun id hentitled => hentitled.other hfacts
          (fun exchange hmem => hlog (List.mem_append_left _ hmem)) hunheld henabled) hquery
      refine ⟨hmiddle.perform hperform hlast, fun exchange hmem => ?_, fun exchange hmem => ?_⟩
      · rcases List.mem_append.mp hmem with hold | hnew
        · exact hfacts exchange hold
        · obtain rfl := List.mem_singleton.mp hnew
          exact hmiddle.fact hperform
      · rcases List.mem_append.mp hmem with hold | hnew
        · exact hspares exchange hold
        · obtain rfl := List.mem_singleton.mp hnew
          exact hlast

end Calls

end Failsafe.Server
