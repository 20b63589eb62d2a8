import Failsafe.Server.AuthRules

/-!
Refresh tokens under serializable transactions: a rotation turns one valid token into one
new one, so that of all tokens that descend from one at most one is valid.
-/

namespace Failsafe.Server

open Failsafe.Core Failsafe.Lib

variable {ext : Externals} {isolation : Isolation}

/-- The columns that are set when a token is revoked. -/
def revoking (time : Timestamp) : RefreshToken.ActiveModel :=
  { RefreshToken.ActiveModel.unchanged with revokedAt := some (some time) }

/-- What a transaction that turns one token into another has done before it commits. -/
def RotatesInto (ext : Externals) (raw : String) (record new : RefreshToken) (log : Log) : Prop :=
  ∃ account time revokedAt count record' row,
    pendingAfter log = some [
      ⟨.findRefreshTokenByHash (hashToken ext raw), some record⟩,
      ⟨.findAccount record.accountId, some account⟩,
      ⟨.updateRefreshToken record.id (revoking revokedAt), count⟩,
      ⟨.findRefreshToken record.id, some record'⟩,
      ⟨.insertRefreshToken new, ()⟩,
      ⟨.findRefreshToken new.id, some row⟩] ∧
    record.revokedAt = none ∧ ⟨.now, time⟩ ∈ log ∧ time ≤ record.expiresAt ∧
    new.accountId = record.accountId ∧ new.revokedAt = none ∧ ⟨.now, new.createdAt⟩ ∈ log ∧
    new.expiresAt = new.createdAt + REFRESH_TOKEN_TTL

/-- What a transaction that rotates a token has done before it commits. -/
def Rotates (ext : Externals) (raw : String) (log : Log) : Prop :=
  ∃ record new, RotatesInto ext raw record new log

/-- The response of a rotation has the token that is stored, and one that was signed for its
account. -/
def Renews (ext : Externals) (raw : String) (response : AuthResponse) (log : Log) : Prop :=
  ∃ record new newRaw token claims, RotatesInto ext raw record new log ∧
    response = .authenticated token newRaw ∧ new.tokenHash = hashToken ext newRaw ∧
    Saw log (.findRefreshTokenByHash (hashToken ext raw)) (some record) ∧
    (∃ account, Saw log (.findAccount record.accountId) (some account)) ∧
    ⟨.generateRawToken, newRaw⟩ ∈ log ∧ ⟨.encodeJwt claims, .ok token⟩ ∈ log ∧
    claims.sub = AccountId.toText ⟨record.accountId⟩ ∧ claims.mfaPending = none ∧
    ∃ time, ⟨.now, time⟩ ∈ log ∧ claims.exp = time / SECOND + TOKEN_TTL

/-- Why a token is not rotated. -/
def Stale (ext : Externals) (raw : String) (log : Log) : Prop :=
  Saw log (.findRefreshTokenByHash (hashToken ext raw)) none ∨
  ∃ record, Saw log (.findRefreshTokenByHash (hashToken ext raw)) (some record) ∧
    (record.revokedAt ≠ none ∨ (∃ time, ⟨.now, time⟩ ∈ log ∧ record.expiresAt < time) ∨
      Saw log (.findAccount record.accountId) none)

section Rules

variable {guard : Log → ServerRequest → Prop} [Lenient guard] {log : Log}

theorem rotateInTransaction_handles {raw : String}
    (hupdate : ∀ log' id time, guard log' (.query .txn (.updateRefreshToken id (revoking time))))
    (hinsert : ∀ log' new, guard log' (.query .txn (.insertRefreshToken new))) :
    Handles guard (rotateInTransaction ext raw) (Renews ext raw)
      (fun error log' => error.statusCode = .internalServerError ∨
        error.statusCode = .unauthorized ∧ Stale ext raw log')
      (log ++ [⟨.begin, .ok ()⟩]) := by
  have hbegin : Unwritten .txn (log ++ [⟨.begin, .ok ()⟩]) := unwritten_begin
  refine .bind (.bind (.read rfl (fun record => ?_) fun _ => .inl rfl))
  cases record with
  | none => exact .throw (.inr ⟨rfl, .inl (.read hbegin)⟩)
  | some record =>
      have hrecord : Saw (log ++ [⟨.begin, .ok ()⟩] ++
          [⟨.query .txn (.findRefreshTokenByHash (hashToken ext raw)), .ok (some record)⟩])
          (.findRefreshTokenByHash (hashToken ext raw)) (some record) := .read hbegin
      refine .ite (fun hrevoked => .bind (.throw (.inr ⟨rfl, .inr ⟨record, hrecord, .inl ?_⟩⟩)))
        fun hrevoked => .bind (.now fun time => ?_)
      · exact Option.isSome_iff_ne_none.mp hrevoked
      refine .ite (fun hexpires => .bind (.throw (.inr ⟨rfl, .inr ⟨record, ?_, .inr (.inl ?_)⟩⟩)))
        fun hexpires => .bind (.read rfl (fun account => ?_) fun _ => .inl rfl)
      · exact hrecord.mono (List.prefix_append _ _)
      · exact ⟨time, by simp, hexpires⟩
      have haccount : Saw (log ++ [⟨.begin, .ok ()⟩] ++
          [⟨.query .txn (.findRefreshTokenByHash (hashToken ext raw)), .ok (some record)⟩] ++
          [⟨.now, time⟩] ++ [⟨.query .txn (.findAccount record.accountId), .ok account⟩])
          (.findAccount record.accountId) account := .read ((hbegin.snoc rfl).snoc rfl)
      cases account with
      | none =>
          refine .throw (.inr ⟨rfl, .inr ⟨record, hrecord.mono ?_, .inr (.inr haccount)⟩⟩)
          simp
      | some account =>
          refine .pure (.bind (.bind (.now fun revokedAt => .bind (.updateReturning ?_))))
          refine .query (hupdate _ _ _) (fun count => ⟨fun _ _ => .inl rfl, fun _ => ?_⟩)
            fun _ => .inl rfl
          refine .read rfl (fun row => ⟨?_, fun _ _ => .inl rfl⟩) fun _ => .inl rfl
          rintro record' rfl
          refine .pure (.bind (.ask (Lenient.allow _ _ rfl) fun newRaw => ?_))
          refine .bind (.bind (.now fun createdAt => .bind (.newUuid fun id => .pure ?_)))
          refine .bind (.insertReturning (.query (hinsert _ _) (fun _ => ?_) fun _ => .inl rfl))
          refine .read rfl (fun row => ⟨?_, fun _ _ => .inl rfl⟩) fun _ => .inl rfl
          rintro row' rfl
          refine .bind (.bind (.bind (.now fun iat => .pure ?_)))
          refine .askTry ⟨Lenient.allow _ _ rfl, ?_⟩
          rintro token _ rfl
          cases token with
          | error message => exact .inl rfl
          | ok token =>
              let new : RefreshToken :=
                { id, accountId := record.accountId, tokenHash := hashToken ext newRaw,
                  expiresAt := createdAt + REFRESH_TOKEN_TTL, revokedAt := none, createdAt }
              let claims : Claims :=
                { sub := AccountId.toText ⟨record.accountId⟩, exp := iat / SECOND + TOKEN_TTL,
                  iat := iat / SECOND, mfaPending := none }
              show Renews ext raw (.authenticated token newRaw) _
              refine ⟨record, new, newRaw, token, claims, ?_, rfl, rfl, hrecord.mono ?_,
                ⟨account, haccount.mono ?_⟩, ?_, ?_, rfl, rfl, iat, ?_, rfl⟩
              · refine ⟨account, time, revokedAt, count, record', row', ?_, ?_, ?_,
                  Nat.not_lt.mp hexpires, rfl, rfl, ?_, rfl⟩
                · simp only [pendingAfter_append]
                  rfl
                · simpa using hrevoked
                · simp
                · simp [new]
              · simp
              · simp
              · simp
              · exact List.mem_append_right _ (List.mem_singleton_self _)
              · simp

theorem Renews.rotates {raw : String} {response : AuthResponse}
    (h : Renews ext raw response log) : Rotates ext raw log := by
  obtain ⟨record, new, -, -, -, hrotates, -⟩ := h
  exact ⟨record, new, hrotates⟩

theorem rotateInTransaction_obeys {raw : String}
    (hupdate : ∀ log' id time, guard log' (.query .txn (.updateRefreshToken id (revoking time))))
    (hinsert : ∀ log' new, guard log' (.query .txn (.insertRefreshToken new))) :
    Obeys guard (rotateInTransaction ext raw) (fun _ log' => Rotates ext raw log')
      (log ++ [⟨.begin, .ok ()⟩]) :=
  (rotateInTransaction_handles hupdate hinsert).mono (fun _ _ => Renews.rotates) fun _ _ _ => trivial

end Rules

/-- The account whose tokens a call revokes. -/
def Call.revokes : Call → Option AccountId
  | .protectedly accountId (.changePassword _) | .protectedly accountId (.totpDisable _) =>
      some accountId
  | _ => none

/-- What a call may do to the refresh tokens after its history. -/
def TokenGuard (ext : Externals) (call : Call) (log : Log) : ServerRequest → Prop
  | .query _ (.updateRefreshToken _ active) => ∃ time, active = revoking time
  | .commit =>
      (∀ request, call = .publicly (.refresh request) →
        Rotates ext (trimmed request.refreshToken) log) ∧
      ∀ accountId ∈ call.revokes, ∃ before time count,
        log = before ++ [⟨.query .txn (.revokeRefreshTokens accountId.uuid time), .ok count⟩]
  | .respond response => ∀ request, call = .publicly (.refresh request) →
      (response.status = .ok ↔ Committed log)
  | _ => True

instance (call : Call) : Lenient (TokenGuard ext call) := by
  constructor
  intro log request hquiet
  cases request with
  | commit | respond => cases hquiet
  | query conn statement =>
      cases statement with
      | updateRefreshToken => cases hquiet
      | _ => trivial
  | _ => trivial

section Calls

variable {log : Log}

theorem refresh_handles {request : AuthRefreshRequest} (hlog : ¬Committed log) :
    Handles (TokenGuard ext (.publicly (.refresh request))) (refresh ext request)
      (fun _ log' => Committed log') (fun _ log' => ¬Committed log') log := by
  refine .ite (fun _ => .bind (.throw hlog)) fun _ => .withTransaction (fun _ => ?_) ?_
  · exact (committed_snoc (by simp)).not.mpr hlog
  have htouches : (rotateInTransaction ext (trimmed request.refreshToken)).run.All
      (Touches [.write .txn .update .refreshToken, .write .txn .insert .refreshToken]) :=
    rotateInTransaction_touches (by decide) (by decide)
  have hbegun : ¬Committed (log ++ [⟨.begin, .ok ()⟩]) := (committed_snoc (by simp)).not.mpr hlog
  have hobeys : Obeys (TokenGuard ext (.publicly (.refresh request)))
      (rotateInTransaction ext (trimmed request.refreshToken))
      (fun _ log' => Rotates ext (trimmed request.refreshToken) log')
      (log ++ [⟨.begin, .ok ()⟩]) :=
    rotateInTransaction_obeys (fun _ _ time => ⟨time, rfl⟩) fun _ _ => trivial
  refine (Handles.uncommitted hobeys htouches (by decide) hbegun).mono ?_ ?_
  · rintro response log' ⟨hrotates, hlog'⟩
    refine ⟨⟨?_, by simp [Call.revokes]⟩, by simp [Committed], fun message => ?_⟩
    · rintro request' ⟨⟩
      exact hrotates
    · simpa [Committed] using hlog'
  · rintro error log' ⟨-, hlog'⟩
    exact (committed_snoc (by simp)).not.mpr hlog'

theorem revokeAll_obeys {call : Call} {accountId : AccountId} {post : Unit → Log → Prop}
    (h : ∀ before time count, post () (before ++
      [⟨.query .txn (.revokeRefreshTokens accountId.uuid time), .ok count⟩])) :
    Obeys (TokenGuard ext call) (revokeAllForAccount .txn accountId) post log :=
  .bind (.now fun time => .bind (.query trivial fun count => .pure (h _ time count)))

theorem logoutToken_obeys {call : Call} {raw : String} :
    Obeys (TokenGuard ext call) (logoutToken ext raw) (fun _ _ => True) log := by
  refine .bind (.read rfl fun record => ?_)
  cases record with
  | none => trivial
  | some record =>
      refine .ite (fun _ => .bind (.now fun time => .bind ?_)) fun _ => trivial
      exact .updateRefreshToken ⟨time, rfl⟩ fun _ _ => trivial

theorem tokenGuard_ensures (call : Call) :
    (call.run ext).Ensures (TokenGuard ext call) Prog.heard (fun _ _ => True) [] := by
  have hother (hupdate : ∀ conn, .write conn .update .refreshToken ∉ call.effects)
      (hrefresh : ∀ request, call ≠ .publicly (.refresh request)) (hrevokes : call.revokes = none) :
      (call.run ext).Ensures (TokenGuard ext call) Prog.heard (fun _ _ => True) [] := by
    refine Obeys.run (.of_all (handle_touches ext call) fun log request htouches => ?_)
      fun _ _ request hcall => (hrefresh request hcall).elim
    cases request with
    | commit =>
        refine ⟨fun request hcall => (hrefresh request hcall).elim, ?_⟩
        simp [hrevokes]
    | respond => exact htouches.elim
    | query conn statement =>
        cases statement with
        | updateRefreshToken => exact (hupdate conn (htouches _ _ rfl)).elim
        | _ => trivial
    | _ => trivial
  cases call with
  | publicly route =>
      cases route with
      | refresh request =>
          refine Handles.run (.bind ((refresh_handles List.not_mem_nil).mono ?_ ?_))
          · rintro response log hcommitted request' -
            simp [json, hcommitted]
          · rintro error log hlog request' -
            exact ⟨fun hok => (error.statusCode_ne_ok hok).elim, fun h => (hlog h).elim⟩
      | logout request =>
          refine Obeys.run (.bind (.ite (fun _ => trivial) fun _ => ?_)) fun _ _ _ h => by cases h
          exact logoutToken_obeys.mono fun _ _ _ => trivial
      | _ => exact hother (by simp [Call.effects]) (by simp) rfl
  | protectedly accountId route =>
      cases route with
      | changePassword request =>
          refine Obeys.run (.bind (.ite (fun _ => .bind .throw) fun _ => .bind ?_))
            fun _ _ _ h => by cases h
          refine .ite (fun _ => .throw) fun _ => ?_
          refine .bind (loadAccount_obeys fun account => .bind (.liftExcept fun _ _ => .bind ?_))
          refine .askTry ⟨trivial, ?_⟩
          rintro passwordHash _ rfl
          cases passwordHash with
          | error message => trivial
          | ok passwordHash =>
              refine .withTransaction (.bind (.updateAccount trivial fun _ _ => ?_))
              refine revokeAll_obeys fun before time count =>
                ⟨⟨fun _ h => (by cases h), ?_⟩, trivial⟩
              rintro accountId' ⟨⟩
              exact ⟨before, time, count, rfl⟩
      | totpDisable request =>
          refine Obeys.run (.bind (.ite (fun _ => .bind .throw) fun _ => .bind ?_))
            fun _ _ _ h => by cases h
          refine loadAccount_obeys fun account => .ite (fun _ => .bind .throw) fun _ => ?_
          refine .bind (.liftExcept fun _ _ => .bind ?_)
          refine (verifyTotpOrRecovery_obeys fun _ _ => trivial).mono fun _ log' _ => ?_
          refine .withTransaction
            (.bind (.query trivial fun _ => .bind (.updateAccount trivial ?_)))
          refine fun _ _ => revokeAll_obeys fun before time count =>
            ⟨⟨fun _ h => (by cases h), ?_⟩, trivial⟩
          rintro accountId' ⟨⟩
          exact ⟨before, time, count, rfl⟩
      | _ => exact hother (by simp [Call.effects]) (by simp) rfl

end Calls

section Rows

/-- Tokens stay as they were issued, and revoked ones stay revoked. -/
def TokenKept (tables tables' : Tables) : Prop :=
  ∀ row ∈ tables.refreshToken, ∃ row' ∈ tables'.refreshToken,
    row'.id = row.id ∧ row'.tokenHash = row.tokenHash ∧ row'.accountId = row.accountId ∧
      row'.expiresAt = row.expiresAt ∧ (row.revokedAt.isSome = true → row'.revokedAt.isSome = true)

theorem TokenKept.refl (tables : Tables) : TokenKept tables tables :=
  fun row hmem => ⟨row, hmem, rfl, rfl, rfl, rfl, id⟩

theorem TokenKept.trans {tables₁ tables₂ tables₃ : Tables} (h : TokenKept tables₁ tables₂)
    (h' : TokenKept tables₂ tables₃) : TokenKept tables₁ tables₃ := by
  intro row hmem
  obtain ⟨row', hmem', hid, hhash, haccount, hexpires, hrevoked⟩ := h row hmem
  obtain ⟨row'', hmem'', hid', hhash', haccount', hexpires', hrevoked'⟩ := h' row' hmem'
  exact ⟨row'', hmem'', hid'.trans hid, hhash'.trans hhash, haccount'.trans haccount,
    hexpires'.trans hexpires, fun h => hrevoked' (hrevoked h)⟩

theorem run_tokenKept {statement : Statement} {result : statement.Result}
    {tables tables' : Tables} (h : statement.run tables = .ok (result, tables'))
    (hupdate : ∀ id active, statement = .updateRefreshToken id active →
      ∃ time, active = revoking time) : TokenKept tables tables' := by
  intro row hmem
  rcases run_refreshToken h with
    hsame | ⟨new, rfl, -, hrows⟩ | ⟨id, active, rfl, hrows⟩ | ⟨accountId, revokedAt, rfl, hrows⟩
  · exact ⟨row, hsame ▸ hmem, rfl, rfl, rfl, rfl, fun h => h⟩
  · exact ⟨row, by simp [hrows, hmem], rfl, rfl, rfl, rfl, fun h => h⟩
  · obtain ⟨time, rfl⟩ := hupdate id active rfl
    refine ⟨_, hrows ▸ List.mem_map_of_mem hmem, ?_⟩
    split
    · exact ⟨rfl, rfl, rfl, rfl, fun _ => rfl⟩
    · exact ⟨rfl, rfl, rfl, rfl, fun h => h⟩
  · refine ⟨_, hrows ▸ List.mem_map_of_mem hmem, ?_⟩
    split
    · exact ⟨rfl, rfl, rfl, rfl, fun _ => rfl⟩
    · exact ⟨rfl, rfl, rfl, rfl, fun h => h⟩

/-- One valid row becomes one new valid row of the same account. -/
structure RotatesRow (record new : RefreshToken) (tables tables' : Tables) : Prop where
  found : record ∈ tables.refreshToken
  valid : record.revokedAt = none
  account : new.accountId = record.accountId
  new_valid : new.revokedAt = none
  fresh : ∀ row ∈ tables.refreshToken, row.id ≠ new.id ∧ row.tokenHash ≠ new.tokenHash
  rows : ∃ time, tables'.refreshToken = (tables.refreshToken.map fun row =>
    if row.id = record.id then (revoking time).apply row else row) ++ [new]

theorem replay_rotates {hash : String} {record record' new row : RefreshToken}
    {account : Account} {revokedAt : Timestamp} {count : Nat} {tables tables' : Tables}
    (h : schema.replay isolation.firm [
      ⟨.findRefreshTokenByHash hash, some record⟩, ⟨.findAccount record.accountId, some account⟩,
      ⟨.updateRefreshToken record.id (revoking revokedAt), count⟩,
      ⟨.findRefreshToken record.id, some record'⟩, ⟨.insertRefreshToken new, ()⟩,
      ⟨.findRefreshToken new.id, some row⟩] tables = some tables')
    (hrecord : record.revokedAt = none) (haccount : new.accountId = record.accountId)
    (hnew : new.revokedAt = none)
    (hread : isolation = .serializable ∨ record.tokenHash = hash ∧ record ∈ tables.refreshToken) :
    record.tokenHash = hash ∧ RotatesRow record new tables tables' ∧
      tables'.account = tables.account := by
  obtain ⟨h, hfind⟩ := replay_read h rfl
  obtain ⟨hhash, hrow⟩ : record.tokenHash = hash ∧ record ∈ tables.refreshToken := by
    rcases hread with rfl | hread
    · have hfound := (Prod.mk.inj (Except.ok.inj (hfind rfl))).1
      exact ⟨by simpa using List.find?_some hfound, List.mem_of_find?_eq_some hfound⟩
    · exact hread
  obtain ⟨h, -⟩ := replay_read h rfl
  obtain ⟨tables₁, hupdate, h⟩ := replay_write h (isolation.firm_write _ rfl)
  obtain ⟨h, -⟩ := replay_read h rfl
  obtain ⟨tables₂, hinsert, h⟩ := replay_write h (isolation.firm_write _ rfl)
  obtain ⟨h, -⟩ := replay_read h rfl
  obtain rfl := Option.some.inj h
  obtain ⟨hnumber, rfl⟩ := Prod.mk.inj (Except.ok.inj hupdate)
  obtain ⟨hclash, hinserted⟩ := insert_ok hinsert
  obtain ⟨-, rfl⟩ := Prod.mk.inj hinserted
  refine ⟨hhash, ⟨hrow, hrecord, haccount, hnew, ?_, revokedAt, by simp⟩, rfl⟩
  intro row hmem
  have hother := hclash _ (List.mem_map_of_mem hmem)
  rw [Bool.or_eq_false_iff, beq_eq_false_iff_ne, beq_eq_false_iff_ne] at hother
  split at hother <;> exact hother

theorem replay_revokes {entries : List schema.Entry} {accountId : Uuid} {revokedAt : Timestamp}
    {count : Nat} {tables tables' : Tables}
    (h : schema.replay isolation.firm
      (entries ++ [⟨.revokeRefreshTokens accountId revokedAt, count⟩]) tables = some tables') :
    ∀ row ∈ tables'.refreshToken, row.accountId = accountId → row.revokedAt.isSome = true := by
  obtain ⟨middle, result, after, -, hrun, -, hafter⟩ := Schema.replay_split h
  obtain ⟨-, rfl⟩ := Prod.mk.inj (Except.ok.inj hrun)
  obtain rfl := Option.some.inj hafter
  intro row hmem haccount
  obtain ⟨row', -, rfl⟩ := List.mem_map.mp hmem
  split
  · rfl
  · rename_i hother
    rw [if_neg hother] at haccount
    dsimp only at hother
    rw [haccount, beq_self_eq_true, Bool.true_and, Option.isNone_iff_eq_none] at hother
    exact Option.isSome_iff_ne_none.mpr hother

end Rows

section Lineage

variable {α : Type} {R : α → α → Prop}

/-- Where everything that goes on is no longer live, at most one descendant is live. -/
theorem live_unique (hunique : Relator.RightUnique R) {Live : α → Prop}
    (hspent : ∀ a b, R a b → ¬Live a) {root a b : α} (ha : Relation.ReflTransGen R root a)
    (hb : Relation.ReflTransGen R root b) (hlive : Live a) (hlive' : Live b) : a = b := by
  have hend {a b : α} (hab : Relation.ReflTransGen R a b) (hlive : Live a) : a = b := by
    rcases hab.cases_head with hsame | ⟨c, hstep, -⟩
    · exact hsame
    · exact (hspent a c hstep hlive).elim
  rcases Relation.ReflTransGen.total_of_right_unique hunique ha hb with hab | hba
  · exact hend hab hlive
  · exact (hend hba hlive').symm

end Lineage

section Runs

variable {τ : Type} [DecidableEq τ] {cond : ServerState τ → ServerLabel τ → Prop}
  {pool pool₁ pool₂ pool' : Pool ServerSig τ (ServerState τ)}
  {labels labels' : List (ServerLabel τ)} {task : τ} {request : AuthRefreshRequest}

theorem ServerRun.tokenKept (h : ServerRun ext isolation cond pool labels pool₁)
    (hidle : Idle pool) (hrest : ServerRun ext isolation cond pool₁ labels' pool') :
    TokenKept pool₁.state.database.committed pool'.state.database.committed := by
  refine ServerRun.relates h hrest TokenKept.refl (fun _ _ _ => TokenKept.trans) ?_
  intro labels middle task request response last hrun hstep
  refine ServerRun.changes hrun hidle hstep TokenKept.refl (fun _ _ _ => TokenKept.trans) ?_
  intro call log conn statement result tables tables' _ _ _ hguard _ hrun'
  refine run_tokenKept hrun' fun id active hstatement => ?_
  subst hstatement
  exact hguard _ _ (tokenGuard_ensures call)

/-- A rotation that commits turns the row of its token, valid until then, into a new one. -/
theorem ServerRun.rotates (h : ServerRun ext .serializable cond pool labels pool₁)
    (hidle : Idle pool) (hcall : .event ⟨task, .publicly (.refresh request)⟩ ∈ labels)
    (hstep : (serverWorld ext .serializable).step pool₁ (.call task .commit (.ok ())) =
      some pool₂) :
    ∃ record new entries, record.tokenHash = hashToken ext (trimmed request.refreshToken) ∧
      RotatesRow record new pool₁.state.database.committed pool₂.state.database.committed ∧
      pendingAfter (trace task labels) = some entries ∧
      (∀ other, ⟨.insertRefreshToken other, ()⟩ ∈ entries ↔ other = new) ∧
      (∃ time, ⟨.now, time⟩ ∈ trace task labels ∧ time ≤ record.expiresAt) ∧
      ⟨.now, new.createdAt⟩ ∈ trace task labels ∧
      new.expiresAt = new.createdAt + REFRESH_TOKEN_TTL := by
  have hguard := ServerRun.asked_by h hidle hcall hstep (tokenGuard_ensures _)
  obtain ⟨record, new, account, time, revokedAt, count, record', row, hpending, hvalid, hnow,
    hexpires, haccount, hnew, hcreated, hend⟩ := hguard.1 request rfl
  obtain ⟨entries, hentries, hreplay⟩ := h.commit_replays hidle hstep
  obtain rfl := Option.some.inj (hentries.symm.trans hpending)
  obtain ⟨hhash, hrotates, -⟩ := replay_rotates hreplay hvalid haccount hnew (.inl rfl)
  refine ⟨record, new, _, hhash, hrotates, hpending, fun other => ?_, ⟨time, hnow, hexpires⟩,
    hcreated, hend⟩
  constructor
  · intro hmem
    have hstatement := List.mem_map_of_mem (f := Schema.Entry.statement) hmem
    simpa using hstatement
  · rintro rfl
    simp

/-- The row of a hash has been revoked. -/
def Revoked (hash : String) (tables : Tables) : Prop :=
  ∃ row ∈ tables.refreshToken, row.tokenHash = hash ∧ row.revokedAt.isSome = true

theorem Revoked.kept {hash : String} {tables tables' : Tables} (h : Revoked hash tables)
    (hkept : TokenKept tables tables') : Revoked hash tables' := by
  obtain ⟨row, hmem, hhash, hrevoked⟩ := h
  obtain ⟨row', hmem', -, hhash', -, -, hrevoked'⟩ := hkept row hmem
  exact ⟨row', hmem', hhash'.trans hhash, hrevoked' hrevoked⟩

theorem Revoked.not_valid {tables : Tables} {row : RefreshToken}
    (h : Revoked row.tokenHash tables) (hunique : tables.Unique)
    (hmem : row ∈ tables.refreshToken) : row.revokedAt ≠ none := by
  obtain ⟨row', hmem', hhash, hrevoked⟩ := h
  obtain rfl := List.inj_on_of_nodup_map hunique.tokenHash hmem' hmem hhash
  intro hnone
  rw [hnone] at hrevoked
  cases hrevoked

theorem RotatesRow.revoked {record new : RefreshToken} {tables tables' : Tables}
    (h : RotatesRow record new tables tables') : Revoked record.tokenHash tables' := by
  obtain ⟨time, hrows⟩ := h.rows
  refine ⟨(revoking time).apply record, ?_, rfl, rfl⟩
  rw [hrows]
  refine List.mem_append_left _ (List.mem_map.mpr ⟨record, h.found, ?_⟩)
  rw [if_pos rfl]

theorem ServerRun.rotate_order {task' : τ} {request' : AuthRefreshRequest}
    (h : ServerRun ext .serializable cond pool
      (labels ++ .call task .commit (.ok ()) :: labels') pool₁) (hidle : Idle pool)
    (hunique : pool.state.database.committed.Unique)
    (hcall : .event ⟨task, .publicly (.refresh request)⟩ ∈ labels)
    (hcall' : .event ⟨task', .publicly (.refresh request')⟩ ∈
      labels ++ .call task .commit (.ok ()) :: labels')
    (hhash : hashToken ext (trimmed request.refreshToken) =
      hashToken ext (trimmed request'.refreshToken)) :
    (serverWorld ext .serializable).step pool₁ (.call task' .commit (.ok ())) = none := by
  rw [Option.eq_none_iff_forall_ne_some]
  intro pool₄ hstep'
  obtain ⟨pool₂, pool₃, hfirst, hcond, hstep, hrest⟩ := World.Run.split_inv h
  obtain ⟨record, new, entries, hrecord, hrotates, -⟩ :=
    ServerRun.rotates hfirst hidle hcall hstep
  obtain ⟨record', new', entries', hrecord', hrotates', -⟩ :=
    ServerRun.rotates h hidle hcall' hstep'
  have hkept := ServerRun.tokenKept (.snoc hfirst hcond hstep) hidle hrest
  have hrevoked := hrotates.revoked.kept hkept
  rw [hrecord, hhash, ← hrecord'] at hrevoked
  exact hrevoked.not_valid (h.unique hunique) hrotates'.found hrotates'.valid

/-- In these labels a token with one hash was turned into one with another. -/
def Rotation (ext : Externals) (labels : List (ServerLabel τ)) (old new : String) : Prop :=
  ∃ earlier task later request entries row,
    labels = earlier ++ .call task .commit (.ok ()) :: later ∧
    .event ⟨task, .publicly (.refresh request)⟩ ∈ labels ∧
    hashToken ext (trimmed request.refreshToken) = old ∧
    pendingAfter (trace task earlier) = some entries ∧
    ⟨.insertRefreshToken row, ()⟩ ∈ entries ∧ row.tokenHash = new

theorem ServerRun.rotation_unique (h : ServerRun ext .serializable cond pool labels pool')
    (hidle : Idle pool) (hunique : pool.state.database.committed.Unique) :
    Relator.RightUnique (Rotation ext labels) := by
  rintro old new new' ⟨earlier, task, later, request, entries, row, hlabels, hcall, hold, hpending,
    hrow, hnew⟩ ⟨earlier', task', later', request', entries', row', hlabels', hcall', hold',
    hpending', hrow', hnew'⟩
  have hhash := hold.trans hold'.symm
  have hrun := h
  have hrun' := h
  rw [hlabels] at hrun
  rw [hlabels'] at hrun'
  obtain ⟨pool₁, pool₂, hearlier, -, hstep, -⟩ := World.Run.split_inv hrun
  obtain ⟨pool₃, pool₄, hearlier', -, hstep', -⟩ := World.Run.split_inv hrun'
  have hstarted := ServerRun.call_mem_step hrun hidle (hlabels ▸ hcall)
  have hstarted' := ServerRun.call_mem_step hrun' hidle (hlabels' ▸ hcall')
  obtain ⟨rfl, hsame, -⟩ : earlier = earlier' ∧ _ := by
    refine eq_of_split (hlabels.symm.trans hlabels') ?_ ?_
    · rintro middle rfl
      rw [ServerRun.rotate_order hearlier' hidle hunique hstarted hstarted' hhash] at hstep'
      cases hstep'
    · rintro middle rfl
      rw [ServerRun.rotate_order hearlier hidle hunique hstarted' hstarted hhash.symm] at hstep
      cases hstep
  obtain rfl := (Label.call.inj hsame).1
  obtain rfl := Option.some.inj (hpending.symm.trans hpending')
  obtain ⟨record, fresh, entries', -, -, hentries, hinserts, -⟩ :=
    ServerRun.rotates hearlier hidle hstarted hstep
  obtain rfl := Option.some.inj (hpending.symm.trans hentries)
  rw [← hnew, ← hnew', (hinserts row).mp hrow, (hinserts row').mp hrow']

theorem ServerRun.rotation_revokes (h : ServerRun ext .serializable cond pool labels pool')
    (hidle : Idle pool) {old new : String} (hrotation : Rotation ext labels old new) :
    Revoked old pool'.state.database.committed := by
  obtain ⟨earlier, task, later, request, entries, row, rfl, hcall, rfl, -⟩ := hrotation
  obtain ⟨pool₁, pool₂, hearlier, hcond, hstep, hlater⟩ := World.Run.split_inv h
  obtain ⟨record, new, entries, hrecord, hrotates, -⟩ :=
    ServerRun.rotates hearlier hidle (ServerRun.call_mem_step h hidle hcall) hstep
  rw [← hrecord]
  exact hrotates.revoked.kept
    (ServerRun.tokenKept (.snoc hearlier hcond hstep) hidle hlater)

theorem ServerRun.revokes (h : ServerRun ext isolation cond pool labels pool₁)
    (hidle : Idle pool) {call : Call} {accountId : AccountId}
    (hcall : .event ⟨task, call⟩ ∈ labels) (hrevokes : call.revokes = some accountId)
    (hstep : (serverWorld ext isolation).step pool₁ (.call task .commit (.ok ())) = some pool₂) :
    ∀ row ∈ pool₂.state.database.committed.refreshToken, row.accountId = accountId.uuid →
      row.revokedAt.isSome = true := by
  have hguard := ServerRun.asked_by h hidle hcall hstep (tokenGuard_ensures call)
  obtain ⟨before, time, count, htrace⟩ := hguard.2 accountId hrevokes
  obtain ⟨entries, hpending, hreplay⟩ := h.commit_replays hidle hstep
  rw [htrace, pendingAfter_append] at hpending
  obtain ⟨entries, -, rfl⟩ := Option.map_eq_some_iff.mp hpending
  exact replay_revokes hreplay

/-- What holds of the refresh tokens in a run. -/
structure Lineages (ext : Externals) (cond : ServerState τ → ServerLabel τ → Prop)
    (pool : Pool ServerSig τ (ServerState τ)) (labels : List (ServerLabel τ))
    (pool' : Pool ServerSig τ (ServerState τ)) : Prop where
  rotated_once : ∀ task task' request request',
    .event ⟨task, .publicly (.refresh request)⟩ ∈ labels →
    .event ⟨task', .publicly (.refresh request')⟩ ∈ labels →
    hashToken ext (trimmed request.refreshToken) =
      hashToken ext (trimmed request'.refreshToken) →
    Committed (trace task labels) → Committed (trace task' labels) → task = task'
  /-- A rotation that succeeds finds its row valid when it commits, and looked at the clock
  when the row had not expired; the new row lives from a time that the rotation saw. -/
  rotated : ∀ earlier task later request pool₁ pool₂,
    labels = earlier ++ .call task .commit (.ok ()) :: later →
    .event ⟨task, .publicly (.refresh request)⟩ ∈ labels →
    ServerRun ext .serializable cond pool earlier pool₁ →
    (serverWorld ext .serializable).step pool₁ (.call task .commit (.ok ())) = some pool₂ →
    ∃ record new, record.tokenHash = hashToken ext (trimmed request.refreshToken) ∧
      RotatesRow record new pool₁.state.database.committed pool₂.state.database.committed ∧
      new.expiresAt = new.createdAt + REFRESH_TOKEN_TTL ∧
      ⟨.now, new.createdAt⟩ ∈ trace task earlier ∧
      ∃ first second middle, earlier = first ++ second ∧
        .event ⟨task, .publicly (.refresh request)⟩ ∈ first ∧
        ServerRun ext .serializable cond pool first middle ∧
        middle.state.clock ≤ record.expiresAt
  answered : ∀ earlier task later request response,
    labels = earlier ++ .call task (.respond response) () :: later →
    .event ⟨task, .publicly (.refresh request)⟩ ∈ labels →
    (response.status = .ok ↔ Committed (trace task earlier))
  one_valid : ∀ root, ∀ row ∈ pool'.state.database.committed.refreshToken,
    ∀ row' ∈ pool'.state.database.committed.refreshToken,
    Relation.ReflTransGen (Rotation ext labels) root row.tokenHash →
    Relation.ReflTransGen (Rotation ext labels) root row'.tokenHash →
    row.revokedAt = none → row'.revokedAt = none → row = row'
  /-- Tokens that were there when all tokens of their account were revoked stay revoked. -/
  revoked : ∀ earlier task later call accountId,
    labels = earlier ++ .call task .commit (.ok ()) :: later →
    .event ⟨task, call⟩ ∈ labels → call.revokes = some accountId →
    ∃ pool₁, ServerRun ext .serializable cond pool
        (earlier ++ [.call task .commit (.ok ())]) pool₁ ∧
      ∀ row ∈ pool₁.state.database.committed.refreshToken, row.accountId = accountId.uuid →
        ∀ row' ∈ pool'.state.database.committed.refreshToken, row'.id = row.id →
          row'.revokedAt.isSome = true

theorem lineages (hidle : Idle pool) (hunique : pool.state.database.committed.Unique)
    (h : ServerRun ext .serializable cond pool labels pool') :
    Lineages ext cond pool labels pool' where
  rotated_once := by
    intro task task' request request' hcall hcall' hhash hcommitted hcommitted'
    obtain ⟨earlier, later, pool₁, pool₂, rfl, hearlier, -, hstep, -⟩ := h.commit_step hcommitted
    obtain ⟨earlier', later', pool₃, pool₄, hlabels, hearlier', -, hstep', -⟩ :=
      h.commit_step hcommitted'
    have hstarted := ServerRun.call_mem_step h hidle hcall
    rw [hlabels] at h hcall'
    have hstarted' := ServerRun.call_mem_step h hidle hcall'
    refine (Label.call.inj (eq_of_split hlabels ?_ ?_).2.1).1
    · rintro middle rfl
      rw [ServerRun.rotate_order hearlier' hidle hunique hstarted hstarted' hhash] at hstep'
      cases hstep'
    · rintro middle rfl
      rw [ServerRun.rotate_order hearlier hidle hunique hstarted' hstarted hhash.symm] at hstep
      cases hstep
  rotated := by
    rintro earlier task later request pool₁ pool₂ rfl hcall hearlier hstep
    have hstarted := ServerRun.call_mem_step h hidle hcall
    obtain ⟨record, new, entries, hrecord, hrotates, -, -, ⟨time, hnow, hexpires⟩, hcreated, hend⟩ :=
      ServerRun.rotates hearlier hidle hstarted hstep
    obtain ⟨first, second, middle, rfl, hfirst, hrun, rfl⟩ :=
      ServerRun.looked hearlier hidle hstarted hnow
    exact ⟨record, new, hrecord, hrotates, hend, hcreated, first, second, middle, rfl, hfirst, hrun,
      hexpires⟩
  answered := by
    rintro earlier task later request response rfl hcall
    obtain ⟨pool₁, pool₂, hearlier, -, hstep, -⟩ := World.Run.split_inv h
    exact ServerRun.asked_by hearlier hidle (ServerRun.call_mem_step h hidle hcall) hstep
      (tokenGuard_ensures _) request rfl
  one_valid := by
    intro root row hmem row' hmem' hrow hrow' hvalid hvalid'
    have hunique' := h.unique hunique
    have hspent : ∀ old new, Rotation ext labels old new →
        ¬∃ row ∈ pool'.state.database.committed.refreshToken,
          row.tokenHash = old ∧ row.revokedAt = none := by
      rintro _ new hrotation ⟨row, hmem, rfl, hvalid⟩
      exact (h.rotation_revokes hidle hrotation).not_valid hunique' hmem hvalid
    have hsame := live_unique (h.rotation_unique hidle hunique) hspent hrow hrow'
      ⟨row, hmem, rfl, hvalid⟩ ⟨row', hmem', rfl, hvalid'⟩
    exact List.inj_on_of_nodup_map hunique'.tokenHash hmem hmem' hsame
  revoked := by
    rintro earlier task later call accountId rfl hcall hrevokes
    obtain ⟨pool₁, pool₂, hearlier, hcond, hstep, hlater⟩ := World.Run.split_inv h
    have hall := ServerRun.revokes hearlier hidle (ServerRun.call_mem_step h hidle hcall)
      hrevokes hstep
    have hbefore := World.Run.snoc hearlier hcond hstep
    refine ⟨pool₂, hbefore, fun row hmem haccount row' hmem' hid => ?_⟩
    obtain ⟨row'', hmem'', hid'', -, -, -, hrevoked⟩ :=
      ServerRun.tokenKept hbefore hidle hlater row hmem
    obtain rfl := List.inj_on_of_nodup_map (h.unique hunique).refreshTokenId hmem' hmem''
      (hid.trans hid''.symm)
    exact hrevoked (hall row hmem haccount)

end Runs

/-- A token is rotated once, its second use is refused, and a new password revokes the
token that came of it. -/
theorem session_ends_with_password :
    ∃ labels pool, ServerRun sampleExternals .serializable (fun _ _ => True)
        (idleServer (τ := Nat) .empty 0) labels pool ∧
      pool.state.database.committed.refreshToken.map RefreshToken.revokedAt = [some 0, some 0] ∧
      pool.finished 2 = true ∧
      Lineages sampleExternals (fun _ _ => True) (idleServer .empty 0) labels pool := by
  let first : AuthRefreshRequest := { refreshToken := ServerState.padded '0' 64 2 }
  let script : List (Move Nat (Arrival Nat)) :=
    .event ⟨0, .publicly (.register { email := "a@b.c", password := "hunter22" })⟩ ::
      List.replicate 13 (.tick 0) ++
    .event ⟨1, .publicly (.refresh first)⟩ :: List.replicate 16 (.tick 1) ++
    .event ⟨2, .publicly (.refresh first)⟩ :: List.replicate 4 (.tick 2) ++
    .event ⟨3, .protectedly ⟨1⟩ (.changePassword
      { currentPassword := "hunter22", newPassword := "hunter23" })⟩ ::
      List.replicate 9 (.tick 3)
  have hsome : ((serverWorld sampleExternals .serializable).follow (fun _ _ => True)
      (fun task state => state.oblige .serializable task) script (idleServer .empty 0)).any
        (fun result =>
          result.2.state.database.committed.refreshToken.map RefreshToken.revokedAt ==
            [some 0, some 0] && result.2.finished 2) = true := by
    decide +kernel
  obtain ⟨⟨labels, pool⟩, hfollow, hend⟩ := (Option.any_eq_true _ _).mp hsome
  simp only [Bool.and_eq_true, beq_iff_eq] at hend
  have hrun := World.run_of_follow hfollow
  exact ⟨labels, pool, hrun, hend.1, hend.2,
    lineages (idle_idleServer _ _) Tables.unique_empty hrun⟩

end Failsafe.Server
