import Failsafe.Server.VisitRules

/-!
What a change of the password leaves of the logins before it, when requests are served one
after the other.
-/

namespace Failsafe.Server

open Failsafe.Core Failsafe.Lib

variable {ext : Externals} {isolation : Isolation}

/-- The password of an account is changed with success. -/
structure ChangesPassword (ext : Externals) (isolation : Isolation) (visit : Visit)
    (accountId : AccountId) : Prop where
  route : ∃ authorization request,
    visit.request = .protectedly authorization (.changePassword request)
  runs : visit.RunsAs ext isolation accountId
  success : visit.response.status.isSuccess = true

/-- The account of a token shows its second factor to `login_mfa`. -/
def ShowsFactor (ext : Externals) (accountId : AccountId) (code : String) (log : Log) : Prop :=
  ∃ account, ⟨.query .db (.findAccount accountId.uuid), .ok (some account)⟩ ∈ log ∧
    account.totpEnabled = true ∧
    (TotpAccepted ext account code log ∨ RecoveryAccepted ext accountId code log)

/-- An MFA-pending token is accepted in time, and with the second factor of its account. -/
def MfaAccepted (ext : Externals) (request : AuthMfaLoginRequest) (claims : Claims) (log : Log) :
    Prop :=
  ∃ time accountId, ext.openJwt (trimmed request.mfaToken) = some claims ∧
    claims.mfaPending = some true ∧ claims.accountId = .ok accountId ∧ ⟨.now, time⟩ ∈ log ∧
    time / SECOND ≤ claims.exp + LEEWAY ∧ ShowsFactor ext accountId (trimmed request.code) log

/-- What is left of the logins of an account when its password has been changed. -/
structure OldLogins (ext : Externals) (earlier : List Visit) (change : Visit)
    (later : List Visit) (accountId : AccountId) : Prop where
  /-- No refresh token that was issued before is accepted. -/
  refused : ∀ visit ∈ later, ∀ request row, visit.request = .publicly (.refresh request) →
    row ∈ change.before.database.committed.refreshToken → row.accountId = accountId.uuid →
    row.tokenHash = hashToken ext (trimmed request.refreshToken) →
    visit.response.status.isSuccess = false
  /-- An MFA-pending token is only accepted with the second factor and as long as it lives. -/
  pending : ∀ visit ∈ later, ∀ request, visit.request = .publicly (.loginMfa request) →
    visit.response.status.isSuccess = true → ∃ claims, MfaAccepted ext request claims visit.log
  /-- Those that were issued before live for five minutes more, and the leeway. -/
  expires : ∀ login ∈ earlier, ∀ loginRequest body token,
    login.request = .publicly (.login loginRequest) → login.response.body = .auth body →
    body.mfaToken = some token → ∀ visit ∈ later, ∀ request,
    visit.request = .publicly (.loginMfa request) → trimmed request.mfaToken = token →
    visit.response.status.isSuccess = true →
    visit.before.clock / SECOND ≤ change.before.clock / SECOND + MFA_TOKEN_TTL + LEEWAY

section Handlers

variable {log : Log}

theorem obeys_anything {α : Type} {p : ServerTry α} : Obeys anything p (fun _ _ => True) log :=
  .of_all (Prog.all_any p.run) fun _ _ _ => trivial

theorem changePassword_commits {accountId : AccountId} {request : ChangePasswordRequest} :
    Obeys anything (changePassword ext accountId request) (fun _ log' => Committed log') log := by
  refine .ite (fun _ => .bind .throw) fun _ => .bind (.ite (fun _ => .throw) fun _ => ?_)
  refine .bind (loadAccount_obeys fun account => .bind (.liftExcept fun _ _ => .bind ?_))
  refine .askTry ⟨trivial, ?_⟩
  rintro passwordHash _ rfl
  cases passwordHash with
  | error message => trivial
  | ok passwordHash =>
      refine .withTransaction (obeys_anything.mono fun _ log' _ => ⟨trivial, ?_⟩)
      simp [Committed]

theorem refresh_saw {request : AuthRefreshRequest} :
    Obeys anything (refresh ext request) (fun _ log' => ∃ record,
      Saw log' (.findRefreshTokenByHash (hashToken ext (trimmed request.refreshToken)))
        (some record) ∧ record.revokedAt = none) log := by
  refine .ite (fun _ => .bind .throw) fun _ => .withTransaction (.bind (.bind (.read rfl ?_)))
  intro record
  cases record with
  | none => exact .throw
  | some record =>
      refine .ite (fun _ => .bind .throw) fun hrevoked => ?_
      have hsaw : Saw _ (.findRefreshTokenByHash (hashToken ext (trimmed request.refreshToken)))
        (some record) := .read (@unwritten_begin .txn log)
      refine (Obeys.grows obeys_anything).mono fun record' log' hrecord => ?_
      refine (Obeys.grows obeys_anything).mono fun _ log'' hend => ⟨trivial, record, ?_, ?_⟩
      · exact (hsaw.mono (hrecord.2.trans hend.2)).mono (List.prefix_append _ _)
      · simpa using hrevoked

theorem loginMfa_shows {request : AuthMfaLoginRequest} :
    Obeys anything (loginMfa ext request)
      (fun _ log' => ∃ claims, MfaAccepted ext request claims log') log := by
  refine .ite (fun _ => .bind .throw) fun _ => .bind (.bind (.bind (.now fun time => .pure ?_)))
  cases hdecode : decode ext (time / SECOND) (trimmed request.mfaToken) with
  | none => exact .throw
  | some claims =>
      obtain ⟨hopen, htime⟩ := Option.filter_eq_some_iff.mp hdecode
      refine .ite (fun _ => .throw) fun hpending => .liftExcept fun accountId haccount => ?_
      refine .bind
        (loadAccount_obeys fun account => .ite (fun _ => .bind .throw) fun henabled => ?_)
      refine .bind (Obeys.mono (Obeys.grows (@verifyTotpOrRecovery_obeys ext anything _ _ accountId
        account _ fun _ _ => trivial)) fun _ log' hshown => ?_)
      refine obeys_anything.grows.mono fun response log'' hend => ?_
      obtain ⟨hshown, hgrown⟩ := hshown
      have hall := hgrown.trans hend.2
      refine ⟨claims, time, accountId, hopen, not_not.mp hpending, haccount, ?_, ?_, account, ?_,
        not_not.mp henabled, ?_⟩
      · exact hall.subset (by simp)
      · exact of_decide_eq_true htime
      · exact hall.subset (by simp)
      · exact hshown.imp (·.mono hend.2.subset) (·.mono hend.2.subset)

theorem login_pending {request : AuthLoginRequest} :
    Obeys anything (login ext request) (fun response log' => ∀ token,
      response.mfaToken = some token → ∃ time claims, ⟨.now, time⟩ ∈ log' ∧
        ⟨.encodeJwt claims, .ok token⟩ ∈ log' ∧ claims.exp = time / SECOND + MFA_TOKEN_TTL) log := by
  refine .bind (.read rfl fun account => ?_)
  cases account with
  | none => exact .throw
  | some account =>
      refine .bind (.liftExcept fun _ _ => .ite (fun _ => .bind ?_) fun _ => ?_)
      · refine .bind (.bind (.now fun time => .pure (.askTry ⟨trivial, ?_⟩)))
        rintro token _ rfl
        cases token with
        | error message => trivial
        | ok token =>
            rintro _ ⟨⟩
            exact ⟨time,
              ⟨AccountId.toText ⟨account.id⟩, time / SECOND + MFA_TOKEN_TTL, time / SECOND,
              some true⟩, by simp, by simp, rfl⟩
      · refine .bind (obeys_anything.mono fun token log' _ => ?_)
        refine .bind (obeys_anything.mono fun raw log'' _ => ?_)
        rintro _ ⟨⟩

end Handlers

theorem ShowsFactor.mono {accountId : AccountId} {code : String} {log log' : Log}
    (h : ShowsFactor ext accountId code log) (hlog : log ⊆ log') :
    ShowsFactor ext accountId code log' := by
  obtain ⟨account, hloaded, henabled, hshown⟩ := h
  exact ⟨account, hlog hloaded, henabled, hshown.imp (·.mono hlog) (·.mono hlog)⟩

theorem MfaAccepted.mono {request : AuthMfaLoginRequest} {claims : Claims} {log log' : Log}
    (h : MfaAccepted ext request claims log) (hlog : log ⊆ log') :
    MfaAccepted ext request claims log' := by
  obtain ⟨time, accountId, hopen, hpending, haccount, hnow, htime, hshown⟩ := h
  exact ⟨time, accountId, hopen, hpending, haccount, hlog hnow, htime, hshown.mono hlog⟩

section Step

variable {visit : Visit} {accountId : AccountId} {last : ServerState Nat}

theorem requireAuth_unique {τ : Type} [DecidableEq τ] {task : τ}
    {state middle middle' : ServerState τ} {log log' : Log} {authorization : Option String}
    {accountId' : AccountId}
    (h : Alone ext isolation task (requireAuth ext authorization) state log (.ok accountId) middle)
    (h' : Alone ext isolation task (requireAuth ext authorization) state log' (.ok accountId')
      middle') : accountId = accountId' := by
  have hobeys : Obeys anything (requireAuth ext authorization) _ [] := requireAuth_obeys
  obtain ⟨token, claims, htoken, hopen, -, haccount⟩ := Prog.Ensures.told hobeys h
  obtain ⟨token', claims', htoken', hopen', -, haccount'⟩ := Prog.Ensures.told hobeys h'
  obtain rfl := Option.some.inj (htoken.symm.trans htoken')
  obtain rfl := Option.some.inj (hopen.symm.trans hopen')
  exact Except.ok.inj (haccount.symm.trans haccount')

theorem ChangesPassword.commits (h : ChangesPassword ext isolation visit accountId)
    (hleaves : visit.Leaves ext isolation last) :
    ∃ request first second middle, visit.log = first ++ second ∧
      Passes ext isolation visit.task visit.before first middle ∧
      (∀ exchange ∈ first, exchange.request.isLook = true) ∧
      Performs ext isolation visit.task
        (finish (handle ext (.protectedly accountId (.changePassword request)))) middle second
        visit.response last ∧ Committed second := by
  obtain ⟨⟨authorization, request, hrequest⟩,
    ⟨authorization', route, log, state, hrequest', -, hruns⟩,
    hsuccess⟩ := h
  obtain ⟨rfl, rfl⟩ := HttpRequest.protectedly.inj (hrequest.symm.trans hrequest')
  rw [Visit.Leaves, hrequest] at hleaves
  obtain ⟨call, first, second, middle, hlog, hadmitted, halone⟩ := serve_success hleaves hsuccess
  obtain ⟨hfirst, hlooks⟩ := hadmitted.passes
  cases hadmitted with
  | protectedly hauth =>
      obtain rfl := requireAuth_unique hruns hauth
      have hobeys : Obeys anything
          (handle ext (.protectedly accountId (.changePassword request)))
          (fun _ log' => Committed log') [] :=
        .bind (changePassword_commits.mono fun _ _ hcommitted => .pure hcommitted)
      refine ⟨request, first, second, middle, hlog, hfirst, hlooks, ?_,
        Prog.Ensures.told hobeys halone⟩
      have hfinish : Performs ext isolation visit.task
        (finish (handle ext (.protectedly accountId (.changePassword request)))) middle
        (second ++ []) visit.response last := Prog.Exec.bind halone .ret
      rwa [List.append_nil] at hfinish

theorem ChangesPassword.revokes (h : ChangesPassword ext isolation visit accountId)
    (hleaves : visit.Leaves ext isolation last)
    (hidle : visit.before.database.pending visit.task = none) :
    ∀ row ∈ visit.before.database.committed.refreshToken, row.accountId = accountId.uuid →
      Revoked row.tokenHash last.database.committed := by
  have hupdates := serve_updates hleaves
  obtain ⟨request, first, second, middle, hlog, hfirst, hlooks, hfinish, hcommitted⟩ :=
    h.commits hleaves
  obtain ⟨before, after, hsplit⟩ := List.append_of_mem hcommitted
  have hguard := finish_guarded (tokenGuard_ensures _) hfinish hsplit
  obtain ⟨earlier, time, count, rfl⟩ := hguard.2 accountId rfl
  have hmiddle := hfirst.pending hidle
  rw [pendingAfter_looks hlooks] at hmiddle
  obtain ⟨entries, tables, state, hpending, hreplay, hbefore, hafter⟩ :=
    Passes.commit_replays (Passes.exec .nil hfinish) hmiddle hsplit
  rw [pendingAfter_append] at hpending
  obtain ⟨entries, -, rfl⟩ := Option.map_eq_some_iff.mp hpending
  have hstate : state.database.pending visit.task = none := by
    rw [hbefore.pending hmiddle, pendingAfter_append]
    rfl
  -- the tokens are kept up to the commit, and after it
  have hkept := Passes.tokenKept (hfirst.append hbefore) hidle fun exchange hmem =>
    hupdates exchange (by rw [hlog, hsplit]; simp at hmem ⊢; tauto)
  have hkept' := hafter.tokenKept hstate fun exchange hmem =>
    hupdates exchange (by rw [hlog, hsplit]; simp [hmem])
  intro row hmem haccount
  obtain ⟨row', hmem', -, hhash, haccount', -⟩ := hkept row hmem
  have hrevoked := replay_revokes hreplay row' hmem' (haccount'.trans haccount)
  exact Revoked.kept ⟨row', hmem', hhash, hrevoked⟩ hkept'

theorem refresh_refused {request : AuthRefreshRequest}
    (hleaves : visit.Leaves ext isolation last)
    (hrequest : visit.request = .publicly (.refresh request))
    (hidle : visit.before.database.pending visit.task = none)
    (hunique : visit.before.database.committed.Unique)
    (hrevoked : Revoked (hashToken ext (trimmed request.refreshToken))
      visit.before.database.committed) : visit.response.status.isSuccess = false := by
  rw [← Bool.not_eq_true]
  intro hsuccess
  have hupdates := serve_updates hleaves
  rw [Visit.Leaves, hrequest] at hleaves
  obtain ⟨call, first, second, middle, hlog, hadmitted, halone⟩ := serve_success hleaves hsuccess
  obtain ⟨hfirst, hlooks⟩ := hadmitted.passes
  cases hadmitted with
  | publicly _ _ =>
      have hobeys : Obeys anything (handle ext (.publicly (.refresh request)))
          (fun _ log' => ∃ record,
            Saw log' (.findRefreshTokenByHash (hashToken ext (trimmed request.refreshToken)))
              (some record) ∧ record.revokedAt = none) [] :=
        .bind (refresh_saw.mono fun _ _ hsaw => .pure hsaw)
      obtain ⟨record, hsaw, hvalid⟩ := Prog.Ensures.told hobeys halone
      have hmiddle := hfirst.pending hidle
      rw [pendingAfter_looks hlooks] at hmiddle
      obtain ⟨before, state, ⟨after, hprefix⟩, hbefore, hfound⟩ :=
        Passes.saw halone.passes hmiddle hsaw rfl
      have hpasses := hfirst.append hbefore
      have hkept := hpasses.tokenKept hidle fun exchange hmem =>
        hupdates exchange (by rw [hlog, ← hprefix]; simp at hmem ⊢; tauto)
      obtain ⟨hfound, -⟩ := Prod.mk.inj (Except.ok.inj hfound)
      have hhash : record.tokenHash = hashToken ext (trimmed request.refreshToken) := by
        simpa using List.find?_some hfound
      rw [← hhash] at hrevoked
      exact (hrevoked.kept hkept).not_valid (hpasses.unique hunique)
        (List.mem_of_find?_eq_some hfound) hvalid

theorem mfa_accepted {request : AuthMfaLoginRequest} (hleaves : visit.Leaves ext isolation last)
    (hrequest : visit.request = .publicly (.loginMfa request))
    (hsuccess : visit.response.status.isSuccess = true) :
    ∃ claims, MfaAccepted ext request claims visit.log := by
  rw [Visit.Leaves, hrequest] at hleaves
  obtain ⟨call, first, second, middle, hlog, hadmitted, halone⟩ := serve_success hleaves hsuccess
  cases hadmitted with
  | publicly _ _ =>
      have hobeys : Obeys anything (handle ext (.publicly (.loginMfa request)))
          (fun _ log' => ∃ claims, MfaAccepted ext request claims log') [] :=
        .bind (loginMfa_shows.mono fun _ _ hshows => .pure hshows)
      obtain ⟨claims, haccepted⟩ := Prog.Ensures.told hobeys halone
      exact ⟨claims, haccepted.mono (hlog ▸ List.subset_append_right first second)⟩

theorem pending_expiry {request : AuthLoginRequest} {body : AuthResponse} {token : String}
    (hleaves : visit.Leaves ext isolation last)
    (hrequest : visit.request = .publicly (.login request))
    (hbody : visit.response.body = .auth body) (htoken : body.mfaToken = some token) :
    ∃ time claims, ext.openJwt token = some claims ∧
      claims.exp = time / SECOND + MFA_TOKEN_TTL ∧ ⟨.now, time⟩ ∈ visit.log := by
  rw [Visit.Leaves, hrequest] at hleaves
  rcases serve_cases hleaves with
    ⟨-, -, error, herror, -⟩ | ⟨call, first, second, middle, hlog, hadmitted, hrun⟩
  · rw [hbody] at herror
    cases herror
  cases hadmitted with
  | publicly _ _ =>
      rcases finish_inv hrun with halone | ⟨error, -, herror⟩
      · have hobeys : Obeys anything (handle ext (.publicly (.login request)))
            (fun response log' => ∀ body token, response.body = .auth body →
              body.mfaToken = some token → ∃ time claims, ⟨.now, time⟩ ∈ log' ∧
                ⟨.encodeJwt claims, .ok token⟩ ∈ log' ∧
                claims.exp = time / SECOND + MFA_TOKEN_TTL) [] := by
          refine .bind (login_pending.mono fun response log' hpending => .pure ?_)
          rintro body token ⟨⟩ htoken
          exact hpending token htoken
        obtain ⟨time, claims, hnow, hsigned, hexpiry⟩ :=
          Prog.Ensures.told hobeys halone body token hbody htoken
        exact ⟨time, claims, halone.passes.signed hsigned, hexpiry,
          hlog ▸ List.mem_append_right first hnow⟩
      · rw [herror] at hbody
        cases hbody

theorem Visit.runsAs_of_success {authorization : Option String} {route : ProtectedRoute}
    {token : String} {claims : Claims} (hleaves : visit.Leaves ext isolation last)
    (hsuccess : visit.response.status.isSuccess = true)
    (hrequest : visit.request = .protectedly authorization route)
    (htoken : authorization.bind (stripPrefix "Bearer ") = some token)
    (hopen : ext.openJwt token = some claims) (haccount : claims.accountId = .ok accountId) :
    visit.RunsAs ext isolation accountId := by
  rw [Visit.Leaves, hrequest] at hleaves
  obtain ⟨call, first, second, middle, hlog, hadmitted, -⟩ := serve_success hleaves hsuccess
  cases hadmitted with
  | protectedly hauth =>
      have hobeys : Obeys anything (requireAuth ext authorization) _ [] := requireAuth_obeys
      obtain ⟨token', claims', htoken', hopen', -, haccount'⟩ := Prog.Ensures.told hobeys hauth
      obtain rfl := Option.some.inj (htoken.symm.trans htoken')
      obtain rfl := Option.some.inj (hopen.symm.trans hopen')
      obtain rfl := Except.ok.inj (haccount.symm.trans haccount')
      exact ⟨authorization, route, first, middle, hrequest, hlog ▸ List.prefix_append _ _, hauth⟩

end Step

section Sequences

variable {cond : List Visit → Visit → Prop} {state state' : ServerState Nat}
  {earlier later : List Visit} {change : Visit} {accountId : AccountId}

theorem Visits.clock {visit : Visit} {time : Timestamp}
    (h : Visits ext isolation cond state (earlier ++ visit :: later) state')
    (hnow : ⟨.now, time⟩ ∈ visit.log) : time ≤ state'.clock := by
  refine h.after (Q := fun state => time ≤ state.clock) ?_ fun last hleaves => ?_
  · intro visits visit last _ _ hleaves hbefore
    exact hbefore.trans (Passes.exec .nil hleaves).clock.1
  · exact ((Passes.exec .nil hleaves).clock.2 time hnow).2

/-- After a change of the password no refresh token from before it is accepted, and an
MFA-pending token from before it is of use for its last minutes and with the second factor. -/
theorem older_logins_end (hunique : state.database.committed.Unique)
    (hidle : ∀ task, state.database.pending task = none)
    (h : Visits ext isolation cond state (earlier ++ change :: later) state')
    (hchange : ChangesPassword ext isolation change accountId) :
    OldLogins ext earlier change later accountId where
  refused := by
    intro visit hmem request row hrequest hrow haccount hhash
    obtain ⟨between, rest, rfl⟩ := List.append_of_mem hmem
    rw [← List.cons_append, ← List.append_assoc] at h
    obtain ⟨last, hbefore, htask, -, hleaves⟩ := h.split
    refine refresh_refused hleaves hrequest (hbefore.idle hidle htask.ge) (hbefore.unique hunique) ?_
    rw [← hhash]
    refine hbefore.after (Q := fun state => Revoked row.tokenHash state.database.committed) ?_ ?_
    · intro visits visit last hvisits htask hleaves hrevoked
      exact hrevoked.kept (serve_tokenKept hleaves (hvisits.idle hidle htask.ge))
    · intro last hleaves
      obtain ⟨-, hvisits, htask, -⟩ := hbefore.split
      exact hchange.revokes hleaves (hvisits.idle hidle htask.ge) row hrow haccount
  pending := by
    intro visit hmem request hrequest hsuccess
    obtain ⟨between, rest, rfl⟩ := List.append_of_mem hmem
    rw [← List.cons_append, ← List.append_assoc] at h
    obtain ⟨last, -, -, -, hleaves⟩ := h.split
    exact mfa_accepted hleaves hrequest hsuccess
  expires := by
    intro login hlogin loginRequest body token hloginRequest hbody htoken visit hmem request
      hrequest hpresented hsuccess
    obtain ⟨between, rest, rfl⟩ := List.append_of_mem hmem
    obtain ⟨-, hearlier, -⟩ := h.split
    rw [← List.cons_append, ← List.append_assoc] at h
    obtain ⟨last, -, -, -, hleaves⟩ := h.split
    obtain ⟨claims, time, -, hopen, -, -, hnow, htime, -⟩ :=
      mfa_accepted hleaves hrequest hsuccess
    have hlate := ((Passes.exec .nil hleaves).clock.2 time hnow).1
    obtain ⟨first, second, rfl⟩ := List.append_of_mem hlogin
    obtain ⟨last', -, -, -, hleaves'⟩ := hearlier.split
    obtain ⟨issued, claims', hopen', hexpiry, hissued⟩ :=
      pending_expiry hleaves' hloginRequest hbody htoken
    rw [hpresented] at hopen
    obtain rfl := Option.some.inj (hopen.symm.trans hopen')
    have hseconds : issued / SECOND ≤ change.before.clock / SECOND :=
      Nat.div_le_div_right (hearlier.clock hissued)
    calc visit.before.clock / SECOND
        ≤ time / SECOND := Nat.div_le_div_right hlate
      _ ≤ issued / SECOND + MFA_TOKEN_TTL + LEEWAY := hexpiry ▸ htime
      _ ≤ change.before.clock / SECOND + MFA_TOKEN_TTL + LEEWAY := by gcongr

end Sequences

/-- The password of the sample account is changed. -/
def sampleChange : HttpRequest :=
  .protectedly (some "Bearer 00000000-0000-0000-0000-000000000001|3600|0|")
    (.changePassword { currentPassword := "hunter22", newPassword := "hunter23" })

theorem sampleChange_changes {visit : Visit} {last : ServerState Nat}
    (hleaves : visit.Leaves sampleExternals isolation last)
    (hrequest : visit.request = sampleChange)
    (hresponse : visit.response = noContent) :
    ChangesPassword sampleExternals isolation visit ⟨1⟩ := by
  have hsuccess : visit.response.status.isSuccess = true := by rw [hresponse]; rfl
  have hopen : sampleExternals.openJwt "00000000-0000-0000-0000-000000000001|3600|0|" =
      some ⟨"00000000-0000-0000-0000-000000000001", 3600, 0, none⟩ := by decide +kernel
  refine ⟨⟨_, _, hrequest⟩, ?_, hsuccess⟩
  refine Visit.runsAs_of_success hleaves hsuccess hrequest ?_ hopen ?_
  · decide +kernel
  · decide +kernel

/-- The refresh token of a login is refused once the password has been changed. -/
theorem refresh_after_change :
    ∃ login change later state',
      Visits sampleExternals .serializable (fun _ _ => True)
        (.start { Tables.empty with account := [newAccount 1 "a@b.c" "argon2:hunter22" 0] } 0)
        ([login] ++ change :: [later]) state' ∧
      change.request = sampleChange ∧ change.response = noContent ∧
      later.response.status = .unauthorized ∧
      OldLogins sampleExternals [login] change [later] ⟨1⟩ := by
  let start : ServerState Nat :=
    .start { Tables.empty with account := [newAccount 1 "a@b.c" "argon2:hunter22" 0] } 0
  let requests : List HttpRequest :=
    [.publicly (.login { email := "a@b.c", password := "hunter22" }), sampleChange,
      .publicly (.refresh { refreshToken := ServerState.padded '0' 64 2 })]
  have hsome : (obligeAll sampleExternals .serializable requests 0 start).any (fun result =>
      (result.1.map Visit.response).drop 1 == [noContent, ServerError.unauthorized.intoResponse]) =
        true := by
    decide +kernel
  obtain ⟨⟨visits, state'⟩, hdrive, hresponses⟩ := (Option.any_eq_true _ _).mp hsome
  obtain ⟨hvisits, hrequests⟩ := visits_of_obligeAll .nil hdrive
  obtain ⟨login, _, rfl, -, hrest⟩ := List.map_eq_cons_iff.mp hrequests
  obtain ⟨change, _, rfl, hchange, hrest⟩ := List.map_eq_cons_iff.mp hrest
  obtain ⟨later, _, rfl, -, hrest⟩ := List.map_eq_cons_iff.mp hrest
  obtain rfl := List.map_eq_nil_iff.mp hrest
  obtain ⟨hresponse, hrest⟩ := List.cons.inj (eq_of_beq hresponses)
  obtain ⟨hrefused, -⟩ := List.cons.inj hrest
  have hunique : start.database.committed.Unique := by
    constructor <;> simp [start, ServerState.start, Tables.empty]
  obtain ⟨last, -, -, -, hleaves⟩ :=
    (show Visits _ _ _ _ ([login] ++ change :: [later]) _ from hvisits).split
  refine ⟨login, change, later, state', hvisits, hchange, hresponse, ?_, ?_⟩
  · rw [hrefused]
    rfl
  · exact older_logins_end hunique (fun _ => rfl) hvisits
      (sampleChange_changes hleaves hchange hresponse)

/-- An MFA-pending token from before the change is accepted after it, and new tokens are given. -/
theorem pending_survives_change :
    ∃ login change later state',
      let account : Account :=
        { newAccount 1 "a@b.c" "argon2:hunter22" 0 with
          totpSecret := some "nonce:S", totpEnabled := true }
      Visits sampleExternals .serializable (fun _ _ => True)
        (.start { Tables.empty with account := [account] } 0) ([login] ++ change :: [later]) state' ∧
      ChangesPassword sampleExternals .serializable change ⟨1⟩ ∧
      ∃ token access raw, login.response = json (.auth (.mfa token)) ∧
        later.request = .publicly (.loginMfa { mfaToken := token, code := "123456" }) ∧
        later.response = json (.auth (.authenticated access raw)) := by
  let account : Account :=
    { newAccount 1 "a@b.c" "argon2:hunter22" 0 with
      totpSecret := some "nonce:S", totpEnabled := true }
  let start : ServerState Nat := .start { Tables.empty with account := [account] } 0
  let token := "00000000-0000-0000-0000-000000000001|300|0|t"
  let access := "00000000-0000-0000-0000-000000000001|3600|0|"
  let raw := ServerState.padded '0' 64 2
  let requests : List HttpRequest :=
    [.publicly (.login { email := "a@b.c", password := "hunter22" }), sampleChange,
      .publicly (.loginMfa { mfaToken := token, code := "123456" })]
  have hsome : (obligeAll sampleExternals .serializable requests 0 start).any (fun result =>
      result.1.map Visit.response == [json (.auth (.mfa token)), noContent,
        json (.auth (.authenticated access raw))]) = true := by
    decide +kernel
  obtain ⟨⟨visits, state'⟩, hdrive, hresponses⟩ := (Option.any_eq_true _ _).mp hsome
  obtain ⟨hvisits, hrequests⟩ := visits_of_obligeAll .nil hdrive
  obtain ⟨login, _, rfl, -, hrest⟩ := List.map_eq_cons_iff.mp hrequests
  obtain ⟨change, _, rfl, hchange, hrest⟩ := List.map_eq_cons_iff.mp hrest
  obtain ⟨later, _, rfl, hlater, hrest⟩ := List.map_eq_cons_iff.mp hrest
  obtain rfl := List.map_eq_nil_iff.mp hrest
  obtain ⟨hlogin, hrest⟩ := List.cons.inj (eq_of_beq hresponses)
  obtain ⟨hresponse, hrest⟩ := List.cons.inj hrest
  obtain ⟨haccepted, -⟩ := List.cons.inj hrest
  obtain ⟨last, -, -, -, hleaves⟩ :=
    (show Visits _ _ _ _ ([login] ++ change :: [later]) _ from hvisits).split
  exact ⟨login, change, later, state', hvisits, sampleChange_changes hleaves hchange hresponse,
    token, access, raw, hlogin, hlater, haccepted⟩

end Failsafe.Server
