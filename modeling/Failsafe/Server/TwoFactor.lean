import Failsafe.Server.Spares
import Failsafe.Server.Visits

/-!
The second factor of an account: to a party that has no code and no token of it, the
password opens nothing, whatever requests the party makes one after the other.
-/

namespace Failsafe.Server

open Failsafe.Core Failsafe.Lib

variable {ext : Externals} {isolation : Isolation}

namespace HttpResponse

/-- The tokens in a response that could be access tokens. -/
def accessTokens (response : HttpResponse) : List String :=
  match response.body with
  | .auth response => response.token.toList ++ response.mfaToken.toList
  | _ => []

def refreshTokens (response : HttpResponse) : List String :=
  match response.body with
  | .auth response => response.refreshToken.toList
  | _ => []

def pairingCodes (response : HttpResponse) : List String :=
  match response.body with
  | .pairingCreate response => [response.code]
  | _ => []

def recoveryCodes (response : HttpResponse) : List String :=
  match response.body with
  | .totpEnable response => response.recoveryCodes
  | _ => []

end HttpResponse

/-- What the party presents of the credentials of an account, it was given in an earlier
response; and a code that the secret of the account accepts only after a setup that was
made for the account. -/
structure Unguessed (ext : Externals) (isolation : Isolation) (account : Account)
    (earlier : List Visit) (visit : Visit) : Prop where
  accessToken : ∀ token claims, visit.request.bearer = some token →
    ext.openJwt token = some claims → claims.accountId = .ok ⟨account.id⟩ →
    claims.mfaPending ≠ some true →
    ∃ visit' ∈ earlier, token ∈ visit'.response.accessTokens
  refreshToken : ∀ request, visit.request = .publicly (.refresh request) →
    ∀ row ∈ visit.before.database.committed.refreshToken, row.accountId = account.id →
      row.tokenHash = hashToken ext (trimmed request.refreshToken) →
      ∃ visit' ∈ earlier, trimmed request.refreshToken ∈ visit'.response.refreshTokens
  pairingCode : ∀ request code, visit.request = .publicly (.redeemPairingCode request) →
    normalizeCode ext request.code = some code →
    ∀ row ∈ visit.before.database.committed.pairingCode, row.accountId = account.id →
      row.code = code → ∃ visit' ∈ earlier, code ∈ visit'.response.pairingCodes
  recoveryCode : ∀ request, visit.request = .publicly (.loginMfa request) →
    ∀ row ∈ visit.before.database.committed.recoveryCode, row.accountId = account.id →
      row.usedAt = none → row.codeHash = hashRecoveryCode ext (trimmed request.code) →
      ∃ visit' ∈ earlier, ∃ code ∈ visit'.response.recoveryCodes,
        hashRecoveryCode ext code = row.codeHash
  totpCode : ∀ request, visit.request = .publicly (.loginMfa request) →
    ∀ stored secret time, account.totpSecret = some stored →
      decryptSecret ext stored = .ok secret → ⟨.now, time⟩ ∈ visit.log →
      ext.checkTotp secret time (trimmed (trimmed request.code)) = true →
      ∃ visit' ∈ earlier, visit'.RunsAs ext isolation ⟨account.id⟩ ∧
        ∃ response, visit'.response.body = .totpSetup response

/-- No credential in a response is one of the account. -/
structure Foreign (ext : Externals) (account : Account) (response : HttpResponse)
    (tables : Tables) : Prop where
  accessToken : ∀ token ∈ response.accessTokens, ∀ claims, ext.openJwt token = some claims →
    claims.accountId = .ok ⟨account.id⟩ → claims.mfaPending = some true
  refreshToken : ∀ raw ∈ response.refreshTokens, ∀ row ∈ tables.refreshToken,
    row.tokenHash = hashToken ext raw → row.accountId ≠ account.id
  pairingCode : ∀ code ∈ response.pairingCodes, ∀ row ∈ tables.pairingCode,
    row.code = code → row.accountId ≠ account.id
  recoveryCode : ∀ code ∈ response.recoveryCodes, ∀ row ∈ tables.recoveryCode,
    row.usedAt = none → row.codeHash = hashRecoveryCode ext code → row.accountId ≠ account.id

theorem Foreign.mono {account : Account} {response : HttpResponse} {tables tables' : Tables}
    (h : Foreign ext account response tables) (hnew : NothingNew account tables tables') :
    Foreign ext account response tables' where
  accessToken := h.accessToken
  refreshToken := by
    intro raw hraw row' hmem' hhash' haccount'
    obtain ⟨row, hmem, haccount, hhash⟩ := hnew.refreshToken row' hmem' haccount'
    exact h.refreshToken raw hraw row hmem (hhash.trans hhash') haccount
  pairingCode := by
    intro code hcode row' hmem' hrow' haccount'
    obtain ⟨row, hmem, haccount, hrow⟩ := hnew.pairingCode row' hmem' haccount'
    exact h.pairingCode code hcode row hmem (hrow.trans hrow') haccount
  recoveryCode := by
    intro code hcode row' hmem' hunused' hhash' haccount'
    obtain ⟨row, hmem, haccount, hhash, hunused⟩ :=
      hnew.recoveryCode row' hmem' haccount' hunused'
    exact h.recoveryCode code hcode row hmem hunused (hhash.trans hhash') haccount

theorem Foreign.of_error {account : Account} {response : HttpResponse} {tables : Tables}
    {error : ApiError} (h : response.body = .error error) :
    Foreign ext account response tables := by
  constructor <;>
    simp [HttpResponse.accessTokens, HttpResponse.refreshTokens, HttpResponse.pairingCodes,
      HttpResponse.recoveryCodes, h]

section Step

variable {account : Account} {start : Tables} {log : Log} {call : Call}
  {response : HttpResponse} {τ : Type} [DecidableEq τ] {task : τ} {state state' : ServerState τ}

theorem claims_accountId {claims : Claims} {id : Uuid} (h : claims.sub = Uuid.toText id) :
    claims.accountId = .ok ⟨id⟩ := by
  rw [Claims.accountId, AccountId.parse, h, Uuid.parse_toText]
  rfl

section Wrote

variable (h : Passes ext isolation task state log state')
  (hspares : ∀ exchange ∈ log, ∀ conn statement, exchange.request = .query conn statement →
    statement.Spares account.id) (hsecure : Secure account task start state)
  (hpending : state.database.pending task = none)

include h hspares hsecure hpending

theorem Passes.wrote_refreshToken {new : RefreshToken}
    (hwrote : Wrote log (.insertRefreshToken new)) (hnew : new.accountId ≠ account.id) :
    ∀ row ∈ state'.database.committed.refreshToken, row.tokenHash = new.tokenHash →
      row.accountId ≠ account.id := by
  refine h.wrote (P := fun tables => ∀ row ∈ tables.refreshToken,
    row.tokenHash = new.tokenHash → row.accountId ≠ account.id) hspares hsecure hpending ?_ ?_ hwrote
  · intro tables tables' hforeign hkept row' hmem' hhash' haccount'
    obtain ⟨row, hmem, haccount, hhash⟩ := hkept.refreshToken row' hmem' haccount'
    exact hforeign row hmem (hhash.trans hhash') haccount
  · intro tables result tables' _ hrun row hmem hhash
    obtain ⟨hclash, hrow⟩ := insert_ok hrun
    obtain ⟨-, rfl⟩ := Prod.mk.inj hrow
    rcases List.mem_append.mp hmem with hold | hlast
    · have hother := hclash row hold
      simp [hhash] at hother
    · rw [List.mem_singleton.mp hlast]
      exact hnew

theorem Passes.wrote_pairingCode {new : PairingCode}
    (hwrote : Wrote log (.insertPairingCode new)) (hnew : new.accountId ≠ account.id) :
    ∀ row ∈ state'.database.committed.pairingCode, row.code = new.code →
      row.accountId ≠ account.id := by
  refine h.wrote (P := fun tables => ∀ row ∈ tables.pairingCode,
    row.code = new.code → row.accountId ≠ account.id) hspares hsecure hpending ?_ ?_ hwrote
  · intro tables tables' hforeign hkept row' hmem' hcode' haccount'
    obtain ⟨row, hmem, haccount, hcode⟩ := hkept.pairingCode row' hmem' haccount'
    exact hforeign row hmem (hcode.trans hcode') haccount
  · intro tables result tables' _ hrun row hmem hcode
    obtain ⟨hclash, hrow⟩ := insert_ok hrun
    obtain ⟨-, rfl⟩ := Prod.mk.inj hrow
    rcases List.mem_append.mp hmem with hold | hlast
    · have hother := hclash row hold
      simp [hcode] at hother
    · rw [List.mem_singleton.mp hlast]
      exact hnew

theorem Passes.wrote_recoveryCode {new : RecoveryCode}
    (hwrote : Wrote log (.insertRecoveryCode new)) (hnew : new.accountId ≠ account.id) :
    ∀ row ∈ state'.database.committed.recoveryCode, row.usedAt = none →
      row.codeHash = new.codeHash → row.accountId ≠ account.id := by
  refine h.wrote (P := fun tables => ∀ row ∈ tables.recoveryCode, row.usedAt = none →
    row.codeHash = new.codeHash → row.accountId ≠ account.id) hspares hsecure hpending ?_ ?_ hwrote
  · intro tables tables' hforeign hkept row' hmem' hunused' hhash' haccount'
    obtain ⟨row, hmem, haccount, hhash, hunused⟩ :=
      hkept.recoveryCode row' hmem' haccount' hunused'
    exact hforeign row hmem hunused (hhash.trans hhash') haccount
  · intro tables result tables' _ hrun row hmem _ hhash
    obtain ⟨hclash, hrow⟩ := insert_ok hrun
    obtain ⟨-, rfl⟩ := Prod.mk.inj hrow
    rcases List.mem_append.mp hmem with hold | hlast
    · have hother := hclash row hold
      simp [hhash] at hother
    · rw [List.mem_singleton.mp hlast]
      exact hnew

theorem Passes.foreign (htells : Tells ext call response log)
    (hother : ∀ id, Entitled ext call log id → id ≠ account.id) :
    Foreign ext account response state'.database.committed := by
  unfold Tells at htells
  split at htells
  · rename_i body hbody
    rcases htells with ⟨accountId, ⟨token, raw, claims, new, rfl, hsigned, hsub, hwrote, hhash,
      haccount⟩, hentitled⟩ | ⟨token, claims, rfl, hsigned, hpendingMfa⟩
    · constructor
      · intro token' hmem claims' hopen hclaims
        simp only [HttpResponse.accessTokens, hbody, AuthResponse.authenticated,
          Option.toList_some, Option.toList_none, List.append_nil, List.mem_singleton] at hmem
        subst hmem
        obtain rfl := Option.some.inj ((h.signed hsigned).symm.trans hopen)
        rw [claims_accountId hsub] at hclaims
        obtain rfl := AccountId.mk.inj (Except.ok.inj hclaims)
        exact (hother _ hentitled rfl).elim
      · intro raw' hmem row hrow hrowHash
        simp only [HttpResponse.refreshTokens, hbody, AuthResponse.authenticated,
          Option.toList_some, List.mem_singleton] at hmem
        subst hmem
        refine h.wrote_refreshToken hspares hsecure hpending hwrote ?_ row hrow
          (hrowHash.trans hhash.symm)
        rw [haccount]
        exact hother _ hentitled
      · simp [HttpResponse.pairingCodes, hbody]
      · simp [HttpResponse.recoveryCodes, hbody]
    · constructor
      · intro token' hmem claims' hopen _
        simp only [HttpResponse.accessTokens, hbody, AuthResponse.mfa, Option.toList_some,
          Option.toList_none, List.nil_append, List.mem_singleton] at hmem
        subst hmem
        obtain rfl := Option.some.inj ((h.signed hsigned).symm.trans hopen)
        exact hpendingMfa
      · simp [HttpResponse.refreshTokens, hbody, AuthResponse.mfa]
      · simp [HttpResponse.pairingCodes, hbody]
      · simp [HttpResponse.recoveryCodes, hbody]
  · rename_i body hbody
    obtain ⟨new, hwrote, hcode, hentitled⟩ := htells
    constructor
    · simp [HttpResponse.accessTokens, hbody]
    · simp [HttpResponse.refreshTokens, hbody]
    · intro code hmem row hrow hrowCode
      simp only [HttpResponse.pairingCodes, hbody, List.mem_singleton] at hmem
      subst hmem
      exact h.wrote_pairingCode hspares hsecure hpending hwrote (hother _ hentitled) row hrow
        (hrowCode.trans hcode.symm)
    · simp [HttpResponse.recoveryCodes, hbody]
  · rename_i body hbody
    constructor
    · simp [HttpResponse.accessTokens, hbody]
    · simp [HttpResponse.refreshTokens, hbody]
    · simp [HttpResponse.pairingCodes, hbody]
    · intro code hmem row hrow hunused hrowHash
      simp only [HttpResponse.recoveryCodes, hbody] at hmem
      obtain ⟨new, hwrote, hhash, hentitled⟩ := htells code hmem
      exact h.wrote_recoveryCode hspares hsecure hpending hwrote (hother _ hentitled) row hrow
        hunused (hrowHash.trans hhash.symm)
  · rename_i hauth hpairing henable
    constructor
    · intro token hmem
      unfold HttpResponse.accessTokens at hmem
      split at hmem
      · exact (hauth _ ‹_›).elim
      · cases hmem
    · intro raw hmem
      unfold HttpResponse.refreshTokens at hmem
      split at hmem
      · exact (hauth _ ‹_›).elim
      · cases hmem
    · intro code hmem
      unfold HttpResponse.pairingCodes at hmem
      split at hmem
      · exact (hpairing _ ‹_›).elim
      · cases hmem
    · intro code hmem
      unfold HttpResponse.recoveryCodes at hmem
      split at hmem
      · exact (henable _ ‹_›).elim
      · cases hmem

end Wrote

end Step

/-- What holds while a party without a credential of the account makes its requests. -/
structure Standing (ext : Externals) (isolation : Isolation) (account : Account)
    (visits : List Visit) (state : ServerState Nat) : Prop where
  unique : state.database.committed.Unique
  present : account ∈ state.database.committed.account
  idle : ∀ task, visits.length ≤ task → state.database.pending task = none
  foreign : ∀ visit ∈ visits, Foreign ext account visit.response state.database.committed
  acts : ∀ visit ∈ visits, ¬visit.RunsAs ext isolation ⟨account.id⟩

section Visits

variable {account : Account} {state state' : ServerState Nat} {visits : List Visit}
  {visit : Visit}

theorem Standing.authenticated (h : Standing ext isolation account visits visit.before)
    (hunguessed : Unguessed ext isolation account visits visit)
    {authorization : Option String} {route : ProtectedRoute} {log : Log} {accountId : AccountId}
    (hrequest : visit.request = .protectedly authorization route)
    (hauth : Alone ext isolation visit.task (requireAuth ext authorization) visit.before log
      (.ok accountId) state) : accountId.uuid ≠ account.id := by
  have hobeys : Obeys anything (requireAuth ext authorization) _ [] := requireAuth_obeys
  obtain ⟨token, claims, htoken, hopen, hpending, haccount⟩ := Prog.Ensures.told hobeys hauth
  rintro hid
  obtain rfl : accountId = ⟨account.id⟩ := by rw [← hid]
  have hbearer : visit.request.bearer = some token := by rw [hrequest]; exact htoken
  obtain ⟨visit', hmem, htold⟩ :=
    hunguessed.accessToken token claims hbearer hopen haccount hpending
  exact hpending ((h.foreign visit' hmem).accessToken token htold claims hopen haccount)

theorem Standing.unheld (h : Standing ext isolation account visits visit.before)
    (hunguessed : Unguessed ext isolation account visits visit) {call : Call} {log : Log}
    (hadmitted : Admitted ext isolation visit.task visit.before visit.request call log state) :
    Unheld ext account visit.before.database.committed visit.log call := by
  generalize hrequest : visit.request = request at hadmitted
  cases hadmitted with
  | publicly hpasses hlooks =>
      constructor
      · rintro request ⟨⟩ row hmem haccount hhash
        obtain ⟨visit', hmem', htold⟩ :=
          hunguessed.refreshToken request hrequest row hmem haccount hhash
        exact (h.foreign visit' hmem').refreshToken _ htold row hmem hhash haccount
      · rintro request code ⟨⟩ hcode row hmem haccount hrow
        obtain ⟨visit', hmem', htold⟩ :=
          hunguessed.pairingCode request code hrequest hcode row hmem haccount hrow
        exact (h.foreign visit' hmem').pairingCode code htold row hmem hrow haccount
      · rintro request ⟨⟩ row hmem haccount hunused hhash
        obtain ⟨visit', hmem', code, htold, hcode⟩ :=
          hunguessed.recoveryCode request hrequest row hmem haccount hunused hhash
        exact (h.foreign visit' hmem').recoveryCode code htold row hmem hunused hcode.symm haccount
      · rintro request ⟨⟩ stored secret time hstored hsecret hnow
        rw [← Bool.not_eq_true]
        intro hcheck
        obtain ⟨visit', hmem', hruns, -⟩ :=
          hunguessed.totpCode request hrequest stored secret time hstored hsecret hnow hcheck
        exact h.acts visit' hmem' hruns
      · rintro accountId route ⟨⟩
  | protectedly hauth =>
      refine ⟨by simp, by simp, by simp, by simp, ?_⟩
      rintro _ _ ⟨⟩
      exact h.authenticated hunguessed hrequest hauth

theorem Standing.step (h : Standing ext isolation account visits visit.before)
    (hunguessed : Unguessed ext isolation account visits visit)
    (henabled : account.totpEnabled = true) (htask : visit.task = visits.length)
    (hserve : Performs ext isolation visit.task (serve ext visit.request) visit.before visit.log
      visit.response state') :
    Standing ext isolation account (visits ++ [visit]) state' := by
  have hidle : visit.before.database.pending visit.task = none := h.idle _ htask.ge
  have hsecure : Secure account visit.task visit.before.database.committed visit.before :=
    ⟨h.unique, h.present, .refl _, by simp [hidle]⟩
  have hpasses : Passes ext isolation visit.task visit.before visit.log state' :=
    Passes.exec .nil hserve
  -- the invariant follows from what the call leaves and tells
  have hstanding (hafter : Secure account visit.task visit.before.database.committed state')
      (hforeign : Foreign ext account visit.response state'.database.committed) :
      Standing ext isolation account (visits ++ [visit]) state' := by
    refine ⟨hafter.unique, hafter.present, fun task hlength => ?_, fun visit' hmem => ?_,
      fun visit' hmem => ?_⟩
    · rw [List.length_append, List.length_singleton] at hlength
      rw [hpasses.pending_other (by omega)]
      exact h.idle task (by omega)
    · rcases List.mem_append.mp hmem with hold | hnew
      · exact (h.foreign visit' hold).mono hafter.nothingNew
      · rw [List.mem_singleton.mp hnew]
        exact hforeign
    · rcases List.mem_append.mp hmem with hold | hnew
      · exact h.acts visit' hold
      · obtain rfl := List.mem_singleton.mp hnew
        rintro ⟨authorization, route, log, middle, hrequest, -, hauth⟩
        exact h.authenticated hunguessed hrequest hauth rfl
  have hlooked {first : Log} (hlooks : ∀ exchange ∈ first, exchange.request.isLook = true) :
      ∀ exchange ∈ first, ∀ conn statement, exchange.request = .query conn statement →
        statement.Spares account.id := by
    intro exchange hmem conn statement hquery
    have hlook := hlooks exchange hmem
    rw [hquery] at hlook
    cases conn <;> cases statement <;> trivial
  rcases serve_cases hserve with
    ⟨-, hlooks, error, herror, -⟩ | ⟨call, first, second, middle, hlog, hadmitted, hrun⟩
  · exact hstanding (hpasses.secure (hlooked hlooks) hsecure) (.of_error herror)
  · obtain ⟨hfirst, hlooks⟩ := hadmitted.passes
    have hmiddle := hfirst.secure (hlooked hlooks) hsecure
    have hsecond : Passes ext isolation visit.task middle second state' := Passes.exec .nil hrun
    have hpending := hfirst.pending hidle
    rw [pendingAfter_looks hlooks] at hpending
    have hunheld := h.unheld hunguessed hadmitted
    have hfull : second ⊆ visit.log := hlog ▸ List.subset_append_right first second
    obtain ⟨hafter, hfacts, hspares⟩ := hsecond.spares
      (fun before exchange after hsplit => (finish_tells call).guarded hrun hsplit) hmiddle hfull
      hunheld henabled
    have htells : Tells ext call visit.response second :=
      Prog.Ensures.told (finish_tells call) hrun
    refine hstanding hafter (hsecond.foreign hspares hmiddle hpending htells ?_)
    exact fun id hentitled => hentitled.other hfacts hfull hunheld henabled

/-- A party that knows at most the password of an account with a second factor never acts
for it, and is never given an access token or a refresh token of it. -/
theorem two_factor (hunique : state.database.committed.Unique)
    (hidle : ∀ task, state.database.pending task = none)
    (hpresent : account ∈ state.database.committed.account) (henabled : account.totpEnabled = true)
    (h : Visits ext isolation (Unguessed ext isolation account) state visits state') :
    ∀ visit ∈ visits, ¬visit.RunsAs ext isolation ⟨account.id⟩ ∧
      (∀ token ∈ visit.response.accessTokens, ∀ claims, ext.openJwt token = some claims →
        claims.accountId = .ok ⟨account.id⟩ → claims.mfaPending = some true) ∧
      ∀ raw ∈ visit.response.refreshTokens, ∀ row ∈ state'.database.committed.refreshToken,
        row.tokenHash = hashToken ext raw → row.accountId ≠ account.id := by
  have hstanding : Standing ext isolation account visits state' := by
    induction h with
    | nil => exact ⟨hunique, hpresent, fun task _ => hidle task, by simp, by simp⟩
    | snoc _ htask hunguessed hserve ih => exact ih.step hunguessed henabled htask hserve
  intro visit hmem
  have hforeign := hstanding.foreign visit hmem
  exact ⟨hstanding.acts visit hmem, hforeign.accessToken, hforeign.refreshToken⟩

end Visits

/-- The password gives a pending token, which does not pass for an access token. -/
theorem pending_token_refused :
    ∃ login me state',
      let account : Account :=
        { newAccount 1 "a@b.c" "argon2:hunter22" 0 with
          totpSecret := some "nonce:S", totpEnabled := true }
      Visits sampleExternals .serializable (Unguessed sampleExternals .serializable account)
        (.start { Tables.empty with account := [account] } 0) [login, me] state' ∧
      login.response.status = .ok ∧ me.response.status = .unauthorized ∧
      ∀ visit ∈ [login, me], ¬visit.RunsAs sampleExternals .serializable ⟨account.id⟩ ∧
        (∀ token ∈ visit.response.accessTokens, ∀ claims,
          sampleExternals.openJwt token = some claims →
          claims.accountId = .ok ⟨account.id⟩ → claims.mfaPending = some true) ∧
        ∀ raw ∈ visit.response.refreshTokens, ∀ row ∈ state'.database.committed.refreshToken,
          row.tokenHash = hashToken sampleExternals raw → row.accountId ≠ account.id := by
  let account : Account :=
    { newAccount 1 "a@b.c" "argon2:hunter22" 0 with
      totpSecret := some "nonce:S", totpEnabled := true }
  let start : ServerState Nat := .start { Tables.empty with account := [account] } 0
  let request₁ : HttpRequest := .publicly (.login { email := "A@b.c", password := "hunter22" })
  let token := "00000000-0000-0000-0000-000000000001|300|0|t"
  let request₂ : HttpRequest := .protectedly (some ("Bearer " ++ token)) .me
  have hsome : (Prog.drive (perform sampleExternals .serializable 0)
      (ServerState.oblige .serializable 0) (serve sampleExternals request₁) start).any (fun first =>
        first.2.1.status == .ok && (Prog.drive (perform sampleExternals .serializable 1)
          (ServerState.oblige .serializable 1) (serve sampleExternals request₂) first.2.2).any
            (fun second => second.2.1.status == .unauthorized)) = true := by
    decide +kernel
  have hbearer : request₂.bearer = some token := by decide +kernel
  have hopen : (sampleExternals.openJwt token).map Claims.mfaPending = some (some true) := by
    decide +kernel
  obtain ⟨⟨log₁, response₁, middle⟩, hdrive₁, hend⟩ := (Option.any_eq_true _ _).mp hsome
  obtain ⟨hok, hnext⟩ := Bool.and_eq_true_iff.mp hend
  obtain ⟨⟨log₂, response₂, state'⟩, hdrive₂, hrefused⟩ := (Option.any_eq_true _ _).mp hnext
  let login : Visit :=
    { request := request₁, task := 0, before := start, log := log₁, response := response₁ }
  let me : Visit :=
    { request := request₂, task := 1, before := middle, log := log₂, response := response₂ }
  have hlogin : Unguessed sampleExternals .serializable account [] login := by
    constructor <;> simp [login, request₁, HttpRequest.bearer]
  have hme : Unguessed sampleExternals .serializable account [login] me := by
    refine ⟨?_, by simp [me, request₂], by simp [me, request₂], by simp [me, request₂],
      by simp [me, request₂]⟩
    intro token' claims htoken hclaims _ hpending
    obtain rfl := Option.some.inj (hbearer.symm.trans htoken)
    rw [hclaims] at hopen
    exact (hpending (Option.some.inj hopen)).elim
  have hvisits : Visits sampleExternals .serializable
      (Unguessed sampleExternals .serializable account) start [login, me] state' :=
    .snoc (.snoc .nil rfl hlogin (Prog.exec_of_drive hdrive₁)) rfl hme
      (Prog.exec_of_drive hdrive₂)
  have hunique : start.database.committed.Unique := by
    constructor <;> simp [start, ServerState.start, Tables.empty]
  exact ⟨login, me, state', hvisits, eq_of_beq hok, eq_of_beq hrefused,
    two_factor hunique (fun _ => rfl) (List.mem_singleton_self _) rfl hvisits⟩

end Failsafe.Server
