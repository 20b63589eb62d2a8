import Failsafe.Server.Unauthorized
import Failsafe.Web.Api

/-!
A call of the web page that has the server to itself.
-/

namespace Failsafe.Web

open Failsafe.Core Failsafe.Lib Failsafe.Server

variable {ext : Externals} {isolation : Isolation}

/-- The page, the server, and the requests of the page that the server has served. -/
structure Browser where
  store : TokenStore
  server : ServerState Nat
  visits : List Visit

/-- The server serves a request to its end. -/
def Served (ext : Externals) (isolation : Isolation) (request : HttpRequest)
    (response : HttpResponse) (before after : Browser) : Prop :=
  ∃ log last, Performs ext isolation before.visits.length (serve ext request) before.server log
      response last ∧
    after = { before with
      server := last
      visits := before.visits ++
        [{ request, task := before.visits.length, before := before.server, log, response }] }

def acts (ext : Externals) (isolation : Isolation) :
    (request : WebRequest) → request.Response → Browser → Browser → Prop
  | .getToken, (token : Option String), before, after =>
      token = before.store.token ∧ after = before
  | .getRefreshToken, (refreshToken : Option String), before, after =>
      refreshToken = before.store.refreshToken ∧ after = before
  | .setTokens token refreshToken, _, before, after =>
      after = { before with
        store := { token := some token, refreshToken := some refreshToken } }
  | .clearToken, _, before, after =>
      after = { before with store := { token := none, refreshToken := none } }
  | .fetch request, .ok response, before, after =>
      Served ext isolation request response before after
  -- the request was not sent, or the response was lost
  | .fetch request, .error _, before, after =>
      after = before ∨ ∃ response, Served ext isolation request response before after
  | .emitUnauthorized, _, before, after | .returned _, _, before, after => after = before

/-- A call runs to its end with no other request to the server. -/
abbrev Calls (ext : Externals) (isolation : Isolation) (route : ProtectedRoute) (browser : Browser)
    (log : List (Exchange WebSig)) (result : Except String HttpResponse) (browser' : Browser) :
    Prop :=
  Prog.Exec (S := WebSig) (acts ext isolation) (authFetch route).run browser log result browser'

/-- The tokens in the store work up to a time. -/
structure SignedOn (ext : Externals) (browser : Browser) (clock : Timestamp) (token raw : String)
    (accountId : AccountId) : Prop where
  store : browser.store = { token := some token, refreshToken := some raw }
  nonempty : token ≠ ""
  access : AccessWorks ext browser.server.database.committed clock token accountId
  refresh : RefreshWorks ext browser.server.database.committed clock raw

/-- The call leaves the user signed in. -/
structure StaysOn (ext : Externals) (route : ProtectedRoute) (before : Browser)
    (log : List (Exchange WebSig)) (after : Browser) (token raw : String)
    (accountId : AccountId) : Prop where
  store : after.store = before.store
  kept : ⟨.clearToken, ()⟩ ∉ log
  quiet : ⟨.emitUnauthorized, ()⟩ ∉ log
  access : AccessWorks ext after.server.database.committed after.server.clock token accountId
  /-- Only a new password and the end of the second factor revoke the refresh token. -/
  refresh : RefreshWorks ext after.server.database.committed after.server.clock raw ∨
    revokesTokens route = true ∧ ∃ visit ∈ after.visits, visit.response.status.isSuccess = true

section Steps

variable {before after : Browser} {request : HttpRequest} {response : HttpResponse}
  {route : ProtectedRoute} {token raw : String} {accountId : AccountId}

/-- The clock goes on, and the requests are added to. -/
def Onward (before after : Browser) : Prop :=
  before.server.clock ≤ after.server.clock ∧ before.visits <+: after.visits

theorem Served.onward (h : Served ext isolation request response before after) :
    Onward before after := by
  obtain ⟨log, last, hserve, rfl⟩ := h
  exact ⟨(Passes.exec .nil hserve).clock.1, List.prefix_append _ _⟩

theorem acts_onward {request : WebRequest} {response : request.Response}
    (h : acts ext isolation request response before after) : Onward before after := by
  have hrefl : Onward before before := ⟨Nat.le_refl _, List.prefix_rfl⟩
  cases request with
  | getToken | getRefreshToken =>
      obtain ⟨-, rfl⟩ := h
      exact hrefl
  | setTokens | clearToken | emitUnauthorized | returned =>
      obtain rfl := h
      exact hrefl
  | fetch request =>
      cases response with
      | ok response => exact Served.onward h
      | error error =>
          rcases h with rfl | ⟨response, hserved⟩
          · exact hrefl
          · exact hserved.onward

theorem exec_onward {α : Type} {p : WebProg α} {log : List (Exchange WebSig)} {value : α}
    (h : Prog.Exec (S := WebSig) (acts ext isolation) p before log value after) :
    Onward before after := by
  induction h with
  | ret => exact ⟨Nat.le_refl _, List.prefix_rfl⟩
  | call hact _ ih =>
      obtain ⟨hclock, hvisits⟩ := acts_onward hact
      exact ⟨hclock.trans ih.1, hvisits.trans ih.2⟩

theorem bearer_token (h : token ≠ "") :
    (bearer (some token)).bind (stripPrefix "Bearer ") = some token := by
  have htruthy : truthy (some token) = some token := by simp [truthy, h]
  simp only [bearer, htruthy, Option.map_some, Option.bind_some]
  exact stripPrefix_append "Bearer " token

theorem AccessWorks.until {tables : Tables} {clock clock' : Timestamp}
    (h : AccessWorks ext tables clock' token accountId) (hclock : clock ≤ clock') :
    AccessWorks ext tables clock token accountId := by
  obtain ⟨claims, hopen, hpending, haccount, htime⟩ := h.opens
  have hseconds : clock / SECOND ≤ clock' / SECOND := Nat.div_le_div_right hclock
  exact ⟨⟨claims, hopen, hpending, haccount, hseconds.trans htime⟩, h.present⟩

theorem RefreshWorks.kept {tables tables' : Tables} {clock : Timestamp}
    (h : RefreshWorks ext tables clock raw) (hrows : tables.refreshToken ⊆ tables'.refreshToken)
    (haccounts : AccountKept tables tables') : RefreshWorks ext tables' clock raw := by
  obtain ⟨hraw, row, hrow, hhash, hvalid, hexpires, account, haccount, hid⟩ := h
  obtain ⟨account', haccount', hid'⟩ := haccounts account haccount
  exact ⟨hraw, row, hrows hrow, hhash, hvalid, hexpires, account', haccount', hid'.trans hid⟩

theorem Served.agrees {clock : Timestamp}
    (h : Served ext isolation (.protectedly (bearer (some token)) route) response before after)
    (hidle : ∀ task, before.server.database.pending task = none)
    (hsigned : SignedOn ext before clock token raw accountId) (hclock : after.server.clock ≤ clock) :
    after.store = before.store ∧
      AccessWorks ext after.server.database.committed clock token accountId ∧
      (RefreshWorks ext after.server.database.committed clock raw ∨ revokesTokens route = true ∧
        ∃ visit ∈ after.visits, visit.response.status.isSuccess = true) ∧
      (response.status = .unauthorized → ∃ visit ∈ after.visits,
        Rejects ext accountId visit.log route) := by
  obtain ⟨log, last, hserve, rfl⟩ := h
  have hkept : AccountKept before.server.database.committed last.database.committed :=
    (Passes.exec .nil hserve).accountKept
  obtain ⟨hrejects, hrows⟩ := serve_agrees hserve (hidle _) (bearer_token hsigned.nonempty)
    (AccessWorks.until hsigned.access hclock)
  refine ⟨rfl, hsigned.access.kept hkept, ?_, fun hstatus => ?_⟩
  · rcases hrows with hrows | ⟨hrevokes, hsuccess⟩
    · exact .inl (RefreshWorks.kept hsigned.refresh hrows hkept)
    · exact .inr ⟨hrevokes, _, List.mem_concat_self, hsuccess⟩
  · exact ⟨_, List.mem_concat_self, hrejects hstatus⟩

end Steps

section Calls

variable {browser browser' : Browser} {route : ProtectedRoute} {log : List (Exchange WebSig)}
  {result : Except String HttpResponse} {token raw : String} {accountId : AccountId}

/-- A call with tokens that work leaves the user signed in, unless the server finds what the
request brings wrong. -/
theorem call_stays_on (hidle : ∀ task, browser.server.database.pending task = none)
    (h : Calls ext isolation route browser log result browser')
    (hsigned : SignedOn ext browser browser'.server.clock token raw accountId)
    (hright : ∀ visit ∈ browser'.visits, ¬Rejects ext accountId visit.log route) :
    StaysOn ext route browser log browser' token raw accountId := by
  cases h with
  | call hget h =>
      obtain ⟨hread, rfl⟩ := hget
      rw [hsigned.store] at hread
      obtain rfl := hread
      cases h with
      | call hfetch h =>
          rename_i browser middle rest fetched
          cases fetched with
          | error error =>
              cases h
              rcases hfetch with rfl | ⟨response, hserved⟩
              · exact ⟨rfl, by simp, by simp, hsigned.access, .inl hsigned.refresh⟩
              · obtain ⟨hstore, haccess, hrefresh, -⟩ := hserved.agrees hidle hsigned le_rfl
                exact ⟨hstore, by simp, by simp, haccess, hrefresh⟩
          | ok response =>
              have honward := exec_onward h
              obtain ⟨hstore, haccess, hrefresh, hrejects⟩ :=
                Served.agrees hfetch hidle hsigned honward.1
              have hstatus : response.status ≠ .unauthorized := by
                intro hstatus
                obtain ⟨visit, hmem, hrejected⟩ := hrejects hstatus
                exact hright visit (honward.2.subset hmem) hrejected
              change Prog.Exec _ (ExceptT.run (if response.status = .unauthorized then _
                else settle response)) _ _ _ _ at h
              rw [if_neg hstatus, settle, if_neg hstatus] at h
              cases h
              exact ⟨hstore, by simp, by simp, haccess, hrefresh⟩

end Calls

section Samples

/-- The run of a request where nothing fails that need not. -/
def visit (ext : Externals) (isolation : Isolation) (request : HttpRequest) (browser : Browser) :
    Option (Log × HttpResponse × ServerState Nat) :=
  Prog.drive (perform ext isolation browser.visits.length)
    (ServerState.oblige isolation browser.visits.length) (serve ext request) browser.server

def browse (ext : Externals) (isolation : Isolation) :
    (request : WebRequest) → request.Response → Browser → Option Browser
  | .getToken, (token : Option String), browser =>
      if token = browser.store.token then some browser else none
  | .getRefreshToken, (refreshToken : Option String), browser =>
      if refreshToken = browser.store.refreshToken then some browser else none
  | .setTokens token refreshToken, _, browser =>
      some { browser with store := { token := some token, refreshToken := some refreshToken } }
  | .clearToken, _, browser =>
      some { browser with store := { token := none, refreshToken := none } }
  | .fetch request, .ok response, browser =>
      (visit ext isolation request browser).bind fun (log, response', server) =>
        if response' = response then
          some { browser with
            server
            visits := browser.visits ++
              [{ request, task := browser.visits.length, before := browser.server, log, response }] }
        else none
  | .fetch _, .error _, _ => none
  | .emitUnauthorized, _, browser | .returned _, _, browser => some browser

/-- The answers of the browser and of the server. -/
def answer (ext : Externals) (isolation : Isolation) (browser : Browser) :
    (request : WebRequest) → Option request.Response
  | .getToken => some browser.store.token
  | .getRefreshToken => some browser.store.refreshToken
  | .fetch request => (visit ext isolation request browser).map fun result => .ok result.2.1
  | .setTokens _ _ | .clearToken | .emitUnauthorized | .returned _ => some ()

theorem acts_of_browse {request : WebRequest} {response : request.Response}
    {before after : Browser} (h : browse ext isolation request response before = some after) :
    acts ext isolation request response before after := by
  cases request with
  | getToken | getRefreshToken =>
      obtain ⟨hread, hafter⟩ := Option.ite_none_right_eq_some.mp h
      exact ⟨hread, (Option.some.inj hafter).symm⟩
  | setTokens | clearToken | emitUnauthorized | returned => exact (Option.some.inj h).symm
  | fetch request =>
      cases response with
      | error error => cases h
      | ok response =>
          obtain ⟨⟨log, response', server⟩, hdrive, hserved⟩ := Option.bind_eq_some_iff.mp h
          obtain ⟨rfl, hafter⟩ := Option.ite_none_right_eq_some.mp hserved
          exact ⟨log, server, Prog.exec_of_drive hdrive, (Option.some.inj hafter).symm⟩

/-- A user who is signed in, with the password "hunter22". -/
def sampleBrowser : Browser where
  store :=
    { token := some "00000000-0000-0000-0000-000000000001|3600|0|"
      refreshToken := some "raw" }
  server := .start
    { Tables.empty with
      account := [newAccount 1 "a@b.c" "argon2:hunter22" 0]
      refreshToken := [{ id := 2, accountId := 1, tokenHash := "sha256:raw",
                         expiresAt := REFRESH_TOKEN_TTL, revokedAt := none, createdAt := 0 }] } 0
  visits := []

def sampleCall (route : ProtectedRoute) :
    Option (List (Exchange WebSig) × Except String HttpResponse × Browser) :=
  Prog.drive (S := WebSig) (browse sampleExternals .serializable)
    (answer sampleExternals .serializable) (authFetch route).run sampleBrowser

theorem calls_of_sample {route : ProtectedRoute} {log : List (Exchange WebSig)}
    {result : Except String HttpResponse} {browser : Browser}
    (h : sampleCall route = some (log, result, browser)) :
    Calls sampleExternals .serializable route sampleBrowser log result browser :=
  (Prog.exec_of_drive h).mono fun _ _ _ _ => acts_of_browse

theorem sampleBrowser_signedOn : SignedOn sampleExternals sampleBrowser 0
    "00000000-0000-0000-0000-000000000001|3600|0|" "raw" ⟨1⟩ where
  store := rfl
  nonempty := by decide
  access := by
    refine ⟨⟨⟨"00000000-0000-0000-0000-000000000001", 3600, 0, none⟩, ?_, nofun, ?_, ?_⟩,
      _, List.mem_singleton_self _, rfl⟩
    · decide +kernel
    · decide +kernel
    · decide
  refresh := by
    refine ⟨by decide +kernel, _, List.mem_singleton_self _, ?_, rfl, Nat.zero_le _,
      _, List.mem_singleton_self _, rfl⟩
    decide +kernel

/-- A call that the server has nothing against. -/
theorem me_stays_on :
    ∃ log response browser,
      Calls sampleExternals .serializable .me sampleBrowser log (.ok response) browser ∧
      response.status = .ok ∧
      StaysOn sampleExternals .me sampleBrowser log browser
        "00000000-0000-0000-0000-000000000001|3600|0|" "raw" ⟨1⟩ := by
  have hsome : (sampleCall .me).any (fun (_, result, browser) =>
      result.toOption.map HttpResponse.status == some .ok && browser.server.clock == 0) = true := by
    decide +kernel
  obtain ⟨⟨log, result, browser⟩, hdrive, hend⟩ := (Option.any_eq_true _ _).mp hsome
  obtain ⟨hok, hclock⟩ := Bool.and_eq_true_iff.mp hend
  have hcalls := calls_of_sample hdrive
  cases result with
  | error error => cases hok
  | ok response =>
      refine ⟨log, response, browser, hcalls, Option.some.inj (eq_of_beq hok), ?_⟩
      refine call_stays_on (fun _ => rfl) hcalls ?_ fun visit _ => not_rejects rfl
      rw [eq_of_beq hclock]
      exact sampleBrowser_signedOn

/-- A new password revokes the refresh token in the store; and a wrong one signs the user out. -/
theorem password_signs_off :
    (∃ route log response browser,
      Calls sampleExternals .serializable route sampleBrowser log (.ok response) browser ∧
      SignedOn sampleExternals sampleBrowser browser.server.clock
        "00000000-0000-0000-0000-000000000001|3600|0|" "raw" ⟨1⟩ ∧
      response.status = .noContent ∧
      ¬RefreshWorks sampleExternals browser.server.database.committed browser.server.clock "raw") ∧
    ∃ route log response browser,
      Calls sampleExternals .serializable route sampleBrowser log (.ok response) browser ∧
      SignedOn sampleExternals sampleBrowser browser.server.clock
        "00000000-0000-0000-0000-000000000001|3600|0|" "raw" ⟨1⟩ ∧
      response.status = .unauthorized ∧
      browser.store = { token := none, refreshToken := none } ∧
      .emitUnauthorized ∈ log.map Exchange.request := by
  let right : ProtectedRoute :=
    .changePassword { currentPassword := "hunter22", newPassword := "hunter23" }
  let wrong : ProtectedRoute :=
    .changePassword { currentPassword := "hunter21", newPassword := "hunter23" }
  have hright : (sampleCall right).any (fun (_, result, browser) =>
      result.toOption.map HttpResponse.status == some .noContent && (browser.server.clock == 0 &&
        browser.server.database.committed.refreshToken.all fun row => row.revokedAt.isSome)) =
          true := by
    decide +kernel
  have hwrong : (sampleCall wrong).any (fun (log, result, browser) =>
      result.toOption.map HttpResponse.status == some .unauthorized &&
        (browser.server.clock == 0 && (browser.store == { token := none, refreshToken := none } &&
          (log.map Exchange.request).contains .emitUnauthorized))) = true := by
    decide +kernel
  constructor
  · obtain ⟨⟨log, result, browser⟩, hdrive, hend⟩ := (Option.any_eq_true _ _).mp hright
    simp only [Bool.and_eq_true, beq_iff_eq, List.all_eq_true] at hend
    obtain ⟨hstatus, hclock, hrevoked⟩ := hend
    cases result with
    | error error => cases hstatus
    | ok response =>
        refine ⟨right, log, response, browser, calls_of_sample hdrive, ?_,
          Option.some.inj hstatus, ?_⟩
        · rw [hclock]
          exact sampleBrowser_signedOn
        · rintro ⟨-, row, hmem, -, hvalid, -⟩
          have hsome := hrevoked row hmem
          rw [hvalid] at hsome
          cases hsome
  · obtain ⟨⟨log, result, browser⟩, hdrive, hend⟩ := (Option.any_eq_true _ _).mp hwrong
    simp only [Bool.and_eq_true, beq_iff_eq, List.contains_eq_mem, decide_eq_true_eq] at hend
    obtain ⟨hstatus, hclock, hstore, hemitted⟩ := hend
    cases result with
    | error error => cases hstatus
    | ok response =>
        refine ⟨wrong, log, response, browser, calls_of_sample hdrive, ?_,
          Option.some.inj hstatus, hstore, hemitted⟩
        rw [hclock]
        exact sampleBrowser_signedOn

end Samples

end Failsafe.Web
