import Failsafe.Lib.Ensures
import Failsafe.Server.Issuer
import Failsafe.Web.Api

/-!
What a call of the web page knows of its own history when it makes a request.
-/

namespace Failsafe.Web

open Failsafe.Core Failsafe.Lib Failsafe.Server

abbrev WebLog := List (Exchange WebSig)

/-- A call of the page, to its end. -/
def callProgram (route : ProtectedRoute) : WebProg Unit := do
  let result ← (authFetch route).run
  ask (.returned result)

section Guards

/-- The call has tried to refresh the tokens. -/
def Attempted (log : WebLog) : Prop :=
  ∃ request response, ⟨.fetch (.publicly (.refresh request)), response⟩ ∈ log

def Stored (log : WebLog) : Prop :=
  ∃ token refreshToken, ⟨.setTokens token refreshToken, ()⟩ ∈ log

theorem Attempted.mono {log log' : WebLog} (h : Attempted log) (hlog : log <+: log') :
    Attempted log' := by
  obtain ⟨request, response, hmem⟩ := h
  exact ⟨request, response, hlog.subset hmem⟩

theorem Stored.mono {log log' : WebLog} (h : Stored log) (hlog : log <+: log') :
    Stored log' := by
  obtain ⟨token, refreshToken, hmem⟩ := h
  exact ⟨token, refreshToken, hlog.subset hmem⟩

/-- The call was given this pair of tokens. -/
def Granted (log : WebLog) (token refreshToken : String) : Prop :=
  ∃ request response body, ⟨.fetch (.publicly (.refresh request)), .ok response⟩ ∈ log ∧
    response.status.isSuccess = true ∧ response.body = .auth body ∧ body.token = some token ∧
    body.refreshToken = some refreshToken

/-- The refresh, or the second try, was refused. -/
def Refused (log : WebLog) : Prop :=
  (∃ request response, ⟨.fetch (.publicly (.refresh request)), .ok response⟩ ∈ log ∧
    response.status.isSuccess = false) ∨
  ∃ before after authorization route response,
    log = before ++ ⟨.fetch (.protectedly authorization route), .ok response⟩ :: after ∧
    Attempted before ∧ response.status = .unauthorized

/-- A refresh that succeeded gave two tokens. -/
def Clean (log : WebLog) : Prop :=
  ∀ request response, ⟨.fetch (.publicly (.refresh request)), .ok response⟩ ∈ log →
    response.status.isSuccess = true → ∃ body token refreshToken, response.body = .auth body ∧
      body.token = some token ∧ body.refreshToken = some refreshToken ∧ token ≠ "" ∧
      refreshToken ≠ ""

/-- Tokens that the call was given are stored. -/
def Secured (log : WebLog) : Prop :=
  ∀ token refreshToken, Granted log token refreshToken → Stored log

variable {log log' : WebLog} {token refreshToken : String}

theorem Granted.mono (h : Granted log token refreshToken) (hlog : log <+: log') :
    Granted log' token refreshToken := by
  obtain ⟨request, response, body, hmem, hrest⟩ := h
  exact ⟨request, response, body, hlog.subset hmem, hrest⟩

theorem Granted.attempted (h : Granted log token refreshToken) : Attempted log := by
  obtain ⟨request, response, _, hmem, -⟩ := h
  exact ⟨request, .ok response, hmem⟩

theorem granted_snoc {exchange : Exchange WebSig}
    (h : Granted (log ++ [exchange]) token refreshToken) :
    Granted log token refreshToken ∨ ∃ request response body,
      exchange = ⟨.fetch (.publicly (.refresh request)), .ok response⟩ ∧
        response.status.isSuccess = true ∧ response.body = .auth body ∧ body.token = some token ∧
        body.refreshToken = some refreshToken := by
  obtain ⟨request, response, body, hmem, hrest⟩ := h
  rcases List.mem_append.mp hmem with hold | hnew
  · exact .inl ⟨request, response, body, hold, hrest⟩
  · exact .inr ⟨request, response, body, (List.mem_singleton.mp hnew).symm, hrest⟩

theorem stored_snoc {exchange : Exchange WebSig} (h : Stored (log ++ [exchange])) :
    Stored log ∨ ∃ token refreshToken, exchange = ⟨.setTokens token refreshToken, ()⟩ := by
  obtain ⟨token, refreshToken, hmem⟩ := h
  rcases List.mem_append.mp hmem with hold | hnew
  · exact .inl ⟨token, refreshToken, hold⟩
  · exact .inr ⟨token, refreshToken, (List.mem_singleton.mp hnew).symm⟩

/-- What a call asks after its history. -/
def CallGuard (log : WebLog) : WebRequest → Prop
  | .fetch (.publicly route) => ∃ refreshToken, route = .refresh { refreshToken } ∧
      ⟨.getRefreshToken, some refreshToken⟩ ∈ log ∧ ¬Attempted log ∧ ¬Stored log
  | .fetch (.protectedly authorization _) => ∃ before token, log = before ++ [⟨.getToken, token⟩] ∧
      authorization = bearer token ∧ (Attempted before → Stored before)
  | .setTokens token refreshToken => Granted log token refreshToken ∧ ¬Stored log
  | .clearToken => Clean log → Refused log ∨
      ∃ refreshToken, truthy refreshToken = none ∧ ⟨.getRefreshToken, refreshToken⟩ ∈ log
  | .emitUnauthorized => ⟨.clearToken, ()⟩ ∈ log
  | .returned _ => Clean log → (⟨.clearToken, ()⟩ ∈ log ∨ ¬Refused log) ∧ Secured log
  | .getToken | .getRefreshToken => True

variable {response : HttpResponse} {route : ProtectedRoute}

/-- The call ends as it may. -/
abbrev Ends (result : Except String HttpResponse) (log : WebLog) : Prop :=
  CallGuard log (.returned result)

theorem Secured.of_stored (h : Stored log) : Secured log := fun _ _ _ => h

theorem Secured.of_unattempted (h : ¬Attempted log) : Secured log := fun _ _ hgranted =>
  absurd hgranted.attempted h

theorem Secured.snoc {exchange : Exchange WebSig} (h : Secured log)
    (hother : ∀ request response, exchange = ⟨.fetch (.publicly (.refresh request)), .ok response⟩ →
      response.status.isSuccess = false) : Secured (log ++ [exchange]) := by
  intro token refreshToken hgranted
  rcases granted_snoc hgranted with hold | ⟨request, response, _, hnew, hsuccess, -⟩
  · exact (h token refreshToken hold).mono (List.prefix_append _ _)
  · rw [hother request response hnew] at hsuccess
    cases hsuccess

theorem settle_ensures
    (hrefused : response.status = .unauthorized → CallGuard log .clearToken)
    (hfine : response.status ≠ .unauthorized → Clean log → ¬Refused log)
    (hkept : Clean log → Secured log) :
    Prog.Ensures CallGuard Prog.heard (settle response).run Ends log := by
  by_cases hstatus : response.status = .unauthorized
  · unfold settle
    rw [if_pos hstatus]
    refine ⟨hrefused hstatus, ?_⟩
    rintro _ _ rfl
    refine ⟨by simp [CallGuard], ?_⟩
    rintro _ _ rfl
    intro hclean
    have hbefore : Clean log := fun request response hmem =>
      hclean request response (by simp [hmem])
    exact ⟨.inl (by simp), ((hkept hbefore).snoc (by simp)).snoc (by simp)⟩
  · unfold settle
    rw [if_neg hstatus]
    exact fun hclean => ⟨.inr (hfine hstatus hclean), hkept hclean⟩

theorem fetch_ensures {request : HttpRequest} {post : Except String HttpResponse → WebLog → Prop}
    (hguard : CallGuard log (.fetch request))
    (herror : ∀ error, post (.error error) (log ++ [⟨.fetch request, .error error⟩]))
    (hok : ∀ response, post (.ok response) (log ++ [⟨.fetch request, .ok response⟩])) :
    Prog.Ensures CallGuard Prog.heard (fetch request).run post log := by
  refine ⟨hguard, ?_⟩
  rintro result _ rfl
  cases result with
  | error error => exact herror error
  | ok response => exact hok response

theorem ask_ensures {α : Type} {request : WebRequest} {f : request.Response → WebTry α}
    {post : Except String α → WebLog → Prop} (hguard : CallGuard log request)
    (h : ∀ response, Prog.Ensures CallGuard Prog.heard (f response).run post
      (log ++ [⟨request, response⟩])) :
    Prog.Ensures (S := WebSig) CallGuard Prog.heard
      ((liftM (ask request) : WebTry request.Response) >>= f).run post log := by
  refine Prog.ensures_tryBind.mpr (Prog.ensures_lift.mpr ⟨hguard, ?_⟩)
  rintro response _ rfl
  exact h response

theorem Refused.attempted (h : Refused log) : Attempted log := by
  rcases h with ⟨request, response, hmem, -⟩ | ⟨before, after, _, _, _, rfl, hattempted, -⟩
  · exact ⟨request, _, hmem⟩
  · obtain ⟨request, response, hmem⟩ := hattempted
    exact ⟨request, response, List.mem_append_left _ hmem⟩

theorem refused_snoc {exchange : Exchange WebSig} (h : Refused (log ++ [exchange])) :
    Refused log ∨
      (∃ request response, exchange = ⟨.fetch (.publicly (.refresh request)), .ok response⟩ ∧
        response.status.isSuccess = false) ∨
      ∃ authorization route response,
        exchange = ⟨.fetch (.protectedly authorization route), .ok response⟩ ∧ Attempted log ∧
        response.status = .unauthorized := by
  rcases h with ⟨request, response, hmem, hstatus⟩ |
    ⟨before, after, authorization, route, response, hsplit, hattempted, hstatus⟩
  · rcases List.mem_append.mp hmem with hold | hnew
    · exact .inl (.inl ⟨request, response, hold, hstatus⟩)
    · exact .inr (.inl ⟨request, response, (List.mem_singleton.mp hnew).symm, hstatus⟩)
  · rcases concat_eq_split hsplit with ⟨rfl, rfl⟩ | ⟨middle, rfl⟩
    · exact .inr (.inr ⟨authorization, route, response, rfl, hattempted, hstatus⟩)
    · exact .inl (.inr ⟨before, middle, authorization, route, response, rfl, hattempted, hstatus⟩)

theorem truthy_some {text : Option String} {value : String} (h : truthy text = some value) :
    text = some value ∧ value ≠ "" := by
  obtain ⟨htext, hvalue⟩ := Option.filter_eq_some_iff.mp h
  exact ⟨htext, by simpa using hvalue⟩

theorem truthy_of_ne {value : String} (h : value ≠ "") : truthy (some value) = some value := by
  simp [truthy, h]

theorem readTokens_auth {body : ResponseBody} {tokens : Option String × Option String}
    {token : String} (h : readTokens body = .ok tokens) (htoken : tokens.1 = some token) :
    ∃ response, body = .auth response ∧ response.token = tokens.1 ∧
      response.refreshToken = tokens.2 := by
  cases body with
  | auth response =>
      cases h
      exact ⟨response, rfl, rfl, rfl⟩
  | empty | text => cases h
  | error | account | totpSetup | totpEnable | deviceList | device | pairingCreate | features =>
      cases h
      cases htoken

/-- The history of a call whose first try was refused. -/
def Turned (log : WebLog) : Prop :=
  ∃ token route response, log = [⟨.getToken, token⟩,
      ⟨.fetch (.protectedly (bearer token) route), .ok response⟩] ∧
    response.status = .unauthorized

theorem storeTokens_ensures {request : AuthRefreshRequest} {tokens : Option String × Option String}
    (hmem : ⟨.fetch (.publicly (.refresh request)), .ok response⟩ ∈ log)
    (hstatus : response.status.isSuccess = true) (hread : readTokens response.body = .ok tokens)
    (hkept : ¬Refused log) (hstored : ¬Stored log) :
    Prog.Ensures CallGuard Prog.heard
      (match truthy tokens.1, truthy tokens.2 with
        | some token, some refreshToken => do
            (ask (.setTokens token refreshToken) : WebProg Unit)
            return true
        | _, _ => return false : WebTry Bool).run
      (fun result log' => match result with
        | .error _ => Clean log' → ¬Refused log' ∧ Secured log'
        | .ok false => CallGuard log' .clearToken ∧ (Clean log' → Secured log')
        | .ok true => Attempted log' ∧ Stored log' ∧ ¬Refused log') log := by
  have hmissing : (truthy tokens.1 = none ∨ truthy tokens.2 = none) → ¬Clean log := by
    intro hnone hclean
    obtain ⟨body, token, refreshToken, hbody, htoken, hrefresh, hne, hne'⟩ :=
      hclean request response hmem hstatus
    rw [hbody] at hread
    cases hread
    rw [htoken, hrefresh, truthy_of_ne hne, truthy_of_ne hne'] at hnone
    rcases hnone with hnone | hnone <;> cases hnone
  cases htoken : truthy tokens.1 with
  | none =>
      have hunclean := hmissing (.inl htoken)
      exact ⟨fun hclean => absurd hclean hunclean, fun hclean => absurd hclean hunclean⟩
  | some token =>
      cases hrefresh : truthy tokens.2 with
      | none =>
          have hunclean := hmissing (.inr hrefresh)
          exact ⟨fun hclean => absurd hclean hunclean, fun hclean => absurd hclean hunclean⟩
      | some refreshToken =>
          obtain ⟨htoken, -⟩ := truthy_some htoken
          obtain ⟨hrefresh, -⟩ := truthy_some hrefresh
          obtain ⟨body, hbody, hbodyToken, hbodyRefresh⟩ := readTokens_auth hread htoken
          refine ask_ensures ⟨?_, hstored⟩ ?_
          · exact ⟨request, response, body, hmem, hstatus, hbody, hbodyToken.trans htoken,
              hbodyRefresh.trans hrefresh⟩
          · intro _
            refine ⟨⟨request, .ok response, by simp [hmem]⟩, ⟨token, refreshToken, by simp⟩, ?_⟩
            intro hrefused
            rcases refused_snoc hrefused with hold | ⟨_, _, hnew, -⟩ | ⟨_, _, _, hnew, -⟩
            · exact hkept hold
            · cases hnew
            · cases hnew

theorem fresh_of_turned {request : AuthRefreshRequest} {token : Option String}
    {first : HttpResponse} {raw : Option String} (hstatus : response.status.isSuccess = true) :
    ¬Refused [⟨.getToken, token⟩, ⟨.fetch (.protectedly (bearer token) route), .ok first⟩,
      ⟨.getRefreshToken, raw⟩, ⟨.fetch (.publicly (.refresh request)), .ok response⟩] := by
  intro hrefused
  rcases @refused_snoc [_, _, _] _ hrefused with hold | ⟨_, _, hnew, hfail⟩ |
    ⟨_, _, _, hnew, -⟩
  · obtain ⟨_, _, hmem⟩ := hold.attempted
    simp at hmem
  · cases hnew
    rw [hstatus] at hfail
    cases hfail
  · cases hnew

theorem not_refused_snoc {exchange : Exchange WebSig} (h : ¬Refused log)
    (hrefresh : ∀ request response,
      exchange = ⟨.fetch (.publicly (.refresh request)), .ok response⟩ →
        response.status.isSuccess = true)
    (hother : ∀ authorization route response,
      exchange = ⟨.fetch (.protectedly authorization route), .ok response⟩ →
        response.status ≠ .unauthorized) : ¬Refused (log ++ [exchange]) := by
  intro hrefused
  rcases refused_snoc hrefused with hold | ⟨request, response, hnew, hfail⟩ |
    ⟨authorization, route, response, hnew, -, hstatus⟩
  · exact h hold
  · rw [hrefresh request response hnew] at hfail
    cases hfail
  · exact hother authorization route response hnew hstatus

theorem retry_ensures (hattempted : Attempted log) (hstored : Stored log) (hkept : ¬Refused log) :
    Prog.Ensures CallGuard Prog.heard (retry route >>= settle).run Ends log := by
  unfold retry
  rw [bind_assoc]
  refine ask_ensures trivial fun token => ?_
  have hkept' : ¬Refused (log ++ [⟨.getToken, token⟩]) := not_refused_snoc hkept (by simp) (by simp)
  have hstored' (exchange : Exchange WebSig) :
      Secured (log ++ [⟨.getToken, token⟩] ++ [exchange]) :=
    .of_stored ((hstored.mono (List.prefix_append _ _)).mono (List.prefix_append _ _))
  refine Prog.ensures_tryBind.mpr (fetch_ensures ?_ ?_ fun response => settle_ensures ?_ ?_ ?_)
  · exact ⟨log, token, rfl, rfl, fun _ => hstored⟩
  · exact fun error _ => ⟨.inr (not_refused_snoc hkept' (by simp) (by simp)), hstored' _⟩
  · intro hstatus _
    exact .inl (.inr ⟨_, [], _, route, response, rfl, hattempted.mono (List.prefix_append _ _),
      hstatus⟩)
  · rintro hstatus -
    refine not_refused_snoc hkept' (by simp) ?_
    rintro _ _ _ ⟨⟩
    exact hstatus
  · exact fun _ => hstored' _

theorem refreshTokens_ensures (hturned : Turned log) :
    Prog.Ensures CallGuard Prog.heard refreshTokens.run (fun result log' => match result with
      | .error _ => Clean log' → ¬Refused log' ∧ Secured log'
      | .ok false => CallGuard log' .clearToken ∧ (Clean log' → Secured log')
      | .ok true => Attempted log' ∧ Stored log' ∧ ¬Refused log') log := by
  obtain ⟨token, route, first, rfl, hfirst⟩ := hturned
  refine ask_ensures trivial fun refreshToken => ?_
  have hunattempted : ¬Attempted ([⟨.getToken, token⟩,
      ⟨.fetch (.protectedly (bearer token) route), .ok first⟩] ++
      [⟨.getRefreshToken, refreshToken⟩]) := by simp [Attempted]
  have hunrefused := fun hrefused => hunattempted (Refused.attempted hrefused)
  have hsecured := Secured.of_unattempted hunattempted
  cases hrefresh : truthy refreshToken with
  | none => exact ⟨fun _ => .inr ⟨refreshToken, hrefresh, by simp⟩, fun _ => hsecured⟩
  | some raw =>
      obtain ⟨rfl, -⟩ := truthy_some hrefresh
      refine Prog.ensures_tryBind.mpr (fetch_ensures ?_ ?_ fun response => ?_)
      · exact ⟨raw, rfl, by simp, by simp [Attempted], by simp [Stored]⟩
      · exact fun error _ =>
          ⟨not_refused_snoc hunrefused (by simp) (by simp), hsecured.snoc (by simp)⟩
      · dsimp only
        by_cases hstatus : response.status.isSuccess = true
        · rw [if_neg (by simp [hstatus])]
          cases hread : readTokens response.body with
          | error error =>
              intro hclean
              obtain ⟨body, _, _, hbody, -⟩ := hclean ⟨raw⟩ response (by simp) hstatus
              rw [hbody] at hread
              cases hread
          | ok tokens =>
              exact @storeTokens_ensures _ _ ⟨raw⟩ _ (by simp) hstatus hread
                (fresh_of_turned hstatus) (by simp [Stored])
        · rw [if_pos (by simp [hstatus])]
          have hfailed : response.status.isSuccess = false := by simpa using hstatus
          refine ⟨fun _ => .inl (.inl ⟨⟨raw⟩, response, by simp, hfailed⟩), fun _ => ?_⟩
          refine hsecured.snoc ?_
          rintro _ _ ⟨⟩
          exact hfailed

theorem authFetch_ensures : Prog.Ensures CallGuard Prog.heard (authFetch route).run Ends [] := by
  refine ask_ensures trivial fun token => ?_
  have hunattempted (answer : Except String HttpResponse) : ¬Attempted ([⟨.getToken, token⟩] ++
      [⟨.fetch (.protectedly (bearer token) route), answer⟩]) := by simp [Attempted]
  have hunrefused (answer : Except String HttpResponse) :=
    fun hrefused => hunattempted answer (Refused.attempted hrefused)
  refine Prog.ensures_tryBind.mpr (fetch_ensures ?_ ?_ fun response => ?_)
  · exact ⟨[], token, rfl, rfl, by simp [Attempted]⟩
  · exact fun error _ => ⟨.inr (hunrefused _), .of_unattempted (hunattempted _)⟩
  · dsimp only
    by_cases hstatus : response.status = .unauthorized
    · rw [if_pos hstatus]
      refine Prog.ensures_tryBind.mpr ((refreshTokens_ensures
        ⟨token, route, response, rfl, hstatus⟩).mono fun result log hresult => ?_)
      cases result with
      | error error => exact fun hclean => ⟨.inr (hresult hclean).1, (hresult hclean).2⟩
      | ok refreshed =>
          cases refreshed with
          | false =>
              exact settle_ensures (fun _ => hresult.1) (fun hother => (hother hstatus).elim)
                hresult.2
          | true =>
              obtain ⟨hattempted, hstored, hkept⟩ := hresult
              exact retry_ensures hattempted hstored hkept
    · rw [if_neg hstatus]
      exact settle_ensures (fun h => (hstatus h).elim) (fun _ _ => hunrefused _)
        fun _ => .of_unattempted (hunattempted _)

/-- The requests of a call before it returns. -/
def Working : WebRequest → Prop
  | .returned _ => False
  | _ => True

theorem settle_working : (settle response).run.All Working := by
  unfold settle
  split
  · exact ⟨trivial, fun _ => ⟨trivial, fun _ => trivial⟩⟩
  · trivial

theorem refreshTokens_working : refreshTokens.run.All Working := by
  refine .tryBind (.lift ⟨trivial, fun _ => trivial⟩) fun refreshToken => ?_
  split
  · trivial
  · refine .tryBind ⟨trivial, fun _ => trivial⟩ fun response => ?_
    split
    · trivial
    · refine .tryBind trivial fun body => ?_
      split
      · exact ⟨trivial, fun _ => trivial⟩
      · trivial

theorem authFetch_working : (authFetch route).run.All Working := by
  refine .tryBind (.lift ⟨trivial, fun _ => trivial⟩) fun token => ?_
  refine .tryBind ⟨trivial, fun _ => trivial⟩ fun response => ?_
  split
  · refine .tryBind refreshTokens_working fun refreshed => ?_
    split
    · exact .tryBind ⟨trivial, fun _ => ⟨trivial, fun _ => trivial⟩⟩ fun _ => settle_working
    · exact settle_working
  · exact settle_working

theorem callProgram_ensures :
    Prog.Ensures CallGuard Prog.heard (callProgram route) (fun _ _ => True) [] := by
  refine Prog.ensures_bind.mpr (authFetch_ensures.mono fun result log hends => ?_)
  exact ⟨hends, fun _ _ _ => trivial⟩

end Guards

end Failsafe.Web
