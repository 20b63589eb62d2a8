import Failsafe.Server.Refusals

/-!
The tokens of the server as its clients know them: a refresh token works once, and an access
token is accepted or not.
-/

namespace Failsafe.Server

open Failsafe.Core Failsafe.Lib

structure Issuer where
  -- the refresh tokens of the account, and those of them that work
  issued : List String
  live : List String
  -- the access tokens that are accepted
  accepted : List String
deriving DecidableEq, Repr

namespace Issuer

/-- A token that works is exchanged for a new pair. -/
def rotate (issuer : Issuer) (raw token newRaw : String) : Option Issuer :=
  if raw ∈ issuer.live ∧ newRaw ∉ issuer.issued ∧ token ≠ "" ∧ newRaw ≠ "" then
    some {
      issued := newRaw :: issuer.issued
      live := newRaw :: issuer.live.filter (· ≠ raw)
      accepted := token :: issuer.accepted }
  else none

def revokeAll (issuer : Issuer) : Issuer :=
  { issuer with live := [] }

def expire (issuer : Issuer) (token : String) : Issuer :=
  { issuer with accepted := issuer.accepted.filter (· ≠ token) }

/-- A header with a token that is accepted. -/
def accepts (issuer : Issuer) (authorization : Option String) : Bool :=
  (authorization.bind (stripPrefix "Bearer ")).any fun token => issuer.accepted.contains token

end Issuer

/-- The routes whose handlers may answer an accepted token with 401. -/
def mayRefuse : ProtectedRoute → Bool
  | .changePassword _ | .totpSetup | .totpEnable _ | .totpDisable _ => true
  | _ => false

/-- The routes that revoke the refresh tokens of the account. -/
def revokesTokens : ProtectedRoute → Bool
  | .changePassword _ | .totpDisable _ => true
  | _ => false

/-- Whether the server can do a refresh: the limiter may let no more through, and the database
or the signing of a token may fail. -/
inductive Readiness where
  | ready
  | limited
  | failing
deriving DecidableEq, Repr

namespace Issuer

/-- The answers to a refresh. -/
def serveRefresh (issuer : Issuer) (raw : String) (response : HttpResponse) :
    Readiness → Option Issuer
  | .ready =>
      match response.body with
      | .auth { token := some token, refreshToken := some newRaw, .. } =>
          if response.status = .ok then issuer.rotate raw token newRaw else none
      | _ =>
          if (response.status = .unauthorized ∨ response.status = .badRequest) ∧
              raw ∉ issuer.live then some issuer
          else none
  | .limited => if response = rateLimited then some issuer else none
  -- a token that does not work may be found out before anything fails
  | .failing =>
      if response.status = .internalServerError ∨
          (response.status = .unauthorized ∨ response.status = .badRequest) ∧
            raw ∉ issuer.live then some issuer
      else none

/-- The answers that a request may get, and what it leaves. -/
def serve (issuer : Issuer) (readiness : Readiness) : HttpRequest → HttpResponse → Option Issuer
  | .publicly (.refresh request), response =>
      issuer.serveRefresh request.refreshToken response readiness
  | .publicly _, _ => none
  | .protectedly authorization route, response =>
      if issuer.accepts authorization then
        if response.status = .unauthorized then
          if mayRefuse route then some issuer else none
        else if revokesTokens route ∧ response.status.isSuccess then some issuer.revokeAll
        else some issuer
      else if response.status = .unauthorized then some issuer
      else none

variable {issuer issuer' : Issuer} {readiness : Readiness} {response : HttpResponse}

theorem rotate_some {raw token newRaw : String} (h : issuer.rotate raw token newRaw = some issuer') :
    raw ∈ issuer.live ∧ newRaw ∉ issuer.issued ∧ token ≠ "" ∧ newRaw ≠ "" ∧
      issuer'.issued = newRaw :: issuer.issued ∧
      issuer'.live = newRaw :: issuer.live.filter (· ≠ raw) ∧
      issuer'.accepted = token :: issuer.accepted := by
  unfold rotate at h
  obtain ⟨⟨hlive, hnew, htoken, hraw⟩, hissuer⟩ := Option.ite_none_right_eq_some.mp h
  obtain rfl := Option.some.inj hissuer
  exact ⟨hlive, hnew, htoken, hraw, rfl, rfl, rfl⟩

/-- A refresh gets new tokens, or is answered with a failure and leaves the old ones. -/
theorem serve_refresh {request : AuthRefreshRequest}
    (h : issuer.serve readiness (.publicly (.refresh request)) response = some issuer') :
    (∃ body token newRaw, readiness = .ready ∧ response.status = .ok ∧
      response.body = .auth body ∧ body.token = some token ∧ body.refreshToken = some newRaw ∧
      issuer.rotate request.refreshToken token newRaw = some issuer') ∨
    response.status.isSuccess = false ∧
      (readiness = .ready → request.refreshToken ∉ issuer.live) ∧ issuer' = issuer := by
  have hrefused : response.status = .unauthorized ∨ response.status = .badRequest →
      response.status.isSuccess = false := by
    rintro (hstatus | hstatus) <;> rw [hstatus] <;> rfl
  cases readiness with
  | ready =>
      simp only [serve, serveRefresh] at h
      split at h
      · rename_i token newRaw _ _ hbody
        obtain ⟨hstatus, hrotate⟩ := Option.ite_none_right_eq_some.mp h
        exact .inl ⟨_, token, newRaw, rfl, hstatus, hbody, rfl, rfl, hrotate⟩
      · obtain ⟨⟨hstatus, hlive⟩, hissuer⟩ := Option.ite_none_right_eq_some.mp h
        exact .inr ⟨hrefused hstatus, fun _ => hlive, (Option.some.inj hissuer).symm⟩
  | limited =>
      obtain ⟨rfl, hissuer⟩ := Option.ite_none_right_eq_some.mp h
      exact .inr ⟨rfl, nofun, (Option.some.inj hissuer).symm⟩
  | failing =>
      obtain ⟨hstatus | ⟨hstatus, -⟩, hissuer⟩ := Option.ite_none_right_eq_some.mp h
      · refine .inr ⟨?_, nofun, (Option.some.inj hissuer).symm⟩
        rw [hstatus]
        rfl
      · exact .inr ⟨hrefused hstatus, nofun, (Option.some.inj hissuer).symm⟩

theorem serve_publicly {route : PublicRoute}
    (h : issuer.serve readiness (.publicly route) response = some issuer') :
    ∃ request, route = .refresh request := by
  cases route with
  | refresh request => exact ⟨request, rfl⟩
  | _ => cases h

theorem serve_protectedly {authorization : Option String} {route : ProtectedRoute}
    (h : issuer.serve readiness (.protectedly authorization route) response = some issuer') :
    (issuer.accepts authorization = false → response.status = .unauthorized) ∧
      (issuer' = issuer ∨ issuer.accepts authorization = true ∧ revokesTokens route = true ∧
        response.status.isSuccess = true ∧ issuer' = issuer.revokeAll) := by
  simp only [serve] at h
  by_cases haccepts : issuer.accepts authorization = true
  · refine ⟨fun hnot => by simp [haccepts] at hnot, ?_⟩
    rw [if_pos haccepts] at h
    split at h
    · obtain ⟨-, hissuer⟩ := Option.ite_none_right_eq_some.mp h
      exact .inl (Option.some.inj hissuer).symm
    · split at h
      · rename_i hrevokes
        exact .inr ⟨haccepts, hrevokes.1, hrevokes.2, (Option.some.inj h).symm⟩
      · exact .inl (Option.some.inj h).symm
  · rw [if_neg haccepts] at h
    obtain ⟨hstatus, hissuer⟩ := Option.ite_none_right_eq_some.mp h
    exact ⟨fun _ => hstatus, .inl (Option.some.inj hissuer).symm⟩

theorem serve_revokes {authorization : Option String} {route : ProtectedRoute}
    (h : issuer.serve readiness (.protectedly authorization route) response = some issuer')
    (haccepts : issuer.accepts authorization = true) (hrevokes : revokesTokens route = true)
    (hsuccess : response.status.isSuccess = true) : issuer' = issuer.revokeAll := by
  have hstatus : response.status ≠ .unauthorized := by
    intro hstatus
    rw [hstatus] at hsuccess
    cases hsuccess
  simp only [serve] at h
  rw [if_pos haccepts, if_neg hstatus, if_pos ⟨hrevokes, hsuccess⟩] at h
  exact (Option.some.inj h).symm

theorem serve_unauthorized {authorization : Option String} {route : ProtectedRoute}
    (h : issuer.serve readiness (.protectedly authorization route) response = some issuer')
    (hroute : mayRefuse route = false) :
    response.status = .unauthorized ↔ issuer.accepts authorization = false := by
  refine ⟨fun hstatus => ?_, (serve_protectedly h).1⟩
  by_contra haccepts
  simp only [serve] at h
  rw [if_pos (by simpa using haccepts), if_pos hstatus, hroute] at h
  cases h

theorem accepts_iff {authorization : Option String} :
    issuer.accepts authorization = true ↔
      ∃ token ∈ issuer.accepted, authorization.bind (stripPrefix "Bearer ") = some token := by
  simp only [accepts, Option.any_eq_true, List.contains_eq_mem, decide_eq_true_eq]
  constructor
  · rintro ⟨token, htoken, hmem⟩
    exact ⟨token, hmem, htoken⟩
  · rintro ⟨token, hmem, htoken⟩
    exact ⟨token, htoken, hmem⟩

end Issuer

theorem stripPrefix_append (front text : String) : stripPrefix front (front ++ text) = some text := by
  simp [stripPrefix]

end Failsafe.Server
