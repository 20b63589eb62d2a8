import Failsafe.Server.App

/-!
The requests of the web page to the server (`failsafe-web-ui/src/lib/api.ts` and `auth.ts`).
-/

namespace Failsafe.Web

open Failsafe.Core Failsafe.Lib Failsafe.Server

/-- The two keys in the local storage of the browser. -/
structure TokenStore where
  token : Option String
  refreshToken : Option String
deriving DecidableEq, Repr

/-- What a call asks of the browser. -/
inductive WebRequest where
  | getToken
  | getRefreshToken
  | setTokens (token refreshToken : String)
  | clearToken
  | emitUnauthorized
  | fetch (request : HttpRequest)
  -- the end of a call
  | returned (result : Except String HttpResponse)
deriving DecidableEq

abbrev WebRequest.Response : WebRequest → Type
  | .getToken | .getRefreshToken => Option String
  | .setTokens _ _ | .clearToken | .emitUnauthorized | .returned _ => Unit
  | .fetch _ => Except String HttpResponse

abbrev WebSig : Signature where
  Request := WebRequest
  Response := WebRequest.Response

instance : DecidableEq WebSig.Request := inferInstanceAs (DecidableEq WebRequest)

abbrev WebProg := Prog WebSig

/-- An asynchronous function that may throw. -/
abbrev WebTry (α : Type) := ExceptT String WebProg α

def ask (request : WebRequest) : WebProg request.Response :=
  .call request .ret

def fetch (request : HttpRequest) : WebTry HttpResponse :=
  .mk (ask (.fetch request))

/-- A text that is not missing and not empty. -/
def truthy (text : Option String) : Option String :=
  text.filter fun text => text ≠ ""

/-- The header of a request with a token. -/
def bearer (token : Option String) : Option String :=
  (truthy token).map fun token => "Bearer " ++ token

/-- The two tokens of a body that is read as an `AuthResponse`. -/
def readTokens : ResponseBody → Except String (Option String × Option String)
  | .auth body => .ok (body.token, body.refreshToken)
  | .empty => .error "Unexpected end of JSON input"
  | .text _ => .error "Unexpected token"
  | _ => .ok (none, none)

def refreshTokens : WebTry Bool := do
  match truthy (← (ask .getRefreshToken : WebProg (Option String))) with
  | none => return false
  | some refreshToken => do
      let response ← fetch (.publicly (.refresh { refreshToken }))
      if ¬response.status.isSuccess then
        return false
      let body ← ExceptT.mk (.ret (readTokens response.body))
      match truthy body.1, truthy body.2 with
      | some token, some refreshToken => do
          (ask (.setTokens token refreshToken) : WebProg Unit)
          return true
      | _, _ => return false

/-- The second `fetch` of `authFetch`. -/
def retry (route : ProtectedRoute) : WebTry HttpResponse := do
  let refreshedToken ← (ask .getToken : WebProg (Option String))
  fetch (.protectedly (bearer refreshedToken) route)

/-- The end of `authFetch`. -/
def settle (response : HttpResponse) : WebTry HttpResponse := do
  if response.status = .unauthorized then
    (ask .clearToken : WebProg Unit)
    (ask .emitUnauthorized : WebProg Unit)
  return response

/-- `authFetch` for a route of the account. -/
def authFetch (route : ProtectedRoute) : WebTry HttpResponse := do
  let token ← (ask .getToken : WebProg (Option String))
  let response ← fetch (.protectedly (bearer token) route)
  if response.status = .unauthorized then
    if ← refreshTokens then
      let response ← retry route
      settle response
    else settle response
  else settle response

end Failsafe.Web
