import Failsafe.Server.AuthRoutes
import Failsafe.Server.DeviceRoutes

/-!
The routes of the server, and the server as a pool of requests in progress
(`build_app` in `failsafe-server/src/lib.rs`, `middleware.rs`, `rate_limit.rs`, `web.rs`).
-/

namespace Failsafe.Server

open Failsafe.Core Failsafe.Lib

variable (ext : Externals)

inductive PublicRoute where
  | register (request : AuthRegisterRequest)
  | login (request : AuthLoginRequest)
  | loginMfa (request : AuthMfaLoginRequest)
  | refresh (request : AuthRefreshRequest)
  | logout (request : AuthLogoutRequest)
  | redeemPairingCode (request : PairingRedeemRequest)
  | listFeatures
  | health
  | fallback (path : String)
deriving DecidableEq, Repr

inductive ProtectedRoute where
  | me
  | changePassword (request : ChangePasswordRequest)
  | totpSetup
  | totpEnable (request : TotpEnableRequest)
  | totpDisable (request : TotpDisableRequest)
  | listDevices
  | upsertDevice (deviceId : Uuid) (request : DeviceUpsertRequest)
  | patchDevice (deviceId : Uuid) (request : DevicePatchRequest)
  | deleteDevice (deviceId : Uuid)
  | heartbeatDevice (deviceId : Uuid)
  | createPairingCode
deriving DecidableEq, Repr

/-- `impl IntoResponse for Json`. -/
def json (body : ResponseBody) : HttpResponse :=
  { status := .ok, body }

def noContent : HttpResponse :=
  { status := .noContent, body := .empty }

/-- `web::serve`, for a path without its leading slashes. -/
def webServe (path : String) : HttpResponse :=
  let path := if path.isEmpty then "index.html" else path
  match ext.webAsset path with
  | some content => { status := .ok, body := .text content }
  | none =>
      match ext.webAsset "index.html" with
      | some content => { status := .ok, body := .text content }
      | none => { status := .notFound, body := .text "not found" }

def handlePublic : PublicRoute → ServerTry HttpResponse
  | .register request => do return json (.auth (← register ext request))
  | .login request => do return json (.auth (← login ext request))
  | .loginMfa request => do return json (.auth (← loginMfa ext request))
  | .refresh request => do return json (.auth (← refresh ext request))
  | .logout request => do
      logout ext request
      return noContent
  | .redeemPairingCode request => do return json (.auth (← redeemPairingCode ext request))
  | .listFeatures => return json (.features { features := catalog })
  | .health => return { status := .ok, body := .text "ok" }
  | .fallback path => return webServe ext path

def handleProtected (accountId : AccountId) : ProtectedRoute → ServerTry HttpResponse
  | .me => do return json (.account (← me accountId))
  | .changePassword request => do
      changePassword ext accountId request
      return noContent
  | .totpSetup => do return json (.totpSetup (← totpSetup ext accountId))
  | .totpEnable request => do return json (.totpEnable (← totpEnable ext accountId request))
  | .totpDisable request => do
      totpDisable ext accountId request
      return noContent
  | .listDevices => do return json (.deviceList (← listDevices ext accountId))
  | .upsertDevice deviceId request => do
      return json (.device (← upsertDevice ext accountId deviceId request))
  | .patchDevice deviceId request => do
      return json (.device (← patchDevice ext accountId deviceId request))
  | .deleteDevice deviceId => do
      deleteDevice accountId deviceId
      return { status := .ok, body := .empty }
  | .heartbeatDevice deviceId => do
      return json (.device (← heartbeatDevice ext accountId deviceId))
  | .createPairingCode => do
      return json (.pairingCreate (← createPairingCode ext accountId))

/-- The text after a prefix. -/
def stripPrefix (front text : String) : Option String :=
  if front.toList.isPrefixOf text.toList then
    some (String.ofList (text.toList.drop front.toList.length))
  else none

def requireAuth (authorization : Option String) : ServerTry AccountId := do
  match authorization.bind (stripPrefix "Bearer ") with
  | none => throw .unauthorized
  | some token => do
      let accountId ← validate ext token
      match ← query .db (.findAccount accountId.uuid) with
      | none => throw .unauthorized
      | some _ => return accountId

/-- The limiter of a route and its key. -/
def PublicRoute.limiter : PublicRoute → Option (Limiter × String)
  | .register _ => some (.login, "/register")
  | .login _ => some (.login, "/login")
  | .loginMfa _ => some (.login, "/login/mfa")
  | .refresh _ => some (.login, "/refresh")
  | .logout _ => some (.login, "/logout")
  | .redeemPairingCode _ => some (.pairing, "/redeem")
  | .listFeatures | .health | .fallback _ => none

def rateLimited : HttpResponse :=
  { status := .tooManyRequests, body := .error { error := "rate limit exceeded" } }

/-- A handler that has come to its response. -/
def finish (handler : ServerTry HttpResponse) : ServerProg HttpResponse := do
  match ← handler.run with
  | .ok response => return response
  | .error error => return error.intoResponse

def rateLimit (limiter : Option (Limiter × String)) (next : ServerProg HttpResponse) :
    ServerProg HttpResponse :=
  match limiter with
  | none => next
  | some (limiter, key) => do
      let time ← ask .now
      let allowed : Bool ← ask (.allow limiter key time)
      if allowed then next else return rateLimited

inductive HttpRequest where
  | publicly (route : PublicRoute)
  | protectedly (authorization : Option String) (route : ProtectedRoute)
deriving DecidableEq, Repr

def serve : HttpRequest → ServerProg HttpResponse
  | .publicly route => rateLimit route.limiter (finish (handlePublic ext route))
  | .protectedly authorization route => finish do
      handleProtected ext (← requireAuth ext authorization) route

/-- A request that has come to its handler, with the account of its token. -/
inductive Call where
  | publicly (route : PublicRoute)
  | protectedly (accountId : AccountId) (route : ProtectedRoute)
deriving DecidableEq, Repr

def handle : Call → ServerTry HttpResponse
  | .publicly route => handlePublic ext route
  | .protectedly accountId route => handleProtected ext accountId route

/-- A call runs until its response is sent. -/
def Call.run (call : Call) : ServerProg Unit := do
  let response ← finish (handle ext call)
  ask (.respond response)

/-- A call arrives and becomes a task of its own. -/
structure Arrival (τ : Type) where
  task : τ
  call : Call

/-- The server with any number of calls in progress. -/
def serverWorld {τ : Type} [DecidableEq τ] (isolation : Isolation) :
    World ServerSig τ (Arrival τ) (ServerState τ) where
  perform := perform ext isolation
  event arrival state := some (state, some (arrival.task, arrival.call.run ext))

end Failsafe.Server
