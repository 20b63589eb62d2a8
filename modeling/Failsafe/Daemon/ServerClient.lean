import Failsafe.Daemon.SelfSync
import Failsafe.Lib.JsonText
import Failsafe.Server.App

/-!
The client of the registration server (`failsafe/src/server.rs`), and how the daemon keeps in
touch with the server (`failsafe/src/daemon.rs`).
-/

namespace Failsafe.Daemon

open Failsafe.Core Failsafe.Lib Failsafe.Server

section BodyText

open JsonText

def writeOption {α : Type} (write : α → List Char) : Option α → List Char
  | none => "null".toList
  | some value => write value

def writeFeatureIds (features : List FeatureId) : List Char :=
  writeArray (features.map fun feature => writeString feature.id)

def writeDeviceInfo (info : DeviceInfo) : List Char :=
  writeObject
    [("device_id", writeString info.deviceId.uuid.toText), ("name", writeString info.name),
      ("iroh_public_key", writeString info.irohPublicKey),
      ("enabled_features", writeFeatureIds info.enabledFeatures),
      ("last_seen", writeOption writeString info.lastSeen), ("online", writeBool info.online)]

def writeFeatureInfo (info : FeatureInfo) : List Char :=
  writeObject [("id", writeString info.id), ("label", writeString info.label),
    ("description", writeString info.description)]

/-- The text of a body. -/
def bodyText : ResponseBody → List Char
  | .empty => []
  | .text text => text.toList
  | .error body => writeObject [("error", writeString body.error)]
  | .auth body =>
      writeObject
        [("token", writeOption writeString body.token),
          ("refresh_token", writeOption writeString body.refreshToken),
          ("mfa_required", writeBool body.mfaRequired),
          ("mfa_token", writeOption writeString body.mfaToken)]
  | .account body =>
      writeObject [("email", writeString body.email), ("totp_enabled", writeBool body.totpEnabled)]
  | .totpSetup body =>
      writeObject [("otpauth_uri", writeString body.otpauthUri), ("secret", writeString body.secret)]
  | .totpEnable body =>
      writeObject [("recovery_codes", writeArray (body.recoveryCodes.map writeString))]
  | .deviceList body => writeObject [("devices", writeArray (body.devices.map writeDeviceInfo))]
  | .device info => writeDeviceInfo info
  | .pairingCreate body =>
      writeObject [("code", writeString body.code), ("expires_at", writeString body.expiresAt)]
  | .features body =>
      writeObject [("features", writeArray (body.features.map writeFeatureInfo))]

end BodyText

def statusText : StatusCode → String
  | .ok => "200 OK"
  | .noContent => "204 No Content"
  | .badRequest => "400 Bad Request"
  | .unauthorized => "401 Unauthorized"
  | .forbidden => "403 Forbidden"
  | .notFound => "404 Not Found"
  | .conflict => "409 Conflict"
  | .tooManyRequests => "429 Too Many Requests"
  | .internalServerError => "500 Internal Server Error"

structure Credentials where
  authToken : String
  refreshToken : Option String
deriving DecidableEq, Repr

/-- What the client and the daemon ask of their surroundings.  A request to the server is
known by a ticket until its response comes in. -/
inductive ClientRequest (κ : Type) where
  -- the credentials behind their lock, and their file
  | authToken
  | refreshToken
  | storeTokens (token refreshToken : String)
  -- the connection to the server
  | send (request : HttpRequest)
  | receive (ticket : κ)
  -- the rest of the daemon
  | applyDevices (devices : List DeviceInfo) (startNewFeatures : Bool)
  | shareFeatures
  -- the end of a call, and of a turn of the loop of the daemon
  | answered (result : Except String HttpResponse)
  | ticked (result : Except DaemonError Unit)
deriving DecidableEq

variable {κ : Type}

abbrev ClientRequest.Response : ClientRequest κ → Type
  | .authToken => String
  | .refreshToken => Option String
  | .storeTokens _ _ => Except DaemonError Unit
  | .send _ => Except String κ
  | .receive _ => Except String HttpResponse
  | .applyDevices _ _ => Except DaemonError Unit
  | .shareFeatures | .answered _ | .ticked _ => Unit

abbrev ClientSig (κ : Type) : Signature where
  Request := ClientRequest κ
  Response := ClientRequest.Response

abbrev ClientProg (κ : Type) := Prog (ClientSig κ)

/-- An asynchronous function that may fail. -/
abbrev ClientTry (κ ε α : Type) := ExceptT ε (ClientProg κ) α

def perform (request : ClientRequest κ) : ClientProg κ request.Response :=
  .call request .ret

/-- `RequestBuilder::send` -/
def send (request : HttpRequest) : ClientTry κ String HttpResponse := do
  let ticket ← ExceptT.mk (perform (.send request))
  ExceptT.mk (perform (.receive ticket))

def bearerAuth (token : String) : Option String :=
  some ("Bearer " ++ token)

/-- A body as an `AuthResponse`. -/
def decodeAuth : ResponseBody → Except String AuthResponse
  | .auth response => .ok response
  | _ => .error "error decoding response body"

def refreshTokens : ClientTry κ DaemonError Bool := do
  match ← (perform .refreshToken : ClientProg κ (Option String)) with
  | none => return false
  | some refreshToken => do
      let response ← ExceptT.adapt (fun error => .config ("token refresh failed: " ++ error))
        (send (.publicly (.refresh { refreshToken })))
      if ¬response.status.isSuccess then
        return false
      match decodeAuth response.body with
      | .error error => throw (.config ("failed to decode refresh response: " ++ error))
      | .ok body =>
          match body.token, body.refreshToken with
          | none, _ => throw (.config "refresh response missing token")
          | some _, none => throw (.config "refresh response missing refresh_token")
          | some token, some refreshToken => do
              ExceptT.mk (perform (.storeTokens token refreshToken))
              return true

/-- Whether the tokens were refreshed: `refresh_tokens().await.unwrap_or(false)`. -/
def refreshed : ClientProg κ Bool := do
  match ← refreshTokens.run with
  | .ok refreshed => return refreshed
  | .error _ => return false

def sendAuthenticated (route : ProtectedRoute) : ClientTry κ String HttpResponse := do
  let token ← (perform .authToken : ClientProg κ String)
  let response ← send (.protectedly (bearerAuth token) route)
  if response.status = .unauthorized then
    if ← (refreshed : ClientProg κ Bool) then
      let token ← (perform .authToken : ClientProg κ String)
      return ← send (.protectedly (bearerAuth token) route)
    else return response
  else return response

/-- `str::contains` -/
def contains (text : List Char) (part : String) : Bool :=
  decide (part.toList <:+: text)

def mapDeviceMutationResponse (response : HttpResponse) (action : String) :
    Except DaemonError Unit :=
  let body := bodyText response.body
  if response.status = .forbidden then
    if contains body "device removed" then .error .deviceRemoved
    else .error (.config (action ++ " returned 403: " ++ String.ofList body))
  else if ¬response.status.isSuccess then
    .error (.config (action ++ " returned " ++ statusText response.status ++ ": " ++
      String.ofList body))
  else .ok ()

def heartbeatDevice (deviceId : DeviceId) : ClientTry κ DaemonError Unit := do
  let response ← ExceptT.adapt (fun error => .config ("device heartbeat failed: " ++ error))
    (sendAuthenticated (.heartbeatDevice deviceId.uuid))
  ExceptT.mk (.ret (mapDeviceMutationResponse response "device heartbeat"))

/-- `parse_json_response` to a `DeviceListResponse`. -/
def parseDeviceList (response : HttpResponse) : Except DaemonError DeviceListResponse :=
  if ¬response.status.isSuccess then
    .error (.config ("server returned " ++ statusText response.status ++ ": " ++
      String.ofList (bodyText response.body)))
  else
    match response.body with
    | .deviceList list => .ok list
    | _ => .error (.config "failed to decode server response: error decoding response body")

def listDevices : ClientTry κ DaemonError DeviceListResponse := do
  let response ← ExceptT.adapt (fun error => .config ("list devices failed: " ++ error))
    (sendAuthenticated .listDevices)
  ExceptT.mk (.ret (parseDeviceList response))

/-- `Daemon::sync_from_server` -/
def syncFromServer (startNewFeatures : Bool) : ClientTry κ DaemonError Unit := do
  let response ← listDevices
  ExceptT.mk (perform (.applyDevices response.devices startNewFeatures))

def handleSyncTick (deviceId : DeviceId) : ClientTry κ DaemonError Unit := do
  let heartbeat ← (liftM (heartbeatDevice (κ := κ) deviceId).run : ClientTry κ DaemonError _)
  if heartbeat = .error .deviceRemoved then
    throw .deviceRemoved
  -- another failure is only a warning, here and below
  let synced ← (liftM (syncFromServer (κ := κ) true).run : ClientTry κ DaemonError _)
  if synced = .ok () then
    (perform .shareFeatures : ClientProg κ Unit)

end Failsafe.Daemon
