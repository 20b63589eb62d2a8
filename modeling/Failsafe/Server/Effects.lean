import Failsafe.Core.Uuid
import Failsafe.Lib.Pool
import Failsafe.Server.Entity
import Failsafe.Server.Error

/-!
What the handlers of the registration server ask of their surroundings: the
database, the clock, random values and the cryptography, and what these answer.
-/

namespace Failsafe.Server

open Failsafe.Core Failsafe.Lib

/-- The claims of a token. -/
structure Claims where
  sub : String
  exp : Nat
  iat : Nat
  mfaPending : Option Bool
deriving DecidableEq, Repr

/-- What the server computes with code of other libraries. -/
structure Externals where
  toUppercase : String → String
  toLowercase : String → String
  /-- The SHA-256 digest of a text, in hexadecimal. -/
  sha256Hex : String → String
  verifyPassword : (password passwordHash : String) → Bool
  base64Decode : String → Option (List UInt8)
  /-- Decryption with the key of the server, as far as it gives a text. -/
  decrypt : (nonce ciphertext : List UInt8) → Option String
  /-- The claims of a token with a valid signature. -/
  openJwt : String → Option Claims
  /-- Whether `TOTP::new` accepts the account name and the secret. -/
  validTotp : (email secret : String) → Bool
  totpUrl : (email secret : String) → String
  checkTotp : (secret : String) → Timestamp → (code : String) → Bool
  toRfc3339 : Timestamp → String
  /-- The files of the web page, which are built elsewhere. -/
  webAsset : (path : String) → Option String

inductive ResponseBody where
  | empty
  | text (text : String)
  | error (error : ApiError)
  | auth (response : AuthResponse)
  | account (response : AccountResponse)
  | totpSetup (response : TotpSetupResponse)
  | totpEnable (response : TotpEnableResponse)
  | deviceList (response : DeviceListResponse)
  | device (info : DeviceInfo)
  | pairingCreate (response : PairingCreateResponse)
  | features (response : FeaturesListResponse)
deriving DecidableEq, Repr

structure HttpResponse where
  status : StatusCode
  body : ResponseBody
deriving DecidableEq, Repr

def ServerError.intoResponse (error : ServerError) : HttpResponse :=
  { status := error.statusCode, body := .error error.apiError }

/-- The two limiters of `AppState`. -/
inductive Limiter where
  | login
  | pairing
deriving DecidableEq, Repr

def Limiter.maxRequests : Limiter → Nat
  | .login => 20
  | .pairing => 10

def Limiter.window : Limiter → Nat
  | .login => 60 * SECOND
  | .pairing => 60 * SECOND

inductive ServerRequest where
  -- the database
  | «begin»
  | commit
  | rollback
  | query (conn : Conn) (statement : Statement)
  -- the clock and the random generator
  | now
  | newUuid
  | generateRawToken
  | generateCode
  | generateTotpSecret
  | generateRecoveryCodes
  -- cryptography with random salts or a secret key
  | hashPassword (password : String)
  | encryptSecret (plaintext : String)
  | encodeJwt (claims : Claims)
  -- the rate limiters and the connection to the client
  | allow (limiter : Limiter) (key : String) (now : Timestamp)
  | respond (response : HttpResponse)
deriving DecidableEq

abbrev ServerRequest.Response : ServerRequest → Type
  | .begin | .commit => Except String Unit
  | .rollback => Unit
  | .query _ statement => Except String statement.Result
  | .now => Timestamp
  | .newUuid => Uuid
  | .generateRawToken | .generateCode | .generateTotpSecret => String
  | .generateRecoveryCodes => List String
  | .hashPassword _ | .encryptSecret _ | .encodeJwt _ => Except String String
  | .allow _ _ _ => Bool
  | .respond _ => Unit

abbrev ServerSig : Signature where
  Request := ServerRequest
  Response := ServerRequest.Response

instance : DecidableEq ServerSig.Request := inferInstanceAs (DecidableEq ServerRequest)

abbrev ServerProg := Prog ServerSig

/-- An asynchronous function that returns a `ServerResult`. -/
abbrev ServerTry (α : Type) := ExceptT ServerError ServerProg α

def ask (request : ServerRequest) : ServerProg request.Response :=
  .call request .ret

def liftExcept {α : Type} (result : Except ServerError α) : ServerTry α :=
  .mk (.ret result)

/-- A request that may fail, with the error that becomes of its failure. -/
def askTry {α : Type} (error : String → ServerError) (request : ServerProg (Except String α)) :
    ServerTry α :=
  ExceptT.adapt error (.mk request)

def query (conn : Conn) (statement : Statement) : ServerTry statement.Result :=
  askTry .database (ask (.query conn statement))

def now : ServerTry Timestamp :=
  ask .now

/-- `db.begin()`, and `commit()`; a transaction that is dropped is rolled back. -/
def withTransaction {α : Type} (body : ServerTry α) : ServerTry α := do
  askTry .database (ask .begin)
  match ← (liftM body.run : ServerTry (Except ServerError α)) with
  | .ok value => do
      askTry .database (ask .commit)
      return value
  | .error error => do
      ask .rollback
      throw error

/-- `ActiveModelTrait::insert`, which reads the new row back. -/
def insertReturning {ρ : Type} (insert : ServerTry Unit) (select : ServerTry (Option ρ)) :
    ServerTry ρ := do
  insert
  match ← select with
  | some row => return row
  | none => throw (.database "RecordNotFound Error: Failed to find inserted item")

/-- `ActiveModelTrait::update`, which reads the row back. -/
def updateReturning {ρ : Type} (update : ServerTry Nat) (select : ServerTry (Option ρ)) :
    ServerTry ρ := do
  let rowsAffected ← update
  if rowsAffected = 0 then
    throw (.database "None of the records are updated")
  match ← select with
  | some row => return row
  | none => throw (.database "RecordNotFound Error: Failed to find updated item")

def insertAccount (conn : Conn) (row : Account) : ServerTry Account :=
  insertReturning (query conn (.insertAccount row)) (query conn (.findAccount row.id))

def updateAccount (conn : Conn) (id : Uuid) (active : Account.ActiveModel) :
    ServerTry Account :=
  updateReturning (query conn (.updateAccount id active)) (query conn (.findAccount id))

def insertDevice (conn : Conn) (row : Device) : ServerTry Device :=
  insertReturning (query conn (.insertDevice row)) (query conn (.findDevice row.deviceId))

def updateDevice (conn : Conn) (id : Uuid) (active : Device.ActiveModel) : ServerTry Device :=
  updateReturning (query conn (.updateDevice id active)) (query conn (.findDevice id))

def insertPairingCode (conn : Conn) (row : PairingCode) : ServerTry PairingCode :=
  insertReturning (query conn (.insertPairingCode row)) (query conn (.findPairingCode row.id))

def insertRecoveryCode (conn : Conn) (row : RecoveryCode) : ServerTry RecoveryCode :=
  insertReturning (query conn (.insertRecoveryCode row))
    (query conn (.findRecoveryCode row.id))

def insertRefreshToken (conn : Conn) (row : RefreshToken) : ServerTry RefreshToken :=
  insertReturning (query conn (.insertRefreshToken row))
    (query conn (.findRefreshToken row.id))

def updateRefreshToken (conn : Conn) (id : Uuid) (active : RefreshToken.ActiveModel) :
    ServerTry RefreshToken :=
  updateReturning (query conn (.updateRefreshToken id active))
    (query conn (.findRefreshToken id))

/-- What the server is connected to: the database, and the time of the last look
at the clock, with the requests that the limiters remember. -/
structure ServerState (τ : Type) where
  database : Database schema τ
  clock : Timestamp
  history : Limiter → String → List Timestamp

/-- How transactions are isolated. -/
inductive Isolation where
  | readCommitted
  | serializable
deriving DecidableEq, Repr

/-- The statements whose result has to be the same again at the commit. -/
def Isolation.firm : Isolation → Statement → Bool
  | .readCommitted, statement => statement.isWrite
  | .serializable, _ => true

section Perform

variable {τ : Type} [DecidableEq τ] (ext : Externals) (isolation : Isolation)

/-- `decrypt_secret` -/
def decryptSecret (stored : String) : Except ServerError String :=
  let nonceB64 := stored.toList.takeWhile (· != ':')
  match stored.toList.dropWhile (· != ':') with
  | [] => .error (.internal "invalid encrypted secret format")
  | _ :: ciphertextB64 =>
      match ext.base64Decode (String.ofList nonceB64) with
      | none => .error (.internal "invalid encrypted secret nonce")
      | some nonce =>
          match ext.base64Decode (String.ofList ciphertextB64) with
          | none => .error (.internal "invalid encrypted secret ciphertext")
          | some ciphertext =>
              match ext.decrypt nonce ciphertext with
              | none => .error (.auth .invalidCredentials)
              | some plaintext => .ok plaintext

def CODE_CHARSET : List Char := "ABCDEFGHIJKLMNOPQRSTUVWXYZ0123456789".toList

def CODE_LEN : Nat := 8

def RECOVERY_CODE_CHARSET : List Char := "ABCDEFGHJKLMNPQRSTUVWXYZ23456789".toList

def RECOVERY_CODE_COUNT : Nat := 10

def RECOVERY_CODE_LENGTH : Nat := 8

/-- A text of so many characters of an alphabet. -/
def isWord (charset : List Char) (length : Nat) (text : String) : Bool :=
  text.toList.length == length && text.toList.all charset.contains

/-- `RateLimiter::allow`: the answer, and what is remembered afterwards. -/
def Limiter.allow (limiter : Limiter) (now : Timestamp) (history : List Timestamp) :
    Bool × List Timestamp :=
  let history := history.filter fun instant => decide (now - instant < limiter.window)
  if limiter.maxRequests ≤ history.length then (false, history)
  else (true, history ++ [now])

/-- Which answers are possible, and what they do. -/
def perform (task : τ) : (request : ServerRequest) → request.Response → ServerState τ →
    Option (ServerState τ)
  | .begin, result, state =>
      some { state with database := state.database.begin task result }
  | .commit, result, state =>
      (state.database.commit isolation.firm task result).map fun database =>
        { state with database }
  | .rollback, (), state => some { state with database := state.database.rollback task }
  | .query conn statement, result, state =>
      (state.database.query isolation.firm task conn statement result).map fun database =>
        { state with database }
  | .now, (time : Nat), state => if state.clock ≤ time then some { state with clock := time } else none
  | .newUuid, _, state => some state
  | .generateRawToken, raw, state =>
      if isWord "0123456789abcdef".toList 64 raw then some state else none
  | .generateCode, code, state =>
      if isWord CODE_CHARSET CODE_LEN code then some state else none
  | .generateTotpSecret, _, state => some state
  | .generateRecoveryCodes, codes, state =>
      if codes.length = RECOVERY_CODE_COUNT ∧
          codes.all (isWord RECOVERY_CODE_CHARSET RECOVERY_CODE_LENGTH) then some state
      else none
  | .hashPassword password, .ok passwordHash, state =>
      if ext.verifyPassword password passwordHash then some state else none
  | .encryptSecret plaintext, .ok stored, state =>
      match decryptSecret ext stored with
      | .ok plaintext' => if plaintext' = plaintext then some state else none
      | .error _ => none
  | .encodeJwt claims, .ok token, state =>
      if ext.openJwt token = some claims then some state else none
  | .hashPassword _, .error _, state | .encryptSecret _, .error _, state
  | .encodeJwt _, .error _, state => some state
  | .allow limiter key time, (allowed : Bool), state =>
      let (answer, history) := limiter.allow time (state.history limiter key)
      if allowed = answer then
        some { state with
          history := fun limiter' key' =>
            if limiter' = limiter ∧ key' = key then history else state.history limiter' key' }
      else none
  | .respond _, (), state => some state

end Perform

end Failsafe.Server
