import Failsafe.Core.Text
import Failsafe.Server.Effects

/-!
Signed tokens, passwords, one-time codes and refresh tokens
(`failsafe-server/src/auth.rs`, `totp.rs` and `refresh_token.rs`).
-/

namespace Failsafe.Server

open Failsafe.Core Failsafe.Lib

variable (ext : Externals)

def TOKEN_TTL : Nat := 60 * 60

def MFA_TOKEN_TTL : Nat := 5 * 60

/-- The leeway of `Validation::default()`. -/
def LEEWAY : Nat := 60

def REFRESH_TOKEN_TTL : Nat := 30 * 24 * 60 * 60 * SECOND

def unixNow : ServerTry Nat := do
  return (← now) / SECOND

def newUuid : ServerTry Uuid :=
  ask .newUuid

def AccountId.toText (accountId : AccountId) : String :=
  Uuid.toText accountId.uuid

def AccountId.parse (text : String) : Option AccountId :=
  (Uuid.parse text).map AccountId.mk

def issueWithTtl (accountId : AccountId) (ttl : Nat) (mfaPending : Option Bool) :
    ServerTry String := do
  let iat ← unixNow
  askTry (fun message => .auth (.jwt message))
    (ask (.encodeJwt { sub := AccountId.toText accountId, exp := iat + ttl, iat, mfaPending }))

/-- `JwtService::issue` -/
def issueJwt (accountId : AccountId) : ServerTry String :=
  issueWithTtl accountId TOKEN_TTL none

def issueMfaPending (accountId : AccountId) : ServerTry String :=
  issueWithTtl accountId MFA_TOKEN_TTL (some true)

/-- `jsonwebtoken::decode` at a time in seconds. -/
def decode (time : Nat) (token : String) : Option Claims :=
  (ext.openJwt token).filter fun claims => time ≤ claims.exp + LEEWAY

def Claims.accountId (claims : Claims) : Except ServerError AccountId :=
  match AccountId.parse claims.sub with
  | some accountId => .ok accountId
  | none => .error (.auth .invalidToken)

/-- `JwtService::validate` -/
def validate (token : String) : ServerTry AccountId := do
  match decode ext (← unixNow) token with
  | none => throw (.auth .invalidToken)
  | some claims =>
      if claims.mfaPending = some true then throw (.auth .invalidToken)
      else liftExcept claims.accountId

def validateMfaPending (token : String) : ServerTry AccountId := do
  match decode ext (← unixNow) token with
  | none => throw (.auth .invalidToken)
  | some claims =>
      if claims.mfaPending ≠ some true then throw (.auth .invalidToken)
      else liftExcept claims.accountId

def hashPassword (password : String) : ServerTry String :=
  askTry (fun _ => .auth .hashingFailed) (ask (.hashPassword password))

def verifyPassword (password passwordHash : String) : Except ServerError Unit :=
  if ext.verifyPassword password passwordHash then .ok ()
  else .error (.auth .invalidCredentials)

def hashRecoveryCode (code : String) : String :=
  ext.sha256Hex (ext.toUppercase (trimmed code))

def encryptSecret (plaintext : String) : ServerTry String :=
  askTry (fun _ => .auth .hashingFailed) (ask (.encryptSecret plaintext))

def buildTotp (email secret : String) : Except ServerError Unit :=
  if ext.validTotp email secret then .ok () else .error (.auth .invalidCredentials)

def buildOtpauthUri (email secret : String) : Except ServerError String := do
  buildTotp ext email secret
  return ext.totpUrl email secret

/-- Whether a trimmed text is six decimal digits. -/
def isTotpCode (text : String) : Bool :=
  text.utf8ByteSize == 6 && text.toList.all fun ch => '0' ≤ ch && ch ≤ '9'

def verifyTotp (email secret code : String) : ServerTry Unit := do
  liftExcept (buildTotp ext email secret)
  if ¬isTotpCode (trimmed code) then
    throw (.auth .invalidCredentials)
  if ext.checkTotp secret (← now) (trimmed code) then return ()
  else throw (.auth .invalidCredentials)

def hashToken (raw : String) : String :=
  ext.sha256Hex raw

/-- The row of a refresh token that is issued now. -/
def refreshTokenRow (raw : String) (accountId : AccountId) : ServerTry RefreshToken := do
  let time ← now
  let id ← newUuid
  return {
    id, accountId := accountId.uuid, tokenHash := hashToken ext raw,
    expiresAt := time + REFRESH_TOKEN_TTL, revokedAt := none, createdAt := time }

/-- `refresh_token::issue` -/
def issue (accountId : AccountId) : ServerTry String := do
  let raw ← (ask .generateRawToken : ServerProg String)
  let _ ← insertRefreshToken .db (← refreshTokenRow ext raw accountId)
  return raw

def findValidInConn (conn : Conn) (raw : String) : ServerTry RefreshToken := do
  match ← query conn (.findRefreshTokenByHash (hashToken ext raw)) with
  | none => throw .unauthorized
  | some record => do
      if record.revokedAt.isSome then
        throw .unauthorized
      if record.expiresAt < (← now) then
        throw .unauthorized
      match ← query conn (.findAccount record.accountId) with
      | none => throw .unauthorized
      | some _ => return record

def revokeRecord (conn : Conn) (record : RefreshToken) : ServerTry Unit := do
  let time ← now
  let _ ← updateRefreshToken conn record.id
    { RefreshToken.ActiveModel.unchanged with revokedAt := some (some time) }

def issueAuthResponse (accountId : AccountId) : ServerTry AuthResponse := do
  let token ← issueJwt accountId
  let refreshToken ← issue ext accountId
  return .authenticated token refreshToken

def rotateInTransaction (raw : String) : ServerTry AuthResponse := do
  let record ← findValidInConn ext .txn raw
  revokeRecord .txn record
  let accountId : AccountId := ⟨record.accountId⟩
  let newRaw ← (ask .generateRawToken : ServerProg String)
  let _ ← insertRefreshToken .txn (← refreshTokenRow ext newRaw accountId)
  let token ← issueJwt accountId
  return .authenticated token newRaw

/-- `refresh_token::rotate` -/
def rotate (raw : String) : ServerTry AuthResponse :=
  withTransaction (rotateInTransaction ext raw)

def revokeAllForAccount (conn : Conn) (accountId : AccountId) : ServerTry Unit := do
  let time ← now
  let _ ← query conn (.revokeRefreshTokens accountId.uuid time)

/-- `refresh_token::logout` -/
def logoutToken (raw : String) : ServerTry Unit := do
  match ← query .db (.findRefreshTokenByHash (hashToken ext raw)) with
  | none => return ()
  | some record =>
      if record.revokedAt.isNone then revokeRecord .db record

end Failsafe.Server
