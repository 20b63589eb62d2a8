import Failsafe.Server.Auth

/-!
Accounts, logins and the second factor (`failsafe-server/src/routes/auth.rs`).
-/

namespace Failsafe.Server

open Failsafe.Core Failsafe.Lib

variable (ext : Externals)

def normalizeEmail (email : String) : String :=
  ext.toLowercase (trimmed email)

/-- An account that is registered now. -/
def newAccount (id : Uuid) (email passwordHash : String) (createdAt : Timestamp) : Account :=
  { id, email, passwordHash, totpSecret := none, totpEnabled := false, createdAt }

def validatePasswordLength (password message : String) : ServerTry Unit :=
  if password.utf8ByteSize < 8 then throw (.badRequest message) else return ()

def loadAccount (accountId : AccountId) : ServerTry Account := do
  match ← query .db (.findAccount accountId.uuid) with
  | some account => return account
  | none => throw .unauthorized

def consumeRecoveryCode (accountId : AccountId) (code : String) : ServerTry Bool := do
  let time ← now
  let rowsAffected : Nat ←
    query .db (.useRecoveryCode accountId.uuid (hashRecoveryCode ext code) time)
  return decide (0 < rowsAffected)

/-- Whether the stored secret accepts the code; a refusal is not an error here. -/
def acceptsTotp (account : Account) (code : String) : ServerTry Bool := do
  match account.totpSecret with
  | none => return false
  | some encryptedSecret => do
      let secret ← liftExcept (decryptSecret ext encryptedSecret)
      match ← (liftM (verifyTotp ext account.email secret code).run : ServerTry _) with
      | .ok () => return true
      | .error _ => return false

def verifyTotpOrRecovery (accountId : AccountId) (account : Account) (code : String) :
    ServerTry Unit := do
  if ← acceptsTotp ext account code then
    return ()
  if ← consumeRecoveryCode ext accountId code then
    return ()
  throw .unauthorized

def me (accountId : AccountId) : ServerTry AccountResponse := do
  let account ← loadAccount accountId
  return { email := account.email, totpEnabled := account.totpEnabled }

def register (request : AuthRegisterRequest) : ServerTry AuthResponse := do
  if (trimmed request.email).isEmpty ∨ request.password.isEmpty then
    throw (.badRequest "email and password are required")
  validatePasswordLength request.password "password must be at least 8 characters"
  let existing ← query .db (.findAccountByEmail (normalizeEmail ext request.email))
  if Option.isSome existing then
    throw (.conflict "email already registered")
  let accountId ← newUuid
  let time ← now
  let passwordHash ← hashPassword request.password
  let _ ← insertAccount .db
    (newAccount accountId (normalizeEmail ext request.email) passwordHash time)
  issueAuthResponse ext ⟨accountId⟩

def login (request : AuthLoginRequest) : ServerTry AuthResponse := do
  match ← query .db (.findAccountByEmail (normalizeEmail ext request.email)) with
  | none => throw .unauthorized
  | some account => do
      liftExcept (verifyPassword ext request.password account.passwordHash)
      if account.totpEnabled then
        let mfaToken ← issueMfaPending ⟨account.id⟩
        return .mfa mfaToken
      issueAuthResponse ext ⟨account.id⟩

def loginMfa (request : AuthMfaLoginRequest) : ServerTry AuthResponse := do
  if (trimmed request.mfaToken).isEmpty ∨ (trimmed request.code).isEmpty then
    throw (.badRequest "mfa_token and code are required")
  let accountId ← validateMfaPending ext (trimmed request.mfaToken)
  let account ← loadAccount accountId
  if ¬account.totpEnabled then
    throw .unauthorized
  verifyTotpOrRecovery ext accountId account (trimmed request.code)
  issueAuthResponse ext accountId

def refresh (request : AuthRefreshRequest) : ServerTry AuthResponse := do
  if (trimmed request.refreshToken).isEmpty then
    throw (.badRequest "refresh_token is required")
  rotate ext (trimmed request.refreshToken)

def logout (request : AuthLogoutRequest) : ServerTry Unit :=
  if (trimmed request.refreshToken).isEmpty then return ()
  else logoutToken ext (trimmed request.refreshToken)

def changePassword (accountId : AccountId) (request : ChangePasswordRequest) :
    ServerTry Unit := do
  if request.currentPassword.isEmpty ∨ request.newPassword.isEmpty then
    throw (.badRequest "current_password and new_password are required")
  validatePasswordLength request.newPassword "new password must be at least 8 characters"
  let account ← loadAccount accountId
  liftExcept (verifyPassword ext request.currentPassword account.passwordHash)
  let passwordHash ← hashPassword request.newPassword
  withTransaction do
    let _ ← updateAccount .txn account.id
      { Account.ActiveModel.unchanged with passwordHash := some passwordHash }
    revokeAllForAccount .txn accountId

def totpSetup (accountId : AccountId) : ServerTry TotpSetupResponse := do
  let account ← loadAccount accountId
  if account.totpEnabled then
    throw (.conflict "2FA is already enabled")
  let secret ← (ask .generateTotpSecret : ServerProg String)
  let encrypted ← encryptSecret secret
  let otpauthUri ← liftExcept (buildOtpauthUri ext account.email secret)
  let _ ← updateAccount .db account.id
    { Account.ActiveModel.unchanged with
      totpSecret := some (some encrypted), totpEnabled := some false }
  return { otpauthUri, secret }

def insertRecoveryCodes (accountId : AccountId) (time : Timestamp) :
    List String → ServerTry Unit
  | [] => return ()
  | code :: codes => do
      let id ← newUuid
      let _ ← insertRecoveryCode .txn
        { id, accountId := accountId.uuid, codeHash := hashRecoveryCode ext code,
          usedAt := none, createdAt := time }
      insertRecoveryCodes accountId time codes

def totpEnable (accountId : AccountId) (request : TotpEnableRequest) :
    ServerTry TotpEnableResponse := do
  if (trimmed request.code).isEmpty then
    throw (.badRequest "code is required")
  let account ← loadAccount accountId
  if account.totpEnabled then
    throw (.conflict "2FA is already enabled")
  match account.totpSecret with
  | none => throw (.badRequest "call /auth/2fa/setup before enabling 2FA")
  | some encryptedSecret => do
      let secret ← liftExcept (decryptSecret ext encryptedSecret)
      verifyTotp ext account.email secret request.code
      let recoveryCodes ← (ask .generateRecoveryCodes : ServerProg (List String))
      let time ← now
      withTransaction do
        let _ ← query .txn (.deleteRecoveryCodes accountId.uuid)
        insertRecoveryCodes ext accountId time recoveryCodes
        let _ ← updateAccount .txn account.id
          { Account.ActiveModel.unchanged with totpEnabled := some true }
      return { recoveryCodes }

def totpDisable (accountId : AccountId) (request : TotpDisableRequest) : ServerTry Unit := do
  if request.password.isEmpty ∨ (trimmed request.code).isEmpty then
    throw (.badRequest "password and code are required")
  let account ← loadAccount accountId
  if ¬account.totpEnabled then
    throw (.badRequest "2FA is not enabled")
  liftExcept (verifyPassword ext request.password account.passwordHash)
  verifyTotpOrRecovery ext accountId account (trimmed request.code)
  withTransaction do
    let _ ← query .txn (.deleteRecoveryCodes accountId.uuid)
    let _ ← updateAccount .txn account.id
      { Account.ActiveModel.unchanged with
        totpSecret := some none, totpEnabled := some false }
    revokeAllForAccount .txn accountId

end Failsafe.Server
