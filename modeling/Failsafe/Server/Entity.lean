import Failsafe.Core.Message
import Failsafe.Lib.Transaction

/-!
The tables of the registration server and the statements on them
(`failsafe-server/src/entity` and `migration`).
-/

namespace Failsafe.Server

open Failsafe.Core Failsafe.Lib

/-- `DateTime<Utc>`, in nanoseconds since the epoch. -/
abbrev Timestamp := Nat

def SECOND : Nat := 1000000000

/-- `serde_json::Value`, as far as decoding a list of strings from it goes. -/
inductive Json where
  | strings (items : List String)
  | other (text : String)
deriving DecidableEq, Repr

structure Account where
  id : Uuid
  email : String
  passwordHash : String
  totpSecret : Option String
  totpEnabled : Bool
  createdAt : Timestamp
deriving DecidableEq, Repr

structure Device where
  deviceId : Uuid
  accountId : Uuid
  name : String
  irohPublicKey : String
  enabledFeatures : Json
  lastSeen : Option Timestamp
  createdAt : Timestamp
  deletedAt : Option Timestamp
deriving DecidableEq, Repr

structure PairingCode where
  id : Uuid
  accountId : Uuid
  code : String
  expiresAt : Timestamp
  usedAt : Option Timestamp
  createdAt : Timestamp
deriving DecidableEq, Repr

structure RecoveryCode where
  id : Uuid
  accountId : Uuid
  codeHash : String
  usedAt : Option Timestamp
  createdAt : Timestamp
deriving DecidableEq, Repr

structure RefreshToken where
  id : Uuid
  accountId : Uuid
  tokenHash : String
  expiresAt : Timestamp
  revokedAt : Option Timestamp
  createdAt : Timestamp
deriving DecidableEq, Repr

/-- `account::ActiveModel` of a loaded row: the columns that are `Set`.  The unique
columns, which no handler sets on a loaded row, are left out. -/
structure Account.ActiveModel where
  passwordHash : Option String
  totpSecret : Option (Option String)
  totpEnabled : Option Bool
  createdAt : Option Timestamp
deriving DecidableEq, Repr

/-- A loaded row, with nothing set. -/
def Account.ActiveModel.unchanged : Account.ActiveModel :=
  { passwordHash := none, totpSecret := none, totpEnabled := none, createdAt := none }

def Account.ActiveModel.apply (active : Account.ActiveModel) (row : Account) : Account :=
  { row with
    passwordHash := active.passwordHash.getD row.passwordHash
    totpSecret := active.totpSecret.getD row.totpSecret
    totpEnabled := active.totpEnabled.getD row.totpEnabled
    createdAt := active.createdAt.getD row.createdAt }

/-- `device::ActiveModel` of a loaded row: the columns that are `Set`. -/
structure Device.ActiveModel where
  accountId : Option Uuid
  name : Option String
  irohPublicKey : Option String
  enabledFeatures : Option Json
  lastSeen : Option (Option Timestamp)
  createdAt : Option Timestamp
  deletedAt : Option (Option Timestamp)
deriving DecidableEq, Repr

def Device.ActiveModel.unchanged : Device.ActiveModel :=
  { accountId := none, name := none, irohPublicKey := none, enabledFeatures := none,
    lastSeen := none, createdAt := none, deletedAt := none }

def Device.ActiveModel.apply (active : Device.ActiveModel) (row : Device) : Device :=
  { row with
    accountId := active.accountId.getD row.accountId
    name := active.name.getD row.name
    irohPublicKey := active.irohPublicKey.getD row.irohPublicKey
    enabledFeatures := active.enabledFeatures.getD row.enabledFeatures
    lastSeen := active.lastSeen.getD row.lastSeen
    createdAt := active.createdAt.getD row.createdAt
    deletedAt := active.deletedAt.getD row.deletedAt }

/-- `refresh_token::ActiveModel` of a loaded row, without the unique column. -/
structure RefreshToken.ActiveModel where
  accountId : Option Uuid
  expiresAt : Option Timestamp
  revokedAt : Option (Option Timestamp)
  createdAt : Option Timestamp
deriving DecidableEq, Repr

def RefreshToken.ActiveModel.unchanged : RefreshToken.ActiveModel :=
  { accountId := none, expiresAt := none, revokedAt := none, createdAt := none }

def RefreshToken.ActiveModel.apply (active : RefreshToken.ActiveModel)
    (row : RefreshToken) : RefreshToken :=
  { row with
    accountId := active.accountId.getD row.accountId
    expiresAt := active.expiresAt.getD row.expiresAt
    revokedAt := active.revokedAt.getD row.revokedAt
    createdAt := active.createdAt.getD row.createdAt }

structure Tables where
  account : List Account
  device : List Device
  pairingCode : List PairingCode
  recoveryCode : List RecoveryCode
  refreshToken : List RefreshToken
deriving DecidableEq, Repr

def Tables.empty : Tables :=
  { account := [], device := [], pairingCode := [], recoveryCode := [], refreshToken := [] }

/-- The SQL statements that the handlers make. -/
inductive Statement where
  | findAccount (id : Uuid)
  | findAccountByEmail (email : String)
  | insertAccount (row : Account)
  | updateAccount (id : Uuid) (active : Account.ActiveModel)
  | findDevice (id : Uuid)
  | listActiveDevices (accountId : Uuid)
  | insertDevice (row : Device)
  | updateDevice (id : Uuid) (active : Device.ActiveModel)
  | findPairingCode (id : Uuid)
  | findPairingCodeByCode (code : String)
  | insertPairingCode (row : PairingCode)
  | usePairingCode (id : Uuid) (usedAt : Timestamp)
  | findRecoveryCode (id : Uuid)
  | insertRecoveryCode (row : RecoveryCode)
  | deleteRecoveryCodes (accountId : Uuid)
  | useRecoveryCode (accountId : Uuid) (codeHash : String) (usedAt : Timestamp)
  | findRefreshToken (id : Uuid)
  | findRefreshTokenByHash (tokenHash : String)
  | insertRefreshToken (row : RefreshToken)
  | updateRefreshToken (id : Uuid) (active : RefreshToken.ActiveModel)
  | revokeRefreshTokens (accountId : Uuid) (revokedAt : Timestamp)
deriving DecidableEq

/-- What a statement returns; for an update or a delete the number of rows. -/
abbrev Statement.Result : Statement → Type
  | .findAccount _ | .findAccountByEmail _ => Option Account
  | .findDevice _ => Option Device
  | .listActiveDevices _ => List Device
  | .findPairingCode _ | .findPairingCodeByCode _ => Option PairingCode
  | .findRecoveryCode _ => Option RecoveryCode
  | .findRefreshToken _ | .findRefreshTokenByHash _ => Option RefreshToken
  | .insertAccount _ | .insertDevice _ | .insertPairingCode _ | .insertRecoveryCode _
  | .insertRefreshToken _ => Unit
  | .updateAccount _ _ | .updateDevice _ _ | .usePairingCode _ _ | .deleteRecoveryCodes _
  | .useRecoveryCode _ _ _ | .updateRefreshToken _ _ | .revokeRefreshTokens _ _ => Nat

instance Statement.decidableEqResult :
    (statement : Statement) → DecidableEq statement.Result
  | .findAccount _ | .findAccountByEmail _ => inferInstanceAs (DecidableEq (Option Account))
  | .findDevice _ => inferInstanceAs (DecidableEq (Option Device))
  | .listActiveDevices _ => inferInstanceAs (DecidableEq (List Device))
  | .findPairingCode _ | .findPairingCodeByCode _ =>
      inferInstanceAs (DecidableEq (Option PairingCode))
  | .findRecoveryCode _ => inferInstanceAs (DecidableEq (Option RecoveryCode))
  | .findRefreshToken _ | .findRefreshTokenByHash _ =>
      inferInstanceAs (DecidableEq (Option RefreshToken))
  | .insertAccount _ | .insertDevice _ | .insertPairingCode _ | .insertRecoveryCode _
  | .insertRefreshToken _ => inferInstanceAs (DecidableEq Unit)
  | .updateAccount _ _ | .updateDevice _ _ | .usePairingCode _ _ | .deleteRecoveryCodes _
  | .useRecoveryCode _ _ _ | .updateRefreshToken _ _ | .revokeRefreshTokens _ _ =>
      inferInstanceAs (DecidableEq Nat)

def Statement.isWrite : Statement → Bool
  | .findAccount _ | .findAccountByEmail _ | .findDevice _ | .listActiveDevices _
  | .findPairingCode _ | .findPairingCodeByCode _ | .findRecoveryCode _
  | .findRefreshToken _ | .findRefreshTokenByHash _ => false
  | _ => true

section Rows

variable {ρ : Type}

/-- `UPDATE … WHERE …`: the number of rows, and the rows afterwards. -/
def updateWhere (cond : ρ → Bool) (set : ρ → ρ) (rows : List ρ) : Nat × List ρ :=
  (rows.countP cond, rows.map fun row => if cond row then set row else row)

def deleteWhere (cond : ρ → Bool) (rows : List ρ) : Nat × List ρ :=
  (rows.countP cond, rows.filter fun row => !cond row)

/-- An insert is refused when a stored row clashes with the new one. -/
def insertUnique (clash : ρ → Bool) (row : ρ) (rows : List ρ) : Except String (List ρ) :=
  if rows.any clash then .error "UNIQUE constraint failed" else .ok (rows ++ [row])

end Rows

/-- What a statement returns and what it does to the tables. -/
def Statement.run : (statement : Statement) → Tables → Except String (statement.Result × Tables)
  | .findAccount id, tables => .ok (tables.account.find? fun row => row.id == id, tables)
  | .findAccountByEmail email, tables =>
      .ok (tables.account.find? fun row => row.email == email, tables)
  | .insertAccount new, tables =>
      (insertUnique (fun row => row.id == new.id || row.email == new.email) new
        tables.account).map fun account => ((), { tables with account })
  | .updateAccount id active, tables =>
      let (count, account) := updateWhere (fun row => row.id == id) active.apply tables.account
      .ok (count, { tables with account })
  | .findDevice id, tables => .ok (tables.device.find? fun row => row.deviceId == id, tables)
  | .listActiveDevices accountId, tables =>
      .ok (tables.device.filter fun row => row.accountId == accountId && row.deletedAt.isNone,
        tables)
  | .insertDevice new, tables =>
      (insertUnique (fun row => row.deviceId == new.deviceId) new tables.device).map
        fun device => ((), { tables with device })
  | .updateDevice id active, tables =>
      let (count, device) :=
        updateWhere (fun row => row.deviceId == id) active.apply tables.device
      .ok (count, { tables with device })
  | .findPairingCode id, tables =>
      .ok (tables.pairingCode.find? fun row => row.id == id, tables)
  | .findPairingCodeByCode code, tables =>
      .ok (tables.pairingCode.find? fun row => row.code == code, tables)
  | .insertPairingCode new, tables =>
      (insertUnique (fun row => row.id == new.id || row.code == new.code) new
        tables.pairingCode).map fun pairingCode => ((), { tables with pairingCode })
  | .usePairingCode id usedAt, tables =>
      let (count, pairingCode) :=
        updateWhere (fun row => row.id == id && row.usedAt.isNone)
          (fun row => { row with usedAt := some usedAt }) tables.pairingCode
      .ok (count, { tables with pairingCode })
  | .findRecoveryCode id, tables =>
      .ok (tables.recoveryCode.find? fun row => row.id == id, tables)
  | .insertRecoveryCode new, tables =>
      (insertUnique (fun row => row.id == new.id || row.codeHash == new.codeHash) new
        tables.recoveryCode).map fun recoveryCode => ((), { tables with recoveryCode })
  | .deleteRecoveryCodes accountId, tables =>
      let (count, recoveryCode) :=
        deleteWhere (fun row => row.accountId == accountId) tables.recoveryCode
      .ok (count, { tables with recoveryCode })
  | .useRecoveryCode accountId codeHash usedAt, tables =>
      let (count, recoveryCode) :=
        updateWhere
          (fun row => row.accountId == accountId && row.codeHash == codeHash &&
            row.usedAt.isNone)
          (fun row => { row with usedAt := some usedAt }) tables.recoveryCode
      .ok (count, { tables with recoveryCode })
  | .findRefreshToken id, tables =>
      .ok (tables.refreshToken.find? fun row => row.id == id, tables)
  | .findRefreshTokenByHash tokenHash, tables =>
      .ok (tables.refreshToken.find? fun row => row.tokenHash == tokenHash, tables)
  | .insertRefreshToken new, tables =>
      (insertUnique (fun row => row.id == new.id || row.tokenHash == new.tokenHash) new
        tables.refreshToken).map fun refreshToken => ((), { tables with refreshToken })
  | .updateRefreshToken id active, tables =>
      let (count, refreshToken) :=
        updateWhere (fun row => row.id == id) active.apply tables.refreshToken
      .ok (count, { tables with refreshToken })
  | .revokeRefreshTokens accountId revokedAt, tables =>
      let (count, refreshToken) :=
        updateWhere (fun row => row.accountId == accountId && row.revokedAt.isNone)
          (fun row => { row with revokedAt := some revokedAt }) tables.refreshToken
      .ok (count, { tables with refreshToken })

abbrev schema : Schema Tables where
  Statement := Statement
  Result := Statement.Result
  run := Statement.run

instance (statement : schema.Statement) : DecidableEq (schema.Result statement) :=
  Statement.decidableEqResult statement

instance : DecidableEq schema.Statement := inferInstanceAs (DecidableEq Statement)

end Failsafe.Server
