import Failsafe.Core.Catalog
import Failsafe.Server.Auth

/-!
Devices and pairing codes (`failsafe-server/src/routes/devices.rs`,
`routes/pairing.rs`, `pairing.rs` and `presence.rs`).
-/

namespace Failsafe.Server

open Failsafe.Core Failsafe.Lib

variable (ext : Externals)

def ONLINE_THRESHOLD : Nat := 90 * SECOND

/-- `presence::is_online` at a time. -/
def isOnline (time : Timestamp) : Option Timestamp → Bool
  | none => false
  | some lastSeen => decide (time - lastSeen ≤ ONLINE_THRESHOLD)

/-- `serde_json::from_value` to a list of feature ids. -/
def Json.toFeatures : Json → Option (List FeatureId)
  | .strings items => some (items.map FeatureId.mk)
  | .other _ => none

def modelToInfo (model : Device) : ServerTry DeviceInfo := do
  match model.enabledFeatures.toFeatures with
  | none => throw (.internal "invalid feature data")
  | some enabledFeatures => do
      let time ← now
      return {
        deviceId := ⟨model.deviceId⟩
        name := model.name
        irohPublicKey := model.irohPublicKey
        enabledFeatures
        lastSeen := model.lastSeen.map ext.toRfc3339
        online := isOnline time model.lastSeen }

def featuresToJson (features : List FeatureId) : Except ServerError Json :=
  match features.find? fun feature => !isKnownFeature feature.id with
  | some feature => .error (.badRequest ("unknown feature `" ++ feature.id ++ "`"))
  | none => .ok (.strings (features.map FeatureId.id))

def modelsToInfo : List Device → ServerTry (List DeviceInfo)
  | [] => return []
  | model :: models => do
      let info ← modelToInfo ext model
      let infos ← modelsToInfo models
      return info :: infos

def listDevices (accountId : AccountId) : ServerTry DeviceListResponse := do
  let models : List Device ← query .db (.listActiveDevices accountId.uuid)
  return { devices := ← modelsToInfo ext models }

inductive RegisterDeviceMode where
  | upsert
  | pairing
deriving DecidableEq, Repr

def registerDevice (conn : Conn) (accountId : AccountId) (request : DeviceUpsertRequest)
    (mode : RegisterDeviceMode) : ServerTry Device := do
  if (trimmed request.name).isEmpty ∨ (trimmed request.irohPublicKey).isEmpty then
    throw (.badRequest "name and iroh_public_key are required")
  let deviceId := request.deviceId.uuid
  match ← query conn (.findDevice deviceId) with
  | some existing => do
      if existing.accountId ≠ accountId.uuid then
        throw .forbidden
      if existing.deletedAt.isSome then
        match mode with
        | .upsert => throw (.forbiddenMessage "device removed")
        | .pairing => do
            let time ← now
            let enabledFeatures ← liftExcept (featuresToJson request.enabledFeatures)
            updateDevice conn existing.deviceId
              { Device.ActiveModel.unchanged with
                deletedAt := some none
                name := some (trimmed request.name)
                irohPublicKey := some (trimmed request.irohPublicKey)
                enabledFeatures := some enabledFeatures
                lastSeen := some (some time) }
      else
        -- name and features of an existing device only change by a patch
        let time ← now
        updateDevice conn existing.deviceId
          { Device.ActiveModel.unchanged with
            irohPublicKey := some (trimmed request.irohPublicKey)
            lastSeen := some (some time) }
  | none => do
      let time ← now
      let enabledFeatures ← liftExcept (featuresToJson request.enabledFeatures)
      insertDevice conn
        { deviceId
          accountId := accountId.uuid
          name := trimmed request.name
          irohPublicKey := trimmed request.irohPublicKey
          enabledFeatures
          lastSeen := some time
          createdAt := time
          deletedAt := none }

def upsertDevice (accountId : AccountId) (deviceId : Uuid) (request : DeviceUpsertRequest) :
    ServerTry DeviceInfo := do
  if request.deviceId.uuid ≠ deviceId then
    throw (.badRequest "device_id in path and body must match")
  modelToInfo ext (← registerDevice .db accountId request .upsert)

def loadActiveDevice (deviceId : Uuid) (accountId : AccountId) : ServerTry Device := do
  match ← query .db (.findDevice deviceId) with
  | none => throw .notFound
  | some existing => do
      if existing.accountId ≠ accountId.uuid then
        throw .forbidden
      if existing.deletedAt.isSome then
        throw .notFound
      return existing

/-- The features column that a patch sets, if it does. -/
def patchedFeatures : Option (List FeatureId) → Except ServerError (Option Json)
  | none => .ok none
  | some features => (featuresToJson features).map some

def patchDevice (accountId : AccountId) (deviceId : Uuid) (request : DevicePatchRequest) :
    ServerTry DeviceInfo := do
  if request.name.isNone ∧ request.enabledFeatures.isNone then
    throw (.badRequest "at least one of name or enabled_features is required")
  if request.name.any fun name => (trimmed name).isEmpty then
    throw (.badRequest "name cannot be empty")
  let existing ← loadActiveDevice deviceId accountId
  let enabledFeatures ← liftExcept (patchedFeatures request.enabledFeatures)
  let updated ← updateDevice .db existing.deviceId
    { Device.ActiveModel.unchanged with
      name := request.name.map trimmed, enabledFeatures }
  modelToInfo ext updated

def deleteDevice (accountId : AccountId) (deviceId : Uuid) : ServerTry Unit := do
  -- the same checks, written out once more in the source
  let existing ← loadActiveDevice deviceId accountId
  let time ← now
  let _ ← updateDevice .db existing.deviceId
    { Device.ActiveModel.unchanged with deletedAt := some (some time) }

def heartbeatDevice (accountId : AccountId) (deviceId : Uuid) : ServerTry DeviceInfo := do
  let existing ← loadActiveDevice deviceId accountId
  let time ← now
  let updated ← updateDevice .db existing.deviceId
    { Device.ActiveModel.unchanged with lastSeen := some (some time) }
  modelToInfo ext updated

def PAIRING_TTL : Nat := 10 * 60 * SECOND

def normalizeCode (code : String) : Option String :=
  let normalized := ext.toUppercase (trimmed code)
  if normalized.utf8ByteSize ≠ CODE_LEN then none
  else if ¬normalized.toList.all CODE_CHARSET.contains then none
  else some normalized

/-- The loop of `create_pairing_code`, with so many attempts left. -/
def createPairingCodeLoop (accountId : AccountId) (createdAt : Timestamp) :
    Nat → ServerTry PairingCreateResponse
  | 0 => throw (.internal "failed to generate unique pairing code")
  | attempts + 1 => do
      let code ← (ask .generateCode : ServerProg String)
      let id ← newUuid
      let expiresAt := createdAt + PAIRING_TTL
      let result ← (liftM (insertPairingCode .db
        { id, accountId := accountId.uuid, code, expiresAt, usedAt := none, createdAt }).run :
          ServerTry _)
      match result with
      | .ok _ => return { code, expiresAt := ext.toRfc3339 expiresAt }
      | .error _ => createPairingCodeLoop accountId createdAt attempts

def createPairingCode (accountId : AccountId) : ServerTry PairingCreateResponse := do
  createPairingCodeLoop ext accountId (← now) 10

/-- Register the device that comes with a redemption, if one does. -/
def registerPaired (accountId : AccountId) : Option DeviceUpsertRequest → ServerTry Unit
  | none => return ()
  | some request => do
      let _ ← registerDevice .txn accountId request .pairing

/-- The part of `redeem_pairing_code` between `begin` and `commit`. -/
def redeemInTransaction (code : String) (device : Option DeviceUpsertRequest) :
    ServerTry AccountId := do
  match ← query .txn (.findPairingCodeByCode code) with
  | none => throw (.badRequest "invalid pairing code")
  | some record => do
      if record.expiresAt < (← now) then
        throw (.badRequest "pairing code expired")
      if record.usedAt.isSome then
        throw (.badRequest "pairing code already used")
      let accountId : AccountId := ⟨record.accountId⟩
      registerPaired accountId device
      let time ← now
      let rowsAffected : Nat ← query .txn (.usePairingCode record.id time)
      if rowsAffected = 0 then
        throw (.badRequest "pairing code already used")
      return accountId

def redeemPairingCode (request : PairingRedeemRequest) : ServerTry AuthResponse := do
  match normalizeCode ext request.code with
  | none =>
      throw (.badRequest "pairing code must be 8 uppercase alphanumeric characters")
  | some code => do
      let accountId ← withTransaction (redeemInTransaction code request.device)
      issueAuthResponse ext accountId

end Failsafe.Server
