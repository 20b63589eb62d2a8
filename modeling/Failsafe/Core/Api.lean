import Failsafe.Core.Message

/-!
Requests and responses of the registration server (`failsafe-core/src/api.rs`).
-/

namespace Failsafe.Core

structure AuthRegisterRequest where
  email : String
  password : String
deriving DecidableEq, Repr

structure AuthLoginRequest where
  email : String
  password : String
deriving DecidableEq, Repr

structure AuthResponse where
  token : Option String
  refreshToken : Option String
  mfaRequired : Bool
  mfaToken : Option String
deriving DecidableEq, Repr

def AuthResponse.authenticated (token refreshToken : String) : AuthResponse :=
  { token := some token, refreshToken := some refreshToken, mfaRequired := false,
    mfaToken := none }

def AuthResponse.mfa (mfaToken : String) : AuthResponse :=
  { token := none, refreshToken := none, mfaRequired := true, mfaToken := some mfaToken }

structure AuthMfaLoginRequest where
  mfaToken : String
  code : String
deriving DecidableEq, Repr

structure AuthRefreshRequest where
  refreshToken : String
deriving DecidableEq, Repr

structure AuthLogoutRequest where
  refreshToken : String
deriving DecidableEq, Repr

structure AccountResponse where
  email : String
  totpEnabled : Bool
deriving DecidableEq, Repr

structure TotpSetupResponse where
  otpauthUri : String
  secret : String
deriving DecidableEq, Repr

structure TotpEnableRequest where
  code : String
deriving DecidableEq, Repr

structure TotpEnableResponse where
  recoveryCodes : List String
deriving DecidableEq, Repr

structure TotpDisableRequest where
  password : String
  code : String
deriving DecidableEq, Repr

structure ChangePasswordRequest where
  currentPassword : String
  newPassword : String
deriving DecidableEq, Repr

/-- Create or update a device's transport registration.  On create all fields are
stored; on update only `irohPublicKey` and the time. -/
structure DeviceUpsertRequest where
  deviceId : DeviceId
  name : String
  irohPublicKey : String
  enabledFeatures : List FeatureId
deriving DecidableEq, Repr

structure DeviceInfo where
  deviceId : DeviceId
  name : String
  irohPublicKey : String
  enabledFeatures : List FeatureId
  lastSeen : Option String
  online : Bool
deriving DecidableEq, Repr

structure DeviceListResponse where
  devices : List DeviceInfo
deriving DecidableEq, Repr

/-- Update server-managed device policy. -/
structure DevicePatchRequest where
  name : Option String
  enabledFeatures : Option (List FeatureId)
deriving DecidableEq, Repr

structure PairingCreateResponse where
  code : String
  expiresAt : String
deriving DecidableEq, Repr

structure PairingRedeemRequest where
  code : String
  device : Option DeviceUpsertRequest
deriving DecidableEq, Repr

structure ApiError where
  error : String
deriving DecidableEq, Repr

structure FeatureInfo where
  id : String
  label : String
  description : String
deriving DecidableEq, Repr

structure FeaturesListResponse where
  features : List FeatureInfo
deriving DecidableEq, Repr

end Failsafe.Core
