import Mathlib.Data.UInt

/-!
Identifiers and the envelope of messages between devices
(`failsafe-core/src/device.rs`, `feature.rs` and `message.rs`).
-/

namespace Failsafe.Core

/-- A 128-bit identifier, as `uuid::Uuid`. -/
abbrev Uuid := BitVec 128

/-- The 32 hexadecimal digits of a `Uuid`. -/
def Uuid.digits (id : Uuid) : List Char :=
  (List.range 32).map fun place => Nat.digitChar (id.toNat / 16 ^ (31 - place) % 16)

/-- The hyphenated text of a `Uuid`: groups of 8, 4, 4, 4 and 12 digits. -/
def Uuid.toText (id : Uuid) : String :=
  let digits := id.digits
  let group (start len : Nat) : String := String.ofList ((digits.drop start).take len)
  String.intercalate "-"
    [group 0 8, group 8 4, group 12 4, group 16 4, group 20 12]

/-- Unique identifier for a registered device. -/
structure DeviceId where
  uuid : Uuid
deriving DecidableEq, Repr

/-- Account identifier used in token claims and server storage. -/
structure AccountId where
  uuid : Uuid
deriving DecidableEq, Repr

/-- Identifies a sync feature by its stable string id. -/
structure FeatureId where
  id : String
deriving DecidableEq, Repr

inductive FeatureError where
  | alreadyRegistered (feature : FeatureId)
  | notRegistered (feature : FeatureId)
  | notEnabled (feature : FeatureId)
  | failed (feature : FeatureId) (message : String)
deriving DecidableEq, Repr

def FEATURE_MESSAGE_VERSION : UInt32 := 1

/-- Envelope for messages exchanged between devices.  The payload is generic:
bytes on the wire, the typed envelope of a feature once it is decoded. -/
structure FeatureMessage (ε : Type) where
  version : UInt32
  «from» : DeviceId
  «to» : DeviceId
  feature : FeatureId
  payload : ε
deriving DecidableEq, Repr

def FeatureMessage.new {ε : Type} («from» «to» : DeviceId) (feature : FeatureId)
    (payload : ε) : FeatureMessage ε :=
  { version := FEATURE_MESSAGE_VERSION, «from», «to», feature, payload }

end Failsafe.Core
