import Mathlib.Data.Finset.Image
import Failsafe.Core.Catalog

/-!
The peers of a device and what may be sent to them (`failsafe-core/src/peer.rs` and
`peer_address.rs`).
-/

namespace Failsafe.Core

structure PeerDirectory where
  peers : Finset DeviceId
  disabled : Finset (DeviceId × FeatureId)
deriving DecidableEq

namespace PeerDirectory

def new : PeerDirectory :=
  { peers := ∅, disabled := ∅ }

def replacePeers (directory : PeerDirectory) (peers : List DeviceId) : PeerDirectory :=
  { directory with peers := peers.toFinset }

def setFeatureEnabled (directory : PeerDirectory) (peer : DeviceId) (feature : FeatureId)
    (enabled : Bool) : PeerDirectory :=
  if enabled then { directory with disabled := directory.disabled.erase (peer, feature) }
  else { directory with disabled := insert (peer, feature) directory.disabled }

def isFeatureEnabled (directory : PeerDirectory) (peer : DeviceId) (feature : FeatureId) : Bool :=
  peer ∈ directory.peers && (peer, feature) ∉ directory.disabled

/-- The peers among these that the feature is not disabled for. -/
def recipients (disabled : Finset (DeviceId × FeatureId)) (feature : FeatureId)
    (peers : List DeviceId) : List DeviceId :=
  peers.filter fun peer => (peer, feature) ∉ disabled

variable {directory : PeerDirectory} {peer : DeviceId} {feature : FeatureId}

theorem isFeatureEnabled_iff : directory.isFeatureEnabled peer feature = true ↔
    peer ∈ directory.peers ∧ (peer, feature) ∉ directory.disabled := by
  simp [isFeatureEnabled]

theorem mem_recipients {disabled : Finset (DeviceId × FeatureId)} {peers : List DeviceId} :
    peer ∈ recipients disabled feature peers ↔ peer ∈ peers ∧ (peer, feature) ∉ disabled := by
  simp [recipients]

@[simp] theorem peers_replacePeers (peers : List DeviceId) :
    (directory.replacePeers peers).peers = peers.toFinset := rfl

@[simp] theorem disabled_replacePeers (peers : List DeviceId) :
    (directory.replacePeers peers).disabled = directory.disabled := rfl

@[simp] theorem peers_setFeatureEnabled (enabled : Bool) :
    (directory.setFeatureEnabled peer feature enabled).peers = directory.peers := by
  cases enabled <;> rfl

theorem mem_disabled_setFeatureEnabled {enabled : Bool} {key : DeviceId × FeatureId} :
    key ∈ (directory.setFeatureEnabled peer feature enabled).disabled ↔
      if key = (peer, feature) then enabled = false else key ∈ directory.disabled := by
  cases enabled with
  | true =>
      split
      · subst key
        simp [setFeatureEnabled]
      · rename_i hne
        simp [setFeatureEnabled, hne]
  | false =>
      split
      · subst key
        simp [setFeatureEnabled]
      · rename_i hne
        simp [setFeatureEnabled, hne]

end PeerDirectory

/-- `PeerAddressBook`: the network address of each device. -/
abbrev PeerAddressBook := List (DeviceId × String)

/-- `HashMap::insert`. -/
def PeerAddressBook.insert (book : PeerAddressBook) (device : DeviceId) (address : String) :
    PeerAddressBook :=
  book.filter (fun row => row.1 != device) ++ [(device, address)]

def PeerAddressBook.get (book : PeerAddressBook) (device : DeviceId) : Option String :=
  (book.find? fun row => row.1 == device).map Prod.snd

end Failsafe.Core
