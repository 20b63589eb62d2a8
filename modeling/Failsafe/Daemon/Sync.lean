import Failsafe.Transport.Router

/-!
What the daemon takes over from the device list of the server, and the directory of peers
that the list is written to while features publish (`failsafe/src/sync.rs`).
-/

namespace Failsafe.Daemon

open Failsafe.Core Failsafe.Lib Failsafe.Transport

def setFeatures (localFeatures : Finset FeatureId) (device : DeviceInfo) :
    List FeatureId → PeerProg Unit
  | [] => return ()
  | feature :: features => do
      ask (.setFeatureEnabled device.deviceId feature
        (feature ∈ localFeatures && feature ∈ device.enabledFeatures))
      setFeatures localFeatures device features

/-- The loop of `apply_server_devices`, which also collects the ids and the addresses. -/
def setDevices (selfId : DeviceId) (localFeatures : Finset FeatureId) :
    List DeviceInfo → List DeviceId → PeerAddressBook →
      PeerProg (List DeviceId × PeerAddressBook)
  | [], peerIds, addresses => return (peerIds, addresses)
  | device :: devices, peerIds, addresses => do
      if device.deviceId = selfId then
        setDevices selfId localFeatures devices peerIds addresses
      else
        setFeatures localFeatures device allIds
        setDevices selfId localFeatures devices (peerIds ++ [device.deviceId])
          (addresses.insert device.deviceId device.irohPublicKey)

/-- `apply_server_devices` -/
def applyServerDevices (selfId : DeviceId) (localFeatures : Finset FeatureId)
    (devices : List DeviceInfo) : PeerProg Unit := do
  let (peerIds, addresses) ← setDevices selfId localFeatures devices [] []
  ask (.replacePeers peerIds)
  ask (.updatePeerAddresses addresses)

/-- What the tasks of the daemon share. -/
structure PeerState (τ : Type) where
  directory : PeerDirectory
  addresses : PeerAddressBook
  updater : Option τ

inductive PeerJob where
  | update (localFeatures : Finset FeatureId) (devices : List DeviceInfo)
  | recipientsFor (feature : FeatureId)
  | publish (outbound : OutboundMessage)

structure PeerEvent (τ : Type) where
  task : τ
  job : PeerJob

section World

variable {τ : Type} (localId : DeviceId)

/-- An answer lists a set in the order of its iteration.  The locks, which only delay
requests, are left out. -/
def PeerState.perform : (request : PeerRequest) → request.Response → PeerState τ →
    Option (PeerState τ)
  | .setFeatureEnabled peer feature enabled, _, state =>
      some { state with directory := state.directory.setFeatureEnabled peer feature enabled }
  | .replacePeers peers, _, state =>
      some { state with directory := state.directory.replacePeers peers }
  | .updatePeerAddresses book, _, state => some { state with addresses := book }
  | .readPeers, (peers : List DeviceId), state =>
      if peers.Nodup ∧ peers.toFinset = state.directory.peers then some state else none
  | .readDisabled, (disabled : Finset (DeviceId × FeatureId)), state =>
      if disabled = state.directory.disabled then some state else none
  | .connectedPeers, _, state | .send _, _, state | .recipients _ _, _, state
  | .published _ _, _, state => some state

def PeerJob.run : PeerJob → PeerProg Unit
  | .update localFeatures devices => applyServerDevices localId localFeatures devices
  | .recipientsFor feature => do
      let peers ← Transport.recipientsFor feature
      ask (.recipients feature peers)
  | .publish outbound => do
      let result ← Transport.publish localId outbound
      ask (.published outbound result)

/-- One update of the directory, with any number of other calls. -/
def PeerEvent.apply (event : PeerEvent τ) (state : PeerState τ) :
    Option (PeerState τ × Option (τ × PeerProg Unit)) :=
  let started := some (event.task, event.job.run localId)
  match event.job, state.updater with
  | .update _ _, none => some ({ state with updater := some event.task }, started)
  | .update _ _, some _ => none
  | _, _ => some (state, started)

def peerWorld [DecidableEq τ] : World PeerSig τ (PeerEvent τ) (PeerState τ) where
  perform _ := PeerState.perform
  event := PeerEvent.apply localId

end World

end Failsafe.Daemon
