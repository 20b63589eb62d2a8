import Failsafe.Core.Peer
import Failsafe.Lib.Pool
import Failsafe.Transport.Codec

/-!
Sending what a feature publishes to the peers that the directory names
(`failsafe-transport/src/router.rs`, `failsafe-core/src/outbound.rs`).
-/

namespace Failsafe.Transport

open Failsafe.Core Failsafe.Lib

structure OutboundMessage where
  feature : FeatureId
  payload : List UInt8
deriving DecidableEq, Repr

inductive PublishError where
  | failed (message : String)
deriving DecidableEq, Repr

/-- What reading and changing the directory, and publishing, ask for. -/
inductive PeerRequest where
  | setFeatureEnabled (peer : DeviceId) (feature : FeatureId) (enabled : Bool)
  | replacePeers (peers : List DeviceId)
  | updatePeerAddresses (book : PeerAddressBook)
  | readPeers
  | readDisabled
  | connectedPeers
  | send (message : FeatureMessage (List UInt8))
  -- what a call has come to
  | recipients (feature : FeatureId) (peers : List DeviceId)
  | published (outbound : OutboundMessage) (result : Except PublishError Unit)
deriving DecidableEq

abbrev PeerRequest.Response : PeerRequest → Type
  | .readPeers | .connectedPeers => List DeviceId
  | .readDisabled => Finset (DeviceId × FeatureId)
  | .send _ => Except TransportError Unit
  | _ => Unit

abbrev PeerSig : Signature where
  Request := PeerRequest
  Response := PeerRequest.Response

instance : DecidableEq PeerSig.Request := inferInstanceAs (DecidableEq PeerRequest)

abbrev PeerProg := Prog PeerSig

def ask (request : PeerRequest) : PeerProg request.Response :=
  .call request .ret

/-- `PeerDirectory::recipients_for`, with its two locks taken one after the other. -/
def recipientsFor (feature : FeatureId) : PeerProg (List DeviceId) := do
  let peers ← ask .readPeers
  let disabled ← ask .readDisabled
  return PeerDirectory.recipients disabled feature peers

/-- The loop of `publish` over the recipients: its failures. -/
def sendEach (localId : DeviceId) (outbound : OutboundMessage) :
    List DeviceId → PeerProg (List String)
  | [] => return []
  | peer :: peers => do
      let result ← ask (.send (.new localId peer outbound.feature outbound.payload))
      let failures ← sendEach localId outbound peers
      match result with
      | .ok () => return failures
      | .error error => return s!"{Uuid.toText peer.uuid}: {error.toText}" :: failures

/-- `MessageRouter::publish` -/
def publish (localId : DeviceId) (outbound : OutboundMessage) :
    PeerProg (Except PublishError Unit) := do
  let candidates ← recipientsFor outbound.feature
  if candidates.isEmpty then
    return .ok ()
  let connected ← ask .connectedPeers
  let recipients := candidates.filter fun peer => connected.contains peer
  if recipients.isEmpty then
    return .ok ()
  let failures ← sendEach localId outbound recipients
  if failures.isEmpty then return .ok ()
  else return .error (.failed (String.intercalate "; " failures))

end Failsafe.Transport
