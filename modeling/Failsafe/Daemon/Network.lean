import Failsafe.Core.Registry
import Failsafe.Daemon.AddressSync
import Failsafe.Send.Payload
import Failsafe.Transport.Naming
import Failsafe.Transport.Opening

/-!
Daemons that publish to each other over streams, with any number of other endpoints among them.
A stream is as authentic as its connection: what it brings comes from the endpoint whose key the
connection has.  It may be lost or cut off, and streams come in any order.
-/

namespace Failsafe.Daemon

open Failsafe.Core Failsafe.Lib Failsafe.Transport Failsafe.Send

/-- What the tasks of one daemon share. -/
structure Node (κ : Type) where
  directory : PeerDirectory
  transport : Connections κ
  registry : FeatureRegistry
  -- the order in which the next book that is handed over is iterated
  listed : PeerAddressBook
  -- how many messages the daemon has taken out of its inbox
  taken : Nat
  -- the messages that a feature was called with, and the connections they came by
  dispatched : List (Nat × FeatureMessage (List UInt8))

/-- The bytes of a stream on their way between two endpoints. -/
structure Packet (κ : Type) where
  source : κ
  target : κ
  bytes : List UInt8
deriving DecidableEq

structure Network (κ : Type) where
  nodes : κ → Node κ
  wire : List (Packet κ)

/-- The endpoints by their keys.  Those that are not honest write what they like. -/
structure Deployment (κ : Type) where
  fromStr : String → Except String κ
  toText : κ → String
  toVec : FeatureMessage (List UInt8) → Except String (List UInt8)
  fromSlice : List UInt8 → Except String (FeatureMessage (List UInt8))
  deviceId : κ → DeviceId
  honest : κ → Bool

/-- What the tasks of a daemon do with the peers.  The feature that sends files hands its own
messages to the transport, and not to the router. -/
inductive NetworkJob where
  | peers (job : PeerJob)
  | sendFile (peer : DeviceId) (payload : List UInt8)

def NetworkJob.run (localId : DeviceId) : NetworkJob → PeerProg Unit
  | .peers job => job.run localId
  | .sendFile peer payload => do
      let _ ← ask (.send (.new localId peer SEND_FEATURE_ID payload))
      return ()

inductive NetworkEvent (κ τ : Type) where
  | start (task : κ × τ) (job : NetworkJob)
  | iterate (key : κ) (listed : PeerAddressBook)
  | transport (key : κ) (event : ConnectionEvent κ)
  | openStream (key : κ) (peer : DeviceId) (opening : Opening)
  | arrive (packet connection : Nat) (recv : RecvStream)
  | lose (packet : Nat)
  | forge (packet : Packet κ)
  | enable (key : κ) (feature : FeatureId)
  | disable (key : κ) (feature : FeatureId)
  | dispatch (key : κ)

section Nodes

variable {κ : Type}

/-- The connection that `send` and the others get out of the pool. -/
def Node.connected (node : Node κ) (peer : DeviceId) : Option (Connection κ) :=
  (node.transport.get peer).bind fun connection => node.transport.connections[connection]?

def inboxRow : Nat × StreamEvent → Option (Nat × FeatureMessage (List UInt8))
  | (connection, .inbox message) => some (connection, message)
  | _ => none

/-- What was put into the inbox so far. -/
def Node.inbox (node : Node κ) : List (Nat × FeatureMessage (List UInt8)) :=
  node.transport.handled.filterMap inboxRow

/-- `handle_transport_message`, at the next message of the inbox. -/
def Node.dispatch (node : Node κ) : Option (Node κ) :=
  node.inbox[node.taken]?.map fun row =>
    { node with
      taken := node.taken + 1
      dispatched := match node.registry.dispatch row.2 with
        | .ok _ => node.dispatched ++ [row]
        | .error _ => node.dispatched }

/-- The steps of the transport for which nothing has to come from elsewhere. -/
def isOwn : ConnectionEvent κ → Bool
  | .update _ | .stream _ _ => false
  | _ => true

def isSession : Opening → Bool
  | .frame _ => false
  | _ => true

end Nodes

namespace Network

variable {κ τ : Type} [DecidableEq κ] (net : Deployment κ)

def put (network : Network κ) (key : κ) (node : Node κ) : Network κ :=
  { network with nodes := Function.update network.nodes key node }

def write (network : Network κ) (packet : Packet κ) : Network κ :=
  { network with wire := network.wire ++ [packet] }

/-- One step of a transport. -/
def stepTransport (network : Network κ) (key : κ) (event : ConnectionEvent κ) :
    Option (Network κ) :=
  let node := network.nodes key
  (node.transport.step net.fromStr net.toText net.fromSlice key (net.deviceId key) event).map
    fun transport => network.put key { node with transport }

/-- What a daemon writes to a stream for a peer, and whether the connection still takes it. -/
def packet (network : Network κ) (key : κ) (peer : DeviceId) (opening : Opening) :
    Except TransportError (Packet κ × Bool) :=
  match (network.nodes key).connected peer with
  | none => .error (.peerNotFound peer)
  | some connection => match opening.write net.toVec with
      | .error error => .error error
      | .ok bytes => .ok (⟨key, connection.remoteId, bytes⟩, connection.isOpen)

/-- `IrohTransport::send`.  After an error any part of the frame may have been written. -/
def send (network : Network κ) (key : κ) (message : FeatureMessage (List UInt8))
    (result : Except TransportError Unit) : Option (Network κ) :=
  match network.packet net key message.to (.frame message) with
  | .error error => if result = .error error then some network else none
  | .ok (packet, isOpen) => match result, isOpen with
      | .ok (), true | .error (.codec _), true => some (network.write packet)
      | .error (.codec _), false => some network
      | _, _ => none

/-- What a request of a task does. -/
def perform (task : κ × τ) : (request : PeerRequest) → request.Response → Network κ →
    Option (Network κ)
  | .setFeatureEnabled peer feature enabled, _, network =>
      let node := network.nodes task.1
      some (network.put task.1
        { node with directory := node.directory.setFeatureEnabled peer feature enabled })
  | .replacePeers peers, _, network =>
      let node := network.nodes task.1
      some (network.put task.1 { node with directory := node.directory.replacePeers peers })
  | .updatePeerAddresses book, _, network =>
      if (network.nodes task.1).listed.Perm book then
        network.stepTransport net task.1 (.update (network.nodes task.1).listed)
      else none
  | .readPeers, (peers : List DeviceId), network =>
      if peers.Nodup ∧ peers.toFinset = (network.nodes task.1).directory.peers then some network
      else none
  | .readDisabled, (disabled : Finset (DeviceId × FeatureId)), network =>
      if disabled = (network.nodes task.1).directory.disabled then some network else none
  | .connectedPeers, (connected : List DeviceId), network =>
      if connected.Perm (network.nodes task.1).transport.connectedPeers then some network
      else none
  | .send message, (result : Except TransportError Unit), network =>
      network.send net task.1 message result
  | .recipients _ _, _, network | .published _ _, _, network => some network

/-- A stream comes by a connection to the endpoint that wrote it, or a part of it does. -/
def arrive (network : Network κ) (packet connection : Nat) (recv : RecvStream) :
    Option (Network κ) :=
  match network.wire[packet]? with
  | some ⟨source, target, bytes⟩ =>
      if (network.nodes target).transport.remote connection = some source ∧
          recv.bytes <+: bytes then
        stepTransport net { network with wire := network.wire.eraseIdx packet } target
          (.stream connection recv)
      else none
  | none => none

def event : NetworkEvent κ τ → Network κ →
    Option (Network κ × Option ((κ × τ) × PeerProg Unit))
  | .start task job, network => some (network, some (task, job.run (net.deviceId task.1)))
  | .iterate key listed, network =>
      some (network.put key { network.nodes key with listed }, none)
  | .transport key event, network =>
      if isOwn event then (network.stepTransport net key event).map (·, none) else none
  | .openStream key peer opening, network =>
      match network.packet net key peer opening with
      | .ok (packet, true) =>
          if isSession opening then some (network.write packet, none) else none
      | _ => none
  | .arrive packet connection recv, network =>
      (network.arrive net packet connection recv).map (·, none)
  | .lose packet, network =>
      some ({ network with wire := network.wire.eraseIdx packet }, none)
  | .forge packet, network =>
      if net.honest packet.source then none else some (network.write packet, none)
  | .enable key feature, network =>
      let node := network.nodes key
      some (network.put key { node with registry := (node.registry.enable feature).2 }, none)
  | .disable key feature, network =>
      let node := network.nodes key
      some (network.put key { node with registry := node.registry.disable feature }, none)
  | .dispatch key, network =>
      (network.nodes key).dispatch.map fun node => (network.put key node, none)

end Network

def network {κ τ : Type} [DecidableEq κ] [DecidableEq τ] (net : Deployment κ) :
    World PeerSig (κ × τ) (NetworkEvent κ τ) (Network κ) where
  perform := Network.perform net
  event := Network.event net

section Steps

variable {κ τ : Type} [DecidableEq κ] {net : Deployment κ} {before after : Network κ}

abbrev NetworkLabel (κ τ : Type) := Label PeerSig (κ × τ) (NetworkEvent κ τ)

abbrev NetworkPool (κ τ : Type) := Pool PeerSig (κ × τ) (Network κ)

/-- What a step of the network was taken for: a daemon writes to a stream of a peer. -/
inductive Wrote (labels : List (NetworkLabel κ τ)) (key : κ) : DeviceId → Opening → Prop
  | message {task : τ} {message : FeatureMessage (List UInt8)}
      {result : Except TransportError Unit} :
      .call (key, task) (.send message) result ∈ labels →
      Wrote labels key message.to (.frame message)
  | session {peer : DeviceId} {opening : Opening} : isSession opening = true →
      .event (.openStream key peer opening) ∈ labels → Wrote labels key peer opening

/-- The rows of the book that is handed to the transport of this daemon. -/
def handedRows (key : κ) : NetworkLabel κ τ → PeerAddressBook
  | .call task (.updatePeerAddresses book) _ => if task.1 = key then book else []
  | _ => []

abbrev Transported (net : Deployment κ) (key : κ) (before : Connections κ)
    (event : ConnectionEvent κ) (after : Connections κ) : Prop :=
  before.step net.fromStr net.toText net.fromSlice key (net.deviceId key) event = some after

/-- What a step of the network may change. -/
inductive Network.Change (net : Deployment κ) (before : Network κ) :
    NetworkLabel κ τ → Network κ → Prop
  | same {label : NetworkLabel κ τ} : Change net before label before
  | aside {label : NetworkLabel κ τ} {key : κ} {node : Node κ} :
      node.transport = (before.nodes key).transport →
      node.dispatched = (before.nodes key).dispatched → node.taken = (before.nodes key).taken →
      Change net before label (before.put key node)
  | stepped {label : NetworkLabel κ τ} {key : κ} {event : ConnectionEvent κ}
      {transport : Connections κ} : isOwn event = true →
      Transported net key (before.nodes key).transport event transport →
      Change net before label (before.put key { before.nodes key with transport })
  | updated {key : κ} {task : τ} {book listed : PeerAddressBook} {transport : Connections κ} :
      listed.Perm book →
      Transported net key (before.nodes key).transport (.update listed) transport →
      Change net before (.call (key, task) (.updatePeerAddresses book) ())
        (before.put key { before.nodes key with transport })
  | wrote {label : NetworkLabel κ τ} {peer : DeviceId} {opening : Opening} {packet : Packet κ}
      {isOpen : Bool} :
      before.packet net packet.source peer opening = .ok (packet, isOpen) →
      Wrote [label] packet.source peer opening → Change net before label (before.write packet)
  | forged {label : NetworkLabel κ τ} {packet : Packet κ} : net.honest packet.source = false →
      Change net before label (before.write packet)
  | lost {label : NetworkLabel κ τ} {packet : Nat} :
      Change net before label { before with wire := before.wire.eraseIdx packet }
  | arrived {label : NetworkLabel κ τ} {packet connection : Nat} {recv : RecvStream}
      {source target : κ} {bytes : List UInt8} {transport : Connections κ} :
      before.wire[packet]? = some ⟨source, target, bytes⟩ →
      (before.nodes target).transport.remote connection = some source → recv.bytes <+: bytes →
      Transported net target (before.nodes target).transport (.stream connection recv)
        transport →
      Change net before label (({ before with wire := before.wire.eraseIdx packet }).put target
        { before.nodes target with transport })
  | dispatched {key : κ} {node : Node κ} : (before.nodes key).dispatch = some node →
      Change net before (.event (.dispatch key)) (before.put key node)

theorem Network.stepTransport_eq_some {key : κ} {event : ConnectionEvent κ}
    (h : before.stepTransport net key event = some after) :
    ∃ transport, Transported net key (before.nodes key).transport event transport ∧
      after = before.put key { before.nodes key with transport } := by
  obtain ⟨transport, hstep, rfl⟩ := Option.map_eq_some_iff.mp h
  exact ⟨transport, hstep, rfl⟩

omit [DecidableEq κ] in
theorem Network.packet_ok {key : κ} {peer : DeviceId} {opening : Opening} {packet : Packet κ}
    {isOpen : Bool} (h : before.packet net key peer opening = .ok (packet, isOpen)) :
    packet.source = key ∧ opening.write net.toVec = .ok packet.bytes ∧
      ∃ connection, (before.nodes key).transport.get peer = some connection ∧
        (before.nodes key).transport.remote connection = some packet.target := by
  simp only [Network.packet, Node.connected] at h
  split at h
  · cases h
  · rename_i found hfound
    split at h
    · cases h
    · rename_i bytes hbytes
      obtain ⟨rfl, -⟩ := Prod.mk.inj (Except.ok.inj h)
      obtain ⟨connection, hget, hconnection⟩ := Option.bind_eq_some_iff.mp hfound
      exact ⟨rfl, hbytes, connection, hget, Option.map_eq_some_iff.mpr ⟨found, hconnection, rfl⟩⟩

theorem Network.change_send {key : κ} {task : τ} {message : FeatureMessage (List UInt8)}
    {result : Except TransportError Unit}
    (h : before.send net key message result = some after) :
    Change net before (.call (key, task) (.send message) result : NetworkLabel κ τ) after := by
  unfold send at h
  split at h
  · obtain ⟨-, h⟩ := Option.ite_none_right_eq_some.mp h
    obtain rfl := Option.some.inj h
    exact .same
  · rename_i packet isOpen hpacket
    have hwrote : Change net before (.call (key, task) (.send message) result : NetworkLabel κ τ)
        (before.write packet) := by
      obtain ⟨rfl, -⟩ := packet_ok hpacket
      exact .wrote hpacket (.message (List.mem_singleton_self _))
    split at h
    · obtain rfl := Option.some.inj h
      exact hwrote
    · obtain rfl := Option.some.inj h
      exact hwrote
    · obtain rfl := Option.some.inj h
      exact .same
    · cases h

theorem Network.change_perform {task : κ × τ} {request : PeerRequest}
    {response : request.Response} (h : perform net task request response before = some after) :
    Change net before (.call task request response : NetworkLabel κ τ) after := by
  obtain ⟨key, task⟩ := task
  cases request with
  | setFeatureEnabled | replacePeers =>
      obtain rfl := Option.some.inj h
      exact .aside rfl rfl rfl
  | updatePeerAddresses book =>
      obtain ⟨hlisted, h⟩ := Option.ite_none_right_eq_some.mp h
      obtain ⟨transport, hstep, rfl⟩ := stepTransport_eq_some h
      exact .updated hlisted hstep
  | readPeers | readDisabled | connectedPeers =>
      obtain ⟨-, h⟩ := Option.ite_none_right_eq_some.mp h
      obtain rfl := Option.some.inj h
      exact .same
  | send message => exact change_send h
  | recipients | published =>
      obtain rfl := Option.some.inj h
      exact .same

theorem Network.change_event {event : NetworkEvent κ τ}
    {started : Option ((κ × τ) × PeerProg Unit)}
    (h : Network.event net event before = some (after, started)) :
    Change net before (.event event : NetworkLabel κ τ) after := by
  cases event with
  | start =>
      obtain ⟨rfl, -⟩ := Prod.mk.inj (Option.some.inj h)
      exact .same
  | iterate | enable | disable =>
      obtain ⟨rfl, -⟩ := Prod.mk.inj (Option.some.inj h)
      exact .aside rfl rfl rfl
  | transport key event =>
      obtain ⟨hown, h⟩ := Option.ite_none_right_eq_some.mp h
      obtain ⟨network, hnetwork, heq⟩ := Option.map_eq_some_iff.mp h
      obtain ⟨rfl, -⟩ := Prod.mk.inj heq
      obtain ⟨transport, hstep, rfl⟩ := stepTransport_eq_some hnetwork
      exact .stepped hown hstep
  | openStream key peer opening =>
      simp only [Network.event] at h
      split at h
      · rename_i packet hpacket
        obtain ⟨hsession, h⟩ := Option.ite_none_right_eq_some.mp h
        obtain ⟨rfl, -⟩ := Prod.mk.inj (Option.some.inj h)
        obtain ⟨rfl, -⟩ := packet_ok hpacket
        exact .wrote hpacket (.session hsession (List.mem_singleton_self _))
      · cases h
  | arrive packet connection recv =>
      obtain ⟨network, harrive, heq⟩ := Option.map_eq_some_iff.mp h
      obtain ⟨rfl, -⟩ := Prod.mk.inj heq
      unfold Network.arrive at harrive
      split at harrive
      · rename_i source target bytes hpacket
        obtain ⟨⟨hremote, hcut⟩, harrive⟩ := Option.ite_none_right_eq_some.mp harrive
        obtain ⟨transport, hstep, rfl⟩ := stepTransport_eq_some harrive
        exact .arrived hpacket hremote hcut hstep
      · cases harrive
  | lose packet =>
      obtain ⟨rfl, -⟩ := Prod.mk.inj (Option.some.inj h)
      exact .lost
  | forge packet =>
      obtain ⟨hhonest, h⟩ := Option.ite_none_left_eq_some.mp h
      obtain ⟨rfl, -⟩ := Prod.mk.inj (Option.some.inj h)
      exact .forged (Bool.not_eq_true _ ▸ hhonest)
  | dispatch key =>
      obtain ⟨node, hnode, heq⟩ := Option.map_eq_some_iff.mp h
      obtain ⟨rfl, -⟩ := Prod.mk.inj heq
      exact .dispatched hnode

theorem step_change [DecidableEq τ] {pool pool' : NetworkPool κ τ} {label : NetworkLabel κ τ}
    (h : (network net).step pool label = some pool') :
    Network.Change net pool.state label pool'.state := by
  cases label with
  | call task request response =>
      obtain ⟨next, state, -, hperform, rfl⟩ := World.step_call h
      exact Network.change_perform hperform
  | event event =>
      obtain ⟨state, started, hevent, hstarted⟩ := World.step_event h
      have hchange := Network.change_event hevent
      rcases hstarted with ⟨-, rfl⟩ | ⟨task, program, -, -, rfl⟩
      · exact hchange
      · exact hchange

omit [DecidableEq κ] in
@[simp] theorem Network.nodes_write (network : Network κ) (packet : Packet κ) :
    (network.write packet).nodes = network.nodes := rfl

@[simp] theorem Network.wire_put (network : Network κ) (key : κ) (node : Node κ) :
    (network.put key node).wire = network.wire := rfl

@[simp] theorem Network.node_put (network : Network κ) (key : κ) (node : Node κ) :
    (network.put key node).nodes key = node := by
  simp [put]

theorem Network.node_put_of_ne {key other : κ} (h : other ≠ key) (network : Network κ)
    (node : Node κ) : (network.put key node).nodes other = network.nodes other := by
  simp [put, h]

/-- The step of one transport in a step of the network: books come from the tasks of the daemon,
and streams from the wire. -/
inductive Network.Moved (net : Deployment κ) (before : Network κ) (label : NetworkLabel κ τ)
    (key : κ) : Connections κ → Prop
  | same : Moved net before label key (before.nodes key).transport
  | own {event : ConnectionEvent κ} {transport : Connections κ} : isOwn event = true →
      Transported net key (before.nodes key).transport event transport →
      Moved net before label key transport
  | updated {listed : PeerAddressBook} {transport : Connections κ} :
      listed ⊆ handedRows key label →
      Transported net key (before.nodes key).transport (.update listed) transport →
      Moved net before label key transport
  | arrived {connection : Nat} {recv : RecvStream} {source : κ} {bytes : List UInt8}
      {transport : Connections κ} : ⟨source, key, bytes⟩ ∈ before.wire →
      (before.nodes key).transport.remote connection = some source → recv.bytes <+: bytes →
      Transported net key (before.nodes key).transport (.stream connection recv) transport →
      Moved net before label key transport

omit [DecidableEq κ] in
theorem Node.mem_inbox {node : Node κ} {row : Nat × FeatureMessage (List UInt8)} :
    row ∈ node.inbox ↔ (row.1, .inbox row.2) ∈ node.transport.handled := by
  unfold inbox
  rw [List.mem_filterMap]
  constructor
  · rintro ⟨⟨connection, event⟩, hmem, hrow⟩
    cases event with
    | inbox message =>
        obtain rfl := Option.some.inj hrow
        exact hmem
    | port | shell | log => cases hrow
  · intro hmem
    exact ⟨_, hmem, rfl⟩

omit [DecidableEq κ] in
theorem Node.dispatch_eq_some {node node' : Node κ} (h : node.dispatch = some node') :
    ∃ row, node.inbox[node.taken]? = some row ∧ node'.transport = node.transport ∧
      node'.taken = node.taken + 1 ∧
      (node'.dispatched = node.dispatched ∨ row.2.feature ∈ node.registry.enabled ∧
        node'.dispatched = node.dispatched ++ [row]) := by
  obtain ⟨row, hrow, rfl⟩ := Option.map_eq_some_iff.mp h
  refine ⟨row, hrow, rfl, rfl, ?_⟩
  dsimp only
  split
  · rename_i hdispatch
    exact .inr ⟨(FeatureRegistry.dispatch_eq_ok.mp hdispatch).1 ▸
      (FeatureRegistry.dispatch_eq_ok.mp hdispatch).2, rfl⟩
  · exact .inl rfl

theorem Network.Change.moved {label : NetworkLabel κ τ} (h : Change net before label after)
    (key : κ) : Moved net before label key (after.nodes key).transport := by
  cases h with
  | same => exact .same
  | @aside _ other node htransport =>
      rcases eq_or_ne key other with rfl | hne
      · rw [node_put, htransport]
        exact .same
      · rw [node_put_of_ne hne]
        exact .same
  | @stepped _ other event transport hown hstep =>
      rcases eq_or_ne key other with rfl | hne
      · rw [node_put]
        exact .own hown hstep
      · rw [node_put_of_ne hne]
        exact .same
  | @updated other task book listed transport hlisted hstep =>
      rcases eq_or_ne key other with rfl | hne
      · rw [node_put]
        refine .updated ?_ hstep
        rw [handedRows, if_pos rfl]
        exact hlisted.subset
      · rw [node_put_of_ne hne]
        exact .same
  | wrote => exact .same
  | forged => exact .same
  | lost => exact .same
  | @arrived _ packet connection recv source target bytes transport hpacket hremote hcut hstep =>
      rcases eq_or_ne key target with rfl | hne
      · rw [node_put]
        exact .arrived (List.mem_of_getElem? hpacket) hremote hcut hstep
      · rw [node_put_of_ne hne]
        exact .same
  | @dispatched other node hdispatch =>
      rcases eq_or_ne key other with rfl | hne
      · rw [node_put]
        obtain ⟨-, -, htransport, -⟩ := Node.dispatch_eq_some hdispatch
        rw [htransport]
        exact .same
      · rw [node_put_of_ne hne]
        exact .same

theorem Network.Moved.step {label : NetworkLabel κ τ} {key : κ} {transport : Connections κ}
    (h : Moved net before label key transport) :
    transport = (before.nodes key).transport ∨
      ∃ event, (before.nodes key).transport.StepTo net.fromStr net.toText net.fromSlice
          (net.deviceId key) event transport ∧
        ∀ book, event = .update book → book ⊆ handedRows key label := by
  cases h with
  | same => exact .inl rfl
  | own hown hstep =>
      refine .inr ⟨_, Connections.step_to hstep, ?_⟩
      rintro book rfl
      cases hown
  | updated hlisted hstep =>
      refine .inr ⟨_, Connections.step_to hstep, ?_⟩
      rintro book hbook
      obtain rfl := ConnectionEvent.update.inj hbook
      exact hlisted
  | arrived _ _ _ hstep =>
      refine .inr ⟨_, Connections.step_to hstep, ?_⟩
      rintro book hbook
      cases hbook

theorem Network.Change.handed {label : NetworkLabel κ τ} (h : Change net before label after)
    (key : κ) : (after.nodes key).dispatched = (before.nodes key).dispatched ∨
      label = .event (.dispatch key) ∧ ∃ row ∈ (before.nodes key).inbox,
        row.2.feature ∈ (before.nodes key).registry.enabled ∧
          (after.nodes key).dispatched = (before.nodes key).dispatched ++ [row] := by
  cases h with
  | same | wrote | forged | lost => exact .inl rfl
  | @aside _ other node _ hdispatched =>
      rcases eq_or_ne key other with rfl | hne
      · rw [node_put]
        exact .inl hdispatched
      · rw [node_put_of_ne hne]
        exact .inl rfl
  | @stepped _ other | @updated other =>
      rcases eq_or_ne key other with rfl | hne
      · rw [node_put]
        exact .inl rfl
      · rw [node_put_of_ne hne]
        exact .inl rfl
  | @arrived _ _ _ _ _ target =>
      rcases eq_or_ne key target with rfl | hne
      · rw [node_put]
        exact .inl rfl
      · rw [node_put_of_ne hne]
        exact .inl rfl
  | @dispatched other node hdispatch =>
      rcases eq_or_ne key other with rfl | hne
      · rw [node_put]
        obtain ⟨row, hrow, -, -, hsame | ⟨henabled, hadded⟩⟩ := Node.dispatch_eq_some hdispatch
        · exact .inl hsame
        · exact .inr ⟨rfl, row, List.mem_of_getElem? hrow, henabled, hadded⟩
      · rw [node_put_of_ne hne]
        exact .inl rfl

/-- The messages of the inbox in the order in which they come. -/
structure Node.InOrder (node : Node κ) : Prop where
  sublist : node.dispatched.Sublist (node.inbox.take node.taken)

omit [DecidableEq κ] in
theorem Node.InOrder.of_prefix {node node' : Node κ} (h : node.InOrder)
    (hinbox : node.inbox <+: node'.inbox) (hdispatched : node'.dispatched = node.dispatched)
    (htaken : node'.taken = node.taken) : node'.InOrder := by
  refine ⟨?_⟩
  rw [hdispatched, htaken]
  exact h.sublist.trans ((hinbox.take _).sublist)

omit [DecidableEq κ] in
theorem Node.InOrder.dispatch {node node' : Node κ} (h : node.InOrder)
    (hdispatch : node.dispatch = some node') : node'.InOrder := by
  obtain ⟨row, hrow, htransport, htaken, hdispatched⟩ := dispatch_eq_some hdispatch
  have hinbox : node'.inbox = node.inbox := by
    rw [inbox, htransport]
    rfl
  refine ⟨?_⟩
  rw [hinbox, htaken, List.take_add_one, hrow]
  rcases hdispatched with hsame | ⟨-, hadded⟩
  · rw [hsame]
    exact h.sublist.trans (List.sublist_append_left _ _)
  · rw [hadded]
    exact h.sublist.append (List.Sublist.refl _)

theorem inbox_grows {key : κ} {node node' : Node κ} {event : ConnectionEvent κ}
    (hstep : Transported net key node.transport event node'.transport) :
    node.inbox <+: node'.inbox := by
  unfold Node.inbox
  cases Connections.step_flow hstep with
  | same _ hsame | comes _ _ hsame => rw [hsame]
  | goes _ _ hadded =>
      rw [hadded, List.filterMap_append]
      exact List.prefix_append _ _

theorem Network.Change.inOrder {label : NetworkLabel κ τ} (h : Change net before label after)
    (key : κ) (hbefore : (before.nodes key).InOrder) : (after.nodes key).InOrder := by
  cases h with
  | same | wrote | forged | lost => exact hbefore
  | @aside _ other node htransport hdispatched htaken =>
      rcases eq_or_ne key other with rfl | hne
      · rw [node_put]
        refine hbefore.of_prefix ?_ hdispatched htaken
        rw [Node.inbox, Node.inbox, htransport]
      · rw [node_put_of_ne hne]
        exact hbefore
  | @stepped _ other _ _ _ hstep | @updated other _ _ _ _ _ hstep =>
      rcases eq_or_ne key other with rfl | hne
      · rw [node_put]
        exact hbefore.of_prefix (inbox_grows hstep) rfl rfl
      · rw [node_put_of_ne hne]
        exact hbefore
  | @arrived _ _ _ _ _ target _ _ _ _ _ hstep =>
      rcases eq_or_ne key target with rfl | hne
      · rw [node_put]
        exact hbefore.of_prefix (inbox_grows hstep) rfl rfl
      · rw [node_put_of_ne hne]
        exact hbefore
  | @dispatched other node hdispatch =>
      rcases eq_or_ne key other with rfl | hne
      · rw [node_put]
        exact hbefore.dispatch hdispatch
      · rw [node_put_of_ne hne]
        exact hbefore

/-- What is on the wire after a step is so before, or is not by an honest endpoint, or is what
a daemon has just written. -/
theorem Network.Change.wire {label : NetworkLabel κ τ} (h : Change net before label after)
    {packet : Packet κ} (hmem : packet ∈ after.wire) :
    packet ∈ before.wire ∨ net.honest packet.source = false ∨
      ∃ peer opening isOpen,
        before.packet net packet.source peer opening = .ok (packet, isOpen) ∧
          Wrote [label] packet.source peer opening := by
  cases h with
  | same | aside | stepped | updated | dispatched => exact .inl hmem
  | wrote hpacket hwrote =>
      rcases List.mem_append.mp hmem with hbefore | hlast
      · exact .inl hbefore
      · obtain rfl := List.mem_singleton.mp hlast
        exact .inr (.inr ⟨_, _, _, hpacket, hwrote⟩)
  | forged hhonest =>
      rcases List.mem_append.mp hmem with hbefore | hlast
      · exact .inl hbefore
      · obtain rfl := List.mem_singleton.mp hlast
        exact .inr (.inl hhonest)
  | lost | arrived => exact .inl (List.mem_of_mem_eraseIdx hmem)

end Steps

end Failsafe.Daemon
