import Failsafe.Daemon.Delivery

/-!
How often a feature is called with a message: for every time that it was sent, at most once.  The
copies of a message that are underway are counted, from the wire over the streams to the inbox.
-/

namespace Failsafe.Daemon

open Failsafe.Core Failsafe.Lib Failsafe.Transport

variable {κ τ : Type} [DecidableEq κ] (net : Deployment κ) (source key : κ)
  (message : FeatureMessage (List UInt8))

section Copies

/-- The bytes are the frame of the message. -/
def isFrame (bytes : List UInt8) : Bool :=
  encode net.toVec message = .ok bytes

/-- The message is what was received, under the name that its sender has. -/
def isMessage : StreamEvent → Bool
  | .inbox received => { received with «from» := net.deviceId source } = message
  | _ => false

def comesFrom (transport : Connections κ) (connection : Nat) : Bool :=
  transport.remote connection = some source

def onWire (network : Network κ) : Nat :=
  network.wire.countP fun packet =>
    packet.source = source && packet.target = key && isFrame net message packet.bytes

def inStreams (transport : Connections κ) : Nat :=
  transport.streams.countP fun row =>
    comesFrom source transport row.1 && isFrame net message row.2.2.bytes

def inHandled (transport : Connections κ) : Nat :=
  transport.handled.countP fun row =>
    comesFrom source transport row.1 && isMessage net source message row.2

/-- The copies of the message between two endpoints that were not lost. -/
def underway (network : Network κ) : Nat :=
  onWire net source key message network +
    (inStreams net source message (network.nodes key).transport +
      inHandled net source message (network.nodes key).transport)

/-- The copies that come to a transport in a step. -/
def arriving (transport : Connections κ) : ConnectionEvent κ → Nat
  | .stream connection recv =>
      (comesFrom source transport connection && isFrame net message recv.bytes).toNat
  | _ => 0

/-- The message is sent in this step. -/
def isSend : NetworkLabel κ τ → Bool
  | .call task (.send sent) _ => task.1 = source && sent = message
  | _ => false

end Copies

section Steps

variable {net source key} {first : κ → PeerAddressBook}
  {labels : List (NetworkLabel κ τ)} {label : NetworkLabel κ τ} {before after : Network κ}
  {transport : Connections κ} {event : ConnectionEvent κ}

theorem comesFrom_step (hstep : Transported net key (before.nodes key).transport event transport)
    {connection : Nat} {other : κ}
    (hremote : (before.nodes key).transport.remote connection = some other) :
    comesFrom source transport connection =
      comesFrom source (before.nodes key).transport connection := by
  unfold comesFrom
  rw [hremote, (Connections.step_to hstep).remote hremote]

theorem inStreams_kept (source : κ) (message : FeatureMessage (List UInt8))
    (h : Faithful net first labels before)
    (hstep : Transported net key (before.nodes key).transport event transport) :
    ((before.nodes key).transport.streams.countP fun row =>
        comesFrom source transport row.1 && isFrame net message row.2.2.bytes) =
      inStreams net source message (before.nodes key).transport := by
  refine List.countP_congr fun row hrow => ?_
  obtain ⟨other, hremote, -⟩ := h.streams key row hrow
  rw [comesFrom_step hstep hremote]

theorem inHandled_kept (source : κ) (message : FeatureMessage (List UInt8))
    (h : Faithful net first labels before)
    (hstep : Transported net key (before.nodes key).transport event transport) :
    ((before.nodes key).transport.handled.countP fun row =>
        comesFrom source transport row.1 && isMessage net source message row.2) =
      inHandled net source message (before.nodes key).transport := by
  refine List.countP_congr fun row hrow => ?_
  obtain ⟨connection, found⟩ := row
  cases found with
  | inbox received =>
      obtain ⟨other, hremote, -⟩ := h.handled key _ hrow received.from rfl
      rw [comesFrom_step hstep hremote]
  | port | shell | log => simp [isMessage]

theorem isFrame_of_isMessage
    (hjson : ∀ message payload, net.toVec message = .ok payload →
      net.fromSlice payload = .ok message)
    (hwrote : ∀ peer sent, Wrote labels source peer (.frame sent) →
      sent.from = net.deviceId source)
    (h : Faithful net first labels before) (hhonest : net.honest source = true)
    {connection : Nat} {context : StreamContext} {recv : RecvStream}
    (hstream : (connection, context.device, recv) ∈ (before.nodes key).transport.streams)
    (hremote : (before.nodes key).transport.remote connection = some source)
    (hmessage : isMessage net source message
      (handleIncomingBiStream net.fromSlice context recv) = true) :
    isFrame net message recv.bytes = true := by
  obtain ⟨other, hother, hwritten⟩ := h.streams key _ hstream
  obtain rfl := Option.some.inj (hremote.symm.trans hother)
  obtain ⟨bytes, ⟨peer, opening, hwrite, haddressed⟩, hcut⟩ := hwritten hhonest
  generalize hevent : handleIncomingBiStream net.fromSlice context recv = found at hmessage
  cases found with
  | port | shell | log => cases hmessage
  | inbox received =>
      have hsender : (handleIncomingBiStream net.fromSlice context recv).sender =
          some received.from := by
        rw [hevent]
        rfl
      obtain ⟨harrives, hwhole⟩ := handle_cut hjson hwrite hcut hsender
      rw [hevent] at harrives
      cases harrives with
      | @frame sent hlocal =>
          have hfrom := hwrote peer sent haddressed.wrote
          have hsame : sent = message := by
            have hmessage := of_decide_eq_true hmessage
            rw [← hmessage, ← hfrom]
          rw [hwhole sent rfl, ← hsame]
          exact decide_eq_true hwrite

theorem flow_copies
    (hjson : ∀ message payload, net.toVec message = .ok payload →
      net.fromSlice payload = .ok message)
    (hwrote : ∀ peer sent, Wrote labels source peer (.frame sent) →
      sent.from = net.deviceId source)
    (h : Faithful net first labels before) (hhonest : net.honest source = true)
    (hstep : Transported net key (before.nodes key).transport event transport) :
    inStreams net source message transport + inHandled net source message transport ≤
      inStreams net source message (before.nodes key).transport +
        inHandled net source message (before.nodes key).transport +
        arriving net source message (before.nodes key).transport event := by
  have hstreams := inStreams_kept source message h hstep
  have hhandled := inHandled_kept source message h hstep
  cases Connections.step_flow hstep with
  | same hsame hsame' =>
      rw [inStreams, inHandled, hsame, hsame', hstreams, hhandled]
      omega
  | @comes connection device recv _ hconnections hadded hsame =>
      rw [inStreams, inHandled, hadded, hsame, List.countP_append, hstreams, hhandled]
      have hlast : comesFrom source transport connection =
          comesFrom source (before.nodes key).transport connection := by
        simp [comesFrom, Connections.remote, hconnections]
      rw [List.countP_singleton, hlast, arriving]
      generalize (comesFrom source (before.nodes key).transport connection &&
        isFrame net message recv.bytes) = copy
      cases copy with
      | false =>
          simp only [Bool.false_eq_true, if_false, Bool.toNat_false]
          omega
      | true =>
          simp only [if_true, Bool.toNat_true]
          omega
  | @goes _ connection context recv _ hperm hlocal hadded =>
      have hstream := hperm.subset List.mem_cons_self
      obtain ⟨other, hremote, -⟩ := h.streams key _ hstream
      rw [← hperm.countP_eq, List.countP_cons] at hstreams
      rw [inStreams, inHandled, hadded, List.countP_append, hhandled, List.countP_singleton,
        ← hstreams]
      -- the stream that is handled is no longer counted where its message is
      have hhanded : comesFrom source transport connection = true →
          isMessage net source message (handleIncomingBiStream net.fromSlice context recv) =
            true → isFrame net message recv.bytes = true := by
        intro hcomes hmessage
        rw [comesFrom_step hstep hremote] at hcomes
        exact isFrame_of_isMessage message hjson hwrote h hhonest hstream (of_decide_eq_true hcomes)
          hmessage
      generalize isMessage net source message
        (handleIncomingBiStream net.fromSlice context recv) = copy at hhanded ⊢
      cases hcomes : comesFrom source transport connection with
      | false => simp
      | true =>
          cases copy with
          | false =>
              simp only [Bool.and_false, Bool.false_eq_true, if_false]
              omega
          | true =>
              rw [hhanded hcomes rfl]
              simp only [Bool.and_self, if_true]
              omega

theorem underway_le {bound : Nat}
    (hwire : onWire net source key message after ≤ onWire net source key message before + bound)
    (hsame : (after.nodes key).transport = (before.nodes key).transport) :
    underway net source key message after ≤ underway net source key message before + bound := by
  rw [underway, underway, hsame]
  omega

theorem arriving_le
    (hjson : ∀ message payload, net.toVec message = .ok payload →
      net.fromSlice payload = .ok message)
    (h : Faithful net first labels before) (hhonest : net.honest source = true)
    {packet connection : Nat} {recv : RecvStream} {other : κ} {bytes : List UInt8}
    (hpacket : before.wire[packet]? = some ⟨other, key, bytes⟩)
    (hremote : (before.nodes key).transport.remote connection = some other)
    (hcut : recv.bytes <+: bytes) :
    onWire net source key message { before with wire := before.wire.eraseIdx packet } +
        arriving net source message (before.nodes key).transport (.stream connection recv) ≤
      onWire net source key message before := by
  obtain ⟨hindex, hrow⟩ := List.getElem?_eq_some_iff.mp hpacket
  have hperm := List.getElem_cons_eraseIdx_perm hindex
  rw [hrow] at hperm
  rw [onWire, onWire, ← hperm.countP_eq, List.countP_cons]
  refine Nat.add_le_add_left ?_ _
  rw [arriving]
  cases hcopy : (comesFrom source (before.nodes key).transport connection &&
      isFrame net message recv.bytes) with
  | false => exact Nat.zero_le _
  | true =>
      obtain ⟨hcomes, hframe⟩ := Bool.and_eq_true_iff.mp hcopy
      obtain rfl := Option.some.inj (hremote.symm.trans (of_decide_eq_true hcomes))
      obtain ⟨_, opening, hwrite, -⟩ :=
        h.wire _ (List.mem_of_getElem? hpacket) hhonest
      rw [frame_cut hjson (of_decide_eq_true hframe) hwrite hcut] at hframe
      simp [hframe]

theorem underway_step
    (hjson : ∀ message payload, net.toVec message = .ok payload →
      net.fromSlice payload = .ok message)
    (hwrote : ∀ peer sent, Wrote labels source peer (.frame sent) →
      sent.from = net.deviceId source)
    (h : Faithful net first labels before) (hhonest : net.honest source = true)
    (hchange : Network.Change net before label after) :
    underway net source key message after ≤
      underway net source key message before + (isSend source message label).toNat := by
  have hother {other : κ} {node : Node κ} (hne : key ≠ other) :
      ((before.put other node).nodes key).transport = (before.nodes key).transport := by
    rw [Network.node_put_of_ne hne]
  have hself {node : Node κ} {event : ConnectionEvent κ} {transport : Connections κ}
      (hnode : node.transport = transport)
      (hstep : Transported net key (before.nodes key).transport event transport)
      (hnone : arriving net source message (before.nodes key).transport event = 0) :
      underway net source key message (before.put key node) ≤
        underway net source key message before := by
    have hflow := flow_copies message hjson hwrote h hhonest hstep
    rw [underway, underway, Network.node_put, hnode]
    rw [hnone] at hflow
    exact Nat.add_le_add_left hflow _
  cases hchange with
  | same => omega
  | @aside _ other node htransport =>
      refine underway_le message (Nat.le_add_right _ _) ?_
      rcases eq_or_ne key other with rfl | hne
      · rw [Network.node_put, htransport]
      · exact hother hne
  | @stepped _ other event transport hown hstep =>
      rcases eq_or_ne key other with rfl | hne
      · refine (hself rfl hstep ?_).trans (Nat.le_add_right _ _)
        cases event with
        | stream => cases hown
        | _ => rfl
      · exact underway_le message (Nat.le_add_right _ _) (hother hne)
  | @updated other task book listed transport hlisted hstep =>
      rcases eq_or_ne key other with rfl | hne
      · exact (hself rfl hstep rfl).trans (Nat.le_add_right _ _)
      · exact underway_le message (Nat.le_add_right _ _) (hother hne)
  | @wrote _ peer opening packet isOpen hpacket hsent =>
      refine underway_le message ?_ rfl
      rw [onWire, Network.write, List.countP_append, List.countP_singleton]
      refine Nat.add_le_add_left ?_ _
      split
      · rename_i hcopy
        simp only [Bool.and_eq_true, decide_eq_true_eq, isFrame] at hcopy
        obtain ⟨⟨hsource, -⟩, hframe⟩ := hcopy
        obtain ⟨-, hwrite, -⟩ := Network.packet_ok hpacket
        have hopening := opening_of_frame hjson hframe hwrite
        cases hsent with
        | message hmem =>
            obtain rfl := List.mem_singleton.mp hmem
            obtain rfl := Opening.frame.inj hopening
            simp [isSend, hsource]
        | session hsession =>
            rw [hopening] at hsession
            cases hsession
      · exact Nat.zero_le _
  | @forged _ packet hforged =>
      refine underway_le message ?_ rfl
      have hsource : packet.source ≠ source := by
        rintro rfl
        exact Bool.false_ne_true (hforged.symm.trans hhonest)
      rw [onWire, Network.write, List.countP_append, List.countP_singleton]
      simp [hsource, onWire]
  | @lost _ packet =>
      refine underway_le message ?_ rfl
      exact ((List.eraseIdx_sublist _ _).countP_le).trans (Nat.le_add_right _ _)
  | @arrived _ packet connection recv other target bytes transport hpacket hremote hcut hstep =>
      rcases eq_or_ne key target with rfl | hne
      · have hcopy := arriving_le message hjson h hhonest hpacket hremote hcut
        have hflow := flow_copies message hjson hwrote h hhonest hstep
        have hwire (node : Node κ) : onWire net source key message
              (({ before with wire := before.wire.eraseIdx packet } : Network κ).put key node) =
            onWire net source key message { before with wire := before.wire.eraseIdx packet } :=
          rfl
        rw [underway, underway, Network.node_put, hwire]
        dsimp only
        omega
      · refine underway_le message ?_ (hother hne)
        exact ((List.eraseIdx_sublist _ _).countP_le).trans (Nat.le_add_right _ _)
  | @dispatched other node hdispatch =>
      refine underway_le message (Nat.le_add_right _ _) ?_
      rcases eq_or_ne key other with rfl | hne
      · obtain ⟨-, -, htransport, -⟩ := Node.dispatch_eq_some hdispatch
        rw [Network.node_put, htransport]
      · exact hother hne

end Steps

section Runs

variable [DecidableEq τ] {net source key message} {first : κ → PeerAddressBook}
  {cond : Network κ → NetworkLabel κ τ → Prop} {pool pool' : NetworkPool κ τ}
  {labels : List (NetworkLabel κ τ)}

theorem NetworkRun.underway_le_sends (hkeys : ∀ key, net.fromStr (net.toText key) = .ok key)
    (hjson : ∀ message payload, net.toVec message = .ok payload →
      net.fromSlice payload = .ok message)
    (hstart : Starts net first pool) (hhonest : net.honest source = true)
    (h : NetworkRun net cond pool labels pool') :
    underway net source key message pool'.state ≤ labels.countP (isSend source message) := by
  induction h with
  | nil =>
      obtain ⟨addresses, -, htransport⟩ := hstart.transport key
      rw [underway, onWire, hstart.wire, htransport]
      exact Nat.zero_le _
  | snoc hbefore hcond hstep ih =>
      rename_i middle last labels label
      have hwrote (peer : DeviceId) (sent : FeatureMessage (List UInt8))
          (hsent : Wrote labels source peer (.frame sent)) :
          sent.from = net.deviceId source := by
        cases hsent with
        | message hmem =>
            rw [(NetworkRun.sentBy hbefore hstart.tasks hmem).envelope]
            rfl
        | session hsession => cases hsession
      have hfaithful := NetworkRun.faithful hkeys hjson hbefore hstart
      have hone : underway net source key message last.state ≤
          underway net source key message middle.state + (isSend source message label).toNat :=
        underway_step message hjson hwrote hfaithful hhonest (step_change hstep)
      rw [List.countP_append, List.countP_singleton]
      refine hone.trans ((Nat.add_le_add_right ih _).trans (Nat.add_le_add_left ?_ _))
      generalize isSend source message label = sent
      cases sent with
      | false => exact Nat.zero_le _
      | true => exact Nat.le_refl _

theorem NetworkRun.inOrder (h : NetworkRun net cond pool labels pool')
    (hstart : Starts net first pool) (key : κ) : (pool'.state.nodes key).InOrder := by
  induction h with
  | nil =>
      refine ⟨?_⟩
      rw [hstart.dispatched]
      exact List.nil_sublist _
  | snoc _ _ hstep ih => exact (step_change hstep).inOrder key ih

/-- The features of a device are called with a message of an honest endpoint at most as often as
this has sent it, however streams are lost, cut off or reordered. -/
theorem dispatched_at_most_once (hkeys : ∀ key, net.fromStr (net.toText key) = .ok key)
    (hjson : ∀ message payload, net.toVec message = .ok payload →
      net.fromSlice payload = .ok message)
    (hstart : Starts net first pool) (hhonest : net.honest source = true)
    (h : NetworkRun net cond pool labels pool') :
    ((pool'.state.nodes key).dispatched.countP fun row =>
        comesFrom source (pool'.state.nodes key).transport row.1 &&
          isMessage net source message (.inbox row.2)) ≤
      labels.countP (isSend source message) := by
  have hunderway : underway net source key message pool'.state ≤
      labels.countP (isSend source message) :=
    h.underway_le_sends hkeys hjson hstart hhonest
  refine le_trans ?_ (le_trans (Nat.le_add_left _ _) ((Nat.le_add_left _ _).trans hunderway))
  refine ((h.inOrder hstart key).sublist.trans (List.take_sublist _ _)).countP_le.trans ?_
  rw [Node.inbox, List.countP_filterMap, inHandled]
  refine List.countP_mono_left fun row _ hrow => ?_
  obtain ⟨connection, event⟩ := row
  cases event with
  | inbox received => exact hrow
  | port | shell | log => cases hrow

/-- The greeting is heard once, and was sent. -/
theorem greeting_sent_once :
    ∃ labels pool, NetworkRun greetingNet (fun _ _ => True) greetingPool labels pool ∧
      heardFrom (pool.state.nodes keyOfTwo) = [(some keyOfOne, greeting)] ∧
      1 ≤ labels.countP (isSend keyOfOne greeting) := by
  obtain ⟨labels, pool, hrun, hheard⟩ := greeting_run
  have honce : ((pool.state.nodes keyOfTwo).dispatched.countP fun row =>
        comesFrom keyOfOne (pool.state.nodes keyOfTwo).transport row.1 &&
          isMessage greetingNet keyOfOne greeting (.inbox row.2)) ≤
      labels.countP (isSend keyOfOne greeting) :=
    dispatched_at_most_once readKeyText_val greetingNet_json greetingPool_starts
      (by simp [greetingNet]) hrun
  obtain ⟨row, hrows, hrow⟩ := List.map_eq_singleton_iff.mp hheard
  obtain ⟨hremote, hmessage⟩ := Prod.mk.inj hrow
  rw [hrows, List.countP_singleton, comesFrom, hremote, hmessage] at honce
  exact ⟨labels, pool, hrun, hheard, honce⟩

end Runs

end Failsafe.Daemon
