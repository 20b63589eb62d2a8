import Failsafe.Daemon.Network

/-!
Whose messages the features of a daemon are called with: a message that is taken for one of a
peer was sent by the daemon whose key the device list has for the peer, or it comes from an
endpoint that is not honest.  What is published goes only to peers that the directory permits.
-/

namespace Failsafe.Daemon

open Failsafe.Core Failsafe.Lib Failsafe.Transport Failsafe.Send

section Invariants

variable {κ τ : Type} [DecidableEq κ] {net : Deployment κ} {first : κ → PeerAddressBook}
  {labels labels' : List (NetworkLabel κ τ)} {label : NetworkLabel κ τ}
  {before after : Network κ} {key : κ}

/-- The rows of all the books that the transport of a daemon was given. -/
def rows (first : κ → PeerAddressBook) (labels : List (NetworkLabel κ τ)) (key : κ) :
    PeerAddressBook :=
  first key ++ labels.flatMap (handedRows key)

/-- A daemon wrote this for the peer that it knows by the key of the target. -/
structure Addressed (net : Deployment κ) (first : κ → PeerAddressBook)
    (labels : List (NetworkLabel κ τ)) (source target : κ) (peer : DeviceId)
    (opening : Opening) : Prop where
  wrote : Wrote labels source peer opening
  named : Connections.Names net.fromStr (rows first labels source) peer target

def Written (net : Deployment κ) (first : κ → PeerAddressBook)
    (labels : List (NetworkLabel κ τ)) (packet : Packet κ) : Prop :=
  ∃ peer opening, opening.write net.toVec = .ok packet.bytes ∧
    Addressed net first labels packet.source packet.target peer opening

/-- What is handed on of a stream was written for it by the endpoint that the connection leads
to, as far as this is honest. -/
def Caused (net : Deployment κ) (first : κ → PeerAddressBook) (labels : List (NetworkLabel κ τ))
    (source key : κ) (device : DeviceId) (event : StreamEvent) : Prop :=
  ∃ peer opening, Addressed net first labels source key peer opening ∧
    opening.Arrives device (net.deviceId key) event

/-- What holds of the network at any time. -/
structure Faithful (net : Deployment κ) (first : κ → PeerAddressBook)
    (labels : List (NetworkLabel κ τ)) (network : Network κ) : Prop where
  named : ∀ key, (network.nodes key).transport.Named net.fromStr net.toText
    (rows first labels key)
  traced : ∀ key, (network.nodes key).transport.Traced net.fromStr net.toText
  pooled : ∀ key device connection, (network.nodes key).transport.get device = some connection →
    (network.nodes key).transport.Registered device connection
  wire : ∀ packet ∈ network.wire, net.honest packet.source = true →
    Written net first labels packet
  streams : ∀ key, ∀ row ∈ (network.nodes key).transport.streams,
    ∃ source, (network.nodes key).transport.remote row.1 = some source ∧
      (net.honest source = true →
        ∃ bytes, Written net first labels ⟨source, key, bytes⟩ ∧ row.2.2.bytes <+: bytes)
  handled : ∀ key, ∀ row ∈ (network.nodes key).transport.handled, ∀ device,
    row.2.sender = some device →
    ∃ source, (network.nodes key).transport.remote row.1 = some source ∧
      (net.honest source = true → Caused net first labels source key device row.2)
  received : ∀ key, ∀ row ∈ (network.nodes key).transport.handled, ∀ message,
    row.2 = .inbox message → message.to = net.deviceId key

theorem rows_subset (first : κ → PeerAddressBook) (h : labels ⊆ labels') (key : κ) :
    rows first labels key ⊆ rows first labels' key := by
  intro row hrow
  rcases List.mem_append.mp hrow with hbook | hhanded
  · exact List.mem_append_left _ hbook
  · obtain ⟨label, hlabel, hmem⟩ := List.mem_flatMap.mp hhanded
    exact List.mem_append_right _ (List.mem_flatMap.mpr ⟨label, h hlabel, hmem⟩)

omit [DecidableEq κ] in
theorem Wrote.mono {peer : DeviceId} {opening : Opening} (h : Wrote labels key peer opening)
    (hlabels : labels ⊆ labels') : Wrote labels' key peer opening := by
  cases h with
  | message hmem => exact .message (hlabels hmem)
  | session hsession hmem => exact .session hsession (hlabels hmem)

theorem Addressed.mono {source target : κ} {peer : DeviceId} {opening : Opening}
    (h : Addressed net first labels source target peer opening) (hlabels : labels ⊆ labels') :
    Addressed net first labels' source target peer opening :=
  ⟨h.wrote.mono hlabels, h.named.mono (rows_subset first hlabels _)⟩

theorem Written.mono {packet : Packet κ} (h : Written net first labels packet)
    (hlabels : labels ⊆ labels') : Written net first labels' packet := by
  obtain ⟨peer, opening, hbytes, haddressed⟩ := h
  exact ⟨peer, opening, hbytes, haddressed.mono hlabels⟩

theorem Caused.mono {source : κ} {device : DeviceId} {event : StreamEvent}
    (h : Caused net first labels source key device event) (hlabels : labels ⊆ labels') :
    Caused net first labels' source key device event := by
  obtain ⟨peer, opening, haddressed, harrives⟩ := h
  exact ⟨peer, opening, haddressed.mono hlabels, harrives⟩

/-- What a daemon writes goes to the key that it knows the peer by. -/
theorem Faithful.written (h : Faithful net first labels before) {peer : DeviceId}
    {opening : Opening} {packet : Packet κ} {isOpen : Bool}
    (hpacket : before.packet net packet.source peer opening = .ok (packet, isOpen))
    (hwrote : Wrote [label] packet.source peer opening) :
    Written net first (labels ++ [label]) packet := by
  obtain ⟨-, hbytes, connection, hget, hremote⟩ := Network.packet_ok hpacket
  have hattributed := (h.pooled _ _ _ hget).attributed
  obtain ⟨target, htarget, hnames⟩ := (h.named packet.source).connections _ _ hattributed
  obtain rfl := Option.some.inj (hremote.symm.trans htarget)
  refine ⟨peer, opening, hbytes, hwrote.mono (List.subset_append_right _ _), ?_⟩
  exact hnames.mono (rows_subset first (List.subset_append_left _ _) _)

theorem Faithful.pooled_step (h : Faithful net first labels before)
    (hchange : Network.Change net before label after) (device : DeviceId)
    (connection : Nat) (hget : (after.nodes key).transport.get device = some connection) :
    (after.nodes key).transport.Registered device connection := by
  rcases (hchange.moved key).step with hsame | ⟨event, hstep, -⟩
  · rw [hsame] at hget ⊢
    exact h.pooled key device connection hget
  · cases hstep.pool device with
    | same hpool _ hothers =>
        rw [hpool] at hget
        rcases hstep.registered_after (h.pooled key device connection hget) with hkept | hgone
        · exact hkept
        · exact absurd hgone.2 (hothers connection hgone.1)
    | inserted _ hpool hregistered =>
        obtain rfl := Option.some.inj (hpool.symm.trans hget)
        exact hregistered
    | removed _ hpool => cases hpool.symm.trans hget

/-- A stream that waits in a transport came by a connection to the endpoint that wrote it. -/
theorem Faithful.streams_step (h : Faithful net first labels before)
    (hchange : Network.Change net before label after) {row : Nat × DeviceId × RecvStream}
    (hrow : row ∈ (after.nodes key).transport.streams) :
    ∃ source, (after.nodes key).transport.remote row.1 = some source ∧
      (net.honest source = true → ∃ bytes,
        Written net first (labels ++ [label]) ⟨source, key, bytes⟩ ∧
          row.2.2.bytes <+: bytes) := by
  have hlabels : labels ⊆ labels ++ [label] := List.subset_append_left _ _
  have hkept (hbefore : row ∈ (before.nodes key).transport.streams)
      (hremotes : ∀ source, (before.nodes key).transport.remote row.1 = some source →
        (after.nodes key).transport.remote row.1 = some source) :
      ∃ source, (after.nodes key).transport.remote row.1 = some source ∧
        (net.honest source = true → ∃ bytes,
          Written net first (labels ++ [label]) ⟨source, key, bytes⟩ ∧
            row.2.2.bytes <+: bytes) := by
    obtain ⟨source, hremote, hwritten⟩ := h.streams key row hbefore
    refine ⟨source, hremotes source hremote, fun hhonest => ?_⟩
    obtain ⟨bytes, hbytes, hcut⟩ := hwritten hhonest
    exact ⟨bytes, hbytes.mono hlabels, hcut⟩
  have hstepped {event : ConnectionEvent κ}
      (hstep : Transported net key (before.nodes key).transport event
        (after.nodes key).transport)
      (hbefore : row ∈ (before.nodes key).transport.streams) :=
    hkept hbefore fun _ hremote => (Connections.step_to hstep).remote hremote
  generalize htransport : (after.nodes key).transport = transport at hrow hkept hstepped ⊢
  have hmoved := hchange.moved key
  rw [htransport] at hmoved
  cases hmoved with
  | same => exact hkept hrow fun _ hremote => hremote
  | own hown hstep =>
      rcases (Connections.step_to hstep).stream_before hrow with hbefore | rfl
      · exact hstepped hstep hbefore
      · cases hown
  | updated hlisted hstep =>
      rcases (Connections.step_to hstep).stream_before hrow with hbefore | hevent
      · exact hstepped hstep hbefore
      · cases hevent
  | @arrived _ _ source bytes _ hpacket hremote hcut hstep =>
      rcases (Connections.step_to hstep).stream_before hrow with hbefore | hevent
      · exact hstepped hstep hbefore
      · obtain ⟨rfl, rfl⟩ := ConnectionEvent.stream.inj hevent
        refine ⟨source, (Connections.step_to hstep).remote hremote, fun hhonest => ?_⟩
        exact ⟨bytes, (h.wire _ hpacket hhonest).mono hlabels, hcut⟩

/-- What is handed on under the name of a device was written by the endpoint it came from. -/
theorem Faithful.handled_step
    (hjson : ∀ message payload, net.toVec message = .ok payload →
      net.fromSlice payload = .ok message)
    (h : Faithful net first labels before) (hchange : Network.Change net before label after)
    {row : Nat × StreamEvent} (hrow : row ∈ (after.nodes key).transport.handled)
    {device : DeviceId} (hsender : row.2.sender = some device) :
    ∃ source, (after.nodes key).transport.remote row.1 = some source ∧
      (net.honest source = true →
        Caused net first (labels ++ [label]) source key device row.2) := by
  have hlabels : labels ⊆ labels ++ [label] := List.subset_append_left _ _
  rcases (hchange.moved key).step with hsame | ⟨event, hstep, -⟩
  · rw [hsame] at hrow ⊢
    obtain ⟨source, hremote, hcaused⟩ := h.handled key row hrow device hsender
    exact ⟨source, hremote, fun hhonest => (hcaused hhonest).mono hlabels⟩
  · obtain ⟨connection, found⟩ := row
    rcases hstep.handled_before hrow with hbefore | ⟨context, recv, hstream, hlocal, rfl⟩
    · obtain ⟨source, hremote, hcaused⟩ := h.handled key _ hbefore device hsender
      exact ⟨source, hstep.remote hremote, fun hhonest => (hcaused hhonest).mono hlabels⟩
    · obtain ⟨source, hremote, hwritten⟩ := h.streams key _ hstream
      refine ⟨source, hstep.remote hremote, fun hhonest => ?_⟩
      obtain ⟨bytes, ⟨peer, opening, hwrite, haddressed⟩, hcut⟩ := hwritten hhonest
      obtain ⟨harrives, -⟩ := handle_cut hjson hwrite hcut hsender
      obtain rfl := sender_handle hsender
      rw [hlocal] at harrives
      exact ⟨peer, opening, haddressed.mono hlabels, harrives⟩

theorem Faithful.step (hkeys : ∀ key, net.fromStr (net.toText key) = .ok key)
    (hjson : ∀ message payload, net.toVec message = .ok payload →
      net.fromSlice payload = .ok message)
    (h : Faithful net first labels before) (hchange : Network.Change net before label after) :
    Faithful net first (labels ++ [label]) after where
  named key := by
    have hbefore := (h.named key).mono (rows_subset first (List.subset_append_left _ [label]) key)
    rcases (hchange.moved key).step with hsame | ⟨event, hstep, hupdate⟩
    · rw [hsame]
      exact hbefore
    · refine hstep.named hkeys hbefore fun book hbook => ?_
      refine List.Subset.trans (hupdate book hbook) ?_
      exact fun row hrow => List.mem_append_right _
        (List.mem_flatMap.mpr ⟨label, List.mem_append_right _ (List.mem_singleton_self _), hrow⟩)
  traced key := by
    rcases (hchange.moved key).step with hsame | ⟨event, hstep, -⟩
    · rw [hsame]
      exact h.traced key
    · exact hstep.traced (h.traced key)
  pooled _ := h.pooled_step hchange
  wire packet hmem hhonest := by
    rcases hchange.wire hmem with hbefore | hforged | ⟨peer, opening, isOpen, hpacket, hwrote⟩
    · exact (h.wire packet hbefore hhonest).mono (List.subset_append_left _ _)
    · exact (Bool.false_ne_true (hforged.symm.trans hhonest)).elim
    · exact h.written hpacket hwrote
  streams _ _ hrow := h.streams_step hchange hrow
  handled _ _ hrow _ hsender := h.handled_step hjson hchange hrow hsender
  received key row hrow message hmessage := by
    rcases (hchange.moved key).step with hsame | ⟨event, hstep, -⟩
    · rw [hsame] at hrow
      exact h.received key row hrow message hmessage
    · obtain ⟨connection, found⟩ := row
      rcases hstep.handled_before hrow with hbefore | ⟨context, recv, -, hlocal, rfl⟩
      · exact h.received key _ hbefore message hmessage
      · rw [to_of_inbox hmessage, hlocal]

/-- Nothing has happened yet. -/
structure Starts (net : Deployment κ) (first : κ → PeerAddressBook) (pool : NetworkPool κ τ) :
    Prop where
  tasks : ∀ task, pool.tasks task = none
  wire : pool.state.wire = []
  transport : ∀ key, ∃ addresses,
    AddressState.fromBook net.fromStr net.toText (first key) = .ok addresses ∧
      (pool.state.nodes key).transport = .started addresses
  taken : ∀ key, (pool.state.nodes key).taken = 0
  dispatched : ∀ key, (pool.state.nodes key).dispatched = []

theorem Starts.faithful {pool : NetworkPool κ τ} (h : Starts net first pool) :
    Faithful net first ([] : List (NetworkLabel κ τ)) pool.state := by
  constructor
  · intro key
    obtain ⟨addresses, hfrom, htransport⟩ := h.transport key
    rw [htransport]
    exact Connections.named_started (List.subset_append_left _ _) hfrom
  · intro key
    obtain ⟨addresses, hfrom, htransport⟩ := h.transport key
    rw [htransport]
    exact Connections.traced_started hfrom
  · intro key device connection hget
    obtain ⟨addresses, -, htransport⟩ := h.transport key
    rw [htransport] at hget
    cases hget
  · intro packet hmem
    rw [h.wire] at hmem
    cases hmem
  · intro key row hrow
    obtain ⟨addresses, -, htransport⟩ := h.transport key
    rw [htransport] at hrow
    cases hrow
  · intro key row hrow
    obtain ⟨addresses, -, htransport⟩ := h.transport key
    rw [htransport] at hrow
    cases hrow
  · intro key row hrow
    obtain ⟨addresses, -, htransport⟩ := h.transport key
    rw [htransport] at hrow
    cases hrow

end Invariants

section Jobs

variable {localId : DeviceId} {outbound : OutboundMessage} {peers : List DeviceId}
  {disabled : Finset (DeviceId × FeatureId)} {log : List (Exchange PeerSig)}

/-- What a job may send, and hand to the transport, after its history. -/
def SendGuard (localId : DeviceId) (job : NetworkJob) (log : List (Exchange PeerSig)) :
    PeerRequest → Prop
  | .send message => (∃ outbound peers disabled, job = .peers (.publish outbound) ∧
      Viewed peers disabled log ∧
      message.to ∈ PeerDirectory.recipients disabled outbound.feature peers ∧
      message = .new localId message.to outbound.feature outbound.payload) ∨
    job = .sendFile message.to message.payload ∧
      message = .new localId message.to SEND_FEATURE_ID message.payload
  | .updatePeerAddresses book => ∃ localFeatures devices,
      job = .peers (.update localFeatures devices) ∧ book = otherAddresses localId devices []
  | _ => True

theorem Viewed.snoc (h : Viewed peers disabled log) (exchange : Exchange PeerSig) :
    Viewed peers disabled (log ++ [exchange]) :=
  h.trans (List.prefix_append _ _)

theorem sendEach_guarded {receivers : List DeviceId} (hviewed : Viewed peers disabled log)
    (hreceivers : ∀ peer ∈ receivers,
      peer ∈ PeerDirectory.recipients disabled outbound.feature peers) :
    (sendEach localId outbound receivers).Ensures (SendGuard localId (.peers (.publish outbound)))
      Prog.heard (fun _ _ => True) log := by
  induction receivers generalizing log with
  | nil => trivial
  | cons peer receivers ih =>
      obtain ⟨hpeer, hrest⟩ := List.forall_mem_cons.mp hreceivers
      refine Prog.ensures_bind.mpr
        ⟨.inl ⟨outbound, peers, disabled, rfl, hviewed, hpeer, rfl⟩, ?_⟩
      rintro result _ rfl
      refine Prog.ensures_bind.mpr ((ih (hviewed.snoc _) hrest).mono fun failures log' _ => ?_)
      cases result with
      | ok value => trivial
      | error error => trivial

theorem recipientsFor_guarded {job : NetworkJob} {feature : FeatureId}
    {post : List DeviceId → List (Exchange PeerSig) → Prop}
    (h : ∀ peers disabled, post (PeerDirectory.recipients disabled feature peers)
      [⟨.readPeers, peers⟩, ⟨.readDisabled, disabled⟩]) :
    (recipientsFor feature).Ensures (SendGuard localId job) Prog.heard post [] := by
  refine Prog.ensures_bind.mpr ⟨trivial, ?_⟩
  rintro (peers : List DeviceId) _ rfl
  refine Prog.ensures_bind.mpr ⟨trivial, ?_⟩
  rintro (disabled : Finset (DeviceId × FeatureId)) _ rfl
  exact h peers disabled

theorem publish_guarded : (publish localId outbound).Ensures
    (SendGuard localId (.peers (.publish outbound))) Prog.heard (fun _ _ => True) [] := by
  refine Prog.ensures_bind.mpr (recipientsFor_guarded fun peers disabled => ?_)
  split
  · trivial
  · refine Prog.ensures_bind.mpr ⟨trivial, ?_⟩
    rintro (connected : List DeviceId) _ rfl
    rw [Prog.ensures_ret]
    dsimp only
    split
    · trivial
    · have hviewed : Viewed peers disabled
          ([⟨.readPeers, peers⟩, ⟨.readDisabled, disabled⟩] ++ [⟨.connectedPeers, connected⟩]) :=
        List.prefix_append _ _
      refine Prog.ensures_bind.mpr ((sendEach_guarded hviewed ?_).mono ?_)
      · exact fun peer hpeer => List.mem_of_mem_filter hpeer
      · intro failures log' _
        split
        · trivial
        · trivial

theorem sendGuard_ensures (job : NetworkJob) :
    (job.run localId).Ensures (SendGuard localId job) Prog.heard (fun _ _ => True) [] := by
  cases job with
  | sendFile peer payload => exact ⟨.inr ⟨rfl, rfl⟩, fun _ _ _ => trivial⟩
  | peers job =>
      cases job with
      | update localFeatures devices =>
          refine (Prog.Ensures.mono applyServerDevices_ensures fun _ _ _ => trivial).weaken ?_
          intro log request hnext
          have hmem : request ∈ peerUpdates localId localFeatures devices :=
            hnext.subset (by simp)
          cases request with
          | send => simp [peerUpdates, flagUpdates, featureUpdates] at hmem
          | updatePeerAddresses book =>
              refine ⟨localFeatures, devices, rfl, ?_⟩
              simpa [peerUpdates, flagUpdates, featureUpdates] using hmem
          | _ => trivial
      | recipientsFor feature =>
          refine Prog.ensures_bind.mpr (recipientsFor_guarded fun peers disabled => ?_)
          exact ⟨trivial, fun _ _ _ => trivial⟩
      | publish outbound =>
          refine Prog.ensures_bind.mpr (publish_guarded.mono fun result log _ => ?_)
          exact ⟨trivial, fun _ _ _ => trivial⟩

end Jobs

section Runs

variable {κ τ : Type} [DecidableEq κ] [DecidableEq τ] {net : Deployment κ}
  {first : κ → PeerAddressBook} {cond : Network κ → NetworkLabel κ τ → Prop}
  {pool pool₁ pool₂ pool' : NetworkPool κ τ} {labels : List (NetworkLabel κ τ)} {key source : κ}
  {task : τ} {device : DeviceId} {message : FeatureMessage (List UInt8)}

abbrev NetworkRun (net : Deployment κ) (cond : Network κ → NetworkLabel κ τ → Prop) :=
  (network (τ := τ) net).Run cond

/-- The device list that the daemon started with, or one that it got later, has the device under
this key. -/
def Lists (net : Deployment κ) (first : κ → PeerAddressBook) (labels : List (NetworkLabel κ τ))
    (key : κ) (device : DeviceId) (other : κ) : Prop :=
  Connections.Names net.fromStr (first key) device other ∨
    ∃ task localFeatures devices,
      .event (.start (key, task) (.peers (.update localFeatures devices))) ∈ labels ∧
      ∃ info ∈ devices, info.deviceId = device ∧ device ≠ net.deviceId key ∧
        net.fromStr info.irohPublicKey = .ok other

/-- The task was started to publish the message; then it found the recipient among the peers, and
after that the feature not disabled for it. -/
def PublishedBy (net : Deployment κ) (cond : Network κ → NetworkLabel κ τ → Prop)
    (pool : NetworkPool κ τ) (labels : List (NetworkLabel κ τ)) (key : κ) (task : τ)
    (message : FeatureMessage (List UInt8)) : Prop :=
  ∃ first second third peers disabled looked checked,
    labels = (first ++ .call (key, task) .readPeers peers :: second) ++
      .call (key, task) .readDisabled disabled :: third ∧
    .event (.start (key, task) (.peers (.publish ⟨message.feature, message.payload⟩))) ∈ first ∧
    NetworkRun net cond pool first looked ∧
    message.to ∈ (looked.state.nodes key).directory.peers ∧
    NetworkRun net cond pool (first ++ .call (key, task) .readPeers peers :: second) checked ∧
    (message.to, message.feature) ∉ (checked.state.nodes key).directory.disabled

/-- A daemon sends this message under its own name: it was published before, or the feature that
sends files addresses it to the recipient. -/
structure SentBy (net : Deployment κ) (cond : Network κ → NetworkLabel κ τ → Prop)
    (pool : NetworkPool κ τ) (labels : List (NetworkLabel κ τ)) (key : κ)
    (message : FeatureMessage (List UInt8)) : Prop where
  envelope : message = .new (net.deviceId key) message.to message.feature message.payload
  sent : ∃ earlier task result later,
    labels = earlier ++ .call (key, task) (.send message) result :: later ∧
    (PublishedBy net cond pool earlier key task message ∨ message.feature = SEND_FEATURE_ID ∧
      .event (.start (key, task) (.sendFile message.to message.payload)) ∈ earlier)

/-- A feature was called with a message that came by a connection under the name of a peer. -/
def Heard (net : Deployment κ) (first : κ → PeerAddressBook)
    (cond : Network κ → NetworkLabel κ τ → Prop) (pool : NetworkPool κ τ)
    (labels : List (NetworkLabel κ τ)) (key : κ) (connection : Nat)
    (message : FeatureMessage (List UInt8)) : Prop :=
  ∃ earlier later middle source, labels = earlier ++ .event (.dispatch key) :: later ∧
    NetworkRun net cond pool earlier middle ∧
    message.to = net.deviceId key ∧
    message.feature ∈ (middle.state.nodes key).registry.enabled ∧
    (middle.state.nodes key).transport.remote connection = some source ∧
    Lists net first earlier key message.from source ∧
    (net.honest source = true →
      Lists net first earlier source (net.deviceId key) key ∧
        SentBy net cond pool earlier source { message with «from» := net.deviceId source })

theorem NetworkRun.faithful (hkeys : ∀ key, net.fromStr (net.toText key) = .ok key)
    (hjson : ∀ message payload, net.toVec message = .ok payload →
      net.fromSlice payload = .ok message)
    (h : NetworkRun net cond pool labels pool') (hstart : Starts net first pool) :
    Faithful net first labels pool'.state := by
  induction h with
  | nil => exact hstart.faithful
  | snoc _ _ hstep ih => exact ih.step hkeys hjson (step_change hstep)

omit [DecidableEq τ] in
theorem starts_job {event : NetworkEvent κ τ} {before after : Network κ} {task : κ × τ}
    {program : PeerProg Unit}
    (h : Network.event net event before = some (after, some (task, program))) :
    ∃ job, event = .start task job ∧ program = job.run (net.deviceId task.1) := by
  cases event with
  | start task' job =>
      obtain ⟨-, hstarted⟩ := Prod.mk.inj (Option.some.inj h)
      obtain ⟨rfl, rfl⟩ := Prod.mk.inj (Option.some.inj hstarted)
      exact ⟨job, rfl, rfl⟩
  | iterate | enable | disable | lose => cases (Prod.mk.inj (Option.some.inj h)).2
  | transport =>
      obtain ⟨-, h⟩ := Option.ite_none_right_eq_some.mp h
      obtain ⟨_, -, heq⟩ := Option.map_eq_some_iff.mp h
      cases (Prod.mk.inj heq).2
  | openStream =>
      simp only [Network.event] at h
      split at h
      · obtain ⟨-, h⟩ := Option.ite_none_right_eq_some.mp h
        cases (Prod.mk.inj (Option.some.inj h)).2
      · cases h
  | arrive =>
      obtain ⟨_, -, heq⟩ := Option.map_eq_some_iff.mp h
      cases (Prod.mk.inj heq).2
  | forge =>
      obtain ⟨-, h⟩ := Option.ite_none_left_eq_some.mp h
      cases (Prod.mk.inj (Option.some.inj h)).2
  | dispatch =>
      obtain ⟨_, -, heq⟩ := Option.map_eq_some_iff.mp h
      cases (Prod.mk.inj heq).2

theorem NetworkRun.asked (h : NetworkRun net cond pool labels pool₁)
    (hidle : ∀ task, pool.tasks task = none) {request : PeerRequest}
    {response : request.Response}
    (hstep : (network net).step pool₁ (.call (key, task) request response) = some pool₂) :
    ∃ job, .event (.start (key, task) job) ∈ labels ∧
      SendGuard (net.deviceId key) job (trace (key, task) labels) request := by
  obtain ⟨event, _, _, program, hmem, hstarts, hguard⟩ := World.Run.asked h hidle hstep
  obtain ⟨job, rfl, rfl⟩ := starts_job hstarts
  exact ⟨job, hmem, hguard _ _ (sendGuard_ensures job)⟩

/-- The task of an event that starts one. -/
def NetworkEvent.starts : NetworkEvent κ τ → Option (κ × τ)
  | .start task _ => some task
  | _ => none

theorem NetworkRun.start_unique (h : NetworkRun net cond pool labels pool')
    {task : κ × τ} {job job' : NetworkJob} (hjob : .event (.start task job) ∈ labels)
    (hjob' : .event (.start task job') ∈ labels) : job = job' := by
  have hstarts (event : NetworkEvent κ τ) (before after : Network κ)
      (started : Option ((κ × τ) × PeerProg Unit))
      (hevent : (network net).event event before = some (after, started)) :
      started.map Prod.fst = event.starts := by
    cases started with
    | some started =>
        obtain ⟨job, rfl, -⟩ := starts_job hevent
        rfl
    | none =>
        cases event with
        | start => cases (Prod.mk.inj (Option.some.inj hevent)).2
        | _ => rfl
  cases h.event_unique hstarts hjob hjob' rfl rfl
  rfl

theorem NetworkRun.lists (h : NetworkRun net cond pool labels pool')
    (hidle : ∀ task, pool.tasks task = none)
    (hnames : Connections.Names net.fromStr (rows first labels key) device source) :
    Lists net first labels key device source := by
  obtain ⟨row, hrow, rfl, hkey⟩ := hnames
  rcases List.mem_append.mp hrow with hbook | hhanded
  · exact .inl ⟨row, hbook, rfl, hkey⟩
  · obtain ⟨label, hlabel, hmem⟩ := List.mem_flatMap.mp hhanded
    unfold handedRows at hmem
    split at hmem
    · rename_i task book response
      obtain ⟨other, task⟩ := task
      split at hmem
      · rename_i hsame
        obtain rfl := hsame
        obtain ⟨earlier, later, rfl⟩ := List.append_of_mem hlabel
        obtain ⟨middle, last, hbefore, -, hstep, -⟩ := h.split_inv
        obtain ⟨job, hstarted, hguard⟩ := NetworkRun.asked hbefore hidle hstep
        obtain ⟨localFeatures, devices, rfl, rfl⟩ := hguard
        obtain ⟨info, hinfo, rfl⟩ := exists_of_mem_listed (List.Perm.refl _) hmem
        obtain ⟨hdevice, hother⟩ := List.mem_filter.mp hinfo
        exact .inr ⟨task, localFeatures, devices, List.mem_append_left _ hstarted, info, hdevice,
          rfl, of_decide_eq_true hother, hkey⟩
      · cases hmem
    · cases hmem

theorem NetworkRun.publishedBy (h : NetworkRun net cond pool labels pool')
    (hidle : ∀ task, pool.tasks task = none) {outbound : OutboundMessage}
    {peers : List DeviceId} {disabled : Finset (DeviceId × FeatureId)}
    (hstarted : .event (.start (key, task) (.peers (.publish outbound))) ∈ labels)
    (hviewed : Viewed peers disabled (trace (key, task) labels))
    (hrecipient : message.to ∈ PeerDirectory.recipients disabled outbound.feature peers)
    (hmessage : message =
      .new (net.deviceId key) message.to outbound.feature outbound.payload) :
    PublishedBy net cond pool labels key task message := by
  obtain ⟨hpeer, henabled⟩ := PeerDirectory.mem_recipients.mp hrecipient
  have hfeature : message.feature = outbound.feature := by
    rw [hmessage]
    rfl
  have hpayload : message.payload = outbound.payload := by
    rw [hmessage]
    rfl
  obtain ⟨rest, htrace⟩ := hviewed
  have hreads : trace (key, task) labels =
      [⟨.readPeers, peers⟩] ++ ⟨.readDisabled, disabled⟩ :: rest := htrace.symm
  obtain ⟨both, third, checked, _, rfl, hboth, hchecked, -, hsecond, -⟩ := h.split_trace hreads
  rw [← List.nil_append [_]] at hboth
  obtain ⟨first, second, looked, _, rfl, -, hlooked, -, hfirst, -⟩ := hchecked.split_trace hboth
  obtain ⟨job, hjob, -⟩ := NetworkRun.asked hlooked hidle hfirst
  obtain rfl := h.start_unique (List.mem_append_left _ (List.mem_append_left _ hjob)) hstarted
  obtain ⟨_, _, -, hread, -⟩ := World.step_call hfirst
  obtain ⟨⟨-, hpeers⟩, -⟩ := Option.ite_none_right_eq_some.mp hread
  obtain ⟨_, _, -, hcheck, -⟩ := World.step_call hsecond
  obtain ⟨hdisabled, -⟩ := Option.ite_none_right_eq_some.mp hcheck
  refine ⟨first, second, third, peers, disabled, looked, checked, rfl, ?_, hlooked, ?_, hchecked, ?_⟩
  · rw [hfeature, hpayload]
    exact hjob
  · rw [← hpeers]
    exact List.mem_toFinset.mpr hpeer
  · rw [← hdisabled, hfeature]
    exact henabled

theorem NetworkRun.sentBy (h : NetworkRun net cond pool labels pool')
    (hidle : ∀ task, pool.tasks task = none) {result : Except TransportError Unit}
    (hmem : .call (key, task) (.send message) result ∈ labels) :
    SentBy net cond pool labels key message := by
  obtain ⟨earlier, later, rfl⟩ := List.append_of_mem hmem
  obtain ⟨middle, last, hbefore, -, hstep, -⟩ := h.split_inv
  obtain ⟨job, hstarted, hguard⟩ := NetworkRun.asked hbefore hidle hstep
  rcases hguard with ⟨outbound, peers, disabled, rfl, hviewed, hrecipient, hmessage⟩ | hguard
  · refine ⟨?_, earlier, task, result, later, rfl, .inl ?_⟩
    · rw [hmessage]
      rfl
    · exact NetworkRun.publishedBy hbefore hidle hstarted hviewed hrecipient hmessage
  · obtain ⟨rfl, hmessage⟩ := hguard
    refine ⟨?_, earlier, task, result, later, rfl, .inr ⟨?_, hstarted⟩⟩
    · rw [hmessage]
      rfl
    · rw [hmessage]
      rfl

theorem NetworkRun.dispatched (h : NetworkRun net cond pool labels pool')
    (hstart : Starts net first pool) {row : Nat × FeatureMessage (List UInt8)}
    (hrow : row ∈ (pool'.state.nodes key).dispatched) :
    ∃ earlier later middle, labels = earlier ++ .event (.dispatch key) :: later ∧
      NetworkRun net cond pool earlier middle ∧ row ∈ (middle.state.nodes key).inbox ∧
      row.2.feature ∈ (middle.state.nodes key).registry.enabled := by
  induction h with
  | nil =>
      rw [hstart.dispatched key] at hrow
      cases hrow
  | snoc hbefore hcond hstep ih =>
      rename_i middle last labels label
      have hkept (hmem : row ∈ (middle.state.nodes key).dispatched) :
          ∃ earlier later found, labels ++ [label] = earlier ++ .event (.dispatch key) :: later ∧
            NetworkRun net cond pool earlier found ∧ row ∈ (found.state.nodes key).inbox ∧
            row.2.feature ∈ (found.state.nodes key).registry.enabled := by
        obtain ⟨earlier, later, found, rfl, hfound⟩ := ih hmem
        exact ⟨earlier, later ++ [label], found, by simp, hfound⟩
      rcases (step_change hstep).handed key with
        hsame | ⟨rfl, found, hfound, henabled, hadded⟩
      · rw [hsame] at hrow
        exact hkept hrow
      · rw [hadded] at hrow
        rcases List.mem_append.mp hrow with hmem | hlast
        · exact hkept hmem
        · obtain rfl := List.mem_singleton.mp hlast
          exact ⟨labels, [], middle, rfl, hbefore, hfound, henabled⟩

/-- A feature is called with a message under the name of a peer only if the device list has the
peer under the key of the endpoint whose connection brought it; and if this is honest, the message
was sent there to this device, and published only while the directory permitted it. -/
theorem dispatched_published (hkeys : ∀ key, net.fromStr (net.toText key) = .ok key)
    (hjson : ∀ message payload, net.toVec message = .ok payload →
      net.fromSlice payload = .ok message)
    (hstart : Starts net first pool) (h : NetworkRun net cond pool labels pool')
    {row : Nat × FeatureMessage (List UInt8)}
    (hrow : row ∈ (pool'.state.nodes key).dispatched) :
    Heard net first cond pool labels key row.1 row.2 := by
  obtain ⟨earlier, later, middle, rfl, hbefore, hinbox, henabled⟩ := h.dispatched hstart hrow
  have hfaithful := hbefore.faithful hkeys hjson hstart
  have hhandled := Node.mem_inbox.mp hinbox
  have hrecipient := hfaithful.received key _ hhandled row.2 rfl
  obtain ⟨source, hremote, hcaused⟩ := hfaithful.handled key _ hhandled row.2.from rfl
  have hnamed : Connections.Names net.fromStr (rows first earlier key) row.2.from source := by
    have hattributed := (hfaithful.traced key).handled _ _ hhandled row.2.from rfl
    obtain ⟨other, hother, hnames⟩ := (hfaithful.named key).connections _ _ hattributed
    obtain rfl := Option.some.inj (hother.symm.trans hremote)
    exact hnames
  refine ⟨earlier, later, middle, source, rfl, hbefore, hrecipient, henabled, hremote,
    hbefore.lists hstart.tasks hnamed, ?_⟩
  intro hhonest
  obtain ⟨peer, opening, ⟨hwrote, hnames⟩, harrives⟩ := hcaused hhonest
  generalize hevent : StreamEvent.inbox row.2 = event at harrives
  cases harrives with
  | port | shell => cases hevent
  | @frame message hlocal =>
      cases hwrote with
      | session hsession => cases hsession
      | message hsent =>
          have hsent := hbefore.sentBy hstart.tasks hsent
          have hsame : { row.2 with «from» := net.deviceId source } = message := by
            rw [StreamEvent.inbox.inj hevent]
            exact congrArg (fun device => { message with «from» := device })
              (congrArg FeatureMessage.from hsent.envelope).symm
          rw [hsame]
          refine ⟨?_, hsent⟩
          rw [← hlocal]
          exact hbefore.lists hstart.tasks hnames

/-- What a daemon writes to a stream: a message that it sends, or the session of a stream that
was opened. -/
inductive Meant (net : Deployment κ) (cond : Network κ → NetworkLabel κ τ → Prop)
    (pool : NetworkPool κ τ) (labels : List (NetworkLabel κ τ)) (key : κ) :
    DeviceId → Opening → Prop
  | sent {message : FeatureMessage (List UInt8)} : SentBy net cond pool labels key message →
      Meant net cond pool labels key message.to (.frame message)
  | opened {peer : DeviceId} {opening : Opening} : isSession opening = true →
      .event (.openStream key peer opening) ∈ labels → Meant net cond pool labels key peer opening

theorem NetworkRun.meant (h : NetworkRun net cond pool labels pool')
    (hidle : ∀ task, pool.tasks task = none) {peer : DeviceId} {opening : Opening}
    (hwrote : Wrote labels key peer opening) : Meant net cond pool labels key peer opening := by
  cases hwrote with
  | message hsent => exact .sent (h.sentBy hidle hsent)
  | session hsession hopened => exact .opened hsession hopened

/-- What is handed on under the name of a peer came by a connection to an endpoint whose key a
device list has for the peer; and if this is honest, it is what was opened there for this device:
a message, or a session with the same parameters, in which nothing is that was not written there. -/
theorem sessions_opened (hkeys : ∀ key, net.fromStr (net.toText key) = .ok key)
    (hjson : ∀ message payload, net.toVec message = .ok payload →
      net.fromSlice payload = .ok message)
    (hstart : Starts net first pool) (h : NetworkRun net cond pool labels pool')
    {row : Nat × StreamEvent} (hrow : row ∈ (pool'.state.nodes key).transport.handled)
    (hsender : row.2.sender = some device) :
    ∃ source, (pool'.state.nodes key).transport.remote row.1 = some source ∧
      Lists net first labels key device source ∧
      (net.honest source = true → ∃ peer opening,
        Lists net first labels source peer key ∧
          Meant net cond pool labels source peer opening ∧
          opening.Arrives device (net.deviceId key) row.2) := by
  have hfaithful := h.faithful hkeys hjson hstart
  obtain ⟨source, hremote, hcaused⟩ := hfaithful.handled key row hrow device hsender
  have hattributed := (hfaithful.traced key).handled row.1 row.2 hrow device hsender
  obtain ⟨other, hother, hnames⟩ := (hfaithful.named key).connections _ _ hattributed
  obtain rfl := Option.some.inj (hremote.symm.trans hother)
  refine ⟨source, hremote, h.lists hstart.tasks hnames, fun hhonest => ?_⟩
  obtain ⟨peer, opening, ⟨hwrote, hpeer⟩, harrives⟩ := hcaused hhonest
  exact ⟨peer, opening, h.lists hstart.tasks hpeer, h.meant hstart.tasks hwrote, harrives⟩

end Runs

section Greeting

def keyOfTwo : KeyText :=
  ⟨keyTwo, Connections.isKeyText_keyTwo⟩

def keyOfOne : KeyText :=
  ⟨keyOne, Connections.isKeyText_keyOne⟩

/-- Two devices, of which the first can write the greeting, and endpoints that are not honest. -/
def greetingNet : Deployment KeyText where
  fromStr := readKeyText
  toText := Subtype.val
  toVec message := if message = greeting then .ok greetingJson else .error "not written"
  fromSlice payload := if payload = greetingJson then .ok greeting else .error "not read"
  deviceId key := if key = keyOfOne then ⟨1⟩ else ⟨2⟩
  honest key := key = keyOfOne || key = keyOfTwo

def greetingBook (key : KeyText) : PeerAddressBook :=
  if key = keyOfOne then [(⟨2⟩, keyTwo)] else [(⟨1⟩, keyOne)]

def greetingRegistry : FeatureRegistry :=
  { registered := {⟨"clipboard"⟩}, enabled := {⟨"clipboard"⟩}, started := {⟨"clipboard"⟩},
    enabled_subset := Finset.Subset.refl _ }

def greetingAddresses (key : KeyText) : AddressState :=
  if key = keyOfOne then ⟨[(⟨2⟩, keyTwo)], [(keyTwo, ⟨2⟩)]⟩ else ⟨[(⟨1⟩, keyOne)], [(keyOne, ⟨1⟩)]⟩

def greetingPool : NetworkPool KeyText Nat where
  state :=
    { nodes := fun key =>
        { directory := .new, transport := .started (greetingAddresses key)
          registry := greetingRegistry, listed := [(⟨2⟩, keyTwo)], taken := 0, dispatched := [] }
      wire := [] }
  tasks _ := none

theorem greetingPool_starts : Starts greetingNet greetingBook greetingPool := by
  constructor
  · exact fun _ => rfl
  · rfl
  · intro key
    refine ⟨greetingAddresses key, ?_, rfl⟩
    unfold greetingBook greetingAddresses
    split
    · decide +kernel
    · decide +kernel
  · exact fun _ => rfl
  · exact fun _ => rfl

theorem greetingNet_json : ∀ message payload, greetingNet.toVec message = .ok payload →
    greetingNet.fromSlice payload = .ok message := by
  intro message payload h
  simp only [greetingNet] at h ⊢
  split at h
  · rename_i hmessage
    obtain rfl := Except.ok.inj h
    rw [if_pos rfl, hmessage]
  · cases h

def greetingParts : List (List UInt8) :=
  [toBeBytes (UInt32.ofNat greetingJson.length), greetingJson]

theorem greetingParts_nonempty : ∀ part ∈ greetingParts, part ≠ [] := by
  decide +kernel

def greetingDevices : List DeviceInfo :=
  [{ deviceId := ⟨2⟩, name := "laptop", irohPublicKey := keyTwo,
     enabledFeatures := [⟨"clipboard"⟩], lastSeen := none, online := true }]

/-- Both daemons register their connection, the first one gets a device list, and publishes. -/
def greetingScript : List (Move (KeyText × Nat) (NetworkEvent KeyText Nat)) :=
  [.event (.transport keyOfOne .tick), .event (.transport keyOfOne .dial),
    .event (.transport keyOfOne .dialed), .event (.transport keyOfOne (.resolve 0)),
    .event (.transport keyOfOne (.insert 0)), .event (.transport keyOfTwo (.accept keyOfOne)),
    .event (.transport keyOfTwo (.resolve 0)), .event (.transport keyOfTwo (.insert 0)),
    .event (.start (keyOfOne, 0) (.peers (.update {⟨"clipboard"⟩} greetingDevices)))] ++
  List.replicate 6 (.tick (keyOfOne, 0)) ++
  [.event (.start (keyOfOne, 1) (.peers (.publish ⟨⟨"clipboard"⟩, [104, 105]⟩)))] ++
  List.replicate 5 (.tick (keyOfOne, 1)) ++
  [.event (.arrive 0 0 ⟨greetingParts, .ok (), greetingParts_nonempty⟩),
    .event (.transport keyOfTwo (.handle 0 true .registered .registered)),
    .event (.dispatch keyOfTwo)]

def greetingOracle (task : KeyText × Nat) (network : Network KeyText) :
    (request : PeerRequest) → Option request.Response
  | .readPeers => some ([⟨2⟩].filter (· ∈ (network.nodes task.1).directory.peers))
  | .readDisabled => some (network.nodes task.1).directory.disabled
  | .connectedPeers => some (network.nodes task.1).transport.connectedPeers
  | .send _ => some (.ok ())
  | .setFeatureEnabled _ _ _ | .replacePeers _ | .updatePeerAddresses _ | .recipients _ _
  | .published _ _ => some ()

/-- A shell that is opened at the first device for the second one, which is told so. -/
def shellScript : List (Move (KeyText × Nat) (NetworkEvent KeyText Nat)) :=
  greetingScript.take 8 ++ [.event (.openStream keyOfOne ⟨2⟩ (.shell 24 80 [108, 115]))]

def shellParts : List (List UInt8) :=
  [buildShellInit 24 80, [108]]

theorem shellParts_nonempty : ∀ part ∈ shellParts, part ≠ [] := by
  decide +kernel

def shellArrives : List (Move (KeyText × Nat) (NetworkEvent KeyText Nat)) :=
  [.event (.arrive 0 0 ⟨shellParts, .ok (), shellParts_nonempty⟩),
    .event (.transport keyOfTwo (.handle 0 true .registered .registered))]

/-- The second device takes over a session, of which the last byte is still to come. -/
theorem shell_opened : ∃ labels pool row,
    NetworkRun greetingNet (fun _ _ => True) greetingPool labels pool ∧
      row ∈ (pool.state.nodes keyOfTwo).transport.handled ∧ row.2.sender = some ⟨1⟩ ∧
      ∃ source, (pool.state.nodes keyOfTwo).transport.remote row.1 = some source ∧
        Lists greetingNet greetingBook labels keyOfTwo ⟨1⟩ source ∧
        (greetingNet.honest source = true → ∃ peer opening,
          Lists greetingNet greetingBook labels source peer keyOfTwo ∧
            Meant greetingNet (fun _ _ => True) greetingPool labels source peer opening ∧
            opening.Arrives ⟨1⟩ (greetingNet.deviceId keyOfTwo) row.2) := by
  have hsome : ((network greetingNet).follow (fun _ _ => True) greetingOracle
      (shellScript ++ shellArrives) greetingPool).any (fun result =>
        (result.2.state.nodes keyOfTwo).transport.handled.any fun row =>
          row.2.sender = some ⟨1⟩) = true := by
    decide +kernel
  obtain ⟨⟨labels, pool⟩, hfollow, hend⟩ := (Option.any_eq_true _ _).mp hsome
  obtain ⟨row, hrow, hsender⟩ := List.any_eq_true.mp hend
  have hrun := World.run_of_follow hfollow
  refine ⟨labels, pool, row, hrun, hrow, of_decide_eq_true hsender, ?_⟩
  exact sessions_opened readKeyText_val greetingNet_json greetingPool_starts hrun hrow
    (of_decide_eq_true hsender)

/-- The messages that a feature was called with, and who sent them. -/
def heardFrom (node : Node KeyText) : List (Option KeyText × FeatureMessage (List UInt8)) :=
  node.dispatched.map fun row => (node.transport.remote row.1, row.2)

theorem greeting_run : ∃ labels pool,
    NetworkRun greetingNet (fun _ _ => True) greetingPool labels pool ∧
      heardFrom (pool.state.nodes keyOfTwo) = [(some keyOfOne, greeting)] := by
  have hsome : ((network greetingNet).follow (fun _ _ => True) greetingOracle greetingScript
      greetingPool).any
        (fun result => heardFrom (result.2.state.nodes keyOfTwo) =
          [(some keyOfOne, greeting)]) = true := by
    decide +kernel
  obtain ⟨⟨labels, pool⟩, hfollow, hend⟩ := (Option.any_eq_true _ _).mp hsome
  exact ⟨labels, pool, World.run_of_follow hfollow, of_decide_eq_true hend⟩

/-- The clipboard of the second device is called with the greeting. -/
theorem greeting_dispatched :
    ∃ labels pool row, NetworkRun greetingNet (fun _ _ => True) greetingPool labels pool ∧
      row ∈ (pool.state.nodes keyOfTwo).dispatched ∧ row.2 = greeting ∧
      Heard greetingNet greetingBook (fun _ _ => True) greetingPool labels keyOfTwo row.1
        row.2 := by
  obtain ⟨labels, pool, hrun, hheard⟩ := greeting_run
  obtain ⟨row, hrows, hrow⟩ := List.map_eq_singleton_iff.mp hheard
  have hmem : row ∈ (pool.state.nodes keyOfTwo).dispatched := by
    rw [hrows]
    exact List.mem_singleton_self row
  refine ⟨labels, pool, row, hrun, hmem, (Prod.mk.inj hrow).2, ?_⟩
  exact dispatched_published readKeyText_val greetingNet_json greetingPool_starts hrun hmem

end Greeting

end Failsafe.Daemon
