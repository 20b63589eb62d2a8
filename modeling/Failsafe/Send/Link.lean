import Failsafe.Send.Session

/-!
A sending and a receiving daemon, and the messages on their way between them.
-/

namespace Failsafe.Send

open Failsafe.Core Failsafe.Clipboard Failsafe.Lib Failsafe.Transport

inductive Side where
  | sender
  | receiver
deriving DecidableEq, Repr

def Side.other : Side → Side
  | .sender => .receiver
  | .receiver => .sender

@[simp] theorem Side.other_other (side : Side) : side.other.other = side := by
  cases side <;> rfl

/-- A message on its way to a side. -/
structure InFlight where
  «to» : Side
  «from» : DeviceId
  envelope : SendEnvelope
  receipt : Option String

structure Link where
  daemons : Side → Daemon
  inFlight : List InFlight

/-- A message for any device but the other one is sent to nobody. -/
def SentMessage.posted (configs : Side → DaemonConfig) (side : Side) (message : SentMessage) :
    Option InFlight :=
  if message.to = (configs side.other).localId then
    some {
      «to» := side.other
      «from» := (configs side).localId
      envelope := message.envelope
      receipt := message.receipt }
  else none

namespace Link

/-- A side has moved on; what it has sent meanwhile is on its way. -/
def advance (configs : Side → DaemonConfig) (link : Link) (side : Side) (daemon : Daemon) :
    Link :=
  { daemons := Function.update link.daemons side daemon
    inFlight := link.inFlight ++
      (daemon.outbox.drop (link.daemons side).outbox.length).filterMap
        (SentMessage.posted configs side) }

def perform (configs : Side → DaemonConfig) (task : Side × TaskId)
    (request : SendRequest) (response : request.Response) (link : Link) : Option Link :=
  (Daemon.perform task.2 request response (link.daemons task.1)).map
    (link.advance configs task.1)

end Link

/-- The network delivers a message, in any order, or loses it; the rest happens to
one side alone. -/
inductive LinkEvent where
  | deliver (index : Nat) (task : TaskId)
  | lose (index : Nat)
  | «local» (side : Side) (event : DaemonEvent)

def DaemonEvent.isReceive : DaemonEvent → Bool
  | .receive _ _ _ _ => true
  | _ => false

/-- An event of one side, with the names of its tasks. -/
def Link.happen (configs : Side → DaemonConfig) (link : Link) (side : Side)
    (event : DaemonEvent) : Option (Link × Option ((Side × TaskId) × SendProg Unit)) :=
  (event.apply (configs side) (link.daemons side)).map fun (daemon, started) =>
    (link.advance configs side daemon,
      started.map fun (task, program) => ((side, task), program))

def LinkEvent.apply (configs : Side → DaemonConfig) (event : LinkEvent) (link : Link) :
    Option (Link × Option ((Side × TaskId) × SendProg Unit)) :=
  match event with
  | .deliver index task =>
      match link.inFlight[index]? with
      | none => none
      | some message =>
          { link with inFlight := link.inFlight.eraseIdx index }.happen configs message.to
            (.receive task message.from message.envelope message.receipt)
  | .lose index => some ({ link with inFlight := link.inFlight.eraseIdx index }, none)
  | .local side event =>
      if event.isReceive then none else link.happen configs side event

def linkWorld (configs : Side → DaemonConfig) :
    World SendSig (Side × TaskId) LinkEvent Link where
  perform := Link.perform configs
  event := LinkEvent.apply configs

/-- A link without tasks. -/
def idleLink (link : Link) : Pool SendSig (Side × TaskId) Link :=
  { state := link, tasks := fun _ => none }

/-- What a daemon has exported and sent is never taken back. -/
structure Daemon.Grows (daemon daemon' : Daemon) : Prop where
  exports : daemon.exports <+: daemon'.exports
  outbox : daemon.outbox <+: daemon'.outbox

theorem Daemon.Grows.refl (daemon : Daemon) : daemon.Grows daemon :=
  ⟨List.prefix_refl _, List.prefix_refl _⟩

theorem Daemon.Grows.trans {first second third : Daemon} (h : first.Grows second)
    (h' : second.Grows third) : first.Grows third :=
  ⟨h.exports.trans h'.exports, h.outbox.trans h'.outbox⟩

def Daemon.hasExported (daemon : Daemon) (hash : String) : Prop :=
  ∃ call ∈ daemon.exports, call.root = hash ∧ call.ok = true

theorem Daemon.hasExported.grow {daemon daemon' : Daemon} {hash : String}
    (h : daemon.hasExported hash) (hgrows : daemon.Grows daemon') :
    daemon'.hasExported hash := by
  obtain ⟨call, hmem, hcall⟩ := h
  exact ⟨call, hgrows.exports.subset hmem, hcall⟩

/-- An acknowledgement of success. -/
def SendEnvelope.isOkAck : SendEnvelope → Bool
  | .ack answer => answer.ok
  | _ => false

theorem planTransferEnvelopes_isOkAck {serde : SerdeJson} {«from» «to» : DeviceId}
    {payload : SendPayload} {envelope : SendEnvelope}
    (h : envelope ∈ planTransferEnvelopes serde «from» «to» payload) :
    envelope.isOkAck = false := by
  by_cases hfits : transferEnvelopeFits serde «from» «to» (.transfer payload) = true
  · rw [planTransferEnvelopes_of_fits serde _ _ _ hfits, List.mem_singleton] at h
    rw [h]
    rfl
  · simp only [planTransferEnvelopes, hfits, Bool.false_eq_true, if_false, List.cons_append,
      List.mem_cons, List.mem_append, List.not_mem_nil, or_false] at h
    rcases h with rfl | h | rfl
    · rfl
    · obtain ⟨chunk, rfl⟩ := chunkEnvelopes_chunk _ _ _ _ _ envelope h
      rfl
    · rfl

/-- A step after which a daemon has acknowledged nothing, completed nothing, and
been acknowledged nothing. -/
structure Daemon.Calm (daemon daemon' : Daemon) : Prop extends daemon.Grows daemon' where
  files : ∀ transferId state, daemon'.receiveFiles.lookup transferId = some state →
    state.stage = .complete → daemon.receiveFiles.lookup transferId = some state
  channels : ∀ waiter receipt, daemon'.coordinator.channels waiter = .sent (.ok ()) receipt →
    daemon.coordinator.channels waiter = .sent (.ok ()) receipt
  unacknowledged : ∀ message ∈ daemon'.outbox.drop daemon.outbox.length,
    message.envelope.isOkAck = false

theorem Daemon.Calm.of_eq {daemon daemon' : Daemon}
    (hfiles : daemon'.receiveFiles = daemon.receiveFiles)
    (hchannels : daemon'.coordinator.channels = daemon.coordinator.channels)
    (hexports : daemon.exports <+: daemon'.exports)
    (houtbox : daemon'.outbox = daemon.outbox) : daemon.Calm daemon' where
  exports := hexports
  outbox := by rw [houtbox]
  files transferId state h _ := by rwa [hfiles] at h
  channels waiter receipt h := by rwa [hchannels] at h
  unacknowledged message h := by simp [houtbox] at h

/-- Requests that acknowledge and complete nothing. -/
def SendRequest.Harmless : SendRequest → Prop
  | .saveReceiveState state => state.stage ≠ .complete
  | .send _ envelope _ => envelope.isOkAck = false
  | .completeWaiter _ (.ok ()) => False
  | _ => True

section Coordinator

variable {coordinator coordinator' : Coordinator} {waiter : WaiterId}
  {receipt : Option String}

theorem Coordinator.channels_close (other : WaiterId) {result : Except String Unit}
    (h : (coordinator.close other).channels waiter = .sent result receipt) :
    coordinator.channels waiter = .sent result receipt := by
  unfold Coordinator.close at h
  split at h
  · by_cases heq : waiter = other
    · subst heq
      simp at h
    · simpa [heq] using h
  · exact h

theorem Coordinator.channels_register (transferId : Uuid) {result : Except String Unit}
    (h : (coordinator.register transferId).channels waiter = .sent result receipt) :
    coordinator.channels waiter = .sent result receipt := by
  unfold Coordinator.register at h
  cases hpending : coordinator.pending.lookup transferId with
  | none => simpa [hpending] using h
  | some other =>
      rw [hpending] at h
      exact Coordinator.channels_close other h

theorem Coordinator.channels_complete {transferId : Uuid} {result result' : Except String Unit}
    {receipt' : Option String}
    (h : (coordinator.complete transferId result' receipt').channels waiter =
      .sent result receipt) :
    coordinator.channels waiter = .sent result receipt ∨
      result = result' ∧ receipt = receipt' := by
  unfold Coordinator.complete at h
  split at h
  · exact .inl h
  · rename_i other _
    by_cases heq : waiter = other
    · subst heq
      simp only [Function.update_self, AckChannel.sent.injEq] at h
      exact .inr ⟨h.1.symm, h.2.symm⟩
    · exact .inl (by simpa [heq] using h)

theorem Coordinator.channels_await {tokens : Tokens} {cancel : Token} {other : WaiterId}
    {event : AckEvent} (h : coordinator.await tokens cancel other event = some coordinator') :
    coordinator'.channels = coordinator.channels := by
  cases event with
  | cancelled =>
      simp only [Coordinator.await, Option.ite_none_right_eq_some, Option.some.injEq] at h
      rw [h.2]
  | deadline => rw [Option.some.inj h]
  | acked result =>
      simp only [Coordinator.await] at h
      split at h
      · simp only [Option.ite_none_right_eq_some, Option.some.injEq] at h
        rw [h.2]
      · cases h
  | closed =>
      simp only [Coordinator.await] at h
      split at h
      · rw [Option.some.inj h]
      · cases h
  | progress report =>
      simp only [Coordinator.await] at h
      split at h
      · simp only [Option.ite_none_right_eq_some, Option.some.injEq] at h
        rw [← h.2]
      · cases h

end Coordinator

section Steps

variable {task : TaskId} {request : SendRequest} {response : request.Response}
  {daemon daemon' : Daemon}

theorem Daemon.Calm.refl (daemon : Daemon) : daemon.Calm daemon :=
  .of_eq rfl rfl (List.prefix_refl _) rfl

theorem Daemon.perform_calm (hharmless : request.Harmless)
    (h : Daemon.perform task request response daemon = some daemon') :
    daemon.Calm daemon' := by
  cases request with
  | hang => nomatch response
  | lockEntry | lockAcquire =>
      obtain ⟨_, -, rfl⟩ := Option.map_eq_some_iff.mp h
      exact .of_eq rfl rfl (List.prefix_refl _) rfl
  | awaitAck cancel waiter =>
      obtain ⟨coordinator, hawait, rfl⟩ := Option.map_eq_some_iff.mp h
      exact .of_eq rfl (Coordinator.channels_await hawait) (List.prefix_refl _) rfl
  | listReceiveStates | readReceiveState | loadReceiveState | listSendStates
  | readSendState | pendingWaiters =>
      simp only [Daemon.perform, Option.ite_none_right_eq_some, Option.some.injEq] at h
      obtain ⟨-, rfl⟩ := h
      exact .refl _
  | isCancelled =>
      simp only [Daemon.perform, Daemon.seesCancelled, Option.ite_none_right_eq_some,
        Option.some.injEq] at h
      obtain ⟨-, rfl⟩ := h
      exact .refl _
  | newToken | childToken =>
      simp only [Daemon.perform, Daemon.handOut, Option.ite_none_right_eq_some,
        Option.some.injEq] at h
      obtain ⟨-, rfl⟩ := h
      exact .of_eq rfl rfl (List.prefix_refl _) rfl
  | registerWaiter transferId =>
      simp only [Daemon.perform, Daemon.registerWaiter, Option.ite_none_right_eq_some,
        Option.some.injEq] at h
      obtain ⟨-, rfl⟩ := h
      exact {
        exports := List.prefix_refl _
        outbox := List.prefix_refl _
        files := fun _ _ h _ => h
        channels := fun _ _ h => Coordinator.channels_register transferId h
        unacknowledged := by simp }
  | completeWaiter transferId result =>
      obtain rfl := Option.some.inj h
      refine {
        exports := List.prefix_refl _
        outbox := List.prefix_refl _
        files := fun _ _ h _ => h
        channels := fun waiter receipt h => ?_
        unacknowledged := by simp }
      rcases Coordinator.channels_complete h with h | ⟨rfl, -⟩
      · exact h
      · exact hharmless.elim
  | importSources sources cancel =>
      obtain ⟨reports, outcome⟩ := response
      cases outcome with
      | cancelled =>
          simp only [Daemon.perform, Option.ite_none_right_eq_some, Option.some.injEq] at h
          obtain ⟨-, rfl⟩ := h
          exact .refl _
      | finished result =>
          obtain rfl := Option.some.inj h
          exact .refl _
  | saveReceiveState state =>
      obtain rfl := Option.some.inj h
      cases response with
      | error error => exact .refl _
      | ok _ =>
          refine {
            exports := List.prefix_refl _
            outbox := List.prefix_refl _
            files := fun transferId saved h hstage => ?_
            channels := fun _ _ h => h
            unacknowledged := by simp [Daemon.saveReceive] }
          by_cases heq : transferId = state.transferId
          · subst heq
            simp only [Daemon.saveReceive, AList.lookup_insert, Option.some.injEq] at h
            exact (hharmless (h ▸ hstage)).elim
          · simpa [Daemon.saveReceive, AList.lookup_insert_ne heq] using h
  | removeReceiveState transferId =>
      obtain rfl := Option.some.inj h
      cases response with
      | error error => exact .refl _
      | ok _ =>
          simp only [Daemon.removeReceive]
          split
          · refine {
              exports := List.prefix_refl _
              outbox := List.prefix_refl _
              files := fun other saved h _ => ?_
              channels := fun _ _ h => h
              unacknowledged := by simp }
            by_cases heq : other = transferId
            · subst heq
              simp at h
            · simpa [AList.lookup_erase_ne heq] using h
          · exact .refl _
  | saveSendState | removeSendState =>
      obtain rfl := Option.some.inj h
      cases response <;> exact .of_eq rfl rfl (List.prefix_refl _) rfl
  | exportCollection transferId root destDir =>
      obtain rfl := Option.some.inj h
      exact .of_eq rfl rfl (List.prefix_append _ _) rfl
  | send «to» envelope receipt =>
      obtain rfl := Option.some.inj h
      exact {
        exports := List.prefix_refl _
        outbox := List.prefix_append _ _
        files := fun _ _ h _ => h
        channels := fun _ _ h => h
        unacknowledged := by
          have hack : envelope.isOkAck = false := hharmless
          simpa [Daemon.sent] using hack }
  | forwardProgress «to» progress =>
      obtain rfl := Option.some.inj h
      exact {
        exports := List.prefix_refl _
        outbox := List.prefix_append _ _
        files := fun _ _ h _ => h
        channels := fun _ _ h => h
        unacknowledged := by simp [Daemon.sent, SendEnvelope.isOkAck] }
  | _ =>
      obtain rfl := Option.some.inj h
      exact .of_eq rfl rfl (List.prefix_refl _) rfl

theorem Daemon.perform_grows
    (h : Daemon.perform task request response daemon = some daemon') :
    daemon.Grows daemon' := by
  by_cases hharmless : request.Harmless
  · exact (Daemon.perform_calm hharmless h).toGrows
  · cases request with
    | saveReceiveState state =>
        obtain rfl := Option.some.inj h
        cases response <;> exact ⟨List.prefix_refl _, List.prefix_refl _⟩
    | send =>
        obtain rfl := Option.some.inj h
        exact ⟨List.prefix_refl _, List.prefix_append _ _⟩
    | completeWaiter =>
        obtain rfl := Option.some.inj h
        exact ⟨List.prefix_refl _, List.prefix_refl _⟩
    | _ => exact absurd trivial hharmless

theorem Inbound.effects_tryFinalize («from» : DeviceId) (transferId other : Uuid)
    (inbound : Inbound) (heffects : inbound.effects = []) (result : Except String Unit) :
    .complete other result ∉
      (inbound.tryFinalizeChunkedTransfer «from» transferId).2.effects := by
  unfold Inbound.tryFinalizeChunkedTransfer
  split
  · simp [heffects]
  · split
    · dsimp only
      split <;> simp [Inbound.setPending, Inbound.emit, heffects]
    · simp [heffects]

theorem Inbound.effects_complete {«from» : DeviceId} {envelope : SendEnvelope}
    {inbound : Inbound} (heffects : inbound.effects = []) {transferId : Uuid}
    (h : .complete transferId (.ok ()) ∈
      (inbound.handleEnvelope «from» envelope).2.effects) : envelope.isOkAck = true := by
  have hpending : ∀ other state, .complete transferId (.ok ()) ∉
      ((inbound.setPending other state).tryFinalizeChunkedTransfer «from» other).2.effects :=
    fun other state => effects_tryFinalize _ _ _ (inbound.setPending other state) heffects _
  cases envelope with
  | ack answer =>
      by_cases hok : answer.ok = true
      · exact hok
      · simp [Inbound.handleEnvelope, Inbound.handleAck, Inbound.emit, heffects, hok] at h
  | transfer | transferHeader | progress =>
      simp [Inbound.handleEnvelope, Inbound.setPending, Inbound.emit, heffects] at h
  | transferChunk chunk =>
      simp only [Inbound.handleEnvelope] at h
      split at h
      · simp [heffects] at h
      · rename_i state _
        have hnot := hpending chunk.transferId
          (some (state.pushChunk chunk.chunkIndex chunk.entries))
        split at h <;> rename_i heq <;> rw [heq] at hnot <;> exact (hnot h).elim
  | transferEnd finish =>
      simp only [Inbound.handleEnvelope] at h
      split at h
      · simp [heffects] at h
      · rename_i state _
        have hnot := hpending finish.transferId (some (state.markEnd finish.chunkCount))
        split at h <;> rename_i heq <;> rw [heq] at hnot
        · exact (hnot h).elim
        · exact (hnot h).elim
        · exact (hnot (by simpa [Inbound.emit] using h)).elim

theorem Daemon.receive_channels {limits : ClipboardLimits} {«from» : DeviceId}
    {envelope : SendEnvelope} {receipt : Option String} {waiter : WaiterId}
    {receipt' : Option String}
    (h : (daemon.receive limits «from» envelope receipt).1.coordinator.channels waiter =
      .sent (.ok ()) receipt') :
    daemon.coordinator.channels waiter = .sent (.ok ()) receipt' ∨
      envelope.isOkAck = true ∧ receipt' = receipt := by
  unfold Daemon.receive at h
  dsimp only at h
  split at h
  · exact .inl h
  · rename_i transferId result rest heffects
    rcases Coordinator.channels_complete h with h | ⟨rfl, rfl⟩
    · exact .inl h
    · exact .inr ⟨Inbound.effects_complete rfl (heffects ▸ List.mem_cons_self), rfl⟩
  · rename_i report rest _
    refine .inl ?_
    unfold Coordinator.reportProgress at h
    split at h <;> exact h
  · exact .inl h
  · exact .inl h

theorem Daemon.receive_same (limits : ClipboardLimits) (daemon : Daemon)
    («from» : DeviceId) (envelope : SendEnvelope) (receipt : Option String) :
    (daemon.receive limits «from» envelope receipt).1.receiveFiles = daemon.receiveFiles ∧
      (daemon.receive limits «from» envelope receipt).1.exports = daemon.exports ∧
      (daemon.receive limits «from» envelope receipt).1.outbox = daemon.outbox := by
  unfold Daemon.receive
  dsimp only
  split <;> exact ⟨rfl, rfl, rfl⟩

theorem DaemonEvent.apply_receive {config : DaemonConfig} {«from» : DeviceId}
    {envelope : SendEnvelope} {receipt : Option String}
    {started : Option (TaskId × SendProg Unit)}
    (h : (DaemonEvent.receive task «from» envelope receipt).apply config daemon =
      some (daemon', started)) :
    daemon' = (daemon.receive config.limits «from» envelope receipt).1 ∧
      started = (daemon.receive config.limits «from» envelope receipt).2.map
        fun program => (task, program) := by
  obtain ⟨hdaemon, hstarted⟩ := Prod.mk.inj (Option.some.inj h)
  exact ⟨hdaemon.symm, hstarted.symm⟩

theorem DaemonEvent.apply_calm {config : DaemonConfig} {event : DaemonEvent}
    {started : Option (TaskId × SendProg Unit)} (hlocal : event.isReceive = false)
    (h : event.apply config daemon = some (daemon', started)) : daemon.Calm daemon' := by
  cases event with
  | receive => cases hlocal
  | chunkTimeout transferId =>
      simp only [DaemonEvent.apply, Option.ite_none_right_eq_some, Option.some.injEq,
        Prod.mk.injEq] at h
      obtain ⟨-, rfl, -⟩ := h
      exact .of_eq rfl rfl (List.prefix_refl _) rfl
  | resumePass | sendFiles | cancelAll =>
      obtain ⟨rfl, -⟩ := Prod.mk.inj (Option.some.inj h)
      exact .refl _
  | watch task turns =>
      simp only [DaemonEvent.apply] at h
      split at h
      · cases h
      · obtain ⟨rfl, -⟩ := Prod.mk.inj (Option.some.inj h)
        exact .of_eq rfl rfl (List.prefix_refl _) rfl

theorem DaemonEvent.apply_grows {config : DaemonConfig} {event : DaemonEvent}
    {started : Option (TaskId × SendProg Unit)}
    (h : event.apply config daemon = some (daemon', started)) : daemon.Grows daemon' := by
  by_cases hlocal : event.isReceive = false
  · exact (DaemonEvent.apply_calm hlocal h).toGrows
  · cases event with
    | receive task sender envelope receipt =>
        obtain ⟨-, hexports, houtbox⟩ :=
          daemon.receive_same config.limits sender envelope receipt
        rw [(DaemonEvent.apply_receive h).1]
        constructor
        · rw [hexports]
        · rw [houtbox]
    | _ => exact absurd rfl hlocal

end Steps

section Advance

variable {configs : Side → DaemonConfig} {link link' : Link} {side : Side} {daemon : Daemon}

/-- Both sides of the link only grow. -/
def Link.Grows (link link' : Link) : Prop :=
  ∀ side, (link.daemons side).Grows (link'.daemons side)

@[simp] theorem Link.daemons_advance_self :
    (link.advance configs side daemon).daemons side = daemon := by
  simp [Link.advance]

theorem Link.daemons_advance_of_ne {other : Side} (h : other ≠ side) :
    (link.advance configs side daemon).daemons other = link.daemons other := by
  simp [Link.advance, h]

theorem Link.grows_advance (configs : Side → DaemonConfig)
    (h : (link.daemons side).Grows daemon) :
    link.Grows (link.advance configs side daemon) := by
  intro other
  by_cases heq : other = side
  · subst heq
    simpa using h
  · rw [Link.daemons_advance_of_ne heq]
    exact .refl _

theorem LinkEvent.apply_cases {happened : LinkEvent}
    {started : Option ((Side × TaskId) × SendProg Unit)}
    (h : happened.apply configs link = some (link', started)) :
    (∃ index, link' = { link with inFlight := link.inFlight.eraseIdx index } ∧
        started = none) ∨
      ∃ (inFlight : List InFlight) (side : Side) (event : DaemonEvent) (daemon : Daemon)
          (started' : Option (TaskId × SendProg Unit)),
        inFlight ⊆ link.inFlight ∧
        event.apply (configs side) (link.daemons side) = some (daemon, started') ∧
        link' = { link with inFlight }.advance configs side daemon ∧
        started = started'.map (fun (task, program) => ((side, task), program)) ∧
        (event.isReceive = false ∨ ∃ message ∈ link.inFlight, message.to = side ∧
          ∃ task, event =
            .receive task message.from message.envelope message.receipt) := by
  have hhappen : ∀ (inFlight : List InFlight) (side : Side) (event : DaemonEvent),
      { link with inFlight }.happen configs side event = some (link', started) →
      ∃ daemon started',
        event.apply (configs side) (link.daemons side) = some (daemon, started') ∧
        link' = { link with inFlight }.advance configs side daemon ∧
        started = started'.map fun (task, program) => ((side, task), program) := by
    intro inFlight side event h
    obtain ⟨⟨daemon, started'⟩, happly, heq⟩ := Option.map_eq_some_iff.mp h
    obtain ⟨rfl, rfl⟩ := Prod.mk.inj heq
    exact ⟨daemon, started', happly, rfl, rfl⟩
  cases happened with
  | deliver index task =>
      simp only [LinkEvent.apply] at h
      split at h
      · cases h
      · rename_i message hmessage
        obtain ⟨daemon, started', happly, hlink, hstarted⟩ := hhappen _ _ _ h
        exact .inr ⟨_, message.to, _, daemon, started',
          (List.eraseIdx_sublist _ _).subset, happly, hlink, hstarted,
          .inr ⟨message, List.mem_of_getElem? hmessage, rfl, task, rfl⟩⟩
  | lose index =>
      obtain ⟨rfl, rfl⟩ := Prod.mk.inj (Option.some.inj h)
      exact .inl ⟨index, rfl, rfl⟩
  | «local» side event =>
      simp only [LinkEvent.apply] at h
      split at h
      · cases h
      · rename_i hlocal
        obtain ⟨daemon, started', happly, hlink, hstarted⟩ :=
          hhappen link.inFlight side event h
        exact .inr ⟨link.inFlight, side, event, daemon, started', fun _ h => h, happly, hlink,
          hstarted, .inl (Bool.eq_false_iff.mpr hlocal)⟩

theorem linkWorld_step_grows {pool pool' : Pool SendSig (Side × TaskId) Link}
    {label : Label SendSig (Side × TaskId) LinkEvent}
    (h : (linkWorld configs).step pool label = some pool') : pool.state.Grows pool'.state := by
  cases label with
  | call task request response =>
      obtain ⟨next, link', -, hanswer, rfl⟩ := World.step_call h
      obtain ⟨daemon, hperform, rfl⟩ := Option.map_eq_some_iff.mp hanswer
      exact Link.grows_advance configs (Daemon.perform_grows hperform)
  | event event =>
      obtain ⟨link', started, hevent, hpool⟩ := World.step_event h
      have hlink : pool.state.Grows link' := by
        rcases LinkEvent.apply_cases hevent with
          ⟨index, rfl, -⟩ | ⟨inFlight, side, event, daemon, _, -, happly, rfl, -⟩
        · exact fun _ => .refl _
        · exact Link.grows_advance configs (DaemonEvent.apply_grows happly)
      rcases hpool with ⟨-, rfl⟩ | ⟨_, _, -, -, rfl⟩ <;> exact hlink

theorem linkWorld_run_grows {cond : Link → Label SendSig (Side × TaskId) LinkEvent → Prop}
    {pool pool' : Pool SendSig (Side × TaskId) Link}
    {labels : List (Label SendSig (Side × TaskId) LinkEvent)}
    (h : (linkWorld configs).Run cond pool labels pool') : pool.state.Grows pool'.state := by
  induction h with
  | nil => exact fun _ => .refl _
  | snoc _ _ hstep ih => exact fun side => (ih side).trans (linkWorld_step_grows hstep side)

end Advance

end Failsafe.Send
