import Mathlib.Data.List.Induction
import Failsafe.Lib.Split
import Failsafe.Send.Waiters

/-!
What the messages of one device can do to the transfers with another: the pending manifests
of `feature.rs` and the waiters of `coordinator.rs`, which are found by transfer id alone.
-/

namespace Failsafe.Send

open Failsafe.Core Failsafe.Lib

def SendEnvelope.transferId : SendEnvelope → Uuid
  | .transfer payload => payload.transferId
  | .transferHeader header => header.transferId
  | .transferChunk chunk => chunk.transferId
  | .transferEnd finish => finish.transferId
  | .ack answer => answer.transferId
  | .progress report => report.transferId

def SendEffect.transferId : SendEffect → Uuid
  | .spawnTransferHandler _ payload => payload.transferId
  | .spawnIncompleteChunkTimeout _ transferId => transferId
  | .complete transferId _ => transferId
  | .reportProgress progress => progress.transferId

/-- The part of a daemon that messages of file send reach.  `handlers` are the calls of
`spawn_transfer_handler`, oldest first. -/
structure Intake where
  pendingChunkedTransfers : Uuid → Option ChunkedTransfer
  timers : DeviceId → Uuid → Nat
  coordinator : Coordinator
  handlers : List (DeviceId × SendPayload)

/-- A session registers its waiter, takes a report from its channel, or drops its ends of the
channels; `cancel` is a call of `SendCoordinator::cancel`, and `poll` a turn of the dispatch loop
while it waits with a report. -/
inductive IntakeEvent where
  | message («from» : DeviceId) (envelope : SendEnvelope)
  | chunkTimeout («from» : DeviceId) (transferId : Uuid)
  | register (transferId : Uuid)
  | cancel (transferId : Uuid)
  | takeReport (waiter : WaiterId)
  | hangUp (waiter : WaiterId)
  | poll

namespace Intake

def start : Intake :=
  { pendingChunkedTransfers := fun _ => none
    timers := fun _ _ => 0
    coordinator := .empty
    handlers := [] }

/-- `reportProgress` is what it does once the channel of the waiter has room. -/
def perform (state : Intake) : SendEffect → Intake
  | .spawnTransferHandler «from» payload =>
      { state with handlers := state.handlers ++ [(«from», payload)] }
  | .spawnIncompleteChunkTimeout «from» transferId =>
      { state with
        timers := Function.update state.timers «from»
          (Function.update (state.timers «from») transferId (state.timers «from» transferId + 1)) }
  | .complete transferId result =>
      { state with coordinator := state.coordinator.complete transferId result none }
  | .reportProgress progress =>
      { state with coordinator := state.coordinator.reportProgress progress }

def handled (state : Intake) («from» : DeviceId) (envelope : SendEnvelope) : Inbound :=
  (Inbound.handleEnvelope «from» envelope
    { pendingChunkedTransfers := state.pendingChunkedTransfers, effects := [] }).2

def message (state : Intake) («from» : DeviceId) (envelope : SendEnvelope) : Intake :=
  (state.handled «from» envelope).effects.foldl perform
    { state with
      pendingChunkedTransfers := (state.handled «from» envelope).pendingChunkedTransfers }

/-- A timer that was never spawned does nothing. -/
def chunkTimeout (state : Intake) («from» : DeviceId) (transferId : Uuid) : Intake :=
  if state.timers «from» transferId = 0 then state
  else
    { state with
      pendingChunkedTransfers := Function.update state.pendingChunkedTransfers transferId none
      timers := Function.update state.timers «from»
        (Function.update (state.timers «from») transferId
          (state.timers «from» transferId - 1)) }

def takeReport (state : Intake) (waiter : WaiterId) : Intake :=
  { state with
    coordinator := { state.coordinator with
      progress := Function.update state.coordinator.progress waiter
        (state.coordinator.progress waiter).tail } }

/-- A step that nothing has to wait for. -/
def step (state : Intake) : IntakeEvent → Intake
  | .message «from» envelope => state.message «from» envelope
  | .chunkTimeout «from» transferId => state.chunkTimeout «from» transferId
  | .register transferId =>
      { state with coordinator := state.coordinator.register transferId }
  | .cancel transferId =>
      { state with
        coordinator := state.coordinator.complete transferId
          (.error "transfer cancelled") none }
  | .takeReport waiter => state.takeReport waiter
  | .hangUp _ | .poll => state

/-- The intake after some events, had the channels no bound. -/
def run (events : List IntakeEvent) : Intake :=
  events.foldl step start

theorem run_snoc (events : List IntakeEvent) (event : IntakeEvent) :
    run (events ++ [event]) = (run events).step event := by
  rw [run, List.foldl_append]
  rfl

end Intake

/-- A manifest that is complete is handed over and forgotten. -/
def finalizeOwn («from» : DeviceId) (state : ChunkedTransfer) (waiting : List SendEffect) :
    Option ChunkedTransfer × List SendEffect :=
  if state.isComplete then
    match state.intoPayload with
    | .error _ => (none, [])
    | .ok payload => (none, [.spawnTransferHandler «from» payload])
  else (some state, waiting)

/-- What a message does to the manifest of its own transfer, and what comes of it. -/
def handleOwn («from» : DeviceId) (pending : Option ChunkedTransfer) :
    SendEnvelope → Option ChunkedTransfer × List SendEffect
  | .transfer payload => (pending, [.spawnTransferHandler «from» payload])
  | .transferHeader header => (some (ChunkedTransfer.new header), [])
  | .transferChunk chunk =>
      match pending with
      | none => (none, [])
      | some state => finalizeOwn «from» (state.pushChunk chunk.chunkIndex chunk.entries) []
  | .transferEnd finish =>
      match pending with
      | none => (none, [])
      | some state =>
          finalizeOwn «from» (state.markEnd finish.chunkCount)
            [.spawnIncompleteChunkTimeout «from» finish.transferId]
  | .ack answer =>
      (pending, [.complete answer.transferId
        (if answer.ok then .ok () else .error (answer.error.getD "receiver reported failure"))])
  | .progress report => (pending, [.reportProgress report])

theorem tryFinalize_setPending (inbound : Inbound) («from» : DeviceId) (transferId : Uuid)
    (state : ChunkedTransfer) (waiting : List SendEffect) :
    let final := (inbound.setPending transferId (some state)).tryFinalizeChunkedTransfer
      «from» transferId
    { pendingChunkedTransfers := final.2.pendingChunkedTransfers
      effects := final.2.effects ++
        match final.1 with
        | .ok false => waiting
        | _ => [] } =
      ({ pendingChunkedTransfers := Function.update inbound.pendingChunkedTransfers transferId
          (finalizeOwn «from» state waiting).1
         effects := inbound.effects ++ (finalizeOwn «from» state waiting).2 } : Inbound) := by
  simp only [Inbound.tryFinalizeChunkedTransfer, Inbound.pending_setPending_self]
  cases hcomplete : state.isComplete with
  | false => simp [finalizeOwn, hcomplete, Inbound.setPending]
  | true =>
      cases hinto : state.intoPayload with
      | error error => simp [finalizeOwn, hcomplete, hinto, Inbound.setPending]
      | ok payload => simp [finalizeOwn, hcomplete, hinto, Inbound.setPending, Inbound.emit]

/-- A message only touches the manifest of its own transfer, and only looks at that. -/
theorem handleEnvelope_eq_own («from» : DeviceId) (envelope : SendEnvelope)
    (inbound : Inbound) :
    (inbound.handleEnvelope «from» envelope).2 =
      let own := handleOwn «from»
        (inbound.pendingChunkedTransfers envelope.transferId) envelope
      { pendingChunkedTransfers :=
          Function.update inbound.pendingChunkedTransfers envelope.transferId own.1
        effects := inbound.effects ++ own.2 } := by
  cases envelope with
  | transferChunk chunk =>
      simp only [Inbound.handleEnvelope, handleOwn, SendEnvelope.transferId]
      cases hpending : inbound.pendingChunkedTransfers chunk.transferId with
      | none =>
          rw [Function.update_eq_self_iff.mpr hpending.symm, List.append_nil]
      | some state =>
          have hfinal := tryFinalize_setPending inbound «from» chunk.transferId
            (state.pushChunk chunk.chunkIndex chunk.entries) []
          dsimp only at hfinal ⊢
          rw [← hfinal]
          generalize Inbound.tryFinalizeChunkedTransfer _ _ _ = final
          rcases final with ⟨error | (_ | _), inbound'⟩ <;> simp
  | transferEnd finish =>
      simp only [Inbound.handleEnvelope, handleOwn, SendEnvelope.transferId]
      cases hpending : inbound.pendingChunkedTransfers finish.transferId with
      | none =>
          rw [Function.update_eq_self_iff.mpr hpending.symm, List.append_nil]
      | some state =>
          have hfinal := tryFinalize_setPending inbound «from» finish.transferId
            (state.markEnd finish.chunkCount)
            [.spawnIncompleteChunkTimeout «from» finish.transferId]
          dsimp only at hfinal ⊢
          rw [← hfinal]
          generalize Inbound.tryFinalizeChunkedTransfer _ _ _ = final
          rcases final with ⟨error | (_ | _), inbound'⟩ <;> simp [Inbound.emit]
  | _ =>
      simp [Inbound.handleEnvelope, handleOwn, Inbound.handleAck, Inbound.emit,
        Inbound.setPending, SendEnvelope.transferId]

theorem intoPayload_transferId {state : ChunkedTransfer} {payload : SendPayload}
    (h : state.intoPayload = .ok payload) : payload.transferId = state.header.transferId := by
  rw [ChunkedTransfer.intoPayload] at h
  split at h
  · dsimp only at h
    split at h
    · cases h
    · split at h
      · cases h
      · cases h
        rfl
  · cases h

section Own

variable {«from» : DeviceId} {transferId : Uuid}

theorem finalizeOwn_own {state : ChunkedTransfer} {waiting : List SendEffect}
    (hstate : state.header.transferId = transferId)
    (hwaiting : ∀ effect ∈ waiting, effect.transferId = transferId) :
    (∀ kept, (finalizeOwn «from» state waiting).1 = some kept →
        kept.header.transferId = transferId) ∧
      ∀ effect ∈ (finalizeOwn «from» state waiting).2, effect.transferId = transferId := by
  rw [finalizeOwn]
  split
  · split
    · simp
    · next payload hpayload =>
        refine ⟨by simp, fun effect heffect => ?_⟩
        rw [List.mem_singleton.mp heffect, ← hstate]
        exact intoPayload_transferId hpayload
  · refine ⟨fun kept hkept => ?_, hwaiting⟩
    rw [← Option.some.inj hkept, hstate]

theorem finalizeOwn_timer {state : ChunkedTransfer} {waiting : List SendEffect}
    {spawner : DeviceId} {ended : Uuid}
    (h : .spawnIncompleteChunkTimeout spawner ended ∈ (finalizeOwn «from» state waiting).2) :
    .spawnIncompleteChunkTimeout spawner ended ∈ waiting := by
  rw [finalizeOwn] at h
  split at h
  · split at h
    · cases h
    · cases List.mem_singleton.mp h
  · exact h

theorem handleOwn_own {pending : Option ChunkedTransfer} {envelope : SendEnvelope}
    (hpending : ∀ state, pending = some state → state.header.transferId = envelope.transferId) :
    (∀ kept, (handleOwn «from» pending envelope).1 = some kept →
        kept.header.transferId = envelope.transferId) ∧
      ∀ effect ∈ (handleOwn «from» pending envelope).2,
        effect.transferId = envelope.transferId := by
  cases envelope with
  | transferChunk chunk =>
      cases pending with
      | none => simp [handleOwn]
      | some state => exact finalizeOwn_own (hpending state rfl) (by simp)
  | transferEnd finish =>
      cases pending with
      | none => simp [handleOwn]
      | some state =>
          refine finalizeOwn_own (hpending state rfl) fun effect heffect => ?_
          rw [List.mem_singleton.mp heffect]
          rfl
  | transferHeader header =>
      refine ⟨fun kept hkept => ?_, by simp [handleOwn]⟩
      rw [← Option.some.inj hkept]
      rfl
  | _ =>
      refine ⟨fun kept hkept => hpending kept hkept, fun effect heffect => ?_⟩
      rw [List.mem_singleton.mp heffect]
      rfl

end Own

theorem handleOwn_waiterless («from» : DeviceId) (pending : Option ChunkedTransfer)
    {envelope : SendEnvelope} (hack : ∀ ack, envelope ≠ .ack ack)
    (hprogress : ∀ report, envelope ≠ .progress report) :
    (handleOwn «from» pending envelope).2 = [] ∨
      (∃ sender payload,
        (handleOwn «from» pending envelope).2 = [.spawnTransferHandler sender payload]) ∨
      ∃ sender other,
        (handleOwn «from» pending envelope).2 = [.spawnIncompleteChunkTimeout sender other] := by
  cases envelope with
  | ack ack => exact absurd rfl (hack ack)
  | progress report => exact absurd rfl (hprogress report)
  | transfer payload => exact .inr (.inl ⟨_, _, rfl⟩)
  | transferHeader header => exact .inl rfl
  | transferChunk chunk =>
      cases pending with
      | none => exact .inl rfl
      | some state =>
          simp only [handleOwn, finalizeOwn]
          split
          · split
            · exact .inl rfl
            · exact .inr (.inl ⟨_, _, rfl⟩)
          · exact .inl rfl
  | transferEnd finish =>
      cases pending with
      | none => exact .inl rfl
      | some state =>
          simp only [handleOwn, finalizeOwn]
          split
          · split
            · exact .inl rfl
            · exact .inr (.inl ⟨_, _, rfl⟩)
          · exact .inr (.inr ⟨_, _, rfl⟩)

namespace Intake

theorem message_eq (state : Intake) («from» : DeviceId) (envelope : SendEnvelope) :
    state.message «from» envelope =
      let own := handleOwn «from»
        (state.pendingChunkedTransfers envelope.transferId) envelope
      own.2.foldl perform
        { state with
          pendingChunkedTransfers :=
            Function.update state.pendingChunkedTransfers envelope.transferId own.1 } := by
  simp only [message, handled, handleEnvelope_eq_own, List.nil_append]

theorem handleOwn_effects («from» : DeviceId) (pending : Option ChunkedTransfer)
    (envelope : SendEnvelope) :
    (handleOwn «from» pending envelope).2 = [] ∨
      ∃ effect, (handleOwn «from» pending envelope).2 = [effect] := by
  have hpart : (∀ ack, envelope ≠ .ack ack) → (∀ report, envelope ≠ .progress report) →
      (handleOwn «from» pending envelope).2 = [] ∨
        ∃ effect, (handleOwn «from» pending envelope).2 = [effect] := by
    intro hack hprogress
    rcases handleOwn_waiterless «from» pending hack hprogress with
      hnone | ⟨_, _, hone⟩ | ⟨_, _, hone⟩
    · exact .inl hnone
    · exact .inr ⟨_, hone⟩
    · exact .inr ⟨_, hone⟩
  cases envelope with
  | ack answer => exact .inr ⟨_, rfl⟩
  | progress report => exact .inr ⟨_, rfl⟩
  | _ => exact hpart nofun nofun

theorem receive_eq_message (limits : Clipboard.ClipboardLimits) (daemon : Daemon)
    («from» : DeviceId) (envelope : SendEnvelope) (state : Intake)
    (hpending : state.pendingChunkedTransfers = daemon.pendingChunkedTransfers)
    (hcoordinator : state.coordinator = daemon.coordinator) :
    (daemon.receive limits «from» envelope none).1.pendingChunkedTransfers =
        (state.message «from» envelope).pendingChunkedTransfers ∧
      (daemon.receive limits «from» envelope none).1.coordinator =
        (state.message «from» envelope).coordinator := by
  simp only [message_eq, Daemon.receive, handleEnvelope_eq_own, List.nil_append, hpending]
  rcases handleOwn_effects «from» (daemon.pendingChunkedTransfers envelope.transferId) envelope
    with hnone | ⟨effect, heffect⟩
  · rw [hnone]
    exact ⟨rfl, hcoordinator.symm⟩
  · rw [heffect]
    cases effect <;> simp [perform, hcoordinator]

/-- What the waiters of an intake are; `registered` lists their transfers by waiter. -/
structure Sound (registered : List Uuid) (state : Intake) : Prop where
  keyed : ∀ transferId pending, state.pendingChunkedTransfers transferId = some pending →
    pending.header.transferId = transferId
  next : state.coordinator.next = registered.length
  waiters : ∀ transferId waiter, state.coordinator.pending.lookup transferId = some waiter →
    registered[waiter]? = some transferId

/-- Two intakes that a transfer cannot tell apart.  Only the timers of the `seen` senders
count. -/
structure SameOn (seen : DeviceId → Prop) (transferId : Uuid) (registered : List Uuid)
    (state state' : Intake) : Prop where
  pending : state.pendingChunkedTransfers transferId = state'.pendingChunkedTransfers transferId
  timers : ∀ «from», seen «from» → state.timers «from» transferId = state'.timers «from» transferId
  waiter : state.coordinator.pending.lookup transferId =
    state'.coordinator.pending.lookup transferId
  channels : ∀ waiter, registered[waiter]? = some transferId ∨ registered.length ≤ waiter →
    state.coordinator.channels waiter = state'.coordinator.channels waiter
  handlers : state.handlers.filter (fun handler => handler.2.transferId = transferId) =
    state'.handlers.filter (fun handler => handler.2.transferId = transferId)

section Steps

variable {seen : DeviceId → Prop} {transferId : Uuid} {registered : List Uuid}
  {state state' state'' : Intake}

theorem SameOn.refl : SameOn seen transferId registered state state :=
  ⟨rfl, fun _ _ => rfl, rfl, fun _ _ => rfl, rfl⟩

theorem SameOn.symm (h : SameOn seen transferId registered state state') :
    SameOn seen transferId registered state' state :=
  ⟨h.pending.symm, fun «from» hfrom => (h.timers «from» hfrom).symm, h.waiter.symm,
    fun waiter hwaiter => (h.channels waiter hwaiter).symm, h.handlers.symm⟩

theorem SameOn.trans (h : SameOn seen transferId registered state state')
    (h' : SameOn seen transferId registered state' state'') :
    SameOn seen transferId registered state state'' :=
  ⟨h.pending.trans h'.pending,
    fun «from» hfrom => (h.timers «from» hfrom).trans (h'.timers «from» hfrom),
    h.waiter.trans h'.waiter,
    fun waiter hwaiter => (h.channels waiter hwaiter).trans (h'.channels waiter hwaiter),
    h.handlers.trans h'.handlers⟩

theorem complete_other (hsound : Sound registered state) {other : Uuid}
    (hother : transferId ≠ other) (result : Except String Unit) :
    SameOn seen transferId registered
      { state with coordinator := state.coordinator.complete other result none } state := by
  refine ⟨rfl, fun _ _ => rfl, ?_, ?_, rfl⟩
  · exact (Coordinator.complete_lookup _ _ _ _ _).trans (if_neg hother)
  · intro waiter hwaiter
    refine (Coordinator.complete_channels _ _ _ _ _).trans (if_neg fun hlookup => ?_)
    have hregistered := hsound.waiters other waiter hlookup
    rcases hwaiter with hown | hlater
    · exact hother (Option.some.inj (hown.symm.trans hregistered))
    · have hbound := (List.getElem?_eq_some_iff.mp hregistered).1
      omega

theorem perform_other (hsound : Sound registered state) {effect : SendEffect}
    (hother : transferId ≠ effect.transferId) :
    SameOn seen transferId registered (state.perform effect) state := by
  cases effect with
  | spawnTransferHandler «from» payload =>
      have hpayload : ¬payload.transferId = transferId := fun h => hother h.symm
      refine ⟨rfl, fun _ _ => rfl, rfl, fun _ _ => rfl, ?_⟩
      simp [perform, List.filter_append, hpayload]
  | spawnIncompleteChunkTimeout «from» ended =>
      have hended : transferId ≠ ended := hother
      refine ⟨rfl, fun sender _ => ?_, rfl, fun _ _ => rfl, rfl⟩
      simp only [perform, Function.update_apply]
      split
      · next hsender => rw [Function.update_apply, if_neg hended, hsender]
      · rfl
  | complete completed result => exact complete_other hsound hother result
  | reportProgress report =>
      obtain ⟨hpending, hchannels, -⟩ := state.coordinator.reportProgress_same report
      refine ⟨rfl, fun _ _ => rfl, ?_, fun waiter _ => ?_, rfl⟩
      · exact congrArg (AList.lookup transferId) hpending
      · exact congrFun hchannels waiter

theorem Sound.perform (hsound : Sound registered state) (effect : SendEffect) :
    Sound registered (state.perform effect) := by
  cases effect with
  | spawnTransferHandler «from» payload => exact ⟨hsound.keyed, hsound.next, hsound.waiters⟩
  | spawnIncompleteChunkTimeout «from» ended => exact ⟨hsound.keyed, hsound.next, hsound.waiters⟩
  | complete completed result =>
      refine ⟨hsound.keyed, ?_, ?_⟩
      · exact (Coordinator.complete_next _ _ _ _).trans hsound.next
      · intro other waiter hlookup
        have hlookup := (Coordinator.complete_lookup _ _ other result none).symm.trans hlookup
        obtain ⟨-, hlookup⟩ := Option.ite_none_left_eq_some.mp hlookup
        exact hsound.waiters other waiter hlookup
  | reportProgress report =>
      obtain ⟨hpending, -, hnext⟩ := state.coordinator.reportProgress_same report
      refine ⟨hsound.keyed, hnext.trans hsound.next, fun other waiter hlookup => ?_⟩
      rw [Intake.perform, hpending] at hlookup
      exact hsound.waiters other waiter hlookup

theorem complete_same (hsame : SameOn seen transferId registered state state')
    (result : Except String Unit) :
    SameOn seen transferId registered
      { state with coordinator := state.coordinator.complete transferId result none }
      { state' with coordinator := state'.coordinator.complete transferId result none } := by
  refine ⟨hsame.pending, hsame.timers, ?_, fun waiter hwaiter => ?_, hsame.handlers⟩
  · rw [Coordinator.complete_lookup, Coordinator.complete_lookup, if_pos rfl, if_pos rfl]
  · rw [Coordinator.complete_channels, Coordinator.complete_channels, hsame.waiter,
      hsame.channels waiter hwaiter]

theorem perform_same (hsame : SameOn seen transferId registered state state')
    {effect : SendEffect} (hown : effect.transferId = transferId) :
    SameOn seen transferId registered (state.perform effect) (state'.perform effect) := by
  cases effect with
  | spawnTransferHandler «from» payload =>
      refine ⟨hsame.pending, hsame.timers, hsame.waiter, hsame.channels, ?_⟩
      simp only [perform, List.filter_append, hsame.handlers]
  | spawnIncompleteChunkTimeout «from» ended =>
      refine ⟨hsame.pending, fun sender hsender => ?_, hsame.waiter, hsame.channels,
        hsame.handlers⟩
      have hended : ended = transferId := hown
      simp only [perform, Function.update_apply]
      split
      · next hfrom =>
          rw [Function.update_apply, Function.update_apply, if_pos hended.symm,
            if_pos hended.symm, hended, ← hfrom, hsame.timers sender hsender]
      · exact hsame.timers sender hsender
  | complete completed result =>
      have hcompleted : completed = transferId := hown
      subst hcompleted
      exact complete_same hsame result
  | reportProgress report =>
      obtain ⟨hpending, hchannels, -⟩ := state.coordinator.reportProgress_same report
      obtain ⟨hpending', hchannels', -⟩ := state'.coordinator.reportProgress_same report
      refine ⟨hsame.pending, hsame.timers, ?_, fun waiter hwaiter => ?_, hsame.handlers⟩
      · rw [perform, perform, hpending, hpending', hsame.waiter]
      · rw [perform, perform, hchannels, hchannels', hsame.channels waiter hwaiter]

theorem performAll_other (hsound : Sound registered state) {effects : List SendEffect}
    (hother : ∀ effect ∈ effects, transferId ≠ effect.transferId) :
    SameOn seen transferId registered (effects.foldl perform state) state := by
  induction effects generalizing state with
  | nil => exact .refl
  | cons effect effects ih =>
      exact (ih (hsound.perform effect) fun e he => hother e (List.mem_cons_of_mem _ he)).trans
        (perform_other hsound (hother effect List.mem_cons_self))

theorem performAll_same (hsame : SameOn seen transferId registered state state')
    {effects : List SendEffect} (hown : ∀ effect ∈ effects, effect.transferId = transferId) :
    SameOn seen transferId registered (effects.foldl perform state)
      (effects.foldl perform state') := by
  induction effects generalizing state state' with
  | nil => exact hsame
  | cons effect effects ih =>
      exact ih (perform_same hsame (hown effect List.mem_cons_self))
        fun e he => hown e (List.mem_cons_of_mem _ he)

theorem Sound.performAll (hsound : Sound registered state) (effects : List SendEffect) :
    Sound registered (effects.foldl Intake.perform state) := by
  induction effects generalizing state with
  | nil => exact hsound
  | cons effect effects ih => exact ih (hsound.perform effect)

theorem Sound.setPending (hsound : Sound registered state) {changed : Uuid}
    {pending : Option ChunkedTransfer}
    (hpending : ∀ kept, pending = some kept → kept.header.transferId = changed) :
    Sound registered { state with
      pendingChunkedTransfers :=
        Function.update state.pendingChunkedTransfers changed pending } := by
  refine ⟨fun other kept hkept => ?_, hsound.next, hsound.waiters⟩
  have hkept := (Function.update_apply _ _ _ _).symm.trans hkept
  split at hkept
  · next hother => rw [hother, hpending kept hkept]
  · exact hsound.keyed other kept hkept

theorem Sound.message (hsound : Sound registered state) («from» : DeviceId)
    (envelope : SendEnvelope) : Sound registered (state.message «from» envelope) := by
  rw [message_eq]
  exact (hsound.setPending
    (handleOwn_own fun pending => hsound.keyed _ pending).1).performAll _

theorem message_other (hsound : Sound registered state) («from» : DeviceId)
    {envelope : SendEnvelope} (hother : transferId ≠ envelope.transferId) :
    SameOn seen transferId registered (state.message «from» envelope) state := by
  obtain ⟨hkept, heffects⟩ := @handleOwn_own «from» _ _
    fun pending => hsound.keyed envelope.transferId pending
  rw [message_eq]
  refine (performAll_other (hsound.setPending hkept) fun effect heffect => ?_).trans
    ⟨Function.update_of_ne hother _ _, fun _ _ => rfl, rfl, fun _ _ => rfl, rfl⟩
  rw [heffects effect heffect]
  exact hother

theorem message_same (hsound : Sound registered state)
    (hsame : SameOn seen transferId registered state state') («from» : DeviceId)
    {envelope : SendEnvelope} (hown : envelope.transferId = transferId) :
    SameOn seen transferId registered (state.message «from» envelope)
      (state'.message «from» envelope) := by
  subst hown
  obtain ⟨-, heffects⟩ := @handleOwn_own «from» _ _
    fun pending => hsound.keyed envelope.transferId pending
  rw [message_eq, message_eq, ← hsame.pending]
  have hpending : ∀ pending, SameOn seen envelope.transferId registered
      { state with pendingChunkedTransfers :=
          Function.update state.pendingChunkedTransfers envelope.transferId pending }
      { state' with pendingChunkedTransfers :=
          Function.update state'.pendingChunkedTransfers envelope.transferId pending } :=
    fun pending => ⟨by simp, hsame.timers, hsame.waiter, hsame.channels, hsame.handlers⟩
  exact performAll_same (hpending _) heffects

theorem Sound.chunkTimeout (hsound : Sound registered state) («from» : DeviceId)
    (ended : Uuid) : Sound registered (state.chunkTimeout «from» ended) := by
  rw [Intake.chunkTimeout]
  split
  · exact hsound
  · have hforgotten : Sound registered { state with
        pendingChunkedTransfers := Function.update state.pendingChunkedTransfers ended none } :=
      hsound.setPending (by simp)
    exact ⟨hforgotten.keyed, hforgotten.next, hforgotten.waiters⟩

theorem chunkTimeout_other («from» : DeviceId) {ended : Uuid} (hother : transferId ≠ ended) :
    SameOn seen transferId registered (state.chunkTimeout «from» ended) state := by
  rw [chunkTimeout]
  split
  · exact .refl
  · refine ⟨Function.update_of_ne hother _ _, fun sender _ => ?_, rfl, fun _ _ => rfl, rfl⟩
    simp only [Function.update_apply]
    split
    · next hsender => rw [Function.update_apply, if_neg hother, hsender]
    · rfl

theorem chunkTimeout_same (hsame : SameOn seen transferId registered state state')
    {«from» : DeviceId} (hfrom : seen «from») :
    SameOn seen transferId registered (state.chunkTimeout «from» transferId)
      (state'.chunkTimeout «from» transferId) := by
  rw [chunkTimeout, chunkTimeout, ← hsame.timers «from» hfrom]
  split
  · exact hsame
  · refine ⟨by simp, fun sender hsender => ?_, hsame.waiter, hsame.channels, hsame.handlers⟩
    simp only [Function.update_apply]
    split
    · rw [Function.update_self, Function.update_self]
    · exact hsame.timers sender hsender

theorem Sound.register (hsound : Sound registered state) (added : Uuid) :
    Sound (registered ++ [added])
      { state with coordinator := state.coordinator.register added } := by
  refine ⟨hsound.keyed, ?_, fun other waiter hlookup => ?_⟩
  · rw [Coordinator.register_next, hsound.next, List.length_append]
    rfl
  · rw [Coordinator.register_lookup] at hlookup
    split at hlookup
    · next hother =>
        rw [← Option.some.inj hlookup, hsound.next, List.getElem?_concat_length, hother]
    · have hregistered := hsound.waiters other waiter hlookup
      rw [List.getElem?_append_left (List.getElem?_eq_some_iff.mp hregistered).1]
      exact hregistered

theorem SameOn.grow (hsame : SameOn seen transferId registered state state') (added : Uuid) :
    SameOn seen transferId (registered ++ [added]) state state' := by
  refine ⟨hsame.pending, hsame.timers, hsame.waiter, fun waiter hwaiter => ?_, hsame.handlers⟩
  apply hsame.channels
  rcases Nat.lt_or_ge waiter registered.length with hold | hnew
  · rcases hwaiter with hown | hlater
    · rw [List.getElem?_append_left hold] at hown
      exact .inl hown
    · rw [List.length_append] at hlater
      omega
  · exact .inr hnew

theorem register_other (hsound : Sound registered state) {added : Uuid}
    (hother : transferId ≠ added) :
    SameOn seen transferId registered
      { state with coordinator := state.coordinator.register added } state := by
  refine ⟨rfl, fun _ _ => rfl, ?_, fun waiter hwaiter => ?_, rfl⟩
  · exact (Coordinator.register_lookup _ _ _).trans (if_neg hother)
  · refine (Coordinator.register_channels _ _ _).trans (if_neg fun hlookup => ?_)
    have hregistered := hsound.waiters added waiter hlookup
    rcases hwaiter with hown | hlater
    · exact hother (Option.some.inj (hown.symm.trans hregistered))
    · have hbound := (List.getElem?_eq_some_iff.mp hregistered).1
      omega

theorem register_same (hsound : Sound registered state) (hsound' : Sound registered state')
    (hsame : SameOn seen transferId registered state state') :
    SameOn seen transferId registered
      { state with coordinator := state.coordinator.register transferId }
      { state' with coordinator := state'.coordinator.register transferId } := by
  refine ⟨hsame.pending, hsame.timers, ?_, fun waiter hwaiter => ?_, hsame.handlers⟩
  · rw [Coordinator.register_lookup, Coordinator.register_lookup, if_pos rfl, if_pos rfl,
      hsound.next, hsound'.next]
  · rw [Coordinator.register_channels, Coordinator.register_channels, hsame.waiter,
      hsame.channels waiter hwaiter]

theorem report_same (state : Intake) (progress : WaiterId → List SendProgress) :
    SameOn seen transferId registered
      { state with coordinator := { state.coordinator with progress } } state :=
  ⟨rfl, fun _ _ => rfl, rfl, fun _ _ => rfl, rfl⟩

theorem Sound.report (hsound : Sound registered state)
    (progress : WaiterId → List SendProgress) :
    Sound registered { state with coordinator := { state.coordinator with progress } } :=
  ⟨hsound.keyed, hsound.next, hsound.waiters⟩

end Steps

end Intake

/-- The transfer that an event registers a waiter for. -/
def IntakeEvent.registers : IntakeEvent → Option Uuid
  | .register transferId => some transferId
  | _ => none

/-- An event that is neither a message of `c` nor a timer that one spawned. -/
def IntakeEvent.notOf (c : DeviceId) : IntakeEvent → Bool
  | .message «from» _ | .chunkTimeout «from» _ => «from» ≠ c
  | _ => true

namespace Intake

/-- The transfers of the waiters, in the order of their registration. -/
def registered (events : List IntakeEvent) : List Uuid :=
  events.filterMap IntakeEvent.registers

theorem Sound.step {registered : List Uuid} {state : Intake} (hsound : Sound registered state)
    (event : IntakeEvent) :
    Sound (registered ++ event.registers.toList) (state.step event) := by
  have hkept : ∀ {state' : Intake}, Sound registered state' →
      Sound (registered ++ (none : Option Uuid).toList) state' := by
    intro state' hsound'
    rwa [Option.toList_none, List.append_nil]
  cases event with
  | message «from» envelope => exact hkept (hsound.message «from» envelope)
  | chunkTimeout «from» ended => exact hkept (hsound.chunkTimeout «from» ended)
  | register added => exact hsound.register added
  | cancel cancelled =>
      exact hkept (hsound.perform (.complete cancelled (.error "transfer cancelled")))
  | takeReport waiter => exact hkept (hsound.report _)
  | hangUp | poll => exact hkept hsound

theorem sound_start : Sound [] start :=
  ⟨by simp [start], rfl, by simp [start, Coordinator.empty]⟩

/-- A message finds nothing under the id of the transfer: no waiter for an acknowledgement, no
manifest for a chunk or an end.  A header or a whole transfer is of another id. -/
def Unrelated (transferId : Uuid) (state : Intake) : SendEnvelope → Prop
  | .transfer payload => payload.transferId ≠ transferId
  | .transferHeader header => header.transferId ≠ transferId
  | .transferChunk chunk =>
      chunk.transferId = transferId → state.pendingChunkedTransfers transferId = none
  | .transferEnd finish =>
      finish.transferId = transferId → state.pendingChunkedTransfers transferId = none
  | .ack answer =>
      answer.transferId = transferId → state.coordinator.pending.lookup transferId = none
  | .progress _ => True

instance (transferId : Uuid) (state : Intake) : DecidablePred (Unrelated transferId state)
  | .transfer payload => inferInstanceAs (Decidable (payload.transferId ≠ transferId))
  | .transferHeader header => inferInstanceAs (Decidable (header.transferId ≠ transferId))
  | .transferChunk chunk =>
      inferInstanceAs (Decidable (chunk.transferId = transferId →
        state.pendingChunkedTransfers transferId = none))
  | .transferEnd finish =>
      inferInstanceAs (Decidable (finish.transferId = transferId →
        state.pendingChunkedTransfers transferId = none))
  | .ack answer =>
      inferInstanceAs (Decidable (answer.transferId = transferId →
        state.coordinator.pending.lookup transferId = none))
  | .progress _ => .isTrue trivial

theorem message_unrelated {seen : DeviceId → Prop} {transferId : Uuid} {registered : List Uuid}
    {state : Intake} (hsound : Sound registered state) («from» : DeviceId)
    {envelope : SendEnvelope} (h : Unrelated transferId state envelope) :
    SameOn seen transferId registered (state.message «from» envelope) state := by
  rcases eq_or_ne envelope.transferId transferId with hown | hother
  · rw [message_eq]
    cases envelope with
    | transfer payload => exact absurd hown h
    | transferHeader header => exact absurd hown h
    | transferChunk chunk =>
        have hnone : state.pendingChunkedTransfers chunk.transferId = none := by
          rw [show chunk.transferId = transferId from hown, h hown]
        have hupdate : Function.update state.pendingChunkedTransfers chunk.transferId none =
            state.pendingChunkedTransfers := Function.update_eq_self_iff.mpr hnone.symm
        simp only [SendEnvelope.transferId, hnone, handleOwn, List.foldl_nil, hupdate]
        exact .refl
    | transferEnd finish =>
        have hnone : state.pendingChunkedTransfers finish.transferId = none := by
          rw [show finish.transferId = transferId from hown, h hown]
        have hupdate : Function.update state.pendingChunkedTransfers finish.transferId none =
            state.pendingChunkedTransfers := Function.update_eq_self_iff.mpr hnone.symm
        simp only [SendEnvelope.transferId, hnone, handleOwn, List.foldl_nil, hupdate]
        exact .refl
    | ack answer =>
        have hnone : state.coordinator.pending.lookup answer.transferId = none := by
          rw [show answer.transferId = transferId from hown, h hown]
        simp only [handleOwn, List.foldl_cons, List.foldl_nil, perform, Function.update_eq_self,
          Coordinator.complete, hnone]
        exact .refl
    | progress report =>
        obtain ⟨hpending, hchannels, -⟩ := state.coordinator.reportProgress_same report
        simp only [handleOwn, List.foldl_cons, List.foldl_nil, perform, Function.update_eq_self]
        refine ⟨rfl, fun _ _ => rfl, ?_, fun waiter _ => ?_, rfl⟩
        · exact congrArg (AList.lookup transferId) hpending
        · exact congrFun hchannels waiter
  · exact message_other hsound «from» hother.symm

theorem message_both {seen : DeviceId → Prop} {transferId : Uuid} {registered : List Uuid}
    {state state' : Intake} (hsound : Sound registered state) (hsound' : Sound registered state')
    (hsame : SameOn seen transferId registered state state') («from» : DeviceId)
    (envelope : SendEnvelope) :
    SameOn seen transferId registered (state.message «from» envelope)
      (state'.message «from» envelope) := by
  rcases eq_or_ne envelope.transferId transferId with hown | hother
  · exact message_same hsound hsame «from» hown
  · exact (message_other hsound «from» hother.symm).trans
      (hsame.trans (message_other hsound' «from» hother.symm).symm)

theorem step_same {c : DeviceId} {transferId : Uuid} {registered : List Uuid}
    {state state' : Intake} {event : IntakeEvent} (hevent : event.notOf c = true)
    (hsound : Sound registered state) (hsound' : Sound registered state')
    (hsame : SameOn (· ≠ c) transferId registered state state') :
    SameOn (· ≠ c) transferId (registered ++ event.registers.toList) (state.step event)
      (state'.step event) := by
  cases event with
  | message «from» envelope =>
      simp only [IntakeEvent.registers, Option.toList_none, List.append_nil]
      exact message_both hsound hsound' hsame «from» envelope
  | chunkTimeout «from» ended =>
      simp only [IntakeEvent.registers, Option.toList_none, List.append_nil]
      rcases eq_or_ne ended transferId with rfl | hother
      · exact chunkTimeout_same hsame (of_decide_eq_true hevent)
      · exact (chunkTimeout_other «from» hother.symm).trans
          (hsame.trans (chunkTimeout_other «from» hother.symm).symm)
  | register added =>
      refine SameOn.grow ?_ added
      rcases eq_or_ne added transferId with rfl | hother
      · exact register_same hsound hsound' hsame
      · exact (register_other hsound hother.symm).trans
          (hsame.trans (register_other hsound' hother.symm).symm)
  | cancel cancelled =>
      simp only [IntakeEvent.registers, Option.toList_none, List.append_nil]
      rcases eq_or_ne cancelled transferId with rfl | hother
      · exact complete_same hsame _
      · exact (complete_other hsound hother.symm _).trans
          (hsame.trans (complete_other hsound' hother.symm _).symm)
  | takeReport waiter =>
      simp only [IntakeEvent.registers, Option.toList_none, List.append_nil]
      exact (report_same state _).trans (hsame.trans (report_same state' _).symm)
  | hangUp | poll =>
      simp only [IntakeEvent.registers, Option.toList_none, List.append_nil]
      exact hsame

theorem performAll_timers {state : Intake} {«from» sender : DeviceId}
    {effects : List SendEffect} (hsender : sender ≠ «from»)
    (heffects : ∀ effect ∈ effects, ∀ spawner ended,
      effect = .spawnIncompleteChunkTimeout spawner ended → spawner = «from») :
    (effects.foldl perform state).timers sender = state.timers sender := by
  induction effects generalizing state with
  | nil => rfl
  | cons effect effects ih =>
      refine (ih fun e he => heffects e (List.mem_cons_of_mem _ he)).trans ?_
      cases effect with
      | spawnIncompleteChunkTimeout spawner ended =>
          have hspawner := heffects _ List.mem_cons_self spawner ended rfl
          exact Function.update_of_ne (hspawner ▸ hsender) _ _
      | _ => rfl

theorem message_timers (state : Intake) {«from» sender : DeviceId} (hsender : sender ≠ «from»)
    (envelope : SendEnvelope) :
    (state.message «from» envelope).timers sender = state.timers sender := by
  rw [message_eq]
  refine performAll_timers hsender fun effect heffect spawner ended heq => ?_
  subst heq
  cases envelope with
  | transferChunk chunk =>
      cases hpending : state.pendingChunkedTransfers chunk.transferId with
      | none => simp [SendEnvelope.transferId, handleOwn, hpending] at heffect
      | some pending =>
          simp only [SendEnvelope.transferId, handleOwn, hpending] at heffect
          cases finalizeOwn_timer heffect
  | transferEnd finish =>
      cases hpending : state.pendingChunkedTransfers finish.transferId with
      | none => simp [SendEnvelope.transferId, handleOwn, hpending] at heffect
      | some pending =>
          simp only [SendEnvelope.transferId, handleOwn, hpending] at heffect
          cases List.mem_singleton.mp (finalizeOwn_timer heffect)
          rfl
  | _ => simp [handleOwn] at heffect

theorem chunkTimeout_timers (state : Intake) {c «from» : DeviceId} {transferId ended : Uuid}
    (hzero : state.timers c transferId = 0) :
    (state.chunkTimeout «from» ended).timers c transferId = 0 := by
  rw [chunkTimeout]
  split
  · exact hzero
  · simp only [Function.update_apply]
    split
    · next hfrom =>
        simp only [Function.update_apply]
        split
        · next hended => rw [← hfrom, ← hended, hzero]
        · rw [← hfrom, hzero]
    · exact hzero

end Intake

end Failsafe.Send
