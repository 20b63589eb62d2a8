import Failsafe.Lib.Split
import Failsafe.Send.Waiters

/-!
The bounded queues between the dispatch loop of a daemon and the control clients of its
sends (`failsafe-send/src/coordinator.rs`, `control.rs` and `progress.rs`, and the loop of
`failsafe/src/daemon.rs`).
-/

namespace Failsafe.Send

open Failsafe.Core Failsafe.Lib

/-- Reports of a receiver that wait for a session. -/
def PROGRESS_CAPACITY : Nat := 256

/-- Events that wait for the writer task of a session. -/
def EVENT_CAPACITY : Nat := 1024

/-- What others ask of the `SendCoordinator`: sessions, the dispatch loop, and `CancelAll`. -/
inductive CoordinatorCall where
  | register (transferId : Uuid)
  | reportProgress (report : SendProgress)
  | completeAck (ack : SendAck)
  | cancel (transferId : Uuid)
deriving DecidableEq, Repr

def SendAck.result (ack : SendAck) : Except String Unit :=
  if ack.ok then .ok () else .error (ack.error.getD "receiver reported failure")

namespace Coordinator

/-- A call that never has to wait. -/
def call (coordinator : Coordinator) : CoordinatorCall → Coordinator
  | .register transferId => coordinator.register transferId
  | .reportProgress report => coordinator.reportProgress report
  | .completeAck ack => coordinator.complete ack.transferId ack.result none
  | .cancel transferId => coordinator.complete transferId (.error "transfer cancelled") none

def push (coordinator : Coordinator) (waiter : WaiterId) (report : SendProgress) :
    Coordinator :=
  { coordinator with
    progress := Function.update coordinator.progress waiter
      (coordinator.progress waiter ++ [report]) }

end Coordinator

structure ProgressSnapshot where
  phase : SendPhase
  bytesDone : UInt64
  bytesTotal : UInt64
  currentFile : Option String
deriving DecidableEq, Repr

def ProgressSnapshot.event (snapshot : ProgressSnapshot) (sequence : UInt64) : ControlEvent :=
  .sendProgress sequence snapshot.phase snapshot.bytesDone snapshot.bytesTotal
    snapshot.currentFile

def SendProgress.snapshot (report : SendProgress) : ProgressSnapshot :=
  { phase := report.phase
    bytesDone := report.bytesDone
    bytesTotal := report.bytesTotal
    currentFile := report.currentFile }

/-- Where `handle_send_files` goes on once `emit` has returned. -/
inductive AfterEmit where
  | dispatch (totalBytes : UInt64)
  | await
deriving DecidableEq, Repr

/-- Where `handle_send_files` is, from the registration of its waiter on. -/
inductive HandlerStage where
  | preparing
  | emitting (event : ControlEvent) (next : AfterEmit)
  | dispatching (totalBytes : UInt64)
  | waiting
  | settling (result : Except String Unit)
  -- `progress_writer.await`
  | draining (result : Except String Unit)
  | marking (result : Except String Unit)
  | reporting (event : ControlEvent)
  | finished

/-- The task of `SendProgressReporter::new`. -/
inductive FlushTask where
  | listening
  | sending (event : ControlEvent)
  | ended

/-- The task that owns the write half of the control stream. -/
inductive WriterTask where
  | idle
  | writing (event : ControlEvent)
  | ended

/-- A send session, the tasks it has spawned, and the socket to its client. -/
structure ControlSession where
  transferId : Uuid
  cancel : Token
  cancelChild : Token
  handler : HandlerStage
  snapshot : Option ProgressSnapshot
  sequence : UInt64
  closed : Bool
  flush : FlushTask
  events : List ControlEvent
  writer : WriterTask
  unread : List ControlEvent
  hungUp : Bool

/-- What a session, its tasks or its client do by themselves. -/
inductive SessionTurn where
  | tryEmit (snapshot : ProgressSnapshot)
  | prepared (totalBytes : UInt64)
  | prepareFailed (message : String)
  | emitted
  | sent
  | sendFailed (message : String)
  | drained
  | marked
  | reported
  | flushTake
  | flushSent
  | flushEnd
  | writerTake
  | writerWrite
  | writerEnd
  | clientRead
  | clientHangUp
deriving DecidableEq, Repr

namespace ControlSession

def start (transferId : Uuid) (cancel cancelChild : Token) : ControlSession :=
  { transferId, cancel, cancelChild
    handler := .preparing
    snapshot := none
    sequence := 0
    closed := false
    flush := .listening
    events := []
    writer := .idle
    unread := []
    hungUp := false }

/-- `emit`, up to the wait for the channel. -/
def emit (session : ControlSession) (snapshot : ProgressSnapshot) (next : AfterEmit) :
    ControlSession :=
  { session with
    snapshot := none
    sequence := session.sequence + 1
    handler := .emitting (snapshot.event (session.sequence + 1)) next }

/-- `tx.send(event)`: it waits while the channel is full, and fails at once when the writer
has dropped the receiver. -/
def push (session : ControlSession) (event : ControlEvent) : Option ControlSession :=
  match session.writer with
  | .ended => some session
  | _ =>
      if session.events.length < EVENT_CAPACITY then
        some { session with events := session.events ++ [event] }
      else none

/-- The client has `buffer` events still to read, and its socket takes no more. -/
def SocketFull (buffer : Nat) (session : ControlSession) : Prop :=
  session.hungUp = false ∧ buffer ≤ session.unread.length

instance (buffer : Nat) (session : ControlSession) : Decidable (session.SocketFull buffer) :=
  inferInstanceAs (Decidable (_ ∧ _))

/-- `write_event`: it waits while the socket is full, and fails when the client is gone. -/
def write (buffer : Nat) (session : ControlSession) (event : ControlEvent) :
    Option (Bool × ControlSession) :=
  if session.SocketFull buffer then none
  else if session.hungUp then some (false, session)
  else some (true, { session with unread := session.unread ++ [event] })

def afterEmit (cancelled : Bool) : AfterEmit → HandlerStage
  | .await => .waiting
  | .dispatch totalBytes =>
      if cancelled then .settling (.error "transfer cancelled") else .dispatching totalBytes

def outcomeEvent (transferId : Uuid) : Except String Unit → ControlEvent
  | .ok () => .sendComplete transferId
  | .error message => .sendFailed message

/-- `cancelled` says whether the session's own token is. -/
def step (buffer : Nat) (cancelled : Bool) (session : ControlSession) :
    SessionTurn → Option ControlSession
  | .tryEmit snapshot =>
      match session.handler with
      | .preparing => some { session with snapshot := some snapshot }
      | _ => none
  | .prepared totalBytes =>
      match session.handler with
      | .preparing =>
          if cancelled then
            some { session with handler := .settling (.error "transfer cancelled") }
          else some (session.emit ⟨.sending, totalBytes, totalBytes, none⟩ (.dispatch totalBytes))
      | _ => none
  | .prepareFailed message =>
      match session.handler with
      | .preparing => some { session with handler := .settling (.error message) }
      | _ => none
  | .emitted =>
      match session.handler with
      | .emitting event next =>
          (session.push event).map fun session =>
            { session with handler := afterEmit cancelled next }
      | _ => none
  | .sent =>
      match session.handler with
      | .dispatching totalBytes =>
          some (session.emit ⟨.waitingForAck, 0, totalBytes, none⟩ .await)
      | _ => none
  | .sendFailed message =>
      match session.handler with
      | .dispatching _ => some { session with handler := .settling (.error message) }
      | _ => none
  | .drained =>
      match session.handler, session.writer with
      | .draining result, .ended => some { session with handler := .marking result }
      | _, _ => none
  | .marked =>
      match session.handler with
      | .marking result =>
          some { session with handler := .reporting (outcomeEvent session.transferId result) }
      | _ => none
  | .reported =>
      match session.handler with
      | .reporting event =>
          (session.write buffer event).map fun (_, session) =>
            { session with handler := .finished }
      | _ => none
  | .flushTake =>
      match session.flush, session.snapshot with
      | .listening, some snapshot =>
          some { session with
            snapshot := none
            sequence := session.sequence + 1
            flush := .sending (snapshot.event (session.sequence + 1)) }
      | _, _ => none
  | .flushSent =>
      match session.flush with
      | .sending event =>
          (session.push event).map fun session => { session with flush := .listening }
      | _ => none
  | .flushEnd =>
      match session.flush with
      | .listening => if session.closed then some { session with flush := .ended } else none
      | _ => none
  | .writerTake =>
      match session.writer, session.events with
      | .idle, event :: events => some { session with events, writer := .writing event }
      | _, _ => none
  | .writerWrite =>
      match session.writer with
      | .writing event =>
          (session.write buffer event).map fun (written, session) =>
            { session with writer := if written then .idle else .ended }
      | _ => none
  -- every sender is gone: those of the handler with `close`, the one of the flush task with it
  | .writerEnd =>
      match session.writer, session.flush, session.events with
      | .idle, .ended, [] => some { session with writer := .ended }
      | _, _, _ => none
  | .clientRead =>
      match session.unread with
      | _ :: unread => some { session with unread }
      | [] => none
  | .clientHangUp => some { session with hungUp := true }

/-- Nothing but the client lets `handle_send_files` go on: it waits for room in the channel
or for the end of the writer, which waits for the socket, or for the socket itself. -/
def AwaitsClient (buffer : Nat) (session : ControlSession) : Prop :=
  session.SocketFull buffer ∧
    match session.handler, session.writer with
    | .emitting _ _, .writing _ => EVENT_CAPACITY ≤ session.events.length
    | .draining _, .writing _ => True
    | .reporting _, _ => True
    | _, _ => False

/-- What the session does with an event of `wait_for_send_ack`. -/
def awaited (session : ControlSession) : AckEvent → ControlSession
  | .cancelled => { session with handler := .settling (.error "transfer cancelled") }
  | .deadline =>
      { session with
        handler := .settling (.error "timed out waiting for receiver acknowledgement") }
  | .acked result => { session with handler := .settling result }
  | .closed =>
      { session with handler := .settling (.error "transfer acknowledgement channel closed") }
  | .progress report => session.emit report.snapshot .await

/-- `progress.close()`, and dropping the handler's senders. -/
def close (session : ControlSession) (result : Except String Unit) : ControlSession :=
  { session with snapshot := none, closed := true, handler := .draining result }

end ControlSession

/-- The send sessions of a daemon; `waiting` is the call of `report_progress` in which the
dispatch loop waits. -/
structure Flow where
  coordinator : Coordinator
  tokens : Tokens
  sessions : WaiterId → Option ControlSession
  waiting : Option (WaiterId × SendProgress)

inductive FlowStep where
  | call (call : CoordinatorCall)
  /-- The dispatch loop looks again at the channel that it waits for. -/
  | poll
  | turn (waiter : WaiterId) (turn : SessionTurn)
  | await (waiter : WaiterId) (event : AckEvent)
  | settle (waiter : WaiterId)
  /-- The client has closed its side of the stream. -/
  | watch (waiter : WaiterId)

namespace Flow

def new : Flow :=
  { coordinator := .empty, tokens := .empty, sessions := fun _ => none, waiting := none }

def put (flow : Flow) (waiter : WaiterId) (session : ControlSession) : Flow :=
  { flow with sessions := Function.update flow.sessions waiter (some session) }

/-- The receiver of a session's reports lives until its handler has returned. -/
def receives (flow : Flow) (waiter : WaiterId) : Bool :=
  match flow.sessions waiter with
  | none => false
  | some session =>
      match session.handler with
      | .finished => false
      | _ => true

/-- `tx.send(progress)` at the channel of a waiter. -/
def offer (flow : Flow) (waiter : WaiterId) (report : SendProgress) : Flow :=
  if flow.receives waiter then
    if (flow.coordinator.progress waiter).length < PROGRESS_CAPACITY then
      { flow with coordinator := flow.coordinator.push waiter report, waiting := none }
    else { flow with waiting := some (waiter, report) }
  else { flow with waiting := none }

def reportProgress (flow : Flow) (report : SendProgress) : Flow :=
  match flow.coordinator.pending.lookup report.transferId with
  | none => flow
  | some waiter => flow.offer waiter report

def register (flow : Flow) (transferId : Uuid) : Flow :=
  let (cancel, tokens) := flow.tokens.new
  let (cancelChild, tokens) := tokens.child cancel
  { flow with
    coordinator := flow.coordinator.register transferId
    tokens
    sessions := Function.update flow.sessions flow.coordinator.next
      (some (.start transferId cancel cancelChild)) }

/-- The dispatch loop takes no message while it waits; the control tasks go on. -/
def call (flow : Flow) : CoordinatorCall → Option Flow
  | .register transferId => some (flow.register transferId)
  | .reportProgress report =>
      if flow.waiting.isNone then some (flow.reportProgress report) else none
  | .completeAck ack =>
      if flow.waiting.isNone then
        some { flow with coordinator := flow.coordinator.call (.completeAck ack) }
      else none
  | .cancel transferId =>
      some { flow with coordinator := flow.coordinator.call (.cancel transferId) }

def settle (flow : Flow) (waiter : WaiterId) (session : ControlSession)
    (result : Except String Unit) : Flow :=
  if flow.tokens.isCancelled session.cancel then
    { flow.put waiter (session.close (.error "transfer cancelled")) with
      coordinator := flow.coordinator.call (.cancel session.transferId) }
  else flow.put waiter (session.close result)

/-- `buffers` is how many events the socket of each client holds. -/
def step (buffers : WaiterId → Nat) (flow : Flow) : FlowStep → Option Flow
  | .call call => flow.call call
  | .poll => flow.waiting.map fun (waiter, report) => flow.offer waiter report
  | .turn waiter turn =>
      (flow.sessions waiter).bind fun session =>
        (session.step (buffers waiter) (flow.tokens.isCancelled session.cancel) turn).map
          (flow.put waiter)
  | .await waiter event =>
      (flow.sessions waiter).bind fun session =>
        match session.handler with
        | .waiting =>
            (flow.coordinator.await flow.tokens session.cancel waiter event).map
              fun coordinator => { flow.put waiter (session.awaited event) with coordinator }
        | _ => none
  | .settle waiter =>
      (flow.sessions waiter).bind fun session =>
        match session.handler with
        | .settling result => some (flow.settle waiter session result)
        | _ => none
  | .watch waiter =>
      (flow.sessions waiter).map fun session =>
        { flow with tokens := flow.tokens.cancel session.cancelChild }

def run (buffers : WaiterId → Nat) (flow : Flow) (steps : List FlowStep) : Option Flow :=
  steps.foldlM (fun flow step => flow.step buffers step) flow

/-- The dispatch loop waits for room in the queue of a session whose handler waits for its
client. -/
def Stalled (buffers : WaiterId → Nat) (flow : Flow) : Prop :=
  ∃ waiter report session, flow.waiting = some (waiter, report) ∧
    PROGRESS_CAPACITY ≤ (flow.coordinator.progress waiter).length ∧
    flow.sessions waiter = some session ∧ session.AwaitsClient (buffers waiter)

end Flow

def callsOf (steps : List FlowStep) : List CoordinatorCall :=
  steps.filterMap fun
    | .call call => some call
    | _ => none

/-- The coordinator after some calls, had its channels no bound and nobody read them. -/
def replay (calls : List CoordinatorCall) : Coordinator :=
  calls.foldl Coordinator.call .empty

/-- No send gets more reports, as long as it is registered, than its channel holds. -/
def Fits (calls : List CoordinatorCall) : Prop :=
  ∀ before report after waiter, calls = before ++ .reportProgress report :: after →
    (replay before).pending.lookup report.transferId = some waiter →
    ((replay before).progress waiter).length < PROGRESS_CAPACITY

/-! ### What the coordinator's calls do, and what they depend on -/

namespace Coordinator

variable {coordinator coordinator' : Coordinator}

theorem close_progress (waiter : WaiterId) :
    (coordinator.close waiter).progress = coordinator.progress := by
  rw [close]
  split <;> rfl

theorem register_pending (transferId : Uuid) :
    (coordinator.register transferId).pending =
      coordinator.pending.insert transferId coordinator.next := by
  cases hlookup : coordinator.pending.lookup transferId with
  | none => simp [register, hlookup]
  | some waiter => simp [register, hlookup, coordinator.close_same waiter]

theorem register_progress (transferId : Uuid) :
    (coordinator.register transferId).progress = coordinator.progress := by
  cases hlookup : coordinator.pending.lookup transferId with
  | none => simp [register, hlookup]
  | some waiter => simp [register, hlookup, close_progress]

theorem complete_progress (transferId : Uuid) (result : Except String Unit)
    (receipt : Option String) :
    (coordinator.complete transferId result receipt).progress = coordinator.progress := by
  rw [complete]
  split <;> rfl

theorem complete_pending (hpending : coordinator'.pending = coordinator.pending)
    (transferId : Uuid) (result : Except String Unit) (receipt : Option String) :
    (coordinator'.complete transferId result receipt).pending =
      (coordinator.complete transferId result receipt).pending := by
  rw [complete, complete, hpending]
  split <;> simp [hpending]

theorem reportProgress_eq {report : SendProgress} {waiter : WaiterId}
    (h : coordinator.pending.lookup report.transferId = some waiter) :
    coordinator.reportProgress report = coordinator.push waiter report := by
  rw [reportProgress, h]
  rfl

theorem call_pending (hpending : coordinator'.pending = coordinator.pending)
    (hnext : coordinator'.next = coordinator.next) (call : CoordinatorCall) :
    (coordinator'.call call).pending = (coordinator.call call).pending ∧
      (coordinator'.call call).next = (coordinator.call call).next := by
  cases call with
  | register transferId =>
      exact ⟨by simp only [Coordinator.call, register_pending, hpending, hnext],
        by simp only [Coordinator.call, register_next, hnext]⟩
  | reportProgress report =>
      obtain ⟨hsame, -, hnext'⟩ := coordinator.reportProgress_same report
      obtain ⟨hsame', -, hnext''⟩ := coordinator'.reportProgress_same report
      exact ⟨hsame'.trans (hpending.trans hsame.symm), hnext''.trans (hnext.trans hnext'.symm)⟩
  | completeAck ack =>
      exact ⟨complete_pending hpending _ _ _,
        by simp only [Coordinator.call, complete_next, hnext]⟩
  | cancel transferId =>
      exact ⟨complete_pending hpending _ _ _,
        by simp only [Coordinator.call, complete_next, hnext]⟩

theorem push_length_le {waiter : WaiterId} {report : SendProgress}
    (h : ∀ waiter, (coordinator'.progress waiter).length ≤ (coordinator.progress waiter).length)
    (other : WaiterId) :
    ((coordinator'.push waiter report).progress other).length ≤
      ((coordinator.push waiter report).progress other).length := by
  simp only [push, Function.update_apply]
  split
  · simpa using h waiter
  · exact h other

theorem await_length_le {tokens : Tokens} {cancel : Token} {waiter : WaiterId}
    {event : AckEvent} (h : coordinator.await tokens cancel waiter event = some coordinator')
    (other : WaiterId) :
    (coordinator'.progress other).length ≤ (coordinator.progress other).length := by
  cases event with
  | cancelled =>
      obtain ⟨-, h⟩ := Option.ite_none_right_eq_some.mp h
      obtain rfl := Option.some.inj h
      exact le_rfl
  | deadline =>
      obtain rfl := Option.some.inj h
      exact le_rfl
  | acked result =>
      simp only [await] at h
      split at h
      · obtain ⟨-, h⟩ := Option.ite_none_right_eq_some.mp h
        obtain rfl := Option.some.inj h
        exact le_rfl
      · cases h
  | closed =>
      simp only [await] at h
      split at h
      · obtain rfl := Option.some.inj h
        exact le_rfl
      · cases h
  | progress report =>
      simp only [await] at h
      split at h
      · next first rest hqueue =>
          obtain ⟨-, h⟩ := Option.ite_none_right_eq_some.mp h
          obtain rfl := Option.some.inj h
          simp only [Function.update_apply]
          split
          · next hother => simp [hother, hqueue]
          · exact le_rfl
      · cases h

end Coordinator

@[simp] theorem replay_snoc (calls : List CoordinatorCall) (call : CoordinatorCall) :
    replay (calls ++ [call]) = (replay calls).call call := by
  simp [replay]

@[simp] theorem callsOf_append (steps steps' : List FlowStep) :
    callsOf (steps ++ steps') = callsOf steps ++ callsOf steps' :=
  List.filterMap_append

theorem Fits.of_prefix {calls calls' : List CoordinatorCall} (h : Fits calls)
    (hahead : calls' <+: calls) : Fits calls' := by
  obtain ⟨rest, rfl⟩ := hahead
  rintro before report after waiter rfl hlookup
  exact h before report (after ++ rest) waiter (by simp) hlookup

theorem Fits.room {calls : List CoordinatorCall} {report : SendProgress} {waiter : WaiterId}
    (h : Fits (calls ++ [.reportProgress report]))
    (hlookup : (replay calls).pending.lookup report.transferId = some waiter) :
    ((replay calls).progress waiter).length < PROGRESS_CAPACITY :=
  h calls report [] waiter rfl hlookup

/-! ### A run in which no channel ever fills up -/

namespace ControlSession

theorem push_tokens {session session' : ControlSession} {event : ControlEvent}
    (h : session.push event = some session') :
    session'.cancel = session.cancel ∧ session'.cancelChild = session.cancelChild := by
  rw [push] at h
  split at h
  · obtain rfl := Option.some.inj h
    exact ⟨rfl, rfl⟩
  · obtain ⟨-, h⟩ := Option.ite_none_right_eq_some.mp h
    obtain rfl := Option.some.inj h
    exact ⟨rfl, rfl⟩

theorem write_tokens {buffer : Nat} {session : ControlSession} {event : ControlEvent}
    {answer : Bool × ControlSession} (h : session.write buffer event = some answer) :
    answer.2.cancel = session.cancel ∧ answer.2.cancelChild = session.cancelChild := by
  rw [write] at h
  split at h
  · cases h
  · split at h <;>
      · obtain rfl := Option.some.inj h
        exact ⟨rfl, rfl⟩

theorem step_tokens {buffer : Nat} {cancelled : Bool} {session session' : ControlSession}
    {turn : SessionTurn} (h : session.step buffer cancelled turn = some session') :
    session'.cancel = session.cancel ∧ session'.cancelChild = session.cancelChild := by
  cases turn with
  | tryEmit | prepareFailed | sent | sendFailed | drained | marked | flushTake | writerTake
  | writerEnd | clientRead =>
      simp only [step] at h
      split at h
      · obtain rfl := Option.some.inj h
        exact ⟨rfl, rfl⟩
      · cases h
  | prepared totalBytes =>
      simp only [step] at h
      split at h
      · split at h <;>
          · obtain rfl := Option.some.inj h
            exact ⟨rfl, rfl⟩
      · cases h
  | emitted | flushSent =>
      simp only [step] at h
      split at h
      · obtain ⟨pushed, hpushed, rfl⟩ := Option.map_eq_some_iff.mp h
        have htokens := push_tokens hpushed
        exact htokens
      · cases h
  | reported | writerWrite =>
      simp only [step] at h
      split at h
      · obtain ⟨answer, hwritten, rfl⟩ := Option.map_eq_some_iff.mp h
        exact write_tokens hwritten
      · cases h
  | flushEnd =>
      simp only [step] at h
      split at h
      · obtain ⟨-, h⟩ := Option.ite_none_right_eq_some.mp h
        obtain rfl := Option.some.inj h
        exact ⟨rfl, rfl⟩
      · cases h
  | clientHangUp =>
      obtain rfl := Option.some.inj h
      exact ⟨rfl, rfl⟩

theorem awaited_tokens (session : ControlSession) (event : AckEvent) :
    (session.awaited event).cancel = session.cancel ∧
      (session.awaited event).cancelChild = session.cancelChild := by
  cases event <;> exact ⟨rfl, rfl⟩

end ControlSession

/-- The waiters are those of the replay, no channel holds more than there, and nobody has
cancelled a token that a session looks at. -/
structure Follows (calls : List CoordinatorCall) (flow : Flow) : Prop where
  pending : flow.coordinator.pending = (replay calls).pending
  next : flow.coordinator.next = (replay calls).next
  progress : ∀ waiter, (flow.coordinator.progress waiter).length ≤
    ((replay calls).progress waiter).length
  waiting : flow.waiting = none
  cancelled : ∀ token ∈ flow.tokens.cancelled, 2 ≤ token.length
  root : ∀ waiter session, flow.sessions waiter = some session → session.cancel.length = 1
  child : ∀ waiter session, flow.sessions waiter = some session →
    2 ≤ session.cancelChild.length

namespace Follows

variable {calls : List CoordinatorCall} {flow flow' : Flow}

theorem new : Follows [] .new where
  pending := rfl
  next := rfl
  progress _ := le_rfl
  waiting := rfl
  cancelled _ h := by cases h
  root _ _ h := by cases h
  child _ _ h := by cases h

theorem not_cancelled (h : Follows calls flow) {waiter : WaiterId} {session : ControlSession}
    (hsession : flow.sessions waiter = some session) :
    flow.tokens.isCancelled session.cancel = false := by
  rw [Bool.eq_false_iff]
  intro hcancelled
  obtain ⟨ancestor, hmem, hsuffix⟩ := Tokens.isCancelled_iff.mp hcancelled
  have hlong := h.cancelled ancestor hmem
  have hshort := hsuffix.length_le
  have hroot := h.root waiter session hsession
  omega

theorem put (h : Follows calls flow) {waiter : WaiterId} {session session' : ControlSession}
    (hsession : flow.sessions waiter = some session)
    (htokens : session'.cancel = session.cancel ∧ session'.cancelChild = session.cancelChild) :
    Follows calls (flow.put waiter session') := by
  refine { h with root := ?_, child := ?_ }
  · intro other found hfound
    simp only [Flow.put, Function.update_apply] at hfound
    split at hfound
    · obtain rfl := Option.some.inj hfound
      rw [htokens.1]
      exact h.root _ _ hsession
    · exact h.root _ _ hfound
  · intro other found hfound
    simp only [Flow.put, Function.update_apply] at hfound
    split at hfound
    · obtain rfl := Option.some.inj hfound
      rw [htokens.2]
      exact h.child _ _ hsession
    · exact h.child _ _ hfound

theorem register (h : Follows calls flow) (transferId : Uuid) :
    Follows (calls ++ [.register transferId]) (flow.register transferId) := by
  obtain ⟨hpending, hnext⟩ :=
    Coordinator.call_pending h.pending h.next (.register transferId)
  refine ⟨by rwa [replay_snoc], by rwa [replay_snoc], ?_, h.waiting, h.cancelled, ?_, ?_⟩
  · intro waiter
    simpa only [replay_snoc, Coordinator.call, Flow.register, Coordinator.register_progress]
      using h.progress waiter
  · intro waiter session hsession
    simp only [Flow.register, Function.update_apply] at hsession
    split at hsession
    · obtain rfl := Option.some.inj hsession
      rfl
    · exact h.root _ _ hsession
  · intro waiter session hsession
    simp only [Flow.register, Function.update_apply] at hsession
    split at hsession
    · obtain rfl := Option.some.inj hsession
      exact le_rfl
    · exact h.child _ _ hsession

theorem complete (h : Follows calls flow) {call : CoordinatorCall}
    (hprogress : ∀ coordinator : Coordinator,
      (coordinator.call call).progress = coordinator.progress) :
    Follows (calls ++ [call]) { flow with coordinator := flow.coordinator.call call } := by
  obtain ⟨hpending, hnext⟩ := Coordinator.call_pending h.pending h.next call
  refine { h with pending := by rwa [replay_snoc], next := by rwa [replay_snoc], progress := ?_ }
  intro waiter
  rw [replay_snoc, hprogress, hprogress]
  exact h.progress waiter

theorem reportProgress (h : Follows calls flow) {report : SendProgress}
    (hfits : Fits (calls ++ [.reportProgress report])) :
    Follows (calls ++ [.reportProgress report]) (flow.reportProgress report) := by
  obtain ⟨hpending, hnext⟩ :=
    Coordinator.call_pending h.pending h.next (.reportProgress report)
  obtain ⟨hsame, -, hnext'⟩ := flow.coordinator.reportProgress_same report
  simp only [Coordinator.call] at hpending hnext
  rw [hsame] at hpending
  rw [hnext'] at hnext
  cases hlookup : (replay calls).pending.lookup report.transferId with
  | none =>
      have hreplay : (replay calls).reportProgress report = replay calls := by
        rw [Coordinator.reportProgress, hlookup]
      have hflow : flow.reportProgress report = flow := by
        rw [Flow.reportProgress, h.pending, hlookup]
      rw [hflow]
      refine { h with pending := ?_, next := ?_, progress := ?_ } <;>
        rw [replay_snoc, Coordinator.call, hreplay]
      · exact h.pending
      · exact h.next
      · exact h.progress
  | some waiter =>
      have hroom := (h.progress waiter).trans_lt (hfits.room hlookup)
      have hflow : flow.reportProgress report = flow.offer waiter report := by
        rw [Flow.reportProgress, h.pending, hlookup]
      have hreplay := Coordinator.reportProgress_eq hlookup
      rw [hflow, Flow.offer, if_pos hroom]
      split
      · refine { h with pending := ?_, next := ?_, progress := ?_, waiting := rfl } <;>
          rw [replay_snoc, Coordinator.call]
        · exact hpending
        · exact hnext
        · rw [hreplay]
          exact Coordinator.push_length_le h.progress
      · refine { h with pending := ?_, next := ?_, progress := ?_, waiting := rfl } <;>
          rw [replay_snoc, Coordinator.call]
        · exact hpending
        · exact hnext
        · intro other
          rw [hreplay]
          refine (h.progress other).trans ?_
          simp only [Coordinator.push, Function.update_apply]
          split
          · next hother => simp [hother]
          · exact le_rfl

theorem step (h : Follows calls flow) {buffers : WaiterId → Nat} {step : FlowStep}
    (hstep : flow.step buffers step = some flow')
    (hfits : Fits (calls ++ callsOf [step])) : Follows (calls ++ callsOf [step]) flow' := by
  cases step with
  | call call =>
      cases call with
      | register transferId =>
          obtain rfl := Option.some.inj hstep
          exact h.register transferId
      | reportProgress report =>
          obtain ⟨-, hstep⟩ := Option.ite_none_right_eq_some.mp hstep
          obtain rfl := Option.some.inj hstep
          exact h.reportProgress hfits
      | completeAck ack =>
          obtain ⟨-, hstep⟩ := Option.ite_none_right_eq_some.mp hstep
          obtain rfl := Option.some.inj hstep
          exact h.complete fun _ => Coordinator.complete_progress _ _ _
      | cancel transferId =>
          obtain rfl := Option.some.inj hstep
          exact h.complete fun _ => Coordinator.complete_progress _ _ _
  | poll =>
      obtain ⟨_, hwaiting, -⟩ := Option.map_eq_some_iff.mp hstep
      rw [h.waiting] at hwaiting
      cases hwaiting
  | turn waiter turn =>
      obtain ⟨session, hsession, hstep⟩ := Option.bind_eq_some_iff.mp hstep
      obtain ⟨session', hturn, rfl⟩ := Option.map_eq_some_iff.mp hstep
      have hquiet : calls ++ callsOf [.turn waiter turn] = calls := List.append_nil _
      rw [hquiet]
      exact h.put hsession (ControlSession.step_tokens hturn)
  | await waiter event =>
      obtain ⟨session, hsession, hstep⟩ := Option.bind_eq_some_iff.mp hstep
      split at hstep
      · obtain ⟨coordinator, hawait, rfl⟩ := Option.map_eq_some_iff.mp hstep
        obtain ⟨hpending, -, hnext⟩ := Coordinator.await_same hawait
        have hput := h.put hsession (session.awaited_tokens event)
        have hquiet : calls ++ callsOf [.await waiter event] = calls := List.append_nil _
        rw [hquiet]
        exact { hput with
          pending := hpending.trans h.pending
          next := hnext.trans h.next
          progress := fun other =>
            (Coordinator.await_length_le hawait other).trans (h.progress other) }
      · cases hstep
  | settle waiter =>
      obtain ⟨session, hsession, hstep⟩ := Option.bind_eq_some_iff.mp hstep
      split at hstep
      · obtain rfl := Option.some.inj hstep
        have hquiet : calls ++ callsOf [.settle waiter] = calls := List.append_nil _
        rw [hquiet, Flow.settle,
          if_neg (by simp [h.not_cancelled hsession])]
        exact h.put hsession ⟨rfl, rfl⟩
      · cases hstep
  | watch waiter =>
      obtain ⟨session, hsession, rfl⟩ := Option.map_eq_some_iff.mp hstep
      have hquiet : calls ++ callsOf [.watch waiter] = calls := List.append_nil _
      rw [hquiet]
      refine { h with cancelled := ?_ }
      rintro token (_ | ⟨_, htoken⟩)
      · exact h.child _ _ hsession
      · exact h.cancelled token htoken

/-- As long as the calls fit, the whole run follows their replay. -/
theorem run {buffers : WaiterId → Nat} {steps : List FlowStep}
    (hrun : Flow.new.run buffers steps = some flow) (hfits : Fits (callsOf steps)) :
    Follows (callsOf steps) flow := by
  induction steps using List.reverseRecOn generalizing flow with
  | nil =>
      obtain rfl := Option.some.inj hrun
      exact .new
  | append_singleton steps last ih =>
      rw [Flow.run, List.foldlM_append] at hrun
      obtain ⟨before, hbefore, hlast⟩ := Option.bind_eq_some_iff.mp hrun
      rw [callsOf_append] at hfits ⊢
      have hfollows := ih hbefore (hfits.of_prefix (List.prefix_append _ _))
      obtain ⟨after, hstep, hafter⟩ := Option.bind_eq_some_iff.mp hlast
      obtain rfl := Option.some.inj hafter
      exact hfollows.step hstep hfits

end Follows

/-! ### Clients that read nothing -/

namespace ControlSession

def run (buffer : Nat) (cancelled : Bool) (session : ControlSession)
    (turns : List SessionTurn) : Option ControlSession :=
  turns.foldlM (fun session turn => session.step buffer cancelled turn) session

theorem run_append {buffer : Nat} {cancelled : Bool} {first middle last : ControlSession}
    {turns turns' : List SessionTurn} (h : first.run buffer cancelled turns = some middle)
    (h' : middle.run buffer cancelled turns' = some last) :
    first.run buffer cancelled (turns ++ turns') = some last := by
  rw [run, List.foldlM_append]
  exact Option.bind_eq_some_iff.mpr ⟨middle, h, h'⟩

/-- The import goes on, and the other tasks have done what they could. -/
structure Importing (session : ControlSession) : Prop where
  handler : session.handler = .preparing
  flush : session.flush = .listening
  events : session.events = []
  writer : session.writer = .idle
  hungUp : session.hungUp = false

theorem importing_start (transferId : Uuid) (cancel cancelChild : Token) :
    (start transferId cancel cancelChild).Importing :=
  ⟨rfl, rfl, rfl, rfl, rfl⟩

/-- One report of the import, on its way to the writer task. -/
def reportTurns : List SessionTurn :=
  [.tryEmit ⟨.storing, 0, 0, none⟩, .flushTake, .flushSent, .writerTake]

variable {buffer : Nat} {cancelled : Bool} {session : ControlSession}

theorem Importing.report (h : session.Importing) :
    session.run buffer cancelled reportTurns =
      some { session with
        snapshot := none
        sequence := session.sequence + 1
        writer := .writing (.sendProgress (session.sequence + 1) .storing 0 0 none) } := by
  obtain ⟨hhandler, hflush, hevents, hwriter, -⟩ := h
  simp [run, reportTurns, step, push, hhandler, hflush, hevents, hwriter, EVENT_CAPACITY,
    ProgressSnapshot.event]

theorem Importing.written (h : session.Importing) (hroom : session.unread.length < buffer) :
    ∃ session', session.run buffer cancelled (reportTurns ++ [.writerWrite]) = some session' ∧
      session'.Importing ∧ session'.unread.length = session.unread.length + 1 := by
  have hfull : ¬ buffer ≤ session.unread.length := hroom.not_ge
  refine ⟨{ session with
    snapshot := none
    sequence := session.sequence + 1
    writer := .idle
    unread := session.unread ++ [.sendProgress (session.sequence + 1) .storing 0 0 none] },
    ?_, ⟨h.handler, h.flush, h.events, rfl, h.hungUp⟩, by simp⟩
  refine run_append h.report ?_
  simp [run, step, write, SocketFull, hfull, h.hungUp]

theorem Importing.filled (h : session.Importing) {rest : Nat}
    (hrest : session.unread.length + rest = buffer) :
    ∃ turns session', session.run buffer cancelled turns = some session' ∧
      session'.Importing ∧ session'.unread.length = buffer := by
  induction rest generalizing session with
  | zero => exact ⟨[], session, rfl, h, hrest⟩
  | succ rest ih =>
      have hroom : session.unread.length < buffer := by omega
      obtain ⟨next, hrun, hnext, hlength⟩ := @written buffer cancelled session h hroom
      obtain ⟨turns, session', hrun', hsession', hfull⟩ := ih hnext (by omega)
      exact ⟨_, session', run_append hrun hrun', hsession', hfull⟩

theorem Importing.stopped (h : session.Importing) (hempty : session.unread = []) :
    ∃ turns session', session.run buffer cancelled turns = some session' ∧
      session'.handler = .settling (.error "import failed") ∧
      (session'.close (.error "import failed")).AwaitsClient buffer := by
  obtain ⟨turns, filled, hrun, hfilled, hlength⟩ :=
    @filled buffer cancelled session h buffer (by simp [hempty])
  have hreported := run_append hrun hfilled.report
  refine ⟨_, { filled with
    snapshot := none
    sequence := filled.sequence + 1
    writer := .writing (.sendProgress (filled.sequence + 1) .storing 0 0 none)
    handler := .settling (.error "import failed") },
    @run_append _ _ _ _ _ _ [.prepareFailed "import failed"] hreported ?_, rfl, ?_⟩
  · simp [run, step, hfilled.handler]
  · exact ⟨⟨hfilled.hungUp, hlength.ge⟩, trivial⟩

theorem AwaitsClient.receives {flow : Flow} {waiter : WaiterId}
    (h : session.AwaitsClient buffer) (hsession : flow.sessions waiter = some session) :
    flow.receives waiter = true := by
  rw [Flow.receives, hsession]
  obtain ⟨-, h⟩ := h
  dsimp only
  split
  · next hfinished => simp [hfinished] at h
  · rfl

end ControlSession

namespace Flow

variable {buffers : WaiterId → Nat} {flow : Flow}

theorem run_append {steps steps' : List FlowStep} {middle last : Flow}
    (h : flow.run buffers steps = some middle) (h' : middle.run buffers steps' = some last) :
    flow.run buffers (steps ++ steps') = some last := by
  rw [run, List.foldlM_append]
  exact Option.bind_eq_some_iff.mpr ⟨middle, h, h'⟩

theorem run_turns {waiter : WaiterId} {session session' : ControlSession}
    {turns : List SessionTurn} (hsession : flow.sessions waiter = some session)
    (h : session.run (buffers waiter) (flow.tokens.isCancelled session.cancel) turns =
      some session') :
    flow.run buffers (turns.map (.turn waiter)) = some (flow.put waiter session') := by
  induction turns generalizing flow session with
  | nil =>
      obtain rfl := Option.some.inj h
      have hsame : Function.update flow.sessions waiter (some session) = flow.sessions := by
        rw [← hsession, Function.update_eq_self]
      simp [run, put, hsame]
  | cons turn turns ih =>
      obtain ⟨next, hstep, hrest⟩ := Option.bind_eq_some_iff.mp h
      refine Option.bind_eq_some_iff.mpr ⟨flow.put waiter next, ?_, ?_⟩
      · simp only [step, hsession, Option.bind_some, hstep, Option.map_some]
      · have hput : (flow.put waiter next).sessions waiter = some next :=
          Function.update_self ..
        have htokens := (ControlSession.step_tokens hstep).1
        have htwice : (flow.put waiter next).put waiter session' = flow.put waiter session' := by
          simp [put]
        exact (ih hput (by rwa [htokens])).trans (congrArg some htwice)

/-- Every session waits for its client and has read no report. -/
structure Blocked (buffers : WaiterId → Nat) (calls : List CoordinatorCall) (flow : Flow) :
    Prop where
  coordinator : flow.coordinator = replay calls
  waiting : flow.waiting = none
  cancelled : flow.tokens.cancelled = []
  sessions : ∀ waiter < flow.coordinator.next, ∃ session,
    flow.sessions waiter = some session ∧ session.AwaitsClient (buffers waiter)

theorem sound_replay (calls : List CoordinatorCall) : (replay calls).Sound := by
  induction calls using List.reverseRecOn with
  | nil => exact Coordinator.sound_empty
  | append_singleton calls call ih =>
      rw [replay_snoc]
      cases call with
      | register transferId => exact ih.register.1
      | reportProgress report =>
          obtain ⟨hpending, hchannels, hnext⟩ := (replay calls).reportProgress_same report
          exact (ih.of_same hpending hchannels hnext).1
      | completeAck ack => exact (ih.complete _ _).1
      | cancel transferId => exact (ih.complete _ _).1

variable {calls : List CoordinatorCall}

theorem Blocked.session (h : Blocked buffers calls flow) {transferId : Uuid}
    {waiter : WaiterId} (hlookup : (replay calls).pending.lookup transferId = some waiter) :
    ∃ session, flow.sessions waiter = some session ∧
      session.AwaitsClient (buffers waiter) := by
  apply h.sessions
  rw [h.coordinator]
  exact (sound_replay calls).bounded _ _ hlookup

theorem Blocked.register (h : Blocked buffers calls flow) (transferId : Uuid) :
    ∃ steps flow', flow.run buffers steps = some flow' ∧
      callsOf steps = [.register transferId] ∧
      Blocked buffers (calls ++ [.register transferId]) flow' := by
  let waiter := flow.coordinator.next
  let session := ControlSession.start transferId flow.tokens.new.1
    (flow.tokens.new.2.child flow.tokens.new.1).1
  let opened := flow.register transferId
  have hopened : opened.sessions waiter = some session := Function.update_self ..
  have hopen : flow.run buffers [.call (.register transferId)] = some opened := rfl
  obtain ⟨turns, stopped, hturns, hsettling, hawaits⟩ :=
    @ControlSession.Importing.stopped (buffers waiter) (opened.tokens.isCancelled session.cancel)
      session (ControlSession.importing_start _ _ _) rfl
  have hrun := run_append hopen (run_turns hopened hturns)
  have huncancelled : opened.tokens.isCancelled stopped.cancel = false := by
    simp [Tokens.isCancelled, opened, Flow.register, Tokens.new, Tokens.child, h.cancelled]
  let closed := stopped.close (.error "import failed")
  have hsettle : (opened.put waiter stopped).run buffers [.settle waiter] =
      some (opened.put waiter closed) := by
    have hput : (opened.put waiter stopped).sessions waiter = some stopped :=
      Function.update_self ..
    simp only [run, List.foldlM_cons, List.foldlM_nil, step, hput, Option.bind_some, hsettling,
      settle]
    rw [if_neg (by simpa [put] using huncancelled)]
    simp [put, closed]
  refine ⟨_, _, run_append hrun hsettle, ?_, ?_, h.waiting, h.cancelled, ?_⟩
  · simp [callsOf, List.filterMap_map]
  · rw [replay_snoc, ← h.coordinator]
    rfl
  · intro other hother
    have hnext : other < flow.coordinator.next + 1 := by
      rwa [← Coordinator.register_next flow.coordinator transferId]
    by_cases hsame : other = waiter
    · subst hsame
      exact ⟨closed, Function.update_self .., hawaits⟩
    · obtain ⟨found, hfound, hwaits⟩ := h.sessions other
        (lt_of_le_of_ne (Nat.le_of_lt_succ hnext) hsame)
      refine ⟨found, ?_, hwaits⟩
      simpa [put, opened, Flow.register, Function.update_of_ne hsame, waiter] using hfound

theorem Blocked.reportProgress (h : Blocked buffers calls flow) {report : SendProgress}
    (hfits : Fits (calls ++ [.reportProgress report])) :
    Blocked buffers (calls ++ [.reportProgress report]) (flow.reportProgress report) := by
  rw [Flow.reportProgress, h.coordinator]
  cases hlookup : (replay calls).pending.lookup report.transferId with
  | none =>
      have hreplay : (replay calls).reportProgress report = replay calls := by
        rw [Coordinator.reportProgress, hlookup]
      exact { h with
        coordinator := by rw [replay_snoc, Coordinator.call, hreplay, h.coordinator] }
  | some waiter =>
      obtain ⟨session, hsession, hawaits⟩ := h.session hlookup
      have hroom := hfits.room hlookup
      rw [← h.coordinator] at hroom
      have hreplay := Coordinator.reportProgress_eq hlookup
      dsimp only
      rw [offer, if_pos (hawaits.receives hsession), if_pos hroom]
      refine ⟨?_, rfl, h.cancelled, h.sessions⟩
      rw [replay_snoc, Coordinator.call, hreplay, h.coordinator]

theorem Blocked.complete (h : Blocked buffers calls flow) {call : CoordinatorCall}
    (hnext : (flow.coordinator.call call).next = flow.coordinator.next) :
    Blocked buffers (calls ++ [call])
      { flow with coordinator := flow.coordinator.call call } := by
  refine { h with coordinator := ?_, sessions := ?_ }
  · rw [replay_snoc, h.coordinator]
  · intro waiter hwaiter
    exact h.sessions waiter (hnext ▸ hwaiter)

theorem blocked_run (buffers : WaiterId → Nat) (hfits : Fits calls) :
    ∃ steps flow, Flow.new.run buffers steps = some flow ∧ callsOf steps = calls ∧
      Blocked buffers calls flow := by
  induction calls using List.reverseRecOn with
  | nil =>
      exact ⟨[], .new, rfl, rfl, rfl, rfl, rfl, fun _ h => absurd h (Nat.not_lt_zero _)⟩
  | append_singleton calls call ih =>
      obtain ⟨steps, flow, hrun, hcalls, hblocked⟩ :=
        ih (hfits.of_prefix (List.prefix_append _ _))
      have hgo : ∃ steps' flow', flow.run buffers steps' = some flow' ∧
          callsOf steps' = [call] ∧ Blocked buffers (calls ++ [call]) flow' := by
        cases call with
        | register transferId => exact hblocked.register transferId
        | reportProgress report =>
            refine ⟨[.call (.reportProgress report)], _, ?_, rfl, hblocked.reportProgress hfits⟩
            simp [run, step, Flow.call, hblocked.waiting]
        | completeAck ack =>
            refine ⟨[.call (.completeAck ack)], _, ?_, rfl,
              hblocked.complete (Coordinator.complete_next _ _ _ _)⟩
            simp [run, step, Flow.call, hblocked.waiting]
        | cancel transferId =>
            exact ⟨[.call (.cancel transferId)], _, rfl, rfl,
              hblocked.complete (Coordinator.complete_next _ _ _ _)⟩
      obtain ⟨steps', flow', hrun', hcalls', hblocked'⟩ := hgo
      exact ⟨steps ++ steps', flow', run_append hrun hrun', by rw [callsOf_append, hcalls, hcalls'],
        hblocked'⟩

/-- One report more than fits holds up the dispatch loop. -/
theorem Blocked.stalled (h : Blocked buffers calls flow) {report : SendProgress}
    {waiter : WaiterId}
    (hlookup : (replay calls).pending.lookup report.transferId = some waiter)
    (hfull : PROGRESS_CAPACITY ≤ ((replay calls).progress waiter).length) :
    (flow.reportProgress report).Stalled buffers := by
  obtain ⟨session, hsession, hawaits⟩ := h.session hlookup
  rw [← h.coordinator] at hfull
  have hoffer : flow.reportProgress report = { flow with waiting := some (waiter, report) } := by
    rw [Flow.reportProgress, h.coordinator, hlookup]
    dsimp only
    rw [offer, if_pos (hawaits.receives hsession), if_neg hfull.not_gt, ← h.coordinator]
  rw [hoffer]
  exact ⟨waiter, report, session, rfl, hfull, hsession, hawaits⟩

end Flow

theorem exists_overflow {calls : List CoordinatorCall} (h : ¬ Fits calls) :
    ∃ before report waiter, before ++ [.reportProgress report] <+: calls ∧ Fits before ∧
      (replay before).pending.lookup report.transferId = some waiter ∧
      PROGRESS_CAPACITY ≤ ((replay before).progress waiter).length := by
  induction calls using List.reverseRecOn with
  | nil =>
      refine absurd ?_ h
      intro before report after waiter hcalls
      simp at hcalls
  | append_singleton calls last ih =>
      by_cases hfits : Fits calls
      · simp only [Fits, not_forall, Nat.not_lt] at h
        obtain ⟨before, report, after, waiter, hcalls, hlookup, hfull⟩ := h
        rcases concat_eq_split hcalls with ⟨rfl, rfl⟩ | ⟨middle, hinit⟩
        · exact ⟨before, report, waiter, List.prefix_rfl, hfits, hlookup, hfull⟩
        · exact absurd (hfits before report middle waiter hinit hlookup) hfull.not_gt
      · obtain ⟨before, report, waiter, hahead, hfound⟩ := ih hfits
        exact ⟨before, report, waiter, hahead.trans (List.prefix_append _ _), hfound⟩

theorem stalled_of_overflow (buffers : WaiterId → Nat) {calls : List CoordinatorCall}
    (h : ¬ Fits calls) :
    ∃ steps flow, Flow.new.run buffers steps = some flow ∧ callsOf steps <+: calls ∧
      flow.Stalled buffers := by
  obtain ⟨before, report, waiter, hahead, hfits, hlookup, hfull⟩ := exists_overflow h
  obtain ⟨steps, flow, hrun, hcalls, hblocked⟩ := Flow.blocked_run buffers hfits
  have hlast : flow.run buffers [.call (.reportProgress report)] =
      some (flow.reportProgress report) := by
    simp [Flow.run, Flow.step, Flow.call, hblocked.waiting]
  refine ⟨_, _, Flow.run_append hrun hlast, ?_, hblocked.stalled hlookup hfull⟩
  rwa [callsOf_append, hcalls]

/-- The dispatch loop never waits for a session whose client does not read, whatever else
happens, exactly if the calls fit. -/
theorem dispatch_free_iff (buffers : WaiterId → Nat) (calls : List CoordinatorCall) :
    (∀ steps flow, Flow.new.run buffers steps = some flow → callsOf steps <+: calls →
      ¬ flow.Stalled buffers) ↔ Fits calls := by
  constructor
  · intro hfree
    by_contra hoverflow
    obtain ⟨steps, flow, hrun, hahead, hstalled⟩ := stalled_of_overflow buffers hoverflow
    exact hfree steps flow hrun hahead hstalled
  · rintro hfits steps flow hrun hahead ⟨waiter, report, session, hwaiting, -⟩
    have hfollows := Follows.run hrun (hfits.of_prefix hahead)
    rw [hfollows.waiting] at hwaiting
    cases hwaiting

theorem replay_reports {calls : List CoordinatorCall} {report : SendProgress}
    {waiter : WaiterId}
    (hlookup : (replay calls).pending.lookup report.transferId = some waiter) (count : Nat) :
    let after := replay (calls ++ List.replicate count (.reportProgress report))
    after.pending = (replay calls).pending ∧
      (after.progress waiter).length = ((replay calls).progress waiter).length + count := by
  induction count with
  | zero => simp
  | succ count ih =>
      obtain ⟨hpending, hlength⟩ := ih
      rw [← hpending] at hlookup
      rw [List.replicate_succ', ← List.append_assoc, replay_snoc, Coordinator.call,
        Coordinator.reportProgress_eq hlookup]
      refine ⟨hpending, ?_⟩
      simp only [Coordinator.push, Function.update_self, List.length_append, hlength,
        List.length_singleton, Nat.add_assoc]

def downloading : SendProgress :=
  { transferId := 7
    phase := .waitingForAck
    bytesDone := 1
    bytesTotal := 2
    currentFile := none }

/-- A client that stops reading, and a receiver that keeps reporting. -/
def silentClient : List CoordinatorCall :=
  .register 7 :: List.replicate 257 (.reportProgress downloading)

theorem silent_client_stalls :
    ¬ ∀ steps flow, Flow.new.run (fun _ => 1000) steps = some flow →
      callsOf steps <+: silentClient → ¬ flow.Stalled fun _ => 1000 := by
  intro hfree
  have hlookup : (replay [.register 7]).pending.lookup downloading.transferId = some 0 := by
    decide
  obtain ⟨hpending, hlength⟩ := replay_reports hlookup 256
  have hoverflow : ¬ Fits silentClient := by
    intro hfits
    have hsnoc : silentClient = [.register 7] ++
        List.replicate 256 (.reportProgress downloading) ++ [.reportProgress downloading] :=
      congrArg (CoordinatorCall.register 7 :: ·) List.replicate_succ'
    rw [← hpending] at hlookup
    have hroom := hfits _ downloading [] 0 hsnoc hlookup
    exact hroom.not_ge ((Nat.le_add_left _ _).trans hlength.ge)
  obtain ⟨steps, flow, hrun, hahead, hstalled⟩ := stalled_of_overflow _ hoverflow
  exact hfree steps flow hrun hahead hstalled

end Failsafe.Send
