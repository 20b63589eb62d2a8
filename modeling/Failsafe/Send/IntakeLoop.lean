import Failsafe.Send.Backpressure
import Failsafe.Send.Isolation

/-!
The dispatch loop of a daemon in front of its intake: a report for a session whose channel is
full stops it, and every later message waits (`report_progress` of `coordinator.rs`).
-/

namespace Failsafe.Send

open Failsafe.Core Failsafe.Lib

/-- What a message finds when it is handled. -/
structure Encounter where
  found : Intake
  gone : WaiterId → Bool
  «from» : DeviceId
  envelope : SendEnvelope

/-- The loop with the messages that have come in.  `gone` are the waiters whose session has
dropped its end of the channel, `waiting` is the report that the loop waits with, and `met`
are the messages that it has handled, oldest first. -/
structure IntakeLoop where
  intake : Intake
  gone : WaiterId → Bool
  waiting : Option (WaiterId × SendProgress)
  queue : List (DeviceId × SendEnvelope)
  met : List Encounter

namespace IntakeLoop

def start : IntakeLoop :=
  { intake := .start, gone := fun _ => false, waiting := none, queue := [], met := [] }

/-- `tx.send(progress)` at the channel of a waiter. -/
def offer (loop : IntakeLoop) (waiter : WaiterId) (report : SendProgress) : IntakeLoop :=
  if loop.gone waiter then { loop with waiting := none }
  else if (loop.intake.coordinator.progress waiter).length < PROGRESS_CAPACITY then
    { loop with
      intake := { loop.intake with coordinator := loop.intake.coordinator.push waiter report }
      waiting := none }
  else { loop with waiting := some (waiter, report) }

def handle (loop : IntakeLoop) («from» : DeviceId) (envelope : SendEnvelope) : IntakeLoop :=
  let loop := { loop with met := loop.met ++ [⟨loop.intake, loop.gone, «from», envelope⟩] }
  match envelope with
  | .progress report =>
      match loop.intake.coordinator.pending.lookup report.transferId with
      | none => loop
      | some waiter => loop.offer waiter report
  | _ => { loop with intake := loop.intake.message «from» envelope }

/-- The loop goes through the messages that have come in meanwhile. -/
def work : List (DeviceId × SendEnvelope) → IntakeLoop → IntakeLoop
  | [], loop => { loop with queue := [] }
  | («from», envelope) :: queue, loop =>
      if (loop.handle «from» envelope).waiting.isNone then
        work queue (loop.handle «from» envelope)
      else { loop.handle «from» envelope with queue }

/-- The loop looks again at the channel that it waits for. -/
def resume (loop : IntakeLoop) : IntakeLoop :=
  match loop.waiting with
  | none => loop
  | some (waiter, report) =>
      if (loop.offer waiter report).waiting.isNone then
        work loop.queue (loop.offer waiter report)
      else loop.offer waiter report

def step (loop : IntakeLoop) : IntakeEvent → IntakeLoop
  | .message «from» envelope =>
      if loop.waiting.isNone then loop.handle «from» envelope
      else { loop with queue := loop.queue ++ [(«from», envelope)] }
  | .hangUp waiter => { loop with gone := Function.update loop.gone waiter true }
  | .poll => loop.resume
  | event => { loop with intake := loop.intake.step event }

def run (events : List IntakeEvent) : IntakeLoop :=
  events.foldl step start

theorem run_snoc (events : List IntakeEvent) (event : IntakeEvent) :
    run (events ++ [event]) = (run events).step event := by
  rw [run, List.foldl_append]
  rfl

end IntakeLoop

namespace Encounter

/-- A report is dropped, or its channel has room. -/
def HasRoom (encounter : Encounter) : Prop :=
  match encounter.envelope with
  | .progress report =>
      ∀ waiter ∈ encounter.found.coordinator.pending.lookup report.transferId,
        encounter.gone waiter = true ∨
          (encounter.found.coordinator.progress waiter).length < PROGRESS_CAPACITY
  | _ => True

instance : DecidablePred HasRoom
  | ⟨found, gone, _, .progress report⟩ =>
      inferInstanceAs (Decidable (∀ waiter ∈ found.coordinator.pending.lookup report.transferId,
        gone waiter = true ∨ (found.coordinator.progress waiter).length < PROGRESS_CAPACITY))
  | ⟨_, _, _, .transfer _⟩ | ⟨_, _, _, .transferHeader _⟩ | ⟨_, _, _, .transferChunk _⟩
  | ⟨_, _, _, .transferEnd _⟩ | ⟨_, _, _, .ack _⟩ => .isTrue trivial

/-- No session waits for this answer or report. -/
def Waiterless (encounter : Encounter) : Prop :=
  match encounter.envelope with
  | .ack answer => encounter.found.coordinator.pending.lookup answer.transferId = none
  | .progress report => encounter.found.coordinator.pending.lookup report.transferId = none
  | _ => True

end Encounter

namespace IntakeLoop

section Steps

variable {seen : DeviceId → Prop} {transferId : Uuid} {registered : List Uuid}
  {loop loop' : IntakeLoop} {waiter : WaiterId} {report : SendProgress}

theorem offer_cases (loop : IntakeLoop) (waiter : WaiterId) (report : SendProgress) :
    (loop.gone waiter = true ∧ loop.offer waiter report = { loop with waiting := none }) ∨
    (loop.gone waiter = false ∧
      (loop.intake.coordinator.progress waiter).length < PROGRESS_CAPACITY ∧
      loop.offer waiter report =
        { loop with
          intake := { loop.intake with coordinator := loop.intake.coordinator.push waiter report }
          waiting := none }) ∨
    (loop.gone waiter = false ∧
      PROGRESS_CAPACITY ≤ (loop.intake.coordinator.progress waiter).length ∧
      loop.offer waiter report = { loop with waiting := some (waiter, report) }) := by
  unfold offer
  split
  · next hgone => exact .inl ⟨hgone, rfl⟩
  · next hthere =>
      have hthere : loop.gone waiter = false := by simpa using hthere
      split
      · next hroom => exact .inr (.inl ⟨hthere, hroom, rfl⟩)
      · next hfull => exact .inr (.inr ⟨hthere, Nat.le_of_not_lt hfull, rfl⟩)

theorem offer_met : (loop.offer waiter report).met = loop.met := by
  rcases loop.offer_cases waiter report with ⟨-, h⟩ | ⟨-, -, h⟩ | ⟨-, -, h⟩ <;> rw [h]

theorem offer_queue : (loop.offer waiter report).queue = loop.queue := by
  rcases loop.offer_cases waiter report with ⟨-, h⟩ | ⟨-, -, h⟩ | ⟨-, -, h⟩ <;> rw [h]

theorem offer_gone : (loop.offer waiter report).gone = loop.gone := by
  rcases loop.offer_cases waiter report with ⟨-, h⟩ | ⟨-, -, h⟩ | ⟨-, -, h⟩ <;> rw [h]

theorem offer_timers : (loop.offer waiter report).intake.timers = loop.intake.timers := by
  rcases loop.offer_cases waiter report with ⟨-, h⟩ | ⟨-, -, h⟩ | ⟨-, -, h⟩ <;> rw [h]

theorem offer_sound (hsound : Intake.Sound registered loop.intake) :
    Intake.Sound registered (loop.offer waiter report).intake := by
  rcases loop.offer_cases waiter report with ⟨-, h⟩ | ⟨-, -, h⟩ | ⟨-, -, h⟩ <;> rw [h]
  · exact hsound
  · exact hsound.report _
  · exact hsound

theorem offer_same :
    Intake.SameOn seen transferId registered (loop.offer waiter report).intake loop.intake := by
  rcases loop.offer_cases waiter report with ⟨-, h⟩ | ⟨-, -, h⟩ | ⟨-, -, h⟩ <;> rw [h]
  · exact .refl
  · exact Intake.report_same _ _
  · exact .refl

/-- A report is offered to its waiter, if there is one; any other message is taken at once. -/
theorem handle_cases (loop : IntakeLoop) («from» : DeviceId) (envelope : SendEnvelope) :
    (∃ report, envelope = .progress report ∧
      loop.intake.coordinator.pending.lookup report.transferId = none ∧
      loop.handle «from» envelope =
        { loop with met := loop.met ++ [⟨loop.intake, loop.gone, «from», envelope⟩] }) ∨
    (∃ report waiter, envelope = .progress report ∧
      loop.intake.coordinator.pending.lookup report.transferId = some waiter ∧
      loop.handle «from» envelope =
        offer { loop with met := loop.met ++ [⟨loop.intake, loop.gone, «from», envelope⟩] }
          waiter report) ∨
    (∀ report, envelope ≠ .progress report) ∧
      loop.handle «from» envelope =
        { loop with
          met := loop.met ++ [⟨loop.intake, loop.gone, «from», envelope⟩]
          intake := loop.intake.message «from» envelope } := by
  cases envelope with
  | progress report =>
      cases hlookup : loop.intake.coordinator.pending.lookup report.transferId with
      | none =>
          refine .inl ⟨report, rfl, hlookup, ?_⟩
          simp only [handle, hlookup]
      | some waiter =>
          refine .inr (.inl ⟨report, waiter, rfl, hlookup, ?_⟩)
          simp only [handle, hlookup]
  | _ => exact .inr (.inr ⟨nofun, rfl⟩)

theorem handle_met («from» : DeviceId) (envelope : SendEnvelope) :
    (loop.handle «from» envelope).met =
      loop.met ++ [⟨loop.intake, loop.gone, «from», envelope⟩] := by
  rcases handle_cases loop «from» envelope with
    ⟨_, _, _, h⟩ | ⟨_, _, _, _, h⟩ | ⟨_, h⟩ <;> rw [h]
  exact offer_met

theorem handle_sound (hsound : Intake.Sound registered loop.intake) («from» : DeviceId)
    (envelope : SendEnvelope) :
    Intake.Sound registered (loop.handle «from» envelope).intake := by
  rcases handle_cases loop «from» envelope with
    ⟨_, _, _, h⟩ | ⟨_, _, _, _, h⟩ | ⟨_, h⟩ <;> rw [h]
  · exact hsound
  · exact offer_sound hsound
  · exact hsound.message «from» envelope

theorem handle_timers {«from» sender : DeviceId} (hsender : sender ≠ «from»)
    (envelope : SendEnvelope) :
    (loop.handle «from» envelope).intake.timers sender = loop.intake.timers sender := by
  rcases handle_cases loop «from» envelope with
    ⟨_, _, _, h⟩ | ⟨_, _, _, _, h⟩ | ⟨_, h⟩ <;> rw [h]
  · rw [offer_timers]
  · exact Intake.message_timers _ hsender envelope

theorem handle_same («from» : DeviceId) (envelope : SendEnvelope) :
    Intake.SameOn seen transferId registered (loop.handle «from» envelope).intake
      (loop.intake.message «from» envelope) := by
  have hreport : ∀ report, Intake.SameOn seen transferId registered loop.intake
      (loop.intake.message «from» (.progress report)) := by
    intro report
    obtain ⟨hpending, hchannels, -⟩ := loop.intake.coordinator.reportProgress_same report
    rw [Intake.message_eq]
    simp only [handleOwn, List.foldl_cons, List.foldl_nil, Intake.perform,
      Function.update_eq_self]
    exact ⟨rfl, fun _ _ => rfl, (congrArg (AList.lookup transferId) hpending).symm,
      fun waiter _ => (congrFun hchannels waiter).symm, rfl⟩
  rcases handle_cases loop «from» envelope with
    ⟨report, rfl, _, h⟩ | ⟨report, _, rfl, _, h⟩ | ⟨_, h⟩
  · rw [h]
    exact hreport report
  · rw [h]
    exact offer_same.trans (hreport report)
  · rw [h]
    exact .refl

theorem handle_unrelated (hsound : Intake.Sound registered loop.intake) («from» : DeviceId)
    {envelope : SendEnvelope} (h : Intake.Unrelated transferId loop.intake envelope) :
    Intake.SameOn seen transferId registered (loop.handle «from» envelope).intake loop.intake :=
  (handle_same «from» envelope).trans (Intake.message_unrelated hsound «from» h)

/-- A daemon handles a message as its loop does, while every session listens and no channel is
full. -/
theorem receive_eq_handle (limits : Clipboard.ClipboardLimits) (daemon : Daemon)
    («from» : DeviceId) (envelope : SendEnvelope)
    (hpending : loop.intake.pendingChunkedTransfers = daemon.pendingChunkedTransfers)
    (hcoordinator : loop.intake.coordinator = daemon.coordinator)
    (hlistening : ∀ waiter, loop.gone waiter = false)
    (hroom : Encounter.HasRoom ⟨loop.intake, loop.gone, «from», envelope⟩) :
    (daemon.receive limits «from» envelope none).1.pendingChunkedTransfers =
        (loop.handle «from» envelope).intake.pendingChunkedTransfers ∧
      (daemon.receive limits «from» envelope none).1.coordinator =
        (loop.handle «from» envelope).intake.coordinator := by
  obtain ⟨hpending', hcoordinator'⟩ := Intake.receive_eq_message limits daemon «from» envelope
    loop.intake hpending hcoordinator
  rw [hpending', hcoordinator', Intake.message_eq]
  rcases handle_cases loop «from» envelope with
    ⟨report, rfl, hlookup, h⟩ | ⟨report, waiter, rfl, hlookup, h⟩ | ⟨-, h⟩
  · rw [h]
    simp [handleOwn, Intake.perform, Coordinator.reportProgress, hlookup]
  · rw [h]
    rcases offer_cases { loop with met := loop.met ++ [_] } waiter report with
      ⟨hgone, -⟩ | ⟨-, -, h⟩ | ⟨-, hfull, -⟩
    · exact absurd ((hlistening waiter).symm.trans hgone) Bool.false_ne_true
    · rw [h]
      simp [handleOwn, Intake.perform, Coordinator.reportProgress_eq hlookup]
    · rcases hroom waiter hlookup with hgone | hlength
      · exact absurd ((hlistening waiter).symm.trans hgone) Bool.false_ne_true
      · exact absurd hlength (Nat.not_lt.mpr hfull)
  · rw [h, Intake.message_eq]
    exact ⟨rfl, rfl⟩

theorem work_met (queue : List (DeviceId × SendEnvelope)) (loop : IntakeLoop) :
    loop.met <+: (work queue loop).met := by
  induction queue generalizing loop with
  | nil => exact List.prefix_refl _
  | cons message queue ih =>
      obtain ⟨«from», envelope⟩ := message
      have hmet : loop.met <+: (loop.handle «from» envelope).met := by
        rw [handle_met]
        exact List.prefix_append _ _
      unfold work
      split
      · exact hmet.trans (ih _)
      · exact hmet

end Steps

/-- An intake beside one that has had no message of `c`, as far as the transfer can tell. -/
structure Beside (c : DeviceId) (transferId : Uuid) (registered : List Uuid)
    (intake other : Intake) : Prop where
  sound : Intake.Sound registered intake
  sound' : Intake.Sound registered other
  timers : intake.timers c transferId = 0
  same : Intake.SameOn (· ≠ c) transferId registered intake other

namespace Beside

variable {c «from» : DeviceId} {transferId : Uuid} {registered : List Uuid}
  {loop loop' : IntakeLoop} {intake other : Intake} {envelope : SendEnvelope}

theorem start : Beside c transferId [] .start .start :=
  ⟨Intake.sound_start, Intake.sound_start, rfl, .refl⟩

theorem message (h : Beside c transferId registered loop.intake other) (hfrom : «from» ≠ c) :
    Beside c transferId registered (loop.handle «from» envelope).intake
      (other.message «from» envelope) := by
  refine ⟨handle_sound h.sound «from» envelope, h.sound'.message «from» envelope, ?_, ?_⟩
  · rw [handle_timers hfrom.symm]
    exact h.timers
  · exact (handle_same «from» envelope).trans
      (Intake.message_both h.sound h.sound' h.same «from» envelope)

theorem handle (h : Beside c transferId registered loop.intake loop'.intake)
    (hfrom : «from» ≠ c) :
    Beside c transferId registered (loop.handle «from» envelope).intake
      (loop'.handle «from» envelope).intake := by
  have hmessage : Beside c transferId registered (loop.handle «from» envelope).intake
      (loop'.intake.message «from» envelope) := h.message hfrom
  exact ⟨hmessage.sound, handle_sound h.sound' «from» envelope, hmessage.timers,
    hmessage.same.trans (handle_same «from» envelope).symm⟩

theorem own (h : Beside c transferId registered loop.intake other)
    (hunrelated : Intake.Unrelated transferId loop.intake envelope) :
    Beside c transferId registered (loop.handle c envelope).intake other := by
  have hseen : Intake.SameOn (fun _ => True) transferId registered
      (loop.handle c envelope).intake loop.intake := handle_unrelated h.sound c hunrelated
  refine ⟨handle_sound h.sound c envelope, h.sound', ?_, ?_⟩
  · exact (hseen.timers c trivial).trans h.timers
  · exact (handle_unrelated h.sound c hunrelated).trans h.same

theorem step {event : IntakeEvent} (h : Beside c transferId registered intake other)
    (hnot : event.notOf c = true) (hmessage : ∀ «from» envelope, event ≠ .message «from» envelope) :
    Beside c transferId (registered ++ event.registers.toList) (intake.step event)
      (other.step event) := by
  refine ⟨h.sound.step event, h.sound'.step event, ?_, Intake.step_same hnot h.sound h.sound' h.same⟩
  cases event with
  | message «from» envelope => exact (hmessage «from» envelope rfl).elim
  | chunkTimeout «from» ended => exact Intake.chunkTimeout_timers _ h.timers
  | _ => exact h.timers

end Beside

/-- A loop beside one that gets no message of `c`: it waits when the other does. -/
structure Shadow (c : DeviceId) (transferId : Uuid) (registered : List Uuid)
    (loop loop' : IntakeLoop) : Prop where
  beside : Beside c transferId registered loop.intake loop'.intake
  coordinator : loop'.intake.coordinator = loop.intake.coordinator
  gone : loop'.gone = loop.gone
  waiting : loop'.waiting = loop.waiting
  queue : loop'.queue = loop.queue.filter fun message => message.1 ≠ c

/-- What is asked of the messages of `c`, from some message on. -/
def Harmless (c : DeviceId) (transferId : Uuid) (met : List Encounter) : Prop :=
  ∀ encounter ∈ met, encounter.from = c →
    Intake.Unrelated transferId encounter.found encounter.envelope ∧ encounter.Waiterless

theorem message_coordinator (intake : Intake) («from» : DeviceId) {envelope : SendEnvelope}
    (hack : ∀ answer, envelope ≠ .ack answer) (hprogress : ∀ report, envelope ≠ .progress report) :
    (intake.message «from» envelope).coordinator = intake.coordinator := by
  rw [Intake.message_eq]
  rcases handleOwn_waiterless «from» (intake.pendingChunkedTransfers envelope.transferId) hack
    hprogress with h | ⟨sender, payload, h⟩ | ⟨sender, other, h⟩
  all_goals
    simp only [h]
    rfl

/-- A message depends on the coordinator as it is, and leaves one that depends on nothing else. -/
theorem message_coordinator_congr {intake intake' : Intake}
    (h : intake'.coordinator = intake.coordinator) («from» : DeviceId) (envelope : SendEnvelope) :
    (intake'.message «from» envelope).coordinator =
      (intake.message «from» envelope).coordinator := by
  have hpart : (∀ answer, envelope ≠ .ack answer) → (∀ report, envelope ≠ .progress report) →
      (intake'.message «from» envelope).coordinator =
        (intake.message «from» envelope).coordinator := by
    intro hack hprogress
    rw [message_coordinator intake' «from» hack hprogress, h,
      message_coordinator intake «from» hack hprogress]
  cases envelope with
  | ack answer =>
      simp only [Intake.message_eq, handleOwn, List.foldl_cons, List.foldl_nil, Intake.perform, h]
  | progress report =>
      simp only [Intake.message_eq, handleOwn, List.foldl_cons, List.foldl_nil, Intake.perform, h]
  | _ => exact hpart (fun _ h => by cases h) fun _ h => by cases h

theorem offer_congr {loop loop' : IntakeLoop} (waiter : WaiterId) (report : SendProgress)
    (hgone : loop'.gone = loop.gone)
    (hcoordinator : loop'.intake.coordinator = loop.intake.coordinator) :
    (loop'.offer waiter report).intake.coordinator =
        (loop.offer waiter report).intake.coordinator ∧
      (loop'.offer waiter report).waiting = (loop.offer waiter report).waiting := by
  unfold offer
  rw [hgone, hcoordinator]
  split
  · exact ⟨hcoordinator, rfl⟩
  · split
    · exact ⟨rfl, rfl⟩
    · exact ⟨hcoordinator, rfl⟩

namespace Shadow

variable {c «from» : DeviceId} {transferId : Uuid} {registered : List Uuid}
  {loop loop' : IntakeLoop} {envelope : SendEnvelope}

theorem offer (h : Shadow c transferId registered loop loop') (waiter : WaiterId)
    (report : SendProgress) :
    Shadow c transferId registered (loop.offer waiter report) (loop'.offer waiter report) := by
  obtain ⟨hcoordinator, hwaiting⟩ := offer_congr waiter report h.gone h.coordinator
  refine ⟨⟨offer_sound h.beside.sound, offer_sound h.beside.sound', ?_, ?_⟩, hcoordinator, ?_,
    hwaiting, ?_⟩
  · rw [offer_timers]
    exact h.beside.timers
  · exact offer_same.trans (h.beside.same.trans offer_same.symm)
  · rw [offer_gone, offer_gone, h.gone]
  · rw [offer_queue, offer_queue, h.queue]

theorem meet (h : Shadow c transferId registered loop loop') (met met' : List Encounter) :
    Shadow c transferId registered { loop with met } { loop' with met := met' } :=
  ⟨h.beside, h.coordinator, h.gone, h.waiting, h.queue⟩

theorem handle (h : Shadow c transferId registered loop loop') (hfrom : «from» ≠ c) :
    Shadow c transferId registered (loop.handle «from» envelope)
      (loop'.handle «from» envelope) := by
  have hmeet := h.meet (loop.met ++ [⟨loop.intake, loop.gone, «from», envelope⟩])
    (loop'.met ++ [⟨loop'.intake, loop'.gone, «from», envelope⟩])
  cases envelope with
  | progress report =>
      have hlookup : loop'.intake.coordinator.pending.lookup report.transferId =
          loop.intake.coordinator.pending.lookup report.transferId := by rw [h.coordinator]
      simp only [IntakeLoop.handle, hlookup]
      split
      · exact hmeet
      · exact hmeet.offer _ report
  | _ =>
      refine ⟨h.beside.handle hfrom, ?_, h.gone, h.waiting, h.queue⟩
      exact message_coordinator_congr h.coordinator «from» _

theorem own (h : Shadow c transferId registered loop loop')
    (hunrelated : Intake.Unrelated transferId loop.intake envelope)
    (hwaiterless : Encounter.Waiterless ⟨loop.intake, loop.gone, c, envelope⟩) :
    Shadow c transferId registered (loop.handle c envelope) loop' ∧
      (loop.handle c envelope).waiting = loop.waiting := by
  have hbeside := h.beside.own hunrelated
  have hpart : (∀ answer, envelope ≠ .ack answer) → (∀ report, envelope ≠ .progress report) →
      loop.handle c envelope =
        { loop with
          met := loop.met ++ [⟨loop.intake, loop.gone, c, envelope⟩]
          intake := loop.intake.message c envelope } →
      Shadow c transferId registered (loop.handle c envelope) loop' ∧
        (loop.handle c envelope).waiting = loop.waiting := by
    intro hack hprogress hhandle
    have hcoordinator := message_coordinator loop.intake c hack hprogress
    refine ⟨⟨hbeside, ?_, ?_, ?_, ?_⟩, ?_⟩ <;> rw [hhandle]
    · exact h.coordinator.trans hcoordinator.symm
    · exact h.gone
    · exact h.waiting
    · exact h.queue
  cases envelope with
  | progress report =>
      have hnone : loop.intake.coordinator.pending.lookup report.transferId = none := hwaiterless
      have hhandle : loop.handle c (.progress report) =
          { loop with
            met := loop.met ++ [⟨loop.intake, loop.gone, c, .progress report⟩] } := by
        simp only [IntakeLoop.handle, hnone]
      rw [hhandle] at hbeside ⊢
      exact ⟨⟨hbeside, h.coordinator, h.gone, h.waiting, h.queue⟩, rfl⟩
  | ack answer =>
      have hnone : loop.intake.coordinator.pending.lookup answer.transferId = none := hwaiterless
      have hcoordinator : (loop.intake.message c (.ack answer)).coordinator =
          loop.intake.coordinator := by
        simp only [Intake.message_eq, handleOwn, List.foldl_cons, List.foldl_nil, Intake.perform,
          Coordinator.complete, hnone]
      exact ⟨⟨hbeside, h.coordinator.trans hcoordinator.symm, h.gone, h.waiting, h.queue⟩, rfl⟩
  | _ => exact hpart (fun _ h => by cases h) (fun _ h => by cases h) rfl

theorem work (queue : List (DeviceId × SendEnvelope))
    (h : Shadow c transferId registered loop loop') (hfree : loop.waiting = none)
    (hharmless : Harmless c transferId (IntakeLoop.work queue loop).met) :
    Shadow c transferId registered (IntakeLoop.work queue loop)
      (IntakeLoop.work (queue.filter fun message => message.1 ≠ c) loop') := by
  induction queue generalizing loop loop' with
  | nil => exact ⟨h.beside, h.coordinator, h.gone, h.waiting, rfl⟩
  | cons message queue ih =>
      obtain ⟨sender, envelope⟩ := message
      rcases eq_or_ne sender c with rfl | hsender
      · have hmet : ⟨loop.intake, loop.gone, sender, envelope⟩ ∈
            (IntakeLoop.work ((sender, envelope) :: queue) loop).met := by
          unfold IntakeLoop.work
          split
          · refine (work_met _ _).subset ?_
            rw [handle_met]
            exact List.mem_append_right _ (List.mem_singleton.mpr rfl)
          · rw [handle_met]
            exact List.mem_append_right _ (List.mem_singleton.mpr rfl)
        obtain ⟨hunrelated, hwaiterless⟩ := hharmless _ hmet rfl
        obtain ⟨hown, hwaiting⟩ := h.own hunrelated hwaiterless
        have hfree' := hwaiting.trans hfree
        have hskip : ((sender, envelope) :: queue).filter (fun message => message.1 ≠ sender) =
            queue.filter fun message => message.1 ≠ sender := by simp
        rw [hskip]
        simp only [IntakeLoop.work, hfree', Option.isNone_none, if_true] at hharmless ⊢
        exact ih hown hfree' hharmless
      · have hkeep : ((sender, envelope) :: queue).filter (fun message => message.1 ≠ c) =
            (sender, envelope) :: queue.filter fun message => message.1 ≠ c := by simp [hsender]
        have hboth : Shadow c transferId registered (loop.handle sender envelope)
            (loop'.handle sender envelope) := h.handle hsender
        rw [hkeep]
        simp only [IntakeLoop.work, hboth.waiting] at hharmless ⊢
        split at hharmless
        · next hfree' =>
            rw [if_pos hfree', if_pos hfree']
            exact ih hboth (Option.isNone_iff_eq_none.mp hfree') hharmless
        · next hstuck =>
            rw [if_neg hstuck, if_neg hstuck]
            exact ⟨hboth.beside, hboth.coordinator, hboth.gone, rfl, rfl⟩

theorem resume (h : Shadow c transferId registered loop loop')
    (hharmless : Harmless c transferId loop.resume.met) :
    Shadow c transferId registered loop.resume loop'.resume := by
  unfold IntakeLoop.resume at hharmless ⊢
  rw [h.waiting]
  split
  · exact h
  · next waiter report hwaiting =>
      have hoffer := h.offer waiter report
      simp only [hwaiting, hoffer.waiting, h.queue] at hharmless ⊢
      split at hharmless
      · next hfree =>
          rw [if_pos hfree, if_pos hfree]
          exact hoffer.work loop.queue (Option.isNone_iff_eq_none.mp hfree) hharmless
      · next hstuck =>
          rw [if_neg hstuck, if_neg hstuck]
          exact hoffer

theorem step {event : IntakeEvent} (h : Shadow c transferId registered loop loop')
    (hnot : event.notOf c = true)
    (hharmless : Harmless c transferId (loop.step event).met) :
    Shadow c transferId (registered ++ event.registers.toList) (loop.step event)
      (loop'.step event) := by
  have hquiet : ∀ {intake intake' : Intake},
      (∀ «from» envelope, event ≠ .message «from» envelope) → intake = loop.intake.step event →
      intake' = loop'.intake.step event → intake'.coordinator = intake.coordinator →
      Shadow c transferId (registered ++ event.registers.toList) { loop with intake }
        { loop' with intake := intake' } := by
    rintro _ _ hmessage rfl rfl hcoordinator
    exact ⟨h.beside.step hnot hmessage, hcoordinator, h.gone, h.waiting, h.queue⟩
  cases event with
  | message «from» envelope =>
      have hfrom : «from» ≠ c := of_decide_eq_true hnot
      simp only [IntakeEvent.registers, Option.toList_none, List.append_nil, IntakeLoop.step,
        h.waiting]
      split
      · exact h.handle hfrom
      · exact ⟨h.beside, h.coordinator, h.gone, rfl, by simp [h.queue, hfrom]⟩
  | chunkTimeout «from» ended =>
      refine hquiet (fun _ _ h => by cases h) rfl rfl ?_
      simp only [Intake.step, Intake.chunkTimeout]
      split <;> split <;> exact h.coordinator
  | register added =>
      exact hquiet (fun _ _ h => by cases h) rfl rfl (by simp only [Intake.step, h.coordinator])
  | cancel cancelled =>
      exact hquiet (fun _ _ h => by cases h) rfl rfl (by simp only [Intake.step, h.coordinator])
  | takeReport waiter =>
      exact hquiet (fun _ _ h => by cases h) rfl rfl
        (by simp only [Intake.step, Intake.takeReport, h.coordinator])
  | hangUp waiter =>
      simp only [IntakeEvent.registers, Option.toList_none, List.append_nil]
      refine ⟨h.beside, h.coordinator, ?_, h.waiting, h.queue⟩
      simp only [IntakeLoop.step, h.gone]
  | poll =>
      simp only [IntakeEvent.registers, Option.toList_none, List.append_nil]
      exact h.resume hharmless

end Shadow

end IntakeLoop

end Failsafe.Send
