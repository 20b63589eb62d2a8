import Failsafe.Lib.Machine
import Failsafe.Send.Backpressure

/-!
The order of the events of a `SendProgressReporter` (`failsafe-send/src/progress.rs`), and what
`run_send_progress_loop` of the CLI shows of them.
-/

namespace Failsafe.Send

open Failsafe.Lib

/-- A snapshot, and the number of the call that gives it. -/
structure GivenSnapshot where
  call : Nat
  snapshot : ProgressSnapshot
deriving DecidableEq, Repr

/-- A `ControlEvent::SendProgress` with its snapshot. -/
structure NumberedSnapshot where
  given : GivenSnapshot
  sequence : UInt64
deriving DecidableEq, Repr

/-- Where the caller is in its call. -/
inductive ReporterCaller where
  | idle
  -- `notify_one`
  | notifying
  -- `fetch_add` of `emit`
  | numbering (given : GivenSnapshot)
  | sending (event : NumberedSnapshot)
  -- `cancel.cancel()`
  | cancelling
deriving DecidableEq

/-- Where the task of `SendProgressReporter::new` is in its loop. -/
inductive ReporterFlush where
  | listening
  | notified
  | sleeping
  | slept
  | holding (given : GivenSnapshot)
  | sending (event : NumberedSnapshot)
  | ended
deriving DecidableEq

/-- `events` has all events that were built, `channel` those that were sent to the receiver. -/
structure SendProgressReporter where
  calls : Nat
  pending : Option GivenSnapshot
  permit : Bool
  cancelled : Bool
  sequence : UInt64
  caller : ReporterCaller
  flush : ReporterFlush
  events : List NumberedSnapshot
  channel : List NumberedSnapshot

inductive ReporterStep where
  | tryEmit (snapshot : ProgressSnapshot)
  | notify
  | emit (snapshot : ProgressSnapshot)
  | number
  | sent (received : Bool)
  | close
  | cancel
  | flushWake
  | flushCancelled
  | flushCheck
  | flushSlept
  | flushTake
  | flushNumber
  | flushSent (received : Bool)
deriving DecidableEq, Repr

namespace SendProgressReporter

def new : SendProgressReporter :=
  { calls := 0
    pending := none
    permit := false
    cancelled := false
    sequence := 0
    caller := .idle
    flush := .listening
    events := []
    channel := [] }

/-- `sequence.fetch_add(1) + 1`, in the event. -/
def numbered (reporter : SendProgressReporter) (given : GivenSnapshot) : NumberedSnapshot :=
  ⟨given, reporter.sequence + 1⟩

def push (reporter : SendProgressReporter) (received : Bool) (event : NumberedSnapshot) :
    List NumberedSnapshot :=
  if received then reporter.channel ++ [event] else reporter.channel

def step (reporter : SendProgressReporter) : ReporterStep → Option SendProgressReporter
  | .tryEmit snapshot =>
      match reporter.caller with
      | .idle =>
          some { reporter with
            calls := reporter.calls + 1
            pending := some ⟨reporter.calls, snapshot⟩
            caller := .notifying }
      | _ => none
  | .notify =>
      match reporter.caller with
      | .notifying => some { reporter with permit := true, caller := .idle }
      | _ => none
  | .emit snapshot =>
      match reporter.caller with
      | .idle =>
          some { reporter with
            calls := reporter.calls + 1
            pending := none
            caller := .numbering ⟨reporter.calls, snapshot⟩ }
      | _ => none
  | .number =>
      match reporter.caller with
      | .numbering given =>
          some { reporter with
            sequence := reporter.sequence + 1
            caller := .sending (reporter.numbered given)
            events := reporter.events ++ [reporter.numbered given] }
      | _ => none
  | .sent received =>
      match reporter.caller with
      | .sending event =>
          some { reporter with caller := .idle, channel := reporter.push received event }
      | _ => none
  | .close =>
      match reporter.caller with
      | .idle =>
          some { reporter with
            calls := reporter.calls + 1
            pending := none
            caller := .cancelling }
      | _ => none
  -- `notify_waiters` wakes a task that then finds the token cancelled
  | .cancel =>
      match reporter.caller with
      | .cancelling => some { reporter with cancelled := true, caller := .idle }
      | _ => none
  | .flushWake =>
      match reporter.flush, reporter.permit with
      | .listening, true => some { reporter with permit := false, flush := .notified }
      | _, _ => none
  | .flushCancelled =>
      match reporter.flush, reporter.cancelled with
      | .listening, true => some { reporter with flush := .ended }
      | _, _ => none
  | .flushCheck =>
      match reporter.flush with
      | .notified =>
          some { reporter with flush := if reporter.cancelled then .ended else .sleeping }
      | _ => none
  | .flushSlept =>
      match reporter.flush with
      | .sleeping =>
          some { reporter with flush := if reporter.cancelled then .ended else .slept }
      | _ => none
  | .flushTake =>
      match reporter.flush with
      | .slept =>
          match reporter.pending with
          | some given => some { reporter with pending := none, flush := .holding given }
          | none => some { reporter with flush := .listening }
      | _ => none
  | .flushNumber =>
      match reporter.flush with
      | .holding given =>
          some { reporter with
            sequence := reporter.sequence + 1
            flush := .sending (reporter.numbered given)
            events := reporter.events ++ [reporter.numbered given] }
      | _ => none
  | .flushSent received =>
      match reporter.flush with
      | .sending event =>
          some { reporter with flush := .listening, channel := reporter.push received event }
      | _ => none

end SendProgressReporter

/-- The events that the loop of the CLI does not skip. -/
def shownEvents (lastSequence : UInt64) : List NumberedSnapshot → List NumberedSnapshot
  | [] => []
  | event :: events =>
      if event.sequence ≤ lastSequence then shownEvents lastSequence events
      else event :: shownEvents event.sequence events

/-- The snapshot of an earlier call has the smaller sequence number. -/
def NumberedInOrder (events : List NumberedSnapshot) : Prop :=
  ∀ earlier ∈ events, ∀ later ∈ events,
    earlier.given.call < later.given.call → earlier.sequence < later.sequence

instance (events : List NumberedSnapshot) : Decidable (NumberedInOrder events) :=
  inferInstanceAs (Decidable (∀ _ ∈ _, ∀ _ ∈ _, _ → _))

/-- No snapshot is shown after that of a later call. -/
def ShownInOrder (channel : List NumberedSnapshot) : Prop :=
  (shownEvents 0 channel).Pairwise fun first second => first.given.call ≤ second.given.call

instance (channel : List NumberedSnapshot) : Decidable (ShownInOrder channel) :=
  inferInstanceAs (Decidable (List.Pairwise _ _))

/-- How many events are numbered. -/
def numberings (steps : List ReporterStep) : Nat :=
  steps.count .number + steps.count .flushNumber

namespace SendProgressReporter

/-- An `emit` numbers its event while the flush task holds a snapshot that it has taken before
and numbers after. -/
def Overtaken (reporter : SendProgressReporter) (steps : List ReporterStep) : Prop :=
  ∃ before after middle given, steps = before ++ .number :: after ∧
    runSteps step reporter before = some middle ∧ middle.flush = .holding given ∧
    .flushNumber ∈ after

/-- The event is sent, or is about to be. -/
def Sends (reporter : SendProgressReporter) (event : NumberedSnapshot) : Prop :=
  event ∈ reporter.channel ∨ reporter.caller = .sending event ∨ reporter.flush = .sending event

/-- No new call, snapshot or event. -/
structure Follows (reporter reporter' : SendProgressReporter) : Prop where
  calls : reporter'.calls = reporter.calls
  sequence : reporter'.sequence = reporter.sequence
  events : reporter'.events = reporter.events
  pending : ∀ given, reporter'.pending = some given → reporter.pending = some given
  numbering : ∀ given, reporter'.caller = .numbering given → reporter.caller = .numbering given
  holding : ∀ given, reporter'.flush = .holding given ↔ reporter.flush = .holding given
  sends : ∀ event, reporter'.Sends event → reporter.Sends event

/-- All that a step can do. -/
inductive Change (reporter : SendProgressReporter) :
    ReporterStep → SendProgressReporter → Prop where
  | quiet {input : ReporterStep} {reporter' : SendProgressReporter} (hnumber : input ≠ .number)
      (hflush : input ≠ .flushNumber) (hfollows : Follows reporter reporter') :
      Change reporter input reporter'
  | given (snapshot : ProgressSnapshot) :
      Change reporter (.tryEmit snapshot)
        { reporter with
          calls := reporter.calls + 1
          pending := some ⟨reporter.calls, snapshot⟩
          caller := .notifying }
  | cleared {input : ReporterStep} (caller : ReporterCaller) (hnumber : input ≠ .number)
      (hflush : input ≠ .flushNumber)
      (hcall : ∀ given, caller = .numbering given → given.call = reporter.calls)
      (hsending : ∀ event, caller ≠ .sending event) :
      Change reporter input { reporter with calls := reporter.calls + 1, pending := none, caller }
  | number (given : GivenSnapshot) (hcaller : reporter.caller = .numbering given) :
      Change reporter .number
        { reporter with
          sequence := reporter.sequence + 1
          caller := .sending (reporter.numbered given)
          events := reporter.events ++ [reporter.numbered given] }
  | taken (given : GivenSnapshot) (hflush : reporter.flush = .slept)
      (hpending : reporter.pending = some given) :
      Change reporter .flushTake { reporter with pending := none, flush := .holding given }
  | flushNumber (given : GivenSnapshot) (hflush : reporter.flush = .holding given) :
      Change reporter .flushNumber
        { reporter with
          sequence := reporter.sequence + 1
          flush := .sending (reporter.numbered given)
          events := reporter.events ++ [reporter.numbered given] }

section

variable {reporter reporter' : SendProgressReporter} {input : ReporterStep}

theorem follows_caller (permit cancelled : Bool) {channel : List NumberedSnapshot}
    {caller : ReporterCaller} (hcaller : ∀ given, caller ≠ .numbering given)
    (hsending : ∀ event, caller ≠ .sending event)
    (hchannel : ∀ event ∈ channel, reporter.Sends event) :
    Follows reporter { reporter with permit, cancelled, caller, channel } :=
  { calls := rfl
    sequence := rfl
    events := rfl
    pending := fun _ h => h
    numbering := fun given h => absurd h (hcaller given)
    holding := fun _ => Iff.rfl
    sends := by
      rintro event (hevent | hevent | hevent)
      · exact hchannel event hevent
      · exact absurd hevent (hsending event)
      · exact .inr (.inr hevent) }

theorem follows_flush (permit : Bool) {channel : List NumberedSnapshot} {flush : ReporterFlush}
    (hbefore : ∀ given, reporter.flush ≠ .holding given)
    (hafter : ∀ given, flush ≠ .holding given) (hsending : ∀ event, flush ≠ .sending event)
    (hchannel : ∀ event ∈ channel, reporter.Sends event) :
    Follows reporter { reporter with permit, flush, channel } :=
  { calls := rfl
    sequence := rfl
    events := rfl
    pending := fun _ h => h
    numbering := fun _ h => h
    holding := fun given => iff_of_false (hafter given) (hbefore given)
    sends := by
      rintro event (hevent | hevent | hevent)
      · exact hchannel event hevent
      · exact .inr (.inl hevent)
      · exact absurd hevent (hsending event) }

theorem sends_push {received : Bool} {event : NumberedSnapshot} (h : reporter.Sends event) :
    ∀ other ∈ reporter.push received event, reporter.Sends other := by
  intro other hother
  cases received with
  | false => exact .inl hother
  | true =>
      rcases List.mem_append.mp hother with hbefore | hlast
      · exact .inl hbefore
      · rwa [List.mem_singleton.mp hlast]

theorem step_change (h : step reporter input = some reporter') :
    Change reporter input reporter' := by
  cases input with
  | tryEmit snapshot =>
      simp only [step] at h
      split at h
      · obtain rfl := Option.some.inj h
        exact .given snapshot
      · cases h
  | notify =>
      simp only [step] at h
      split at h
      · obtain rfl := Option.some.inj h
        exact .quiet nofun nofun (follows_caller _ _ nofun nofun fun _ h => .inl h)
      · cases h
  | emit snapshot =>
      simp only [step] at h
      split at h
      · obtain rfl := Option.some.inj h
        refine .cleared _ nofun nofun ?_ nofun
        rintro _ ⟨rfl⟩
        rfl
      · cases h
  | number =>
      simp only [step] at h
      split at h
      · rename_i given hcaller
        obtain rfl := Option.some.inj h
        exact .number given hcaller
      · cases h
  | sent received =>
      simp only [step] at h
      split at h
      · rename_i event hsending
        obtain rfl := Option.some.inj h
        exact .quiet nofun nofun
          (follows_caller _ _ nofun nofun (sends_push (.inr (.inl hsending))))
      · cases h
  | close =>
      simp only [step] at h
      split at h
      · obtain rfl := Option.some.inj h
        exact .cleared .cancelling nofun nofun nofun nofun
      · cases h
  | cancel =>
      simp only [step] at h
      split at h
      · obtain rfl := Option.some.inj h
        exact .quiet nofun nofun (follows_caller _ _ nofun nofun fun _ h => .inl h)
      · cases h
  | flushWake =>
      simp only [step] at h
      split at h
      · rename_i hflush _
        obtain rfl := Option.some.inj h
        exact .quiet nofun nofun
          (follows_flush _ (by simp [hflush]) nofun nofun fun _ h => .inl h)
      · cases h
  | flushCancelled =>
      simp only [step] at h
      split at h
      · rename_i hflush _
        obtain rfl := Option.some.inj h
        exact .quiet nofun nofun
          (follows_flush _ (by simp [hflush]) nofun nofun fun _ h => .inl h)
      · cases h
  | flushCheck =>
      simp only [step] at h
      split at h
      · rename_i hflush
        obtain rfl := Option.some.inj h
        refine .quiet nofun nofun
          (follows_flush _ (by simp [hflush]) ?_ ?_ fun _ h => .inl h)
        · cases reporter.cancelled <;> exact nofun
        · cases reporter.cancelled <;> exact nofun
      · cases h
  | flushSlept =>
      simp only [step] at h
      split at h
      · rename_i hflush
        obtain rfl := Option.some.inj h
        refine .quiet nofun nofun
          (follows_flush _ (by simp [hflush]) ?_ ?_ fun _ h => .inl h)
        · cases reporter.cancelled <;> exact nofun
        · cases reporter.cancelled <;> exact nofun
      · cases h
  | flushTake =>
      simp only [step] at h
      split at h
      · rename_i hflush
        split at h
        · rename_i given hpending
          obtain rfl := Option.some.inj h
          exact .taken given hflush hpending
        · obtain rfl := Option.some.inj h
          exact .quiet nofun nofun
            (follows_flush _ (by simp [hflush]) nofun nofun fun _ h => .inl h)
      · cases h
  | flushNumber =>
      simp only [step] at h
      split at h
      · rename_i given hflush
        obtain rfl := Option.some.inj h
        exact .flushNumber given hflush
      · cases h
  | flushSent received =>
      simp only [step] at h
      split at h
      · rename_i event hflush
        obtain rfl := Option.some.inj h
        exact .quiet nofun nofun (follows_flush _ (by simp [hflush]) nofun nofun
          (sends_push (.inr (.inr hflush))))
      · cases h

end

/-- Snapshots under way carry the numbers of calls that were made, and the one that `emit`
numbers is the newest. -/
structure Stamped (reporter : SendProgressReporter) : Prop where
  pending : ∀ given, reporter.pending = some given → given.call < reporter.calls
  holding : ∀ given, reporter.flush = .holding given → given.call < reporter.calls
  numbering : ∀ given, reporter.caller = .numbering given →
    given.call < reporter.calls ∧ reporter.pending = none ∧
      ∀ held, reporter.flush = .holding held → held.call < given.call

/-- What is numbered in the rest of the run is newer than the events, and the events are in the
order of their calls. -/
structure Sorted (steps : List ReporterStep) (reporter : SendProgressReporter) : Prop where
  stamped : reporter.Stamped
  events : reporter.events.Pairwise fun first second => first.given.call < second.given.call
  past : ∀ event ∈ reporter.events, event.given.call < reporter.calls
  pending : ∀ given, reporter.pending = some given →
    (∀ event ∈ reporter.events, event.given.call < given.call) ∧
      ∀ held, reporter.flush = .holding held → held.call < given.call
  numbering : ∀ given, reporter.caller = .numbering given →
    ∀ event ∈ reporter.events, event.given.call < given.call
  holding : ∀ given, reporter.flush = .holding given → .flushNumber ∈ steps →
    ∀ event ∈ reporter.events, event.given.call < given.call

/-- The events are numbered one after the other. -/
structure Numbered (reporter : SendProgressReporter) : Prop where
  sequence : reporter.sequence = UInt64.ofNat reporter.events.length
  events : reporter.events.map NumberedSnapshot.sequence =
    (List.range reporter.events.length).map fun index => UInt64.ofNat (index + 1)

section

variable {reporter reporter' : SendProgressReporter} {input : ReporterStep}
  {steps : List ReporterStep}

theorem stamped_new : new.Stamped :=
  { pending := nofun, holding := nofun, numbering := nofun }

theorem sorted_new (steps : List ReporterStep) : Sorted steps new :=
  { stamped := stamped_new
    events := .nil
    past := nofun
    pending := nofun
    numbering := nofun
    holding := nofun }

theorem numbered_new : new.Numbered :=
  { sequence := rfl, events := rfl }

theorem Stamped.step (hstamped : reporter.Stamped) (h : step reporter input = some reporter') :
    reporter'.Stamped := by
  cases step_change h with
  | quiet hnumber hflush hfollows =>
      constructor
      · intro given hpending
        rw [hfollows.calls]
        exact hstamped.pending given (hfollows.pending given hpending)
      · intro given hholding
        rw [hfollows.calls]
        exact hstamped.holding given ((hfollows.holding given).mp hholding)
      · intro given hnumbering
        obtain ⟨hcall, hnone, hheld⟩ :=
          hstamped.numbering given (hfollows.numbering given hnumbering)
        refine ⟨hfollows.calls ▸ hcall, ?_, fun held h => hheld held ((hfollows.holding held).mp h)⟩
        rw [Option.eq_none_iff_forall_ne_some] at hnone ⊢
        exact fun held h => hnone held (hfollows.pending held h)
  | given snapshot =>
      constructor
      · rintro _ ⟨rfl⟩
        exact Nat.lt_succ_self _
      · intro given hholding
        exact Nat.lt_succ_of_lt (hstamped.holding given hholding)
      · exact nofun
  | cleared caller hnumber hflush hcall hsending =>
      constructor
      · exact nofun
      · intro given hholding
        exact Nat.lt_succ_of_lt (hstamped.holding given hholding)
      · intro given hnumbering
        have hgiven := hcall given hnumbering
        refine ⟨hgiven ▸ Nat.lt_succ_self _, rfl, fun held hholding => ?_⟩
        rw [hgiven]
        exact hstamped.holding held hholding
  | number given hcaller =>
      exact { hstamped with numbering := nofun }
  | taken given hflush hpending =>
      constructor
      · exact nofun
      · rintro _ ⟨rfl⟩
        exact hstamped.pending given hpending
      · intro numbering hnumbering
        have hnone := (hstamped.numbering numbering hnumbering).2.1
        rw [hpending] at hnone
        cases hnone
  | flushNumber given hflush =>
      constructor
      · exact hstamped.pending
      · exact nofun
      · intro numbering hnumbering
        obtain ⟨hcall, hnone, -⟩ := hstamped.numbering numbering hnumbering
        exact ⟨hcall, hnone, nofun⟩

theorem forall_mem_snoc {events : List NumberedSnapshot} {event : NumberedSnapshot}
    {P : NumberedSnapshot → Prop} :
    (∀ other ∈ events ++ [event], P other) ↔ (∀ other ∈ events, P other) ∧ P event := by
  rw [List.forall_mem_append, List.forall_mem_singleton]

theorem pairwise_snoc {events : List NumberedSnapshot} {event : NumberedSnapshot}
    (hevents : events.Pairwise fun first second => first.given.call < second.given.call)
    (hlast : ∀ other ∈ events, other.given.call < event.given.call) :
    (events ++ [event]).Pairwise fun first second => first.given.call < second.given.call := by
  rw [List.pairwise_append]
  refine ⟨hevents, List.pairwise_singleton _ _, fun other hother last hlast' => ?_⟩
  obtain rfl := List.mem_singleton.mp hlast'
  exact hlast other hother

theorem Sorted.step (hsorted : Sorted (input :: steps) reporter)
    (h : step reporter input = some reporter') (hfree : ¬Overtaken reporter (input :: steps)) :
    Sorted steps reporter' := by
  have hstamped := hsorted.stamped.step h
  cases step_change h with
  | quiet hnumber hflush hfollows =>
      constructor
      · exact hstamped
      · rw [hfollows.events]
        exact hsorted.events
      · rw [hfollows.events, hfollows.calls]
        exact hsorted.past
      · intro given hpending
        obtain ⟨hevents, hheld⟩ := hsorted.pending given (hfollows.pending given hpending)
        rw [hfollows.events]
        exact ⟨hevents, fun held h => hheld held ((hfollows.holding held).mp h)⟩
      · intro given hnumbering
        rw [hfollows.events]
        exact hsorted.numbering given (hfollows.numbering given hnumbering)
      · intro given hholding hlater
        rw [hfollows.events]
        exact hsorted.holding given ((hfollows.holding given).mp hholding)
          (List.mem_cons_of_mem _ hlater)
  | given snapshot =>
      constructor
      · exact hstamped
      · exact hsorted.events
      · exact fun event hevent => Nat.lt_succ_of_lt (hsorted.past event hevent)
      · rintro _ ⟨rfl⟩
        exact ⟨hsorted.past, hsorted.stamped.holding⟩
      · exact nofun
      · exact fun given hholding hlater =>
          hsorted.holding given hholding (List.mem_cons_of_mem _ hlater)
  | cleared caller hnumber hflush hcall hsending =>
      constructor
      · exact hstamped
      · exact hsorted.events
      · exact fun event hevent => Nat.lt_succ_of_lt (hsorted.past event hevent)
      · exact nofun
      · intro given hnumbering
        rw [hcall given hnumbering]
        exact hsorted.past
      · exact fun given hholding hlater =>
          hsorted.holding given hholding (List.mem_cons_of_mem _ hlater)
  | number given hcaller =>
      have hlast := hsorted.numbering given hcaller
      obtain ⟨hcall, hnone, -⟩ := hsorted.stamped.numbering given hcaller
      constructor
      · exact hstamped
      · exact pairwise_snoc hsorted.events hlast
      · exact forall_mem_snoc.mpr ⟨hsorted.past, hcall⟩
      · intro pending hpending
        rw [hnone] at hpending
        cases hpending
      · exact nofun
      -- the flush task would number what it holds after this event
      · intro held hholding hlater
        exact absurd ⟨[], steps, reporter, held, rfl, rfl, hholding, hlater⟩ hfree
  | taken given hflush hpending =>
      constructor
      · exact hstamped
      · exact hsorted.events
      · exact hsorted.past
      · exact nofun
      · exact hsorted.numbering
      · rintro _ ⟨rfl⟩ -
        exact (hsorted.pending given hpending).1
  | flushNumber given hflush =>
      have hlast := hsorted.holding given hflush List.mem_cons_self
      constructor
      · exact hstamped
      · exact pairwise_snoc hsorted.events hlast
      · exact forall_mem_snoc.mpr ⟨hsorted.past, hsorted.stamped.holding given hflush⟩
      · intro pending hpending
        obtain ⟨hevents, hheld⟩ := hsorted.pending pending hpending
        exact ⟨forall_mem_snoc.mpr ⟨hevents, hheld given hflush⟩, nofun⟩
      · intro numbering hnumbering
        have hnewest := (hsorted.stamped.numbering numbering hnumbering).2.2
        exact forall_mem_snoc.mpr
          ⟨hsorted.numbering numbering hnumbering, hnewest given hflush⟩
      · exact nofun

theorem Sorted.run (hsorted : Sorted steps reporter)
    (h : runSteps SendProgressReporter.step reporter steps = some reporter')
    (hfree : ¬Overtaken reporter steps) : Sorted [] reporter' := by
  induction steps generalizing reporter with
  | nil =>
      obtain rfl := Option.some.inj h
      exact hsorted
  | cons input steps ih =>
      obtain ⟨middle, hstep, hrest⟩ := runSteps_cons_iff.mp h
      refine ih (hsorted.step hstep hfree) hrest ?_
      rintro ⟨before, after, reached, given, rfl, hbefore, hheld, hlater⟩
      exact hfree ⟨input :: before, after, reached, given, rfl,
        runSteps_cons_iff.mpr ⟨middle, hstep, hbefore⟩, hheld, hlater⟩

theorem Numbered.snoc (hnumbered : reporter.Numbered) (given : GivenSnapshot) :
    reporter.sequence + 1 = UInt64.ofNat (reporter.events ++ [reporter.numbered given]).length ∧
      (reporter.events ++ [reporter.numbered given]).map NumberedSnapshot.sequence =
        (List.range (reporter.events ++ [reporter.numbered given]).length).map fun index =>
          UInt64.ofNat (index + 1) := by
  have hnext : reporter.sequence + 1 = UInt64.ofNat (reporter.events.length + 1) := by
    rw [hnumbered.sequence]
    exact (UInt64.ofNat_add _ _).symm
  rw [List.length_append, List.length_singleton]
  refine ⟨hnext, ?_⟩
  rw [List.map_append, hnumbered.events, List.range_succ, List.map_append]
  exact congrArg (_ ++ [·]) hnext

theorem Numbered.step (hnumbered : reporter.Numbered) (h : step reporter input = some reporter') :
    reporter'.Numbered := by
  cases step_change h with
  | quiet hnumber hflush hfollows =>
      constructor
      · rw [hfollows.sequence, hfollows.events]
        exact hnumbered.sequence
      · rw [hfollows.events]
        exact hnumbered.events
  | given snapshot => exact ⟨hnumbered.sequence, hnumbered.events⟩
  | cleared caller hnumber hflush hcall hsending => exact ⟨hnumbered.sequence, hnumbered.events⟩
  | number given hcaller => exact ⟨(hnumbered.snoc given).1, (hnumbered.snoc given).2⟩
  | taken given hflush hpending => exact ⟨hnumbered.sequence, hnumbered.events⟩
  | flushNumber given hflush => exact ⟨(hnumbered.snoc given).1, (hnumbered.snoc given).2⟩

theorem Numbered.run (hnumbered : reporter.Numbered)
    (h : runSteps SendProgressReporter.step reporter steps = some reporter') :
    reporter'.Numbered :=
  runSteps_inv (A := fun _ _ => True) (fun _ _ _ hmiddle _ hstep => hmiddle.step hstep) hnumbered
    (fun _ _ _ _ _ _ => trivial) h

theorem Stamped.run (hstamped : reporter.Stamped)
    (h : runSteps SendProgressReporter.step reporter steps = some reporter') :
    reporter'.Stamped :=
  runSteps_inv (A := fun _ _ => True) (fun _ _ _ hmiddle _ hstep => hmiddle.step hstep) hstamped
    (fun _ _ _ _ _ _ => trivial) h

theorem numberings_cons (input : ReporterStep) (steps : List ReporterStep) :
    numberings (input :: steps) = numberings [input] + numberings steps := by
  simp only [numberings, List.count_cons, List.count_nil]
  omega

theorem step_events (h : step reporter input = some reporter') :
    ∃ events, reporter'.events = reporter.events ++ events ∧
      events.length = numberings [input] := by
  cases step_change h with
  | quiet hnumber hflush hfollows =>
      refine ⟨[], hfollows.events.trans (List.append_nil _).symm, ?_⟩
      simp [numberings, hnumber, hflush]
  | given snapshot => exact ⟨[], (List.append_nil _).symm, rfl⟩
  | cleared caller hnumber hflush hcall hsending =>
      refine ⟨[], (List.append_nil _).symm, ?_⟩
      simp [numberings, hnumber, hflush]
  | number given hcaller => exact ⟨_, rfl, rfl⟩
  | taken given hflush hpending => exact ⟨[], (List.append_nil _).symm, rfl⟩
  | flushNumber given hflush => exact ⟨_, rfl, rfl⟩

theorem run_events (h : runSteps step reporter steps = some reporter') :
    ∃ events, reporter'.events = reporter.events ++ events ∧
      events.length = numberings steps := by
  induction steps generalizing reporter with
  | nil =>
      obtain rfl := Option.some.inj h
      exact ⟨[], (List.append_nil _).symm, rfl⟩
  | cons input steps ih =>
      obtain ⟨middle, hstep, hrest⟩ := runSteps_cons_iff.mp h
      obtain ⟨front, hfront, hcount⟩ := step_events hstep
      obtain ⟨back, hback, hcounts⟩ := ih hrest
      refine ⟨front ++ back, ?_, ?_⟩
      · rw [hback, hfront, List.append_assoc]
      · rw [numberings_cons, List.length_append, hcount, hcounts]

theorem Numbered.pairwise (hnumbered : reporter.Numbered)
    (hfew : reporter.events.length < 2 ^ 64) :
    reporter.events.Pairwise fun first second => first.sequence < second.sequence := by
  have hsequences : (reporter.events.map NumberedSnapshot.sequence).Pairwise (· < ·) := by
    rw [hnumbered.events, List.pairwise_map]
    refine List.pairwise_lt_range.imp_of_mem ?_
    intro first second _ hsecond hlt
    have hbound := List.mem_range.mp hsecond
    rw [UInt64.lt_iff_toNat_lt, UInt64.toNat_ofNat', UInt64.toNat_ofNat',
      Nat.mod_eq_of_lt (by omega), Nat.mod_eq_of_lt (by omega)]
    exact Nat.succ_lt_succ hlt
  exact List.pairwise_map.mp hsequences

theorem held_numbered {given : GivenSnapshot} (hholding : reporter.flush = .holding given)
    (h : runSteps step reporter steps = some reporter') (hlater : .flushNumber ∈ steps) :
    ∃ events, reporter'.events = reporter.events ++ events ∧
      ∃ event ∈ events, event.given = given := by
  induction steps generalizing reporter with
  | nil => cases hlater
  | cons input steps ih =>
      obtain ⟨middle, hstep, hrest⟩ := runSteps_cons_iff.mp h
      obtain ⟨front, hfront, -⟩ := step_events hstep
      have hstill : (input ≠ .flushNumber ∧ middle.flush = .holding given) ∨
          ∃ event ∈ front, event.given = given := by
        cases step_change hstep with
        | quiet hnumber hflush hfollows =>
            exact .inl ⟨hflush, (hfollows.holding given).mpr hholding⟩
        | given snapshot => exact .inl ⟨nofun, hholding⟩
        | cleared caller hnumber hflush hcall hsending => exact .inl ⟨hflush, hholding⟩
        | number numbering hcaller => exact .inl ⟨nofun, hholding⟩
        | taken taken hflush hpending =>
            rw [hholding] at hflush
            cases hflush
        | flushNumber held hflush =>
            obtain rfl := List.append_cancel_left hfront
            obtain rfl : held = given := ReporterFlush.holding.inj (hflush.symm.trans hholding)
            exact .inr ⟨_, List.mem_singleton_self _, rfl⟩
      rcases hstill with ⟨hother, hmiddle⟩ | ⟨event, hevent, hgiven⟩
      · have hrestlater := (List.mem_cons.mp hlater).resolve_left (Ne.symm hother)
        obtain ⟨back, hback, event, hevent, hgiven⟩ := ih hmiddle hrest hrestlater
        refine ⟨front ++ back, ?_, event, List.mem_append_right _ hevent, hgiven⟩
        rw [hback, hfront, List.append_assoc]
      · obtain ⟨back, hback, -⟩ := run_events hrest
        refine ⟨front ++ back, ?_, event, List.mem_append_left _ hevent, hgiven⟩
        rw [hback, hfront, List.append_assoc]

theorem sends_numbered (hsent : ∀ event, reporter.Sends event → event ∈ reporter.events)
    (h : step reporter input = some reporter') :
    ∀ event, reporter'.Sends event → event ∈ reporter'.events := by
  cases step_change h with
  | quiet hnumber hflush hfollows =>
      intro event hevent
      rw [hfollows.events]
      exact hsent event (hfollows.sends event hevent)
  | given snapshot =>
      rintro event (hevent | hevent | hevent)
      · exact hsent event (.inl hevent)
      · cases hevent
      · exact hsent event (.inr (.inr hevent))
  | cleared caller hnumber hflush hcall hsending =>
      rintro event (hevent | hevent | hevent)
      · exact hsent event (.inl hevent)
      · exact absurd hevent (hsending event)
      · exact hsent event (.inr (.inr hevent))
  | number given hcaller =>
      rintro event (hevent | hevent | hevent)
      · exact List.mem_append_left _ (hsent event (.inl hevent))
      · obtain rfl := ReporterCaller.sending.inj hevent
        exact List.mem_append_right _ (List.mem_singleton_self _)
      · exact List.mem_append_left _ (hsent event (.inr (.inr hevent)))
  | taken given hflush hpending =>
      rintro event (hevent | hevent | hevent)
      · exact hsent event (.inl hevent)
      · exact hsent event (.inr (.inl hevent))
      · cases hevent
  | flushNumber given hflush =>
      rintro event (hevent | hevent | hevent)
      · exact List.mem_append_left _ (hsent event (.inl hevent))
      · exact List.mem_append_left _ (hsent event (.inr (.inl hevent)))
      · obtain rfl := ReporterFlush.sending.inj hevent
        exact List.mem_append_right _ (List.mem_singleton_self _)

theorem channel_numbered (h : runSteps step new steps = some reporter) :
    ∀ event ∈ reporter.channel, event ∈ reporter.events := by
  have hstart : ∀ event, new.Sends event → event ∈ new.events := by
    rintro event (hevent | hevent | hevent)
    · cases hevent
    · cases hevent
    · cases hevent
  have hsent := runSteps_inv (A := fun _ _ => True)
    (I := fun reporter => ∀ event, reporter.Sends event → event ∈ reporter.events)
    (fun _ _ _ hmiddle _ hstep => sends_numbered hmiddle hstep) hstart
    (fun _ _ _ _ _ _ => trivial) h
  exact fun event hevent => hsent event (.inl hevent)

end

end SendProgressReporter

theorem numberedInOrder_of_pairwise {events : List NumberedSnapshot}
    (hcalls : events.Pairwise fun first second => first.given.call < second.given.call)
    (hsequences : events.Pairwise fun first second => first.sequence < second.sequence) :
    NumberedInOrder events := by
  have hforth : events.Pairwise fun first second =>
      first.given.call < second.given.call → first.sequence < second.sequence := by
    refine hsequences.imp ?_
    intro first second hsequence _
    exact hsequence
  have hback : events.Pairwise (flip fun first second =>
      first.given.call < second.given.call → first.sequence < second.sequence) := by
    refine hcalls.imp ?_
    intro first second hcall hlt
    exact absurd hlt hcall.asymm
  intro earlier hearlier later hlater
  exact hforth.forall_of_forall_of_flip (fun _ _ h => absurd h (lt_irrefl _)) hback hearlier hlater

theorem shownEvents_sublist (lastSequence : UInt64) (channel : List NumberedSnapshot) :
    (shownEvents lastSequence channel).Sublist channel := by
  induction channel generalizing lastSequence with
  | nil => exact List.Sublist.slnil
  | cons event channel ih =>
      rw [shownEvents]
      split
      · exact (ih _).cons event
      · exact (ih _).cons_cons event

theorem shownEvents_pairwise (lastSequence : UInt64) (channel : List NumberedSnapshot) :
    (∀ event ∈ shownEvents lastSequence channel, lastSequence < event.sequence) ∧
      (shownEvents lastSequence channel).Pairwise fun first second =>
        first.sequence < second.sequence := by
  induction channel generalizing lastSequence with
  | nil => exact ⟨nofun, .nil⟩
  | cons event channel ih =>
      rw [shownEvents]
      split
      · exact ih _
      · rename_i hnew
        have hlast := UInt64.not_le.mp hnew
        obtain ⟨hafter, hpairwise⟩ := ih event.sequence
        refine ⟨?_, List.pairwise_cons.mpr ⟨hafter, hpairwise⟩⟩
        intro shown hshown
        rcases List.mem_cons.mp hshown with rfl | hshown
        · exact hlast
        · exact UInt64.lt_trans hlast (hafter shown hshown)

theorem shownInOrder_of_numbered {events channel : List NumberedSnapshot}
    (hordered : NumberedInOrder events) (hsent : ∀ event ∈ channel, event ∈ events) :
    ShownInOrder channel := by
  have hmem : ∀ event ∈ shownEvents 0 channel, event ∈ events := fun event hevent =>
    hsent event ((shownEvents_sublist 0 channel).subset hevent)
  refine (shownEvents_pairwise 0 channel).2.imp_of_mem ?_
  intro first second hfirst hsecond hsequence
  refine Nat.le_of_not_lt fun hback => ?_
  have hearlier := hordered second (hmem second hsecond) first (hmem first hfirst) hback
  exact UInt64.lt_asymm hsequence hearlier

open SendProgressReporter in
/-- As long as the sequence numbers fit, the events are in the order of the calls just if no
`emit` overtakes the flush task between its taking of a snapshot and its number. -/
theorem in_order_iff {steps : List ReporterStep} {reporter : SendProgressReporter}
    (h : runSteps step new steps = some reporter) (hfew : numberings steps < 2 ^ 64) :
    (NumberedInOrder reporter.events ∧ ShownInOrder reporter.channel) ↔ ¬Overtaken new steps := by
  obtain ⟨events, hevents, hcount⟩ := run_events h
  have hlength : reporter.events.length < 2 ^ 64 := by
    rw [hevents]
    exact hcount.trans_lt hfew
  have hsequences := (numbered_new.run h).pairwise hlength
  constructor
  · rintro ⟨hordered, -⟩ ⟨before, after, middle, held, rfl, hbefore, hholding, hlater⟩
    obtain ⟨reached, hreached, hrest⟩ := runSteps_append_iff.mp h
    obtain rfl := Option.some.inj (hbefore.symm.trans hreached)
    obtain ⟨next, hnumber, hafter⟩ := runSteps_cons_iff.mp hrest
    cases step_change hnumber with
    | quiet hother => exact hother rfl
    | cleared caller hother => exact hother rfl
    | number given hcaller =>
        have hstill : ({ middle with
            sequence := middle.sequence + 1
            caller := .sending (middle.numbered given)
            events := middle.events ++ [middle.numbered given] } : SendProgressReporter).flush =
              .holding held := hholding
        obtain ⟨back, hback, event, hevent, rfl⟩ := held_numbered hstill hafter hlater
        have holder := ((stamped_new.run hbefore).numbering given hcaller).2.2 _ hholding
        rw [hback] at hordered hsequences
        have hnumbered : middle.numbered given ∈ middle.events ++ [middle.numbered given] :=
          List.mem_append_right _ (List.mem_singleton_self _)
        have hforth := (List.pairwise_append.mp hsequences).2.2 _ hnumbered _ hevent
        have hback := hordered event (List.mem_append_right _ hevent) _
          (List.mem_append_left _ hnumbered) holder
        exact UInt64.lt_asymm hforth hback
  · intro hfree
    have hordered := numberedInOrder_of_pairwise ((sorted_new steps).run h hfree).events hsequences
    exact ⟨hordered, shownInOrder_of_numbered hordered (channel_numbered h)⟩

/-- The flush task has taken the snapshot of `try_emit` when `emit` clears the pending one. -/
def overtakingSteps : List ReporterStep :=
  [.tryEmit ⟨.preparing, 1, 2, none⟩, .notify, .flushWake, .flushCheck, .flushSlept, .flushTake,
    .emit ⟨.sending, 2, 2, none⟩, .number, .sent true, .flushNumber, .flushSent true]

/-- The CLI shows that the transfer is being prepared after it has shown that it is sent. -/
theorem overtakingSteps_disorder :
    (runSteps SendProgressReporter.step .new overtakingSteps).map
        (fun reporter => (shownEvents 0 reporter.channel).map fun event =>
          (event.sequence, event.given.snapshot.phase)) =
      some [(1, .sending), (2, .preparing)] ∧
      ¬∀ steps reporter, runSteps SendProgressReporter.step .new steps = some reporter →
        NumberedInOrder reporter.events ∧ ShownInOrder reporter.channel := by
  refine ⟨by decide, fun hall => ?_⟩
  have hordered := hall overtakingSteps _ rfl
  revert hordered
  decide

/-- The flush task is done with the snapshot before `emit` is called. -/
def orderlySteps : List ReporterStep :=
  [.tryEmit ⟨.preparing, 1, 2, none⟩, .notify, .flushWake, .flushCheck, .flushSlept, .flushTake,
    .flushNumber, .flushSent true, .emit ⟨.sending, 2, 2, none⟩, .number, .sent true]

theorem orderlySteps_in_order :
    ∃ reporter, runSteps SendProgressReporter.step .new orderlySteps = some reporter ∧
      reporter.events.length = 2 ∧ numberings orderlySteps < 2 ^ 64 ∧
      ¬SendProgressReporter.Overtaken .new orderlySteps :=
  ⟨_, rfl, rfl, by decide, (in_order_iff rfl (by decide)).mp (by decide)⟩

end Failsafe.Send
