import Failsafe.Lib.Machine

/-!
The relay between a stream and a PTY, whose reader and writer are tasks of their own
(`failsafe-shell/src/relay.rs`), and when it cannot get stuck.
-/

namespace Failsafe.Shell

open Failsafe.Lib

abbrev Chunk := List UInt8

/-- How a task ended. -/
inductive TaskEnd where
  | done
  | failed (error : String)
  | panicked (error : String)
deriving DecidableEq, Repr

/-- Where `relay_channels_to_pty` is; a `select!` keeps what its guards were. -/
inductive RelayPoint where
  | loopHead
  | selecting (readOn streamOn : Bool)
  | sending (data : Chunk)
  | joiningRead
  | joiningWrite (readResult : Except String Unit)
  | returned (result : Except String Unit)
deriving Repr

/-- The function has not left its loop. -/
def RelayPoint.InLoop : RelayPoint → Prop
  | .loopHead | .selecting _ _ | .sending _ => True
  | .joiningRead | .joiningWrite _ | .returned _ => False

/-- The function waits for nothing but the end of the writer. -/
def RelayPoint.Settled : RelayPoint → Prop
  | .loopHead | .joiningWrite _ | .returned _ => True
  | .selecting _ _ | .sending _ | .joiningRead => False

/-- The function, its two tasks and its channels. -/
structure PtyRelay where
  readTask : Option TaskEnd
  writeTask : Option TaskEnd
  fromStream : List Chunk
  fromStreamClosed : Bool
  toStream : List Chunk
  toStreamClosed : Bool
  toPty : List Chunk
  /-- `to_pty_tx` has been dropped. -/
  toPtyDropped : Bool
  written : List Chunk
  streamOpen : Bool
  /-- `from_stream.recv` has returned `None`. -/
  recvEnded : Bool
  point : RelayPoint
deriving Repr

/-- The capacity of the channel to the writer. -/
def TO_PTY_CAPACITY : Nat := 64

inductive RelayStep where
  | readChunk (data : Chunk)
  | readEnd (ending : TaskEnd)
  | writeChunk
  | writeFail (ending : TaskEnd)
  | writeStop
  | arrive (data : Chunk)
  | close
  | drain
  | hangUp
  | guards
  | takeRead
  | takeStream
  | send
  | joinRead
  | joinWrite
deriving Repr

namespace TaskEnd

/-- `read_result??`. -/
def flatten : TaskEnd → Except String Unit
  | .done => .ok ()
  | .failed error | .panicked error => .error error

/-- `unwrap_or_else`, with what the text of a panic begins with. -/
def unwrapOr (failure : String) : TaskEnd → Except String Unit
  | .done => .ok ()
  | .failed error => .error error
  | .panicked error => .error s!"{failure}: {error}"

end TaskEnd

namespace PtyRelay

/-- What follows the loop, up to the next wait. -/
def leaveLoop (relay : PtyRelay) : PtyRelay :=
  if relay.readTask.isSome then { relay with point := .joiningWrite (.ok ()) }
  else { relay with point := .joiningRead }

/-- On return what is left of the sender is dropped. -/
def finish (result : Except String Unit) (relay : PtyRelay) : PtyRelay :=
  { relay with toPtyDropped := true, point := .returned result }

def step (relay : PtyRelay) : RelayStep → Option PtyRelay
  | .readChunk data =>
      match relay.readTask with
      | none =>
          if relay.toStreamClosed then some { relay with readTask := some .done }
          else some { relay with toStream := relay.toStream ++ [data] }
      | some _ => none
  | .readEnd ending =>
      match relay.readTask with
      | none => some { relay with readTask := some ending }
      | some _ => none
  | .writeChunk =>
      match relay.writeTask, relay.toPty with
      | none, data :: toPty => some { relay with toPty, written := relay.written ++ [data] }
      | _, _ => none
  | .writeFail ending =>
      match relay.writeTask, relay.toPty, ending with
      | none, _ :: toPty, .failed _ | none, _ :: toPty, .panicked _ =>
          some { relay with toPty, writeTask := some ending }
      | _, _, _ => none
  | .writeStop =>
      match relay.writeTask, relay.toPty with
      | none, [] =>
          if relay.toPtyDropped then some { relay with writeTask := some .done } else none
      | _, _ => none
  | .arrive data =>
      if relay.fromStreamClosed then none
      else some { relay with fromStream := relay.fromStream ++ [data] }
  | .close => some { relay with fromStreamClosed := true }
  | .drain => some { relay with toStream := relay.toStream.tail }
  | .hangUp => some { relay with toStreamClosed := true }
  | .guards =>
      match relay.point with
      | .loopHead =>
          let readOn := relay.readTask.isNone
          if readOn || relay.streamOpen then
            some { relay with point := .selecting readOn relay.streamOpen }
          else some relay.leaveLoop
      | _ => none
  | .takeRead =>
      match relay.point, relay.readTask with
      | .selecting true _, some ending =>
          let relay := { relay with toPtyDropped := true }
          match ending.flatten with
          | .ok () => some relay.leaveLoop
          | .error error => some (relay.finish (.error error))
      | _, _ => none
  | .takeStream =>
      match relay.point, relay.fromStream with
      | .selecting _ true, data :: fromStream =>
          some { relay with fromStream, point := .sending data }
      | .selecting _ true, [] =>
          if relay.fromStreamClosed then
            some { relay with streamOpen := false, recvEnded := true, point := .loopHead }
          else none
      | _, _ => none
  | .send =>
      match relay.point with
      | .sending data =>
          if relay.writeTask.isSome then
            some { relay with streamOpen := false, point := .loopHead }
          else if relay.toPty.length < TO_PTY_CAPACITY then
            some { relay with toPty := relay.toPty ++ [data], point := .loopHead }
          else none
      | _ => none
  | .joinRead =>
      match relay.point, relay.readTask with
      | .joiningRead, some ending =>
          some { relay with
            point := .joiningWrite (ending.unwrapOr "pty read task failed") }
      | _, _ => none
  | .joinWrite =>
      match relay.point, relay.writeTask with
      | .joiningWrite (.error error), some _ => some (relay.finish (.error error))
      | .joiningWrite (.ok ()), some ending =>
          some (relay.finish (ending.unwrapOr "pty write task failed"))
      | _, _ => none

/-- Both tasks have been spawned, and the loop begins. -/
def start : PtyRelay where
  readTask := none
  writeTask := none
  fromStream := []
  fromStreamClosed := false
  toStream := []
  toStreamClosed := false
  toPty := []
  toPtyDropped := false
  written := []
  streamOpen := true
  recvEnded := false
  point := .loopHead

/-- The function waits, and what it waits for is not there. -/
def Suspended (relay : PtyRelay) : Prop :=
  match relay.point with
  | .loopHead | .returned _ => False
  | .selecting readOn streamOn =>
      ¬(readOn = true ∧ relay.readTask.isSome) ∧
        ¬(streamOn = true ∧ (relay.fromStream ≠ [] ∨ relay.fromStreamClosed))
  | .sending _ => relay.writeTask = none ∧ TO_PTY_CAPACITY ≤ relay.toPty.length
  | .joiningRead => relay.readTask = none
  | .joiningWrite _ => relay.writeTask = none

/-- The reader has ended, and the select waits for the stream alone. -/
def HeldByStream (relay : PtyRelay) : Prop :=
  relay.readTask.isSome ∧ relay.point = .selecting false true

/-- While the function waits for the writer, or waits after the end of the stream, the writer can
end; and the end of the reader is not missed. -/
structure Unstuck (relay : PtyRelay) : Prop where
  joining : ∀ result, relay.point = .joiningWrite result → relay.Suspended → relay.toPtyDropped
  ended : relay.recvEnded → relay.Suspended → relay.toPtyDropped
  reader : ¬relay.HeldByStream

/-- What the loop has to find when it starts over: after the end of the stream both tasks have
ended, and before it the reader still runs, unless the writer was found gone. -/
def Timely (relay : PtyRelay) : Prop :=
  if relay.recvEnded then relay.readTask.isSome ∧ relay.writeTask.isSome
  else relay.streamOpen → relay.readTask = none

/-- What the tasks and the stream do to the function: they may only end. -/
structure Background (relay relay' : PtyRelay) : Prop where
  point : relay'.point = relay.point
  streamOpen : relay'.streamOpen = relay.streamOpen
  recvEnded : relay'.recvEnded = relay.recvEnded
  toPtyDropped : relay'.toPtyDropped = relay.toPtyDropped
  writeTask : relay.writeTask.isSome → relay'.writeTask.isSome

/-- What the function itself does between two waits. -/
inductive Foreground (relay : PtyRelay) : RelayStep → PtyRelay → Prop where
  | select (hpoint : relay.point = .loopHead)
      (hon : relay.readTask = none ∨ relay.streamOpen = true) :
      Foreground relay .guards
        { relay with point := .selecting relay.readTask.isNone relay.streamOpen }
  | leave (hpoint : relay.point = .loopHead) (hread : relay.readTask.isSome)
      (hstream : relay.streamOpen = false) :
      Foreground relay .guards { relay with point := .joiningWrite (.ok ()) }
  | readDone (streamOn : Bool) (hpoint : relay.point = .selecting true streamOn) :
      Foreground relay .takeRead
        { relay with toPtyDropped := true, point := .joiningWrite (.ok ()) }
  | readFailed (streamOn : Bool) (error : String)
      (hpoint : relay.point = .selecting true streamOn) :
      Foreground relay .takeRead (relay.finish (.error error))
  | chunk (readOn : Bool) (data : Chunk) (rest : List Chunk)
      (hpoint : relay.point = .selecting readOn true) :
      Foreground relay .takeStream { relay with fromStream := rest, point := .sending data }
  | ended (readOn : Bool) (hpoint : relay.point = .selecting readOn true) :
      Foreground relay .takeStream
        { relay with streamOpen := false, recvEnded := true, point := .loopHead }
  | gone (data : Chunk) (hpoint : relay.point = .sending data)
      (hwrite : relay.writeTask.isSome) :
      Foreground relay .send { relay with streamOpen := false, point := .loopHead }
  | sent (data : Chunk) (hpoint : relay.point = .sending data) :
      Foreground relay .send
        { relay with toPty := relay.toPty ++ [data], point := .loopHead }
  | joinedRead (result : Except String Unit) (hpoint : relay.point = .joiningRead) :
      Foreground relay .joinRead { relay with point := .joiningWrite result }
  | joinedWrite (readResult result : Except String Unit)
      (hpoint : relay.point = .joiningWrite readResult) :
      Foreground relay .joinWrite (relay.finish result)

section Steps

variable {relay relay' : PtyRelay} {move : RelayStep}

theorem step_cases (h : relay.step move = some relay') :
    Background relay relay' ∨ Foreground relay move relay' := by
  cases move with
  | readChunk data =>
      simp only [step] at h
      split at h
      · split at h <;>
          · obtain rfl := Option.some.inj h
            exact .inl ⟨rfl, rfl, rfl, rfl, id⟩
      · cases h
  | readEnd ending =>
      simp only [step] at h
      split at h
      · obtain rfl := Option.some.inj h
        exact .inl ⟨rfl, rfl, rfl, rfl, id⟩
      · cases h
  | writeChunk =>
      simp only [step] at h
      split at h
      · obtain rfl := Option.some.inj h
        exact .inl ⟨rfl, rfl, rfl, rfl, id⟩
      · cases h
  | writeFail ending =>
      simp only [step] at h
      split at h
      · obtain rfl := Option.some.inj h
        exact .inl ⟨rfl, rfl, rfl, rfl, fun _ => rfl⟩
      · obtain rfl := Option.some.inj h
        exact .inl ⟨rfl, rfl, rfl, rfl, fun _ => rfl⟩
      · cases h
  | writeStop =>
      simp only [step] at h
      split at h
      · split at h
        · obtain rfl := Option.some.inj h
          exact .inl ⟨rfl, rfl, rfl, rfl, fun _ => rfl⟩
        · cases h
      · cases h
  | arrive data =>
      simp only [step] at h
      split at h
      · cases h
      · obtain rfl := Option.some.inj h
        exact .inl ⟨rfl, rfl, rfl, rfl, id⟩
  | close | drain | hangUp =>
      obtain rfl := Option.some.inj h
      exact .inl ⟨rfl, rfl, rfl, rfl, id⟩
  | guards =>
      simp only [step] at h
      split at h
      · next hpoint =>
          split at h
          · next hon =>
              obtain rfl := Option.some.inj h
              exact .inr (.select hpoint (by simpa using hon))
          · next hoff =>
              simp only [Bool.or_eq_true, Option.isNone_iff_eq_none, not_or,
                ← Option.isSome_iff_ne_none, Bool.not_eq_true] at hoff
              obtain rfl := Option.some.inj h
              rw [leaveLoop, if_pos hoff.1]
              exact .inr (.leave hpoint hoff.1 hoff.2)
      · cases h
  | takeRead =>
      simp only [step] at h
      split at h
      · next hpoint hread =>
          split at h
          · obtain rfl := Option.some.inj h
            rw [leaveLoop, if_pos (by simp [hread])]
            exact .inr (.readDone _ hpoint)
          · next error herror =>
              obtain rfl := Option.some.inj h
              exact .inr (.readFailed _ error hpoint)
      · cases h
  | takeStream =>
      simp only [step] at h
      split at h
      · next hpoint hstream =>
          obtain rfl := Option.some.inj h
          exact .inr (.chunk _ _ _ hpoint)
      · next hpoint hstream =>
          split at h
          · obtain rfl := Option.some.inj h
            exact .inr (.ended _ hpoint)
          · cases h
      · cases h
  | send =>
      simp only [step] at h
      split at h
      · next data hpoint =>
          split at h
          · next hwrite =>
              obtain rfl := Option.some.inj h
              exact .inr (.gone data hpoint hwrite)
          · split at h
            · obtain rfl := Option.some.inj h
              exact .inr (.sent data hpoint)
            · cases h
      · cases h
  | joinRead =>
      simp only [step] at h
      split at h
      · next hpoint hread =>
          obtain rfl := Option.some.inj h
          exact .inr (.joinedRead _ hpoint)
      · cases h
  | joinWrite =>
      simp only [step] at h
      split at h
      · next hpoint hwrite =>
          obtain rfl := Option.some.inj h
          exact .inr (.joinedWrite _ _ hpoint)
      · next hpoint hwrite =>
          obtain rfl := Option.some.inj h
          exact .inr (.joinedWrite _ _ hpoint)
      · cases h

/-- What is so in every run. -/
structure Kept (relay : PtyRelay) : Prop where
  sender : relay.point.InLoop → relay.toPtyDropped = false
  ended : relay.recvEnded = true → relay.streamOpen = false

theorem kept_start : start.Kept where
  sender _ := rfl
  ended := by rintro ⟨⟩

theorem Kept.step (hkept : relay.Kept) (h : relay.step move = some relay') : relay'.Kept := by
  rcases step_cases h with hback | hfore
  · constructor
    · rw [hback.point, hback.toPtyDropped]
      exact hkept.sender
    · rw [hback.recvEnded, hback.streamOpen]
      exact hkept.ended
  · have hsender (hloop : relay.point.InLoop) : relay.toPtyDropped = false := hkept.sender hloop
    cases hfore with
    | select hpoint => exact ⟨fun _ => hsender (by rw [hpoint]; trivial), hkept.ended⟩
    | leave => exact ⟨False.elim, hkept.ended⟩
    | readDone => exact ⟨False.elim, hkept.ended⟩
    | readFailed => exact ⟨False.elim, hkept.ended⟩
    | chunk _ _ _ hpoint => exact ⟨fun _ => hsender (by rw [hpoint]; trivial), hkept.ended⟩
    | ended _ hpoint => exact ⟨fun _ => hsender (by rw [hpoint]; trivial), fun _ => rfl⟩
    | gone _ hpoint => exact ⟨fun _ => hsender (by rw [hpoint]; trivial), fun _ => rfl⟩
    | sent _ hpoint => exact ⟨fun _ => hsender (by rw [hpoint]; trivial), hkept.ended⟩
    | joinedRead => exact ⟨False.elim, hkept.ended⟩
    | joinedWrite => exact ⟨False.elim, hkept.ended⟩

/-- What is so as long as the loop starts over in time. -/
structure OnTime (relay : PtyRelay) : Prop where
  joining : ∀ result, relay.point = .joiningWrite result →
    relay.toPtyDropped = true ∨ relay.writeTask.isSome
  ended : relay.recvEnded = true → relay.point.Settled
  gone : relay.streamOpen = false → relay.recvEnded = true ∨ relay.writeTask.isSome
  selecting : ∀ readOn streamOn, relay.point = .selecting readOn streamOn → readOn = true
  joined : relay.point ≠ .joiningRead

theorem onTime_start : start.OnTime where
  joining := by rintro result ⟨⟩
  ended := by rintro ⟨⟩
  gone := by rintro ⟨⟩
  selecting := by rintro readOn streamOn ⟨⟩
  joined := by rintro ⟨⟩

theorem OnTime.background (hon : relay.OnTime) (hback : Background relay relay') :
    relay'.OnTime where
  joining := by
    intro result hpoint
    rw [hback.point] at hpoint
    rw [hback.toPtyDropped]
    exact (hon.joining result hpoint).imp id hback.writeTask
  ended := by
    rw [hback.recvEnded, hback.point]
    exact hon.ended
  gone := by
    rw [hback.streamOpen, hback.recvEnded]
    exact fun hclosed => (hon.gone hclosed).imp id hback.writeTask
  selecting := by
    rw [hback.point]
    exact hon.selecting
  joined := by
    rw [hback.point]
    exact hon.joined

theorem OnTime.step (hkept : relay.Kept) (hon : relay.OnTime)
    (htimely : move = .guards → relay.Timely) (h : relay.step move = some relay') :
    relay'.OnTime := by
  rcases step_cases h with hback | hfore
  · exact hon.background hback
  · have hended (hwaits : ¬relay.point.Settled) : relay.recvEnded ≠ true :=
      fun hended => hwaits (hon.ended hended)
    cases hfore with
    | select hpoint hguard =>
        have hnow := htimely rfl
        unfold Timely at hnow
        split at hnow
        · next hended =>
            -- after the end of the stream nothing is left to select
            rcases hguard with hread | hstream
            · simp [hread] at hnow
            · rw [hkept.ended hended] at hstream
              cases hstream
        · next hended =>
            refine ⟨by rintro result ⟨⟩, fun hend => absurd hend hended, hon.gone, ?_, by
              rintro ⟨⟩⟩
            rintro readOn streamOn ⟨⟩
            rcases hguard with hread | hstream
            · simp [hread]
            · simp [hnow hstream]
    | leave hpoint hread hstream =>
        refine ⟨?_, fun _ => trivial, hon.gone, by rintro readOn streamOn ⟨⟩, by rintro ⟨⟩⟩
        rintro result ⟨⟩
        have hnow := htimely rfl
        unfold Timely at hnow
        split at hnow
        · exact .inr hnow.2
        · next hended => exact (hon.gone hstream).elim (fun hend => absurd hend hended) .inr
    | readDone streamOn hpoint =>
        exact ⟨fun _ _ => .inl rfl, fun _ => trivial, hon.gone, by rintro readOn streamOn ⟨⟩,
          by rintro ⟨⟩⟩
    | readFailed streamOn error hpoint =>
        exact ⟨by rintro result ⟨⟩, fun _ => trivial, hon.gone, by rintro readOn streamOn ⟨⟩,
          by rintro ⟨⟩⟩
    | chunk readOn data rest hpoint =>
        have hopen := hended (by rw [hpoint]; exact id)
        exact ⟨by rintro result ⟨⟩, fun hend => absurd hend hopen, hon.gone,
          by rintro readOn streamOn ⟨⟩, by rintro ⟨⟩⟩
    | ended readOn hpoint =>
        exact ⟨by rintro result ⟨⟩, fun _ => trivial, fun _ => .inl rfl,
          by rintro readOn streamOn ⟨⟩, by rintro ⟨⟩⟩
    | gone data hpoint hwrite =>
        exact ⟨by rintro result ⟨⟩, fun _ => trivial, fun _ => .inr hwrite,
          by rintro readOn streamOn ⟨⟩, by rintro ⟨⟩⟩
    | sent data hpoint =>
        exact ⟨by rintro result ⟨⟩, fun _ => trivial, hon.gone, by rintro readOn streamOn ⟨⟩,
          by rintro ⟨⟩⟩
    | joinedRead result hpoint => exact absurd hpoint hon.joined
    | joinedWrite readResult result hpoint =>
        exact ⟨by rintro result ⟨⟩, fun _ => trivial, hon.gone, by rintro readOn streamOn ⟨⟩,
          by rintro ⟨⟩⟩

theorem OnTime.unstuck (hon : relay.OnTime) : relay.Unstuck := by
  have hjoining (result : Except String Unit) (hpoint : relay.point = .joiningWrite result)
      (hsuspended : relay.Suspended) : relay.toPtyDropped = true := by
    unfold Suspended at hsuspended
    rw [hpoint] at hsuspended
    refine (hon.joining result hpoint).resolve_right fun hwrite => ?_
    rw [hsuspended] at hwrite
    cases hwrite
  refine ⟨hjoining, ?_, ?_⟩
  · intro hended hsuspended
    have hsettled := hon.ended hended
    cases hpoint : relay.point with
    | loopHead | returned =>
        unfold Suspended at hsuspended
        rw [hpoint] at hsuspended
        exact hsuspended.elim
    | joiningWrite result => exact hjoining result hpoint hsuspended
    | selecting | sending | joiningRead =>
        rw [hpoint] at hsettled
        exact hsettled.elim
  · rintro ⟨-, hpoint⟩
    cases hon.selecting _ _ hpoint

theorem not_unstuck (hkept : relay.Kept) (hlate : ¬relay.Timely)
    (h : relay.step .guards = some relay') : ¬relay'.Unstuck := by
  intro hunstuck
  rcases step_cases h with hback | hfore
  · -- a loop that starts over evaluates its guards
    have hpoint := hback.point
    simp only [PtyRelay.step] at h
    split at h
    · next hhead =>
        rw [hhead] at hpoint
        split at h
        · obtain rfl := Option.some.inj h
          cases hpoint
        · next hoff =>
            simp only [Bool.or_eq_true, Option.isNone_iff_eq_none, not_or,
              ← Option.isSome_iff_ne_none, Bool.not_eq_true] at hoff
            obtain rfl := Option.some.inj h
            rw [leaveLoop, if_pos hoff.1] at hpoint
            cases hpoint
    · cases h
  · unfold Timely at hlate
    cases hfore with
    | select hpoint hguard =>
        have hsender := hkept.sender (by rw [hpoint]; trivial)
        split at hlate
        · next hended =>
            have hclosed := hkept.ended hended
            have hread : relay.readTask = none := hguard.resolve_right (by simp [hclosed])
            have hdropped := hunstuck.ended hended (by simp [Suspended, hread, hclosed])
            rw [hsender] at hdropped
            cases hdropped
        · simp only [Classical.not_imp, ← Option.isSome_iff_ne_none] at hlate
          refine hunstuck.reader ⟨hlate.2, ?_⟩
          have hread : relay.readTask.isNone = false := by
            rw [← Option.not_isSome, hlate.2]
            rfl
          simp [hread, hlate.1]
    | leave hpoint hread hstream =>
        have hsender := hkept.sender (by rw [hpoint]; trivial)
        split at hlate
        · have hwrite : relay.writeTask = none := by simpa [hread] using hlate
          have hdropped := hunstuck.joining _ rfl hwrite
          rw [hsender] at hdropped
          cases hdropped
        · exact hlate fun hopen => by simp [hopen] at hstream

end Steps

/-- No state of a run is stuck exactly if the loop always starts over in time. -/
theorem relay_unstuck_iff (moves : List RelayStep) (final : PtyRelay)
    (h : runSteps step start moves = some final) :
    (∀ before relay, before <+: moves → runSteps step start before = some relay →
      relay.Unstuck) ↔
    (∀ before after relay, moves = before ++ .guards :: after →
      runSteps step start before = some relay → relay.Timely) := by
  have hkept (before : List RelayStep) (relay : PtyRelay)
      (hrun : runSteps step start before = some relay) : relay.Kept :=
    runSteps_inv (A := fun _ _ => True) (fun _ _ _ hinv _ hstep => hinv.step hstep)
      kept_start (fun _ _ _ _ _ _ => trivial) hrun
  constructor
  · rintro hunstuck before after relay rfl hbefore
    by_contra hlate
    rw [List.append_cons] at h
    obtain ⟨next, hnext, -⟩ := runSteps_append_iff.mp h
    obtain ⟨middle, hmiddle, hstep⟩ := runSteps_snoc_iff.mp hnext
    rw [hbefore] at hmiddle
    obtain rfl := Option.some.inj hmiddle
    refine not_unstuck (hkept before relay hbefore) hlate hstep (hunstuck _ next ?_ hnext)
    exact ⟨after, by simp⟩
  · rintro htimely before relay ⟨after, rfl⟩ hrun
    have hboth : relay.Kept ∧ relay.OnTime := by
      refine runSteps_inv (I := fun relay => relay.Kept ∧ relay.OnTime)
        (A := fun relay move => move = .guards → relay.Timely) ?_
        ⟨kept_start, onTime_start⟩ ?_ hrun
      · rintro relay move relay' ⟨hk, hon⟩ hallowed hstep
        exact ⟨hk.step hstep, hon.step hk hallowed hstep⟩
      · rintro first move rest middle rfl hfirst rfl
        exact htimely first (rest ++ after) middle (by simp) hfirst
    exact hboth.2.unstuck

/-- The shell ends while the select waits for it. -/
theorem shell_exit_unstuck :
    ∃ final, runSteps step start [.guards, .readEnd .done, .takeRead, .writeStop, .joinWrite] =
        some final ∧
      ((∀ before relay,
          before <+: [.guards, .readEnd .done, .takeRead, .writeStop, .joinWrite] →
          runSteps step start before = some relay → relay.Unstuck) ↔
        (∀ before after relay,
          [.guards, .readEnd .done, .takeRead, .writeStop, .joinWrite] =
            before ++ RelayStep.guards :: after →
          runSteps step start before = some relay → relay.Timely)) :=
  ⟨_, rfl, relay_unstuck_iff _ _ rfl⟩

/-- The stream closes, and the shell is not told; or the shell ends while a chunk is sent on, and
the loop waits for the stream alone. -/
theorem relay_stuck :
    (∃ relay, runSteps step start [.guards, .close, .takeStream, .guards] = some relay ∧
      relay.recvEnded = true ∧ relay.Suspended ∧ relay.toPtyDropped = false ∧ ¬relay.Unstuck) ∧
    ∃ relay, runSteps step start
        [.guards, .arrive [1], .takeStream, .readEnd .done, .send, .guards] = some relay ∧
      relay.HeldByStream ∧ ¬relay.Unstuck := by
  refine ⟨⟨_, rfl, rfl, ?_, rfl, ?_⟩, ⟨_, rfl, ⟨rfl, rfl⟩, ?_⟩⟩
  · simp [Suspended, start]
  · intro hunstuck
    cases hunstuck.ended rfl (by simp [Suspended, start])
  · intro hunstuck
    exact hunstuck.reader ⟨rfl, rfl⟩

end PtyRelay

end Failsafe.Shell
