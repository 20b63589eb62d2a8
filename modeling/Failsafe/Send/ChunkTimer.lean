import Mathlib.Data.List.Induction
import Mathlib.Tactic.IntervalCases
import Failsafe.Lib.Split
import Failsafe.Send.Dispatch

/-!
Timers over pending manifests: `spawn_incomplete_chunk_timeout` and `handle_message`, lock
by lock (`failsafe-send/src/feature.rs`).
-/

namespace Failsafe.Send

open Failsafe.Core Failsafe.Lib

def INCOMPLETE_CHUNK_TIMEOUT_SECS : Nat := 60

/-- A task of `spawn_incomplete_chunk_timeout`.  `spawnedAt` counts the inputs before it and
tells timers apart. -/
structure ChunkTimer where
  spawnedAt : Nat
  due : Nat
  transferId : Uuid
deriving DecidableEq

/-- A `handle_message` that has released the lock after its chunk or end, and takes it again
in `try_finalize_chunked_transfer`. -/
structure Finishing where
  «from» : DeviceId
  transferId : Uuid
  ended : Bool

structure Receiver where
  inbound : Inbound
  finishing : Option Finishing
  timers : List ChunkTimer
  clock : Nat
  received : Nat

inductive ReceiverInput where
  | receive («from» : DeviceId) (envelope : SendEnvelope)
  | finalize (transferId : Uuid)
  | elapse (seconds : Nat)
  | timeout (timer : ChunkTimer)

namespace Receiver

def start : Receiver :=
  { inbound := .empty, finishing := none, timers := [], clock := 0, received := 0 }

/-- `handle_message` up to `try_finalize_chunked_transfer`. -/
def receive («from» : DeviceId) (envelope : SendEnvelope) (state : Receiver) : Receiver :=
  match envelope with
  | .transferChunk chunk =>
      match state.inbound.pendingChunkedTransfers chunk.transferId with
      | none => state
      | some pending =>
          { state with
            inbound := state.inbound.setPending chunk.transferId
              (some (pending.pushChunk chunk.chunkIndex chunk.entries))
            finishing := some ⟨«from», chunk.transferId, false⟩ }
  | .transferEnd finish =>
      match state.inbound.pendingChunkedTransfers finish.transferId with
      | none => state
      | some pending =>
          { state with
            inbound := state.inbound.setPending finish.transferId
              (some (pending.markEnd finish.chunkCount))
            finishing := some ⟨«from», finish.transferId, true⟩ }
  | envelope => { state with inbound := (state.inbound.handleEnvelope «from» envelope).2 }

/-- The rest of `handle_message` after a chunk or an end. -/
def finalize (finishing : Finishing) (state : Receiver) : Receiver :=
  match state.inbound.tryFinalizeChunkedTransfer finishing.from finishing.transferId with
  | (.ok false, inbound) =>
      if finishing.ended then
        { state with
          inbound :=
            inbound.emit (.spawnIncompleteChunkTimeout finishing.from finishing.transferId)
          finishing := none
          timers := ⟨state.received, state.clock + INCOMPLETE_CHUNK_TIMEOUT_SECS,
            finishing.transferId⟩ :: state.timers }
      else
        { state with inbound := inbound, finishing := none }
  | (_, inbound) => { state with inbound := inbound, finishing := none }

/-- The task of a timer, once its sleep is over.  What it prints is left out. -/
def timeout (timer : ChunkTimer) (state : Receiver) : Receiver :=
  { state with
    inbound := state.inbound.setPending timer.transferId none
    timers := state.timers.erase timer }

/-- Messages are dispatched one at a time; time and timers go on between the locks of one. -/
def act (state : Receiver) : ReceiverInput → Option Receiver
  | .receive «from» envelope =>
      if state.finishing.isNone then some (state.receive «from» envelope) else none
  | .finalize transferId =>
      match state.finishing with
      | none => none
      | some finishing =>
          if finishing.transferId = transferId then some (state.finalize finishing) else none
  | .elapse seconds => some { state with clock := state.clock + seconds }
  | .timeout timer =>
      if timer ∈ state.timers ∧ timer.due ≤ state.clock then some (state.timeout timer)
      else none

def step (state : Receiver) (input : ReceiverInput) : Option Receiver :=
  (state.act input).map fun state => { state with received := state.received + 1 }

def run (inputs : List ReceiverInput) : Option Receiver :=
  inputs.foldlM step start

theorem run_snoc (inputs : List ReceiverInput) (input : ReceiverInput) :
    run (inputs ++ [input]) = (run inputs).bind fun state => state.step input := by
  simp [run, List.foldlM_append]

theorem act_finalize {state next : Receiver} {transferId : Uuid}
    (h : state.act (.finalize transferId) = some next) :
    ∃ finishing, state.finishing = some finishing ∧ finishing.transferId = transferId ∧
      next = state.finalize finishing := by
  rw [act] at h
  split at h
  · cases h
  · next finishing hfinishing =>
      obtain ⟨hid, hnext⟩ := Option.ite_none_right_eq_some.mp h
      exact ⟨finishing, hfinishing, hid, (Option.some.inj hnext).symm⟩

theorem run_before {inputs inputs' : List ReceiverInput} {state : Receiver}
    (h : run (inputs ++ inputs') = some state) : ∃ middle, run inputs = some middle := by
  rw [run, List.foldlM_append] at h
  obtain ⟨middle, hmiddle, -⟩ := Option.bind_eq_some_iff.mp h
  exact ⟨middle, hmiddle⟩

theorem receive_same (state : Receiver) («from» : DeviceId) (envelope : SendEnvelope) :
    (state.receive «from» envelope).received = state.received ∧
      (state.receive «from» envelope).timers = state.timers := by
  cases envelope with
  | transferChunk chunk =>
      simp only [receive]
      split <;> exact ⟨rfl, rfl⟩
  | transferEnd finish =>
      simp only [receive]
      split <;> exact ⟨rfl, rfl⟩
  | _ => exact ⟨rfl, rfl⟩

theorem finalize_received (state : Receiver) (finishing : Finishing) :
    (state.finalize finishing).received = state.received := by
  rw [finalize]
  split
  · split <;> rfl
  · rfl

theorem finalize_inbound (state : Receiver) (finishing : Finishing) :
    (state.finalize finishing).inbound =
      match state.inbound.tryFinalizeChunkedTransfer finishing.from finishing.transferId with
      | (.ok false, inbound) =>
          if finishing.ended then
            inbound.emit (.spawnIncompleteChunkTimeout finishing.from finishing.transferId)
          else inbound
      | (_, inbound) => inbound := by
  rw [finalize]
  split
  · split <;> rfl
  · rfl

theorem finalize_finishing (state : Receiver) (finishing : Finishing) :
    (state.finalize finishing).finishing = none := by
  rw [finalize]
  split
  · split <;> rfl
  · rfl

theorem act_received {state next : Receiver} {input : ReceiverInput}
    (h : state.act input = some next) : next.received = state.received := by
  cases input with
  | receive «from» envelope =>
      obtain ⟨-, hnext⟩ := Option.ite_none_right_eq_some.mp h
      rw [← Option.some.inj hnext, (state.receive_same «from» envelope).1]
  | finalize transferId =>
      obtain ⟨finishing, -, -, hnext⟩ := act_finalize h
      rw [hnext, finalize_received]
  | elapse seconds =>
      cases h
      rfl
  | timeout timer =>
      obtain ⟨-, hnext⟩ := Option.ite_none_right_eq_some.mp h
      rw [← Option.some.inj hnext]
      rfl

theorem step_timers {state next : Receiver} {input : ReceiverInput}
    (h : state.step input = some next) {timer : ChunkTimer} (htimer : timer ∈ next.timers) :
    timer ∈ state.timers ∨
      input = .finalize timer.transferId ∧ timer.spawnedAt = state.received := by
  obtain ⟨middle, hact, rfl⟩ := Option.map_eq_some_iff.mp h
  have htimer : timer ∈ middle.timers := htimer
  cases input with
  | receive «from» envelope =>
      obtain ⟨-, hmiddle⟩ := Option.ite_none_right_eq_some.mp hact
      rw [← Option.some.inj hmiddle, (state.receive_same «from» envelope).2] at htimer
      exact .inl htimer
  | finalize transferId =>
      obtain ⟨finishing, -, rfl, rfl⟩ := act_finalize hact
      rw [finalize] at htimer
      split at htimer
      · split at htimer
        · rcases List.mem_cons.mp htimer with rfl | hold
          · exact .inr ⟨rfl, rfl⟩
          · exact .inl hold
        · exact .inl htimer
      · exact .inl htimer
  | elapse seconds =>
      cases hact
      exact .inl htimer
  | timeout fired =>
      obtain ⟨-, hmiddle⟩ := Option.ite_none_right_eq_some.mp hact
      rw [← Option.some.inj hmiddle] at htimer
      exact .inl (List.mem_of_mem_erase htimer)

theorem received_eq {inputs : List ReceiverInput} {state : Receiver}
    (h : run inputs = some state) : state.received = inputs.length := by
  induction inputs using List.reverseRecOn generalizing state with
  | nil =>
      cases h
      rfl
  | append_singleton inputs input ih =>
      rw [run_snoc] at h
      obtain ⟨middle, hmiddle, hstep⟩ := Option.bind_eq_some_iff.mp h
      obtain ⟨next, hact, rfl⟩ := Option.map_eq_some_iff.mp hstep
      rw [List.length_append, ← ih hmiddle, ← act_received hact]
      rfl

theorem timer_spawned {inputs : List ReceiverInput} {state : Receiver}
    (h : run inputs = some state) {timer : ChunkTimer} (htimer : timer ∈ state.timers) :
    inputs[timer.spawnedAt]? = some (.finalize timer.transferId) := by
  induction inputs using List.reverseRecOn generalizing state with
  | nil =>
      cases h
      cases htimer
  | append_singleton inputs input ih =>
      rw [run_snoc] at h
      obtain ⟨middle, hmiddle, hstep⟩ := Option.bind_eq_some_iff.mp h
      rcases step_timers hstep htimer with hold | ⟨rfl, hspawned⟩
      · have hinput := ih hmiddle hold
        exact (List.getElem?_append_left (List.getElem?_eq_some_iff.mp hinput).1).trans hinput
      · rw [hspawned, received_eq hmiddle, List.getElem?_concat_length]

/-- A message whose two locks nothing comes between is handled as `handle_message` says. -/
theorem handleEnvelope_eq (state : Receiver) («from» : DeviceId) (envelope : SendEnvelope)
    (hidle : state.finishing = none) :
    (match (state.receive «from» envelope).finishing with
      | none => state.receive «from» envelope
      | some finishing => (state.receive «from» envelope).finalize finishing).inbound =
        (state.inbound.handleEnvelope «from» envelope).2 := by
  cases envelope with
  | transferChunk chunk =>
      cases hpending : state.inbound.pendingChunkedTransfers chunk.transferId with
      | none => simp [receive, hpending, hidle, Inbound.handleEnvelope]
      | some pending =>
          simp only [receive, hpending, Inbound.handleEnvelope, finalize]
          generalize Inbound.tryFinalizeChunkedTransfer _ _ _ = result
          rcases result with ⟨error | (_ | _), inbound⟩ <;> rfl
  | transferEnd finish =>
      cases hpending : state.inbound.pendingChunkedTransfers finish.transferId with
      | none => simp [receive, hpending, hidle, Inbound.handleEnvelope]
      | some pending =>
          simp only [receive, hpending, Inbound.handleEnvelope, finalize]
          generalize Inbound.tryFinalizeChunkedTransfer _ _ _ = result
          rcases result with ⟨error | (_ | _), inbound⟩ <;> rfl
  | _ => simp [receive, hidle]

end Receiver

/-- The call on the manifest of a transfer that an envelope stands for. -/
def SendEnvelope.callOn (transferId : Uuid) : SendEnvelope → Option ChunkedCall
  | .transferChunk chunk => if chunk.transferId = transferId then some chunk.call else none
  | .transferEnd finish => if finish.transferId = transferId then some finish.call else none
  | _ => none

namespace ReceiverInput

def headerOf (transferId : Uuid) : ReceiverInput → Option SendTransferHeader
  | .receive _ (.transferHeader header) =>
      if header.transferId = transferId then some header else none
  | _ => none

def callOn (transferId : Uuid) : ReceiverInput → Option ChunkedCall
  | .receive _ envelope => envelope.callOn transferId
  | _ => none

/-- What an input does to the pending manifest of a transfer. -/
def onPending (transferId : Uuid) (input : ReceiverInput) (pending : Option ChunkedTransfer) :
    Option ChunkedTransfer :=
  match input with
  | .receive _ (.transferHeader header) =>
      if header.transferId = transferId then some (ChunkedTransfer.new header) else pending
  | .receive _ envelope =>
      match envelope.callOn transferId with
      | none => pending
      | some call => pending.map fun state => state.applyCall call
  | .finalize finished =>
      if finished = transferId then pending.filter fun state => !state.isComplete else pending
  | .elapse _ => pending
  | .timeout timer => if timer.transferId = transferId then none else pending

end ReceiverInput

theorem Inbound.setPending_apply (inbound : Inbound) (changed transferId : Uuid)
    (state : Option ChunkedTransfer) :
    (inbound.setPending changed state).pendingChunkedTransfers transferId =
      if changed = transferId then state else inbound.pendingChunkedTransfers transferId := by
  simp only [setPending, Function.update_apply, eq_comm]

theorem Inbound.tryFinalize_pending (inbound : Inbound) («from» : DeviceId)
    (finished transferId : Uuid) :
    (inbound.tryFinalizeChunkedTransfer «from» finished).2.pendingChunkedTransfers transferId =
      if finished = transferId then
        (inbound.pendingChunkedTransfers transferId).filter fun state => !state.isComplete
      else inbound.pendingChunkedTransfers transferId := by
  have hfilter : ((inbound.tryFinalizeChunkedTransfer «from» finished).2).pendingChunkedTransfers =
      Function.update inbound.pendingChunkedTransfers finished
        ((inbound.pendingChunkedTransfers finished).filter fun state => !state.isComplete) := by
    cases hpending : inbound.pendingChunkedTransfers finished with
    | none =>
        rw [Option.filter_none, Function.update_eq_self_iff.mpr hpending.symm]
        simp only [tryFinalizeChunkedTransfer, hpending]
    | some state =>
        cases hcomplete : state.isComplete with
        | false =>
            rw [Option.filter_some_pos (by simp [hcomplete]),
              Function.update_eq_self_iff.mpr hpending.symm]
            simp [tryFinalizeChunkedTransfer, hpending, hcomplete]
        | true =>
            cases hinto : state.intoPayload <;>
              simp [tryFinalizeChunkedTransfer, hpending, hcomplete, hinto, Option.filter,
                setPending]
  rw [hfilter, Function.update_apply]
  split
  · next hid => rw [if_pos hid.symm, hid]
  · next hid => rw [if_neg fun h => hid h.symm]

namespace Receiver

theorem receive_pending (state : Receiver) («from» : DeviceId) (envelope : SendEnvelope)
    (transferId : Uuid) :
    (state.receive «from» envelope).inbound.pendingChunkedTransfers transferId =
      (ReceiverInput.receive «from» envelope).onPending transferId
        (state.inbound.pendingChunkedTransfers transferId) := by
  cases envelope with
  | transferHeader header =>
      simp [receive, Inbound.handleEnvelope, ReceiverInput.onPending, Inbound.setPending_apply]
  | transferChunk chunk =>
      by_cases hid : chunk.transferId = transferId
      · subst hid
        cases hpending : state.inbound.pendingChunkedTransfers chunk.transferId <;>
          simp [receive, ReceiverInput.onPending, SendEnvelope.callOn, hpending,
            ChunkedTransfer.applyCall, SendTransferChunk.call]
      · cases hpending : state.inbound.pendingChunkedTransfers chunk.transferId <;>
          simp [receive, ReceiverInput.onPending, SendEnvelope.callOn, hpending, hid,
            Inbound.setPending_apply]
  | transferEnd finish =>
      by_cases hid : finish.transferId = transferId
      · subst hid
        cases hpending : state.inbound.pendingChunkedTransfers finish.transferId <;>
          simp [receive, ReceiverInput.onPending, SendEnvelope.callOn, hpending,
            ChunkedTransfer.applyCall, SendTransferEnd.call]
      · cases hpending : state.inbound.pendingChunkedTransfers finish.transferId <;>
          simp [receive, ReceiverInput.onPending, SendEnvelope.callOn, hpending, hid,
            Inbound.setPending_apply]
  | transfer payload => rfl
  | ack ack => rfl
  | progress progress => rfl

theorem finalize_pending (state : Receiver) (finishing : Finishing) (transferId : Uuid) :
    (state.finalize finishing).inbound.pendingChunkedTransfers transferId =
      (ReceiverInput.finalize finishing.transferId).onPending transferId
        (state.inbound.pendingChunkedTransfers transferId) := by
  have hfinal := state.inbound.tryFinalize_pending finishing.from finishing.transferId transferId
  rw [finalize]
  split
  · next h =>
      rw [h] at hfinal
      split <;> exact hfinal
  · next h =>
      rw [h] at hfinal
      exact hfinal

theorem step_pending {state next : Receiver} {input : ReceiverInput}
    (h : state.step input = some next) (transferId : Uuid) :
    next.inbound.pendingChunkedTransfers transferId =
      input.onPending transferId (state.inbound.pendingChunkedTransfers transferId) := by
  obtain ⟨middle, hact, rfl⟩ := Option.map_eq_some_iff.mp h
  cases input with
  | receive «from» envelope =>
      obtain ⟨-, hmiddle⟩ := Option.ite_none_right_eq_some.mp hact
      rw [← Option.some.inj hmiddle]
      exact state.receive_pending «from» envelope transferId
  | finalize finished =>
      obtain ⟨finishing, -, rfl, rfl⟩ := act_finalize hact
      exact state.finalize_pending finishing transferId
  | elapse seconds =>
      cases hact
      rfl
  | timeout timer =>
      obtain ⟨-, hmiddle⟩ := Option.ite_none_right_eq_some.mp hact
      rw [← Option.some.inj hmiddle]
      exact state.inbound.setPending_apply timer.transferId transferId none

/-- The pending manifest of a transfer after a sequence of inputs. -/
def manifestAfter (transferId : Uuid) (inputs : List ReceiverInput) : Option ChunkedTransfer :=
  inputs.foldl (fun pending input => input.onPending transferId pending) none

theorem run_pending {inputs : List ReceiverInput} {state : Receiver}
    (h : run inputs = some state) (transferId : Uuid) :
    state.inbound.pendingChunkedTransfers transferId = manifestAfter transferId inputs := by
  induction inputs using List.reverseRecOn generalizing state with
  | nil =>
      cases h
      rfl
  | append_singleton inputs input ih =>
      rw [run_snoc] at h
      obtain ⟨middle, hmiddle, hstep⟩ := Option.bind_eq_some_iff.mp h
      rw [step_pending hstep, ih hmiddle, manifestAfter, manifestAfter, List.foldl_append]
      rfl

end Receiver

/-- An input removes the manifest that a header installed, when what came since the header
is `rest`. -/
def RemovedBy (header : SendTransferHeader) (rest : List ReceiverInput) :
    ReceiverInput → Prop
  | .finalize transferId =>
      transferId = header.transferId ∧
        ((ChunkedTransfer.new header).applyCalls
          (rest.filterMap (ReceiverInput.callOn header.transferId))).isComplete = true
  | .timeout timer => timer.transferId = header.transferId
  | _ => False

def Removed (header : SendTransferHeader) (rest : List ReceiverInput) : Prop :=
  ∃ earlier input later, rest = earlier ++ input :: later ∧ RemovedBy header earlier input

theorem removed_snoc {header : SendTransferHeader} {rest : List ReceiverInput}
    {input : ReceiverInput} :
    Removed header (rest ++ [input]) ↔ Removed header rest ∨ RemovedBy header rest input :=
  exists_split_concat

namespace ReceiverInput

@[simp] theorem onPending_header («from» : DeviceId) (header : SendTransferHeader)
    (pending : Option ChunkedTransfer) :
    (receive «from» (.transferHeader header)).onPending header.transferId pending =
      some (ChunkedTransfer.new header) :=
  if_pos rfl

theorem onPending_none {transferId : Uuid} {input : ReceiverInput}
    (h : input.headerOf transferId = none) : input.onPending transferId none = none := by
  cases input with
  | receive «from» envelope =>
      cases envelope with
      | transferHeader header =>
          have hother : header.transferId ≠ transferId := by
            simpa [headerOf] using h
          simp [onPending, hother]
      | transfer payload => rfl
      | transferChunk chunk =>
          simp only [onPending]
          split <;> rfl
      | transferEnd finish =>
          simp only [onPending]
          split <;> rfl
      | ack ack => rfl
      | progress progress => rfl
  | finalize finished => simp [onPending]
  | elapse seconds => rfl
  | timeout timer => simp [onPending]

end ReceiverInput

/-- The manifest that a header installs, after the chunks and the ends in `rest`. -/
def manifestOf (header : SendTransferHeader) (rest : List ReceiverInput) : ChunkedTransfer :=
  (ChunkedTransfer.new header).applyCalls
    (rest.filterMap (ReceiverInput.callOn header.transferId))

theorem onPending_removed {header : SendTransferHeader} {rest : List ReceiverInput}
    {input : ReceiverInput} (h : RemovedBy header rest input) :
    input.onPending header.transferId (some (manifestOf header rest)) = none := by
  cases input with
  | receive «from» envelope => exact h.elim
  | finalize transferId =>
      obtain ⟨hid, hcomplete⟩ := h
      have hcomplete : (manifestOf header rest).isComplete = true := hcomplete
      simp [ReceiverInput.onPending, hid, Option.filter, hcomplete]
  | elapse seconds => exact h.elim
  | timeout timer => exact if_pos h

theorem manifestOf_snoc (header : SendTransferHeader) (rest : List ReceiverInput)
    (input : ReceiverInput) :
    manifestOf header (rest ++ [input]) =
      (manifestOf header rest).applyCalls (input.callOn header.transferId).toList := by
  rw [manifestOf, manifestOf, List.filterMap_append, ChunkedTransfer.applyCalls,
    ChunkedTransfer.applyCalls, List.foldl_append]
  cases h : input.callOn header.transferId <;> simp [h, ChunkedTransfer.applyCalls]

theorem onPending_kept {header : SendTransferHeader} {rest : List ReceiverInput}
    {input : ReceiverInput} (hinput : input.headerOf header.transferId = none)
    (h : ¬RemovedBy header rest input) :
    input.onPending header.transferId (some (manifestOf header rest)) =
      some (manifestOf header (rest ++ [input])) := by
  rw [manifestOf_snoc]
  cases input with
  | receive «from» envelope =>
      cases envelope with
      | transferHeader header' =>
          have hother : header'.transferId ≠ header.transferId := by
            simpa [ReceiverInput.headerOf] using hinput
          exact if_neg hother
      | transferChunk chunk =>
          simp only [ReceiverInput.onPending, ReceiverInput.callOn]
          split <;> simp_all
      | transferEnd finish =>
          simp only [ReceiverInput.onPending, ReceiverInput.callOn]
          split <;> simp_all
      | transfer payload => rfl
      | ack ack => rfl
      | progress progress => rfl
  | finalize transferId =>
      rw [ReceiverInput.onPending]
      split
      · next hid =>
          apply Option.filter_some_pos
          rw [Bool.not_eq_true', ← Bool.not_eq_true]
          exact fun hcomplete => h ⟨hid, hcomplete⟩
      · rfl
  | elapse seconds => rfl
  | timeout timer => exact if_neg h

theorem manifest_since {header : SendTransferHeader} {rest : List ReceiverInput}
    (hlast : ∀ input ∈ rest, input.headerOf header.transferId = none) :
    (Removed header rest → rest.foldl (fun pending input => input.onPending header.transferId
      pending) (some (ChunkedTransfer.new header)) = none) ∧
    (¬Removed header rest → rest.foldl (fun pending input => input.onPending header.transferId
      pending) (some (ChunkedTransfer.new header)) = some (manifestOf header rest)) := by
  induction rest using List.reverseRecOn with
  | nil =>
      refine ⟨?_, fun _ => rfl⟩
      rintro ⟨earlier, input, later, hsplit, -⟩
      simp at hsplit
  | append_singleton rest input ih =>
      obtain ⟨hgone, hkept⟩ := ih fun input hinput => hlast input (List.mem_append_left _ hinput)
      have hinput := hlast input (by simp)
      rw [removed_snoc, List.foldl_append, List.foldl_cons, List.foldl_nil]
      by_cases hremoved : Removed header rest
      · rw [hgone hremoved, ReceiverInput.onPending_none hinput]
        simp [hremoved]
      · rw [hkept hremoved]
        constructor
        · rintro (hearlier | hnow)
          · exact absurd hearlier hremoved
          · exact onPending_removed hnow
        · intro hnot
          exact onPending_kept hinput fun hnow => hnot (.inr hnow)

theorem manifestAfter_eq_none_iff {header : SendTransferHeader}
    {earlier rest : List ReceiverInput} {«from» : DeviceId}
    (hlast : ∀ input ∈ rest, input.headerOf header.transferId = none) :
    Receiver.manifestAfter header.transferId
        (earlier ++ .receive «from» (.transferHeader header) :: rest) = none ↔
      Removed header rest := by
  obtain ⟨hgone, hkept⟩ := manifest_since hlast
  rw [Receiver.manifestAfter, List.foldl_append, List.foldl_cons,
    ReceiverInput.onPending_header]
  constructor
  · intro hnone
    by_contra hremoved
    rw [hkept hremoved] at hnone
    cases hnone
  · exact hgone

theorem exists_last_header (earlier : List ReceiverInput) («from» : DeviceId)
    (header : SendTransferHeader) (rest : List ReceiverInput) :
    ∃ earlier' from' header' rest',
      earlier ++ .receive «from» (.transferHeader header) :: rest =
        earlier' ++ .receive from' (.transferHeader header') :: rest' ∧
      header'.transferId = header.transferId ∧ earlier.length ≤ earlier'.length ∧
      ∀ input ∈ rest', input.headerOf header.transferId = none := by
  induction rest using List.reverseRecOn with
  | nil => exact ⟨earlier, «from», header, [], rfl, rfl, le_rfl, by simp⟩
  | append_singleton rest input ih =>
      obtain ⟨earlier', from', header', rest', hsplit, hid, hlater, hlast⟩ := ih
      cases hinput : input.headerOf header.transferId with
      | none =>
          refine ⟨earlier', from', header', rest' ++ [input], ?_, hid, hlater, ?_⟩
          · rw [← List.cons_append, ← List.append_assoc, hsplit]
            simp
          · intro input' hmem
            rcases List.mem_append.mp hmem with hmem | hmem
            · exact hlast input' hmem
            · rw [List.mem_singleton.mp hmem, hinput]
      | some newest =>
          obtain ⟨from'', rfl, hnewest⟩ : ∃ from'',
              input = .receive from'' (.transferHeader newest) ∧
                newest.transferId = header.transferId := by
            cases input with
            | receive from'' envelope =>
                cases envelope with
                | transferHeader header'' =>
                    obtain ⟨hid'', hnewest⟩ := Option.ite_none_right_eq_some.mp hinput
                    cases hnewest
                    exact ⟨from'', rfl, hid''⟩
                | _ => cases hinput
            | _ => cases hinput
          exact ⟨earlier ++ .receive «from» (.transferHeader header) :: rest, from'', newest, [],
            by simp, hnewest, by simp, by simp⟩

/-- No timer removes a manifest whose header came after the end that the timer was spawned
for. -/
def TimeoutsSpare (inputs : List ReceiverInput) : Prop :=
  ∀ before timer after state, inputs = before ++ .timeout timer :: after →
    Receiver.run before = some state →
    ∀ earlier «from» header rest,
      before = earlier ++ .receive «from» (.transferHeader header) :: rest →
      header.transferId = timer.transferId → timer.spawnedAt ≤ earlier.length →
      state.inbound.pendingChunkedTransfers timer.transferId = none

theorem timeouts_spare_iff {inputs : List ReceiverInput} {final : Receiver}
    (hrun : Receiver.run inputs = some final) :
    TimeoutsSpare inputs ↔
      ∀ before timer after, inputs = before ++ .timeout timer :: after →
        ∀ earlier «from» header rest,
          before = earlier ++ .receive «from» (.transferHeader header) :: rest →
          header.transferId = timer.transferId → timer.spawnedAt ≤ earlier.length →
          (∀ input ∈ rest, input.headerOf header.transferId = none) →
          Removed header rest := by
  constructor
  · rintro hspare before timer after rfl earlier «from» header rest rfl hid hafter hlast
    obtain ⟨state, hstate⟩ := Receiver.run_before hrun
    have hnone := hspare _ _ _ state rfl hstate _ _ _ _ rfl hid hafter
    rw [Receiver.run_pending hstate, ← hid] at hnone
    exact (manifestAfter_eq_none_iff hlast).mp hnone
  · rintro hremoved before timer after state rfl hstate earlier «from» header rest rfl hid hafter
    obtain ⟨earlier', from', header', rest', hsplit, hid', hlater, hlast⟩ :=
      exists_last_header earlier «from» header rest
    rw [hsplit] at hremoved hstate
    rw [← hid'] at hlast
    have hgone := hremoved _ _ _ rfl _ _ _ _ rfl (hid'.trans hid) (hafter.trans hlater) hlast
    rw [Receiver.run_pending hstate, ← hid, ← hid']
    exact (manifestAfter_eq_none_iff hlast).mpr hgone

section Examples

/-- One file, and its manifest as two attempts send it. -/
def restartedHeader : SendTransferHeader :=
  { version := SEND_PAYLOAD_VERSION, transferId := 7, senderName := "laptop"
    collectionHash := "abc123", bytesTotal := 42, entryCount := 1 }

def restartedChunk : SendTransferChunk :=
  { transferId := 7, chunkIndex := 0, entries := [{ name := "doc.txt", size := 42 }] }

/-- The chunk of the first attempt is lost; a minute after its end, the second has begun. -/
def restartedBefore : List ReceiverInput :=
  [.receive ⟨1⟩ (.transferHeader restartedHeader),
    .receive ⟨1⟩ (.transferEnd { transferId := 7, chunkCount := 1 }), .finalize 7, .elapse 60,
    .receive ⟨1⟩ (.transferHeader restartedHeader)]

def restartedTimer : ChunkTimer :=
  { spawnedAt := 2, due := 60, transferId := 7 }

def restartedRun : List ReceiverInput :=
  restartedBefore ++
    [.receive ⟨1⟩ (.transferChunk restartedChunk), .finalize 7, .timeout restartedTimer]

theorem restartedRun_timeout {position : Nat} {timer : ChunkTimer}
    (h : restartedRun[position]? = some (.timeout timer)) :
    position = 7 ∧ timer = restartedTimer := by
  have hposition : position < 8 := (List.getElem?_eq_some_iff.mp h).1
  interval_cases position
  all_goals cases h
  exact ⟨rfl, rfl⟩

theorem restartedRun_header {position : Nat} {«from» : DeviceId} {header : SendTransferHeader}
    (h : restartedRun[position]? = some (.receive «from» (.transferHeader header))) :
    (position = 0 ∨ position = 4) ∧ header = restartedHeader := by
  have hposition : position < 8 := (List.getElem?_eq_some_iff.mp h).1
  interval_cases position
  all_goals cases h
  · exact ⟨.inl rfl, rfl⟩
  · exact ⟨.inr rfl, rfl⟩

/-- With its chunk the second attempt is complete, and handed over before the timer fires. -/
theorem restarted_manifest_spared : TimeoutsSpare restartedRun := by
  have hruns : (Receiver.run restartedRun).isSome = true := by decide +kernel
  obtain ⟨final, hfinal⟩ := Option.isSome_iff_exists.mp hruns
  refine (timeouts_spare_iff hfinal).mpr ?_
  rintro before timer after hsplit earlier «from» header rest rfl hid hafter hlast
  obtain ⟨hlength, rfl⟩ : (earlier ++ .receive «from» (.transferHeader header) :: rest).length =
      7 ∧ timer = restartedTimer := by
    apply restartedRun_timeout
    rw [hsplit, List.getElem?_append_right le_rfl, Nat.sub_self]
    rfl
  rw [List.append_assoc] at hsplit
  obtain ⟨hposition | hposition, rfl⟩ : (earlier.length = 0 ∨ earlier.length = 4) ∧
      header = restartedHeader := by
    apply restartedRun_header
    rw [hsplit, List.getElem?_append_right le_rfl, Nat.sub_self]
    rfl
  · rw [hposition] at hafter
    cases hafter
  · have hrest : rest = [.receive ⟨1⟩ (.transferChunk restartedChunk), .finalize 7] := by
      have hdrop := congrArg (List.drop earlier.length) hsplit
      rw [List.drop_left, hposition] at hdrop
      have hdrop := congrArg List.tail hdrop
      rw [List.cons_append, List.tail_cons] at hdrop
      rw [List.length_append, List.length_cons, hposition] at hlength
      have htake := congrArg (List.take 2) hdrop
      rw [List.take_left' (by omega)] at htake
      exact htake.symm
    refine ⟨[.receive ⟨1⟩ (.transferChunk restartedChunk)], .finalize 7, [], hrest, rfl, ?_⟩
    decide +kernel

theorem restarted_manifest_removed :
    ∃ inputs final, Receiver.run inputs = some final ∧ ¬TimeoutsSpare inputs := by
  refine ⟨restartedBefore ++ [.timeout restartedTimer], _, rfl, fun hspare => ?_⟩
  have hnone := hspare restartedBefore restartedTimer [] _ rfl rfl
    (restartedBefore.take 4) ⟨1⟩ restartedHeader [] rfl rfl (by decide)
  cases hnone

end Examples

end Failsafe.Send
