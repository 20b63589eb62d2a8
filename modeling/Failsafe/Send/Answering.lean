import Failsafe.Lib.Staged
import Failsafe.Send.Attempts
import Failsafe.Send.Session

/-!
Answers to received transfers: which handlers a transfer is given to
(`try_finalize_chunked_transfer`), and what a handler tells the sender
(`handle_transfer_locked` and `run_receive` of `failsafe-send/src/feature.rs`).
-/

namespace Failsafe.Send

open Failsafe.Core Failsafe.Clipboard Failsafe.Lib

/-- What a receive handler has learnt of the saved state and told the sender. -/
structure Answer where
  loaded : Bool
  complete : Bool
  acks : List (DeviceId × SendAck)

namespace Answer

def start : Answer :=
  { loaded := false, complete := false, acks := [] }

/-- The receive state had reached `Complete` when it is so at the first load, and it reaches
`Complete` when it is saved so. -/
def note (answer : Answer) : Exchange SendSig → Answer
  | ⟨.loadReceiveState _, (.ok state : Except String ReceiveTransferState)⟩ =>
      if answer.loaded then answer
      else { answer with loaded := true, complete := state.stage == .complete }
  | ⟨.loadReceiveState _, (.error _ : Except String ReceiveTransferState)⟩ =>
      { answer with loaded := true }
  | ⟨.saveReceiveState state, (.ok () : Except String Unit)⟩ =>
      { answer with complete := answer.complete || state.stage == .complete }
  | ⟨.send «to» (.ack ack) _, _⟩ => { answer with acks := answer.acks ++ [(«to», ack)] }
  | _ => answer

end Answer

def answering (log : List (Exchange SendSig)) : Answer :=
  stageAfter Answer.note .start log

/-- One acknowledgement to the sender, positive exactly when the receive state is complete. -/
def Answer.AckedOnce (answer : Answer) (sender : DeviceId) (transferId : Uuid) : Prop :=
  ∃ ack, answer.acks = [(sender, ack)] ∧ ack.transferId = transferId ∧
    (ack.ok = true ↔ answer.complete = true)

section Handlers

variable {α : Type} {answer : Answer}

/-- Requests that neither read or complete the receive state nor answer the sender. -/
def SendRequest.Unanswering : SendRequest → Prop
  | .loadReceiveState _ | .send _ (.ack _) _ => False
  | .saveReceiveState state => state.stage ≠ .complete
  | _ => True

theorem Answer.note_unanswering {request : SendRequest} (h : request.Unanswering)
    (response : request.Response) : answer.note ⟨request, response⟩ = answer := by
  cases request with
  | loadReceiveState transferId => exact h.elim
  | saveReceiveState state =>
      have hstage : state.stage ≠ .complete := h
      rcases (response : Except String Unit) with _ | _
      · rfl
      · simp [Answer.note, beq_eq_false_iff_ne.mpr hstage]
  | send «to» envelope receipt =>
      cases envelope <;> first | exact h.elim | rfl
  | _ => rfl

theorem unanswering_staged {p : SendProg α} (hp : p.All SendRequest.Unanswering) :
    p.Staged (fun _ _ => True) Answer.note (fun _ answer' => answer' = answer) answer :=
  .of_all hp (fun _ _ => trivial) fun _ response h => Answer.note_unanswering h response

theorem unanswering_emitProgress («to» : DeviceId) (reports : List SendProgress) :
    (emitProgress «to» reports).All SendRequest.Unanswering := by
  induction reports with
  | nil => trivial
  | cons report reports ih => exact .bind (all_ask trivial) fun _ => ih

theorem unanswering_chooseReceiveDir (state : ReceiveTransferState) :
    (chooseReceiveDir state).All SendRequest.Unanswering := by
  unfold chooseReceiveDir
  split
  · trivial
  · refine .bind (all_ask trivial) fun base => ?_
    cases base with
    | none => trivial
    | some base => exact .bind (all_ask trivial) fun _ => trivial

theorem unanswering_downloadReceive (limits : ClipboardLimits) (state : ReceiveTransferState) :
    (downloadReceive limits state).run.All SendRequest.Unanswering := by
  have hdownloading : ReceiveStage.downloading ≠ .complete := by decide
  have hexporting : ReceiveStage.exporting ≠ .complete := by decide
  refine .tryBind (all_liftExcept _) fun _ => ?_
  refine .tryBind (all_ask hdownloading) fun _ => ?_
  refine .tryBind (.lift (unanswering_emitProgress _ _)) fun _ => ?_
  refine .tryBind (.lift (all_ask trivial)) fun _ => ?_
  refine .tryBind (.lift (unanswering_emitProgress _ _)) fun _ => ?_
  exact .tryBind (all_liftExcept _) fun _ => all_ask hexporting

theorem runReceive_staged (limits : ClipboardLimits) (state : ReceiveTransferState) :
    (runReceive limits state).run.Staged (fun _ _ => True) Answer.note
      (fun result answer' =>
        answer' = { answer with complete := answer.complete || result.isOk }) answer := by
  have hsame : { answer with complete := answer.complete || false } = answer := by simp
  refine Prog.staged_tryBind.mpr
    ((unanswering_staged (unanswering_downloadReceive limits state)).mono ?_)
  rintro (message | _) _ rfl
  · exact hsame.symm
  refine Prog.staged_tryBind.mpr (Prog.staged_lift.mpr
    ((unanswering_staged (unanswering_chooseReceiveDir _)).mono ?_))
  rintro dir _ rfl
  refine Prog.staged_tryBind.mpr ?_
  cases dir with
  | none => exact hsame.symm
  | some dir =>
      refine Prog.staged_tryBind.mpr (Prog.staged_lift.mpr
        (Prog.staged_call.mpr ⟨trivial, fun (exports, exported) => ?_⟩))
      refine Prog.staged_tryBind.mpr (Prog.staged_lift.mpr
        ((unanswering_staged (unanswering_emitProgress _ _)).mono ?_))
      rintro _ _ rfl
      refine Prog.staged_tryBind.mpr ?_
      cases exported with
      | error message => exact hsame.symm
      | ok count =>
          refine Prog.staged_tryBind.mpr (Prog.staged_lift.mpr
            ((unanswering_staged (unanswering_emitProgress _ _)).mono ?_))
          rintro _ _ rfl
          refine Prog.staged_tryBind.mpr (Prog.staged_call.mpr ⟨trivial, fun saved => ?_⟩)
          cases saved with
          | error message => exact hsame.symm
          | ok _ => exact Prog.staged_lift.mpr (Prog.staged_call.mpr ⟨trivial, fun _ => rfl⟩)

theorem sendAck_staged («to» : DeviceId) (ack : SendAck) (receipt : Option String) :
    (sendAck «to» ack receipt).run.Staged (fun _ _ => True) Answer.note
      (fun _ answer' => answer' = { answer with acks := answer.acks ++ [(«to», ack)] }) answer :=
  Prog.staged_call.mpr ⟨trivial, fun _ => rfl⟩

theorem acknowledgeAndRemove_staged («from» : DeviceId) (transferId : Uuid) (receipt : String) :
    (acknowledgeAndRemove «from» transferId receipt).run.Staged (fun _ _ => True) Answer.note
      (fun _ answer' => answer' = { answer with
        acks := answer.acks ++ [(«from», { transferId, ok := true, error := none })] })
      answer := by
  refine Prog.staged_tryBind.mpr ((sendAck_staged _ _ _).mono ?_)
  rintro (error | _) _ rfl
  · rfl
  · exact Prog.staged_tryBind.mpr (Prog.staged_lift.mpr
      (Prog.staged_call.mpr ⟨trivial, fun _ => rfl⟩))

theorem reportReceiveFailure_staged («from» : DeviceId) (transferId : Uuid) (message : String)
    (hloaded : answer.loaded = true) :
    (reportReceiveFailure «from» transferId message).Staged (fun _ _ => True) Answer.note
      (fun _ answer' => answer' = { answer with
        acks := answer.acks ++ [(«from», { transferId, ok := false, error := some message })] })
      answer := by
  refine Prog.staged_ask.mpr ⟨trivial, fun found => ?_⟩
  rcases found with error | state
  · have hsame : { answer with loaded := true } = answer := by rw [← hloaded]
    change Prog.Staged _ _ _ _ { answer with loaded := true }
    rw [hsame]
    exact Prog.staged_bind.mpr ((sendAck_staged _ _ _).mono fun _ _ h => h)
  · have hsame : answer.note ⟨.loadReceiveState transferId, .ok state⟩ = answer :=
      if_pos hloaded
    have hfailed : ReceiveStage.failed ≠ .complete := by decide
    have hsave : (saveReceiveState { state with stage := .failed, error := some message }).run.All
        SendRequest.Unanswering := all_ask hfailed
    rw [hsame]
    refine Prog.staged_bind.mpr ((unanswering_staged hsave).mono fun _ answer' hkept => ?_)
    rw [hkept]
    refine Prog.staged_bind.mpr ?_
    exact (sendAck_staged _ _ _).mono fun _ _ h => h

/-- A handler of the supported version sends one acknowledgement; of another version, none. -/
theorem handleTransferLocked_staged (limits : ClipboardLimits) («from» : DeviceId)
    (payload : SendPayload) :
    (handleTransferLocked limits «from» payload).run.Staged (fun _ _ => True) Answer.note
      (fun _ answer => if payload.version = SEND_PAYLOAD_VERSION then
        answer.AckedOnce «from» payload.transferId else answer = .start) .start := by
  unfold handleTransferLocked
  by_cases hversion : payload.version = SEND_PAYLOAD_VERSION
  · rw [if_neg (not_not.mpr hversion)]
    simp only [if_pos hversion]
    have hfound : (savedOrFresh «from» payload).Staged (fun _ _ => True) Answer.note
        (fun state answer => answer =
          { Answer.start with loaded := true, complete := state.stage == .complete }) .start := by
      refine Prog.staged_call.mpr ⟨trivial, fun found => ?_⟩
      rcases found with error | state <;> rfl
    refine Prog.staged_tryBind.mpr (Prog.staged_lift.mpr (hfound.mono ?_))
    rintro state _ rfl
    change Prog.Staged _ _ (ExceptT.run (if state.stage = .complete then _ else _)) _ _
    by_cases hcomplete : state.stage = .complete
    · rw [if_pos hcomplete]
      refine (acknowledgeAndRemove_staged _ _ _).mono ?_
      rintro _ _ rfl
      exact ⟨_, rfl, rfl, by simp [hcomplete]⟩
    · rw [if_neg hcomplete]
      refine Prog.staged_tryBind.mpr (Prog.staged_lift.mpr ((runReceive_staged _ _).mono ?_))
      rintro (message | _) _ rfl
      · refine Prog.staged_tryBind.mpr (Prog.staged_lift.mpr
          ((reportReceiveFailure_staged _ _ _ rfl).mono ?_))
        rintro _ _ rfl
        exact ⟨_, rfl, rfl, by simp [hcomplete, Except.isOk, Except.toBool]⟩
      · refine (acknowledgeAndRemove_staged _ _ _).mono ?_
        rintro _ _ rfl
        exact ⟨_, rfl, rfl, by simp [Except.isOk, Except.toBool]⟩
  · rw [if_pos hversion]
    simp only [if_neg hversion]
    rfl

theorem handleTransfer_answers (limits : ClipboardLimits) («from» : DeviceId)
    (payload : SendPayload) :
    (handleTransfer limits «from» payload).Staged (fun _ _ => True) Answer.note
      (fun _ answer => if payload.version = SEND_PAYLOAD_VERSION then
        answer.AckedOnce «from» payload.transferId else answer = .start) .start := by
  refine Prog.staged_ask.mpr ⟨trivial, fun lock => ?_⟩
  refine Prog.staged_bind.mpr (Prog.staged_ask.mpr ⟨trivial, fun _ => ?_⟩)
  refine Prog.staged_bind.mpr ((handleTransferLocked_staged limits «from» payload).mono ?_)
  intro result answer hanswer
  refine Prog.staged_ask.mpr ⟨trivial, fun _ => Prog.staged_ret.mpr ?_⟩
  refine Prog.staged_ask.mpr ⟨trivial, fun _ => ?_⟩
  exact Prog.staged_ask.mpr ⟨trivial, fun _ => hanswer⟩

end Handlers

/-- The exchanges of a task that handles a transfer to its end. -/
def HandledAs (limits : ClipboardLimits) (handler : DeviceId × SendPayload)
    (log : List (Exchange SendSig)) : Prop :=
  ∃ result, Prog.Trace (fun _ _ => True) (handleTransfer limits handler.1 handler.2) log result

/-- However the tasks end that a transfer is given to, its sender is told so once. -/
def Answered (limits : ClipboardLimits) (sender : DeviceId) (transferId : Uuid)
    (handlers : List (DeviceId × SendPayload)) : Prop :=
  ∀ logs, List.Forall₂ (HandledAs limits) handlers logs →
    (answering logs.flatten).AckedOnce sender transferId

section Answered

variable {limits : ClipboardLimits} {sender : DeviceId} {transferId : Uuid}

theorem not_ackedOnce_start : ¬Answer.start.AckedOnce sender transferId := by
  rintro ⟨ack, hacks, -⟩
  cases hacks

theorem not_answered_nil : ¬Answered limits sender transferId [] :=
  fun h => not_ackedOnce_start (h [] .nil)

theorem exists_response {request : SendRequest} (h : request.Receiving) :
    ∃ _response : request.Response, True := by
  cases request with
  | lockEntry => exact ⟨(0 : Nat), trivial⟩
  | localTimestamp => exact ⟨"", trivial⟩
  | _ => first
    | exact h.elim
    | exact ⟨(), trivial⟩
    | exact ⟨none, trivial⟩
    | exact ⟨([] : List _), trivial⟩
    | exact ⟨(.error "" : Except String _), trivial⟩
    | exact ⟨(.ok () : Except _ Unit), trivial⟩
    | exact ⟨([], (.error "" : Except String _)), trivial⟩

theorem exists_handledAs (limits : ClipboardLimits) (handler : DeviceId × SendPayload) :
    ∃ log, HandledAs limits handler log := by
  obtain ⟨log, result, htrace⟩ := Prog.exists_trace
    ((receiving_handleTransfer limits handler.1 handler.2).mono fun _ => exists_response)
  exact ⟨log, result, htrace⟩

theorem answered_singleton_iff {«from» : DeviceId} {payload : SendPayload} :
    Answered limits sender payload.transferId [(«from», payload)] ↔
      payload.version = SEND_PAYLOAD_VERSION ∧ «from» = sender := by
  have hanswers := handleTransfer_answers limits «from» payload
  constructor
  · intro hanswered
    obtain ⟨log, hlog⟩ := exists_handledAs limits («from», payload)
    have hacked := hanswered [log] (.cons hlog .nil)
    rw [List.flatten_singleton] at hacked
    obtain ⟨result, htrace⟩ := hlog
    have hended := hanswers.trace htrace
    split at hended
    · next hversion =>
        obtain ⟨ack, hacks, -⟩ := hacked
        obtain ⟨ack', hacks', -⟩ := hended
        rw [answering, hacks'] at hacks
        exact ⟨hversion, (Prod.mk.inj (List.singleton_inj.mp hacks)).1⟩
    · rw [answering, hended] at hacked
      exact (not_ackedOnce_start hacked).elim
  · rintro ⟨hversion, rfl⟩ logs hlogs
    obtain ⟨log, rest, hlog, hrest, rfl⟩ := List.forall₂_cons_left_iff.mp hlogs
    obtain rfl := List.forall₂_nil_left_iff.mp hrest
    obtain ⟨result, htrace⟩ := hlog
    have hended := hanswers.trace htrace
    rw [if_pos hversion] at hended
    rwa [List.flatten_singleton]

end Answered

namespace ChunkedTransfer

theorem length_assembledEntries (state : ChunkedTransfer) :
    state.assembledEntries.length = state.entriesReceived := by
  have hperm : state.sortedIndices.Perm state.chunks.keys := List.mergeSort_perm _ _
  have hlookup : ∀ chunk ∈ state.chunks.entries,
      ((state.chunks.lookup chunk.1).getD []).length = chunk.2.length := by
    intro chunk hchunk
    rw [AList.mem_lookup_iff.mpr hchunk, Option.getD_some]
  rw [assembledEntries, List.length_flatMap, (hperm.map _).sum_eq, AList.keys, List.keys,
    List.map_map, entriesReceived]
  exact congrArg List.sum (List.map_congr_left hlookup)

theorem intoPayload_of_complete {state : ChunkedTransfer} (h : state.isComplete = true) :
    state.intoPayload.toOption =
      if bytesTotal state.assembledEntries = state.header.bytesTotal then
        some
          { version := state.header.version
            transferId := state.header.transferId
            senderName := state.header.senderName
            collectionHash := state.header.collectionHash
            entries := state.assembledEntries }
      else none := by
  have hcount : state.assembledEntries.length = state.header.entryCount.toNat := by
    rw [length_assembledEntries]
    exact eq_of_beq (Bool.and_eq_true_iff.mp h).1
  rw [intoPayload, if_pos h, if_neg (not_not.mpr hcount)]
  by_cases htotal : bytesTotal state.assembledEntries = state.header.bytesTotal
  · rw [if_neg (not_not.mpr htotal), if_pos htotal]
    rfl
  · rw [if_pos htotal, if_neg htotal]
    rfl

end ChunkedTransfer

namespace Inbound

/-- The handlers of a transfer that were spawned. -/
def handlersFor (inbound : Inbound) (transferId : Uuid) : List (DeviceId × SendPayload) :=
  inbound.spawnedHandlers.filter fun handler => handler.2.transferId = transferId

@[simp] theorem handlersFor_setPending (inbound : Inbound) (changed transferId : Uuid)
    (state : Option ChunkedTransfer) :
    (inbound.setPending changed state).handlersFor transferId = inbound.handlersFor transferId :=
  rfl

@[simp] theorem handlersFor_emit_timeout (inbound : Inbound) («from» : DeviceId)
    (pending transferId : Uuid) :
    (inbound.emit (.spawnIncompleteChunkTimeout «from» pending)).handlersFor transferId =
      inbound.handlersFor transferId := by
  simp [handlersFor]

@[simp] theorem handlersFor_emit_handler (inbound : Inbound) («from» : DeviceId)
    (payload : SendPayload) (transferId : Uuid) :
    (inbound.emit (.spawnTransferHandler «from» payload)).handlersFor transferId =
      inbound.handlersFor transferId ++
        if payload.transferId = transferId then [(«from», payload)] else [] := by
  rw [handlersFor, spawnedHandlers_emit_handler, List.filter_append]
  by_cases hid : payload.transferId = transferId <;> simp [handlersFor, hid]

end Inbound

/-- What becomes of a pending manifest when `try_finalize_chunked_transfer` sees it. -/
def handed («from» : DeviceId) (pending : Option ChunkedTransfer) :
    List (DeviceId × SendPayload) :=
  ((pending.filter ChunkedTransfer.isComplete).bind fun manifest =>
    manifest.intoPayload.toOption).toList.map fun payload => («from», payload)

theorem ChunkedTransfer.intoPayload_header {state : ChunkedTransfer} {payload : SendPayload}
    (hcomplete : state.isComplete = true) (h : state.intoPayload = .ok payload) :
    payload.transferId = state.header.transferId ∧ payload.version = state.header.version := by
  have hpayload := intoPayload_of_complete hcomplete
  rw [h] at hpayload
  obtain ⟨-, hpayload⟩ := Option.ite_none_right_eq_some.mp hpayload.symm
  rw [← Option.some.inj hpayload]
  exact ⟨rfl, rfl⟩

theorem Inbound.tryFinalize_handlers (inbound : Inbound) («from» : DeviceId)
    (finished transferId : Uuid)
    (hkeyed : ∀ manifest ∈ inbound.pendingChunkedTransfers finished,
      manifest.header.transferId = finished) :
    (inbound.tryFinalizeChunkedTransfer «from» finished).2.handlersFor transferId =
      inbound.handlersFor transferId ++ if finished = transferId then
        handed «from» (inbound.pendingChunkedTransfers finished) else [] := by
  cases hpending : inbound.pendingChunkedTransfers finished with
  | none => simp [tryFinalizeChunkedTransfer, hpending, handed]
  | some manifest =>
      have hid := hkeyed manifest hpending
      cases hcomplete : manifest.isComplete with
      | false => simp [tryFinalizeChunkedTransfer, hpending, hcomplete, handed, Option.filter]
      | true =>
          cases hinto : manifest.intoPayload with
          | error message =>
              simp [tryFinalizeChunkedTransfer, hpending, hcomplete, hinto, handed,
                Option.filter, Except.toOption]
          | ok payload =>
              have hpayload := (ChunkedTransfer.intoPayload_header hcomplete hinto).1.trans hid
              simp [tryFinalizeChunkedTransfer, hpending, hcomplete, hinto, handed,
                Option.filter, Except.toOption, hpayload]

/-- The transfer that a message begins. -/
def SendEnvelope.opens : SendEnvelope → Option Uuid
  | .transfer payload => some payload.transferId
  | .transferHeader header => some header.transferId
  | _ => none

namespace ReceiverInput

def opens : ReceiverInput → Option Uuid
  | .receive _ envelope => envelope.opens
  | _ => none

/-- Who sent a chunk or the end of a manifest. -/
def bodySender (transferId : Uuid) : ReceiverInput → Option DeviceId
  | .receive device envelope => (envelope.callOn transferId).map fun _ => device
  | _ => none

theorem headerOf_of_opens {transferId : Uuid} {input : ReceiverInput}
    (h : input.opens ≠ some transferId) : input.headerOf transferId = none := by
  cases input with
  | receive device envelope =>
      cases envelope with
      | transferHeader header => exact if_neg fun hid => h (congrArg some hid)
      | _ => rfl
  | _ => rfl

theorem onPending_keyed {transferId : Uuid} {input : ReceiverInput}
    {pending : Option ChunkedTransfer}
    (h : ∀ manifest ∈ pending, manifest.header.transferId = transferId) :
    ∀ manifest ∈ input.onPending transferId pending,
      manifest.header.transferId = transferId := by
  intro manifest hmanifest
  rcases onPending_cases hmanifest with
    hold | ⟨header, -, hid, rfl⟩ | ⟨chunk, state, -, hold, rfl⟩ | ⟨finish, state, hold, rfl⟩
  · exact h manifest hold
  · exact hid
  · exact h state hold
  · exact h state hold

end ReceiverInput

namespace Receiver

variable {state next : Receiver} {input : ReceiverInput} {transferId : Uuid}

theorem run_keyed {inputs : List ReceiverInput} (h : run inputs = some state)
    (transferId : Uuid) : ∀ manifest ∈ state.inbound.pendingChunkedTransfers transferId,
      manifest.header.transferId = transferId := by
  rw [run_pending h]
  clear h
  induction inputs using List.reverseRecOn with
  | nil => simp [manifestAfter]
  | append_singleton inputs input ih =>
      rw [manifestAfter, List.foldl_append]
      exact ReceiverInput.onPending_keyed ih

theorem receive_handlers («from» : DeviceId) {envelope : SendEnvelope}
    (h : envelope.opens ≠ some transferId) :
    (state.receive «from» envelope).inbound.handlersFor transferId =
      state.inbound.handlersFor transferId := by
  cases envelope with
  | transfer payload =>
      have hother : payload.transferId ≠ transferId := fun hid => h (congrArg some hid)
      simp [receive, Inbound.handleEnvelope, hother]
  | transferHeader header => rfl
  | transferChunk chunk =>
      rw [receive]
      split <;> rfl
  | transferEnd finish =>
      rw [receive]
      split <;> rfl
  | ack ack =>
      simp [receive, Inbound.handleEnvelope, Inbound.handleAck, Inbound.emit,
        Inbound.handlersFor, Inbound.spawnedHandlers]
  | progress progress =>
      simp [receive, Inbound.handleEnvelope, Inbound.emit, Inbound.handlersFor,
        Inbound.spawnedHandlers]

theorem finalize_handlers (finishing : Finishing)
    (hkeyed : ∀ manifest ∈ state.inbound.pendingChunkedTransfers finishing.transferId,
      manifest.header.transferId = finishing.transferId) :
    (state.finalize finishing).inbound.handlersFor transferId =
      state.inbound.handlersFor transferId ++ if finishing.transferId = transferId then
        handed finishing.from (state.inbound.pendingChunkedTransfers finishing.transferId)
      else [] := by
  rw [← state.inbound.tryFinalize_handlers finishing.from finishing.transferId transferId hkeyed,
    finalize_inbound]
  split
  · next hfinal =>
      rw [hfinal]
      split <;> simp
  · next hfinal => rw [hfinal]

/-- Only a message that begins a transfer and `try_finalize_chunked_transfer` spawn its
handlers. -/
theorem step_handlers (h : state.step input = some next)
    (hkeyed : ∀ transferId, ∀ manifest ∈ state.inbound.pendingChunkedTransfers transferId,
      manifest.header.transferId = transferId)
    (hopens : input.opens ≠ some transferId) :
    (input ≠ .finalize transferId →
      next.inbound.handlersFor transferId = state.inbound.handlersFor transferId) ∧
    (input = .finalize transferId → ∃ finishing, state.finishing = some finishing ∧
      finishing.transferId = transferId ∧
      next.inbound.handlersFor transferId = state.inbound.handlersFor transferId ++
        handed finishing.from (state.inbound.pendingChunkedTransfers transferId)) := by
  obtain ⟨middle, hact, rfl⟩ := Option.map_eq_some_iff.mp h
  cases input with
  | receive «from» envelope =>
      obtain ⟨-, hmiddle⟩ := Option.ite_none_right_eq_some.mp hact
      rw [← Option.some.inj hmiddle]
      exact ⟨fun _ => receive_handlers «from» hopens, by rintro ⟨⟩⟩
  | finalize finished =>
      obtain ⟨finishing, hfinishing, rfl, rfl⟩ := act_finalize hact
      have hhandlers := @finalize_handlers state transferId finishing (hkeyed _)
      constructor
      · intro hother
        rw [if_neg fun hid => hother (congrArg _ hid), List.append_nil] at hhandlers
        exact hhandlers
      · intro hself
        obtain rfl := ReceiverInput.finalize.inj hself
        rw [if_pos rfl] at hhandlers
        exact ⟨finishing, hfinishing, rfl, hhandlers⟩
  | elapse seconds =>
      cases hact
      exact ⟨fun _ => rfl, by rintro ⟨⟩⟩
  | timeout timer =>
      obtain ⟨-, hmiddle⟩ := Option.ite_none_right_eq_some.mp hact
      rw [← Option.some.inj hmiddle]
      exact ⟨fun _ => rfl, by rintro ⟨⟩⟩

theorem step_finishing {last : Option DeviceId} (h : state.step input = some next)
    (hlast : ∀ finishing, state.finishing = some finishing →
      finishing.transferId = transferId → last = some finishing.from) :
    ∀ finishing, next.finishing = some finishing → finishing.transferId = transferId →
      (input.bodySender transferId).or last = some finishing.from := by
  obtain ⟨middle, hact, rfl⟩ := Option.map_eq_some_iff.mp h
  cases input with
  | receive device envelope =>
      obtain ⟨hidle, hmiddle⟩ := Option.ite_none_right_eq_some.mp hact
      rw [← Option.some.inj hmiddle]
      intro finishing hfinishing hid
      have hnone : state.finishing = none := Option.isNone_iff_eq_none.mp hidle
      cases envelope with
      | transferChunk chunk =>
          simp only [receive] at hfinishing
          split at hfinishing
          · simp [hnone] at hfinishing
          · obtain rfl := Option.some.inj hfinishing
            simp only [ReceiverInput.bodySender, SendEnvelope.callOn, if_pos hid]
            rfl
      | transferEnd finish =>
          simp only [receive] at hfinishing
          split at hfinishing
          · simp [hnone] at hfinishing
          · obtain rfl := Option.some.inj hfinishing
            simp only [ReceiverInput.bodySender, SendEnvelope.callOn, if_pos hid]
            rfl
      | _ => simp [receive, hnone] at hfinishing
  | finalize finished =>
      obtain ⟨finishing, -, rfl, rfl⟩ := act_finalize hact
      intro finishing' hfinishing
      simp [finalize_finishing] at hfinishing
  | elapse seconds =>
      cases hact
      exact hlast
  | timeout timer =>
      obtain ⟨-, hmiddle⟩ := Option.ite_none_right_eq_some.mp hact
      rw [← Option.some.inj hmiddle]
      exact hlast

end Receiver

/-- Who sent the last chunk or end of a manifest. -/
def lastSender (transferId : Uuid) (rest : List ReceiverInput) : Option DeviceId :=
  (rest.filterMap (ReceiverInput.bodySender transferId)).getLast?

theorem lastSender_snoc (transferId : Uuid) (rest : List ReceiverInput) (input : ReceiverInput) :
    lastSender transferId (rest ++ [input]) =
      (input.bodySender transferId).or (lastSender transferId rest) := by
  rw [lastSender, lastSender, List.filterMap_append, List.getLast?_append]
  cases h : input.bodySender transferId <;> simp [h]

/-- After its header a manifest is completed by a message of the device, before a timer of the
transfer fires. -/
def CompletedBy (header : SendTransferHeader) (rest : List ReceiverInput) (device : DeviceId)
    (manifest : ChunkedTransfer) : Prop :=
  ∃ earlier input later, rest = earlier ++ input :: later ∧
    (input = .finalize header.transferId ∧ ¬Removed header earlier ∧
      lastSender header.transferId earlier = some device ∧
      manifest = manifestOf header earlier ∧ manifest.isComplete = true)

section Completed

variable {header : SendTransferHeader} {rest : List ReceiverInput} {device : DeviceId}
  {manifest : ChunkedTransfer}

theorem completedBy_snoc {input : ReceiverInput} :
    CompletedBy header (rest ++ [input]) device manifest ↔
      CompletedBy header rest device manifest ∨
        (input = .finalize header.transferId ∧ ¬Removed header rest ∧
          lastSender header.transferId rest = some device ∧
          manifest = manifestOf header rest ∧ manifest.isComplete = true) :=
  exists_split_concat

theorem CompletedBy.removed (h : CompletedBy header rest device manifest) :
    Removed header rest := by
  obtain ⟨earlier, input, later, hsplit, rfl, -, -, rfl, hcomplete⟩ := h
  exact ⟨earlier, _, later, hsplit, rfl, hcomplete⟩

theorem CompletedBy.header_eq (h : CompletedBy header rest device manifest) :
    manifest.header = header := by
  obtain ⟨earlier, input, later, -, -, -, -, rfl, -⟩ := h
  exact applyCalls_header _ _

theorem CompletedBy.complete (h : CompletedBy header rest device manifest) :
    manifest.isComplete = true := by
  obtain ⟨earlier, input, later, -, -, -, -, -, hcomplete⟩ := h
  exact hcomplete

theorem pending_since {before : List ReceiverInput} {sender : DeviceId} {state : Receiver}
    (hrun : Receiver.run (before ++ .receive sender (.transferHeader header) :: rest) =
      some state)
    (hrest : ∀ input ∈ rest, input.opens ≠ some header.transferId) :
    (Removed header rest → state.inbound.pendingChunkedTransfers header.transferId = none) ∧
    (¬Removed header rest →
      state.inbound.pendingChunkedTransfers header.transferId = some (manifestOf header rest)) := by
  have hlast : ∀ input ∈ rest, input.headerOf header.transferId = none :=
    fun input hinput => ReceiverInput.headerOf_of_opens (hrest input hinput)
  rw [Receiver.run_pending hrun, Receiver.manifestAfter, List.foldl_append, List.foldl_cons,
    ReceiverInput.onPending_header]
  exact manifest_since hlast

/-- The handlers that a manifest is given to, as far as it has been received. -/
structure HandedSince (header : SendTransferHeader) (rest : List ReceiverInput)
    (start state : Receiver) : Prop where
  finishing : ∀ finishing, state.finishing = some finishing →
    finishing.transferId = header.transferId →
      lastSender header.transferId rest = some finishing.from
  handlers :
    ((∀ device manifest, ¬CompletedBy header rest device manifest) ∧
      state.inbound.handlersFor header.transferId =
        start.inbound.handlersFor header.transferId) ∨
    ∃ device manifest,
      (∀ device' manifest', CompletedBy header rest device' manifest' ↔
        device' = device ∧ manifest' = manifest) ∧
      state.inbound.handlersFor header.transferId =
        start.inbound.handlersFor header.transferId ++ handed device (some manifest)

theorem HandedSince.finalize {before : List ReceiverInput} {sender : DeviceId}
    {start state next : Receiver} {finishing : Finishing}
    (h : HandedSince header rest start state)
    (hrun : Receiver.run (before ++ .receive sender (.transferHeader header) :: rest) =
      some state)
    (hrest : ∀ input ∈ rest, input.opens ≠ some header.transferId)
    (hfinishing : state.finishing = some finishing)
    (hid : finishing.transferId = header.transferId)
    (hhandlers : next.inbound.handlersFor header.transferId =
      state.inbound.handlersFor header.transferId ++
        handed finishing.from (state.inbound.pendingChunkedTransfers header.transferId)) :
    ((∀ device manifest,
        ¬CompletedBy header (rest ++ [.finalize header.transferId]) device manifest) ∧
      next.inbound.handlersFor header.transferId =
        start.inbound.handlersFor header.transferId) ∨
    ∃ device manifest,
      (∀ device' manifest',
        CompletedBy header (rest ++ [.finalize header.transferId]) device' manifest' ↔
          device' = device ∧ manifest' = manifest) ∧
      next.inbound.handlersFor header.transferId =
        start.inbound.handlersFor header.transferId ++ handed device (some manifest) := by
  obtain ⟨hgone, hkept⟩ := pending_since hrun hrest
  have hlast := h.finishing finishing hfinishing hid
  simp only [completedBy_snoc]
  by_cases hremoved : Removed header rest
  · rw [hgone hremoved, handed, Option.filter_none, Option.bind_none, Option.toList_none,
      List.map_nil, List.append_nil] at hhandlers
    rw [hhandlers]
    simpa [hremoved] using h.handlers
  · rw [hkept hremoved] at hhandlers
    rcases h.handlers with ⟨hnever, hsame⟩ | ⟨device, manifest, hcompleted, -⟩
    · rw [hsame] at hhandlers
      cases hcomplete : (manifestOf header rest).isComplete with
      | true =>
          refine .inr ⟨finishing.from, manifestOf header rest, fun device' manifest' => ?_,
            hhandlers⟩
          constructor
          · rintro (hearlier | ⟨-, -, hdevice, rfl, -⟩)
            · exact (hnever _ _ hearlier).elim
            · exact ⟨(Option.some.inj (hlast.symm.trans hdevice)).symm, rfl⟩
          · rintro ⟨rfl, rfl⟩
            exact .inr ⟨trivial, hremoved, hlast, rfl, hcomplete⟩
      | false =>
          refine .inl ⟨fun device' manifest' => ?_, ?_⟩
          · rintro (hearlier | ⟨-, -, -, rfl, hcomplete'⟩)
            · exact hnever _ _ hearlier
            · simp [hcomplete] at hcomplete'
          · rw [hhandlers]
            simp [handed, Option.filter, hcomplete]
    · exact (hremoved ((hcompleted device manifest).mpr ⟨rfl, rfl⟩).removed).elim

theorem handed_since {before : List ReceiverInput} {sender : DeviceId} {start state : Receiver}
    (hstart : Receiver.run before = some start)
    (hrun : Receiver.run (before ++ .receive sender (.transferHeader header) :: rest) =
      some state)
    (hrest : ∀ input ∈ rest, input.opens ≠ some header.transferId) :
    HandedSince header rest start state := by
  induction rest using List.reverseRecOn generalizing state with
  | nil =>
      rw [Receiver.run_snoc, hstart] at hrun
      obtain ⟨middle, hact, rfl⟩ := Option.map_eq_some_iff.mp hrun
      obtain ⟨hidle, hmiddle⟩ := Option.ite_none_right_eq_some.mp hact
      rw [← Option.some.inj hmiddle]
      have hnone : start.finishing = none := Option.isNone_iff_eq_none.mp hidle
      constructor
      · intro finishing hfinishing
        simp [Receiver.receive, hnone] at hfinishing
      · refine .inl ⟨?_, rfl⟩
        rintro device manifest ⟨earlier, input, later, hsplit, -⟩
        simp at hsplit
  | append_singleton rest input ih =>
      rw [← List.cons_append, ← List.append_assoc, Receiver.run_snoc] at hrun
      obtain ⟨middle, hmiddle, hstep⟩ := Option.bind_eq_some_iff.mp hrun
      have hrest' : ∀ input ∈ rest, input.opens ≠ some header.transferId :=
        fun input hinput => hrest input (List.mem_append_left _ hinput)
      have hsince := ih hmiddle hrest'
      obtain ⟨hother, hself⟩ := Receiver.step_handlers hstep
        (fun transferId => Receiver.run_keyed hmiddle transferId) (hrest input (by simp))
      constructor
      · rw [lastSender_snoc]
        exact Receiver.step_finishing hstep hsince.finishing
      · by_cases hinput : input = .finalize header.transferId
        · obtain ⟨finishing, hfinishing, hid, hhandlers⟩ := hself hinput
          rw [hinput]
          exact hsince.finalize hmiddle hrest' hfinishing hid hhandlers
        · rw [hother hinput]
          simpa [completedBy_snoc, hinput] using hsince.handlers

end Completed

/-- The handlers of a transfer that were spawned since an earlier state. -/
def Receiver.handlersSince (state start : Receiver) (transferId : Uuid) :
    List (DeviceId × SendPayload) :=
  (state.inbound.handlersFor transferId).drop (start.inbound.handlersFor transferId).length

/-- The manifest of a supported version that a sender has begun is completed by the sender,
with sizes of the announced sum. -/
def Deliverable (sender : DeviceId) (header : SendTransferHeader) (rest : List ReceiverInput) :
    Prop :=
  header.version = SEND_PAYLOAD_VERSION ∧
    ∃ manifest, CompletedBy header rest sender manifest ∧
      bytesTotal manifest.assembledEntries = header.bytesTotal

section Deliverable

variable {limits : ClipboardLimits} {sender device : DeviceId} {header : SendTransferHeader}
  {rest : List ReceiverInput} {manifest : ChunkedTransfer}

theorem answered_handed_iff (hcompleted : CompletedBy header rest device manifest) :
    Answered limits sender header.transferId (handed device (some manifest)) ↔
      header.version = SEND_PAYLOAD_VERSION ∧ device = sender ∧
        bytesTotal manifest.assembledEntries = header.bytesTotal := by
  have hcomplete := hcompleted.complete
  have hinto := ChunkedTransfer.intoPayload_of_complete hcomplete
  rw [hcompleted.header_eq] at hinto
  rw [handed, Option.filter_some_pos hcomplete, Option.bind_some, hinto]
  by_cases htotal : bytesTotal manifest.assembledEntries = header.bytesTotal
  · rw [if_pos htotal]
    have hsingle := @answered_singleton_iff limits sender device
      { version := header.version
        transferId := header.transferId
        senderName := header.senderName
        collectionHash := header.collectionHash
        entries := manifest.assembledEntries }
    simpa [htotal] using hsingle
  · rw [if_neg htotal]
    simp [not_answered_nil, htotal]

theorem answered_since_iff {before : List ReceiverInput} {start state : Receiver}
    (hstart : Receiver.run before = some start)
    (hrun : Receiver.run (before ++ .receive sender (.transferHeader header) :: rest) =
      some state)
    (hrest : ∀ input ∈ rest, input.opens ≠ some header.transferId) :
    Answered limits sender header.transferId
        (state.handlersSince start header.transferId) ↔ Deliverable sender header rest := by
  rcases (handed_since hstart hrun hrest).handlers with
    ⟨hnever, hsame⟩ | ⟨device, manifest, hcompleted, hhandlers⟩
  · rw [Receiver.handlersSince, hsame, List.drop_length]
    refine iff_of_false not_answered_nil ?_
    rintro ⟨-, manifest, hcompleted, -⟩
    exact hnever _ _ hcompleted
  · rw [Receiver.handlersSince, hhandlers, List.drop_left,
      answered_handed_iff ((hcompleted device manifest).mpr ⟨rfl, rfl⟩)]
    simp only [Deliverable, hcompleted]
    constructor
    · rintro ⟨hversion, rfl, htotal⟩
      exact ⟨hversion, manifest, ⟨rfl, rfl⟩, htotal⟩
    · rintro ⟨hversion, _, ⟨rfl, rfl⟩, htotal⟩
      exact ⟨hversion, rfl, htotal⟩

/-- A received transfer is answered once, and truly, exactly if its version is supported and
its manifest, if it has one, is completed with sizes of the announced sum. -/
theorem transfer_answered_iff (limits : ClipboardLimits) (sender : DeviceId) :
    (∀ (start : Receiver) (payload : SendPayload),
      Answered limits sender payload.transferId
        ((start.receive sender (.transfer payload)).handlersSince start payload.transferId) ↔
          payload.version = SEND_PAYLOAD_VERSION) ∧
    ∀ (before rest : List ReceiverInput) (header : SendTransferHeader) (start state : Receiver),
      Receiver.run before = some start →
      Receiver.run (before ++ .receive sender (.transferHeader header) :: rest) = some state →
      (∀ input ∈ rest, input.opens ≠ some header.transferId) →
      (Answered limits sender header.transferId
        (state.handlersSince start header.transferId) ↔ Deliverable sender header rest) := by
  constructor
  · intro start payload
    have hhandlers : (start.receive sender (.transfer payload)).handlersSince start
        payload.transferId = [(sender, payload)] := by
      simp [Receiver.handlersSince, Receiver.receive, Inbound.handleEnvelope]
    rw [hhandlers, answered_singleton_iff]
    simp
  · intro before rest header start state hstart hrun hrest
    exact answered_since_iff hstart hrun hrest

end Deliverable

section Examples

/-- The manifest of one file, which its only chunk completes. -/
def manifestOfOne (header : SendTransferHeader) : List ReceiverInput :=
  [.receive ⟨1⟩ (.transferHeader header), .receive ⟨1⟩ (.transferChunk restartedChunk),
    .finalize 7, .receive ⟨1⟩ (.transferEnd { transferId := 7, chunkCount := 1 })]

theorem manifest_of_one_answered :
    ∃ state, Receiver.run (manifestOfOne restartedHeader) = some state ∧
      Answered .default ⟨1⟩ 7 (state.handlersSince .start 7) := by
  have hruns : (Receiver.run (manifestOfOne restartedHeader)).isSome = true := by
    decide +kernel
  obtain ⟨state, hstate⟩ := Option.isSome_iff_exists.mp hruns
  have hiff := (transfer_answered_iff .default ⟨1⟩).2 [] _ restartedHeader _ _ rfl hstate
    (by decide)
  refine ⟨state, hstate, hiff.mpr ⟨rfl,
    manifestOf restartedHeader [.receive ⟨1⟩ (.transferChunk restartedChunk)],
    ⟨_, _, _, rfl, rfl, ?_, rfl, rfl, by decide +kernel⟩, by decide +kernel⟩⟩
  rintro ⟨earlier, input, later, hsplit, hremoved⟩
  rcases earlier with _ | ⟨first, earlier⟩
  · obtain ⟨rfl, -⟩ := List.cons.inj hsplit
    exact hremoved
  · simp at hsplit

/-- The header announces a byte more than the chunk has. -/
def misannouncedHeader : SendTransferHeader :=
  { restartedHeader with bytesTotal := 43 }

/-- All of the manifest arrives, and the sender hears nothing. -/
theorem misannounced_unanswered :
    ∃ state, Receiver.run (manifestOfOne misannouncedHeader) = some state ∧
      state.finishing = none ∧ ¬Answered .default ⟨1⟩ 7 (state.handlersSince .start 7) := by
  have hruns : (Receiver.run (manifestOfOne misannouncedHeader)).map (fun state =>
      (state.finishing.isNone, (state.handlersSince .start 7).isEmpty)) = some (true, true) := by
    decide +kernel
  obtain ⟨state, hstate, hended⟩ := Option.map_eq_some_iff.mp hruns
  obtain ⟨hidle, hnone⟩ := Prod.mk.inj hended
  refine ⟨state, hstate, Option.isNone_iff_eq_none.mp hidle, ?_⟩
  rw [List.isEmpty_iff.mp hnone]
  exact not_answered_nil

end Examples

end Failsafe.Send
