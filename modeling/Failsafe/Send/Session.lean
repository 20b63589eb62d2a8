import Failsafe.Lib.Trace
import Failsafe.Lib.Within
import Failsafe.Send.Daemon
import Failsafe.Send.ManifestPlan

/-!
What a send session asks for, phase by phase, and what its trace looks like.
-/

namespace Failsafe.Send

open Failsafe.Core Failsafe.Clipboard Failsafe.Lib Failsafe.Transport

/-- Requests of the receiving side. -/
def SendRequest.Receiving : SendRequest → Prop
  | .lockEntry _ | .lockAcquire _ _ | .lockRelease _ | .removeUnusedEntry _ _
  | .dropLock _ | .listReceiveStates | .readReceiveState _ | .loadReceiveState _
  | .saveReceiveState _ | .removeReceiveState _ | .downloadCollection _ _ _
  | .exportCollection _ _ _ | .downloadsBaseDir | .localTimestamp
  | .notifyFilesReceived _ _ _ | .connectedPeers | .forwardProgress _ _
  | .send _ (.ack _) _ => True
  | _ => False

/-- Requests of `run_receive` for the state of a transfer. -/
def SendRequest.Working (transferId : Uuid) : SendRequest → Prop
  | .saveReceiveState state => state.transferId = transferId
  | .exportCollection exported _ _ => exported = transferId
  | .downloadCollection _ _ _ | .downloadsBaseDir | .localTimestamp
  | .notifyFilesReceived _ _ _ | .forwardProgress _ _ => True
  | _ => False

/-- Requests that answer the sender of a transfer and end its state. -/
def SendRequest.Settling (transferId : Uuid) : SendRequest → Prop
  | .send _ (.ack ack) _ => ack.transferId = transferId
  | .removeReceiveState removed => removed = transferId
  | _ => False

/-- Requests of the receiving side that it makes with the lock of a transfer. -/
def SendRequest.UnderLock : SendRequest → Prop
  | .loadReceiveState _ | .saveReceiveState _ | .removeReceiveState _
  | .downloadCollection _ _ _ | .exportCollection _ _ _ | .downloadsBaseDir | .localTimestamp
  | .notifyFilesReceived _ _ _ | .forwardProgress _ _ | .send _ (.ack _) _ => True
  | _ => False

theorem SendRequest.Working.underLock {transferId : Uuid} {request : SendRequest}
    (h : request.Working transferId) : request.UnderLock := by
  cases request <;> first | exact h.elim | trivial

theorem SendRequest.Settling.underLock {transferId : Uuid} {request : SendRequest}
    (h : request.Settling transferId) : request.UnderLock := by
  cases request with
  | send «to» envelope receipt => cases envelope <;> first | exact h.elim | trivial
  | _ => first | exact h.elim | trivial

theorem SendRequest.UnderLock.receiving {request : SendRequest} (h : request.UnderLock) :
    request.Receiving := by
  cases request with
  | send «to» envelope receipt => cases envelope <;> first | exact h.elim | trivial
  | _ => first | exact h.elim | trivial

/-- Requests on the way to a prepared payload. -/
def SendRequest.Preparing : SendRequest → Prop
  | .isCancelled _ | .readSendState _ | .saveSendState _ | .collectFilePreview _
  | .collectImportSources _ | .importSources _ _ | .collectionStatus _ _
  | .tryEmit _ _ _ _ => True
  | _ => False

/-- Requests of the envelope loop. -/
def SendRequest.Sending : SendRequest → Prop
  | .send _ (.ack _) _ => False
  | .send _ _ _ => True
  | _ => False

/-- Requests of `wait_for_send_ack`. -/
def SendRequest.Waiting : SendRequest → Prop
  | .emit _ _ _ _ | .awaitAck _ _ | .hang => True
  | _ => False

/-- Requests before the first envelope of a prepared payload. -/
def SendRequest.Polling : SendRequest → Prop
  | .isCancelled _ | .emit _ _ _ _ => True
  | _ => False

/-- Requests from a prepared payload to the receiver's answer. -/
def SendRequest.Delivering (request : SendRequest) : Prop :=
  request.Polling ∨ request.Sending ∨ request.Waiting

/-- Requests of `mark_send_complete` and `mark_send_failed`. -/
def SendRequest.Marking : SendRequest → Prop
  | .readSendState _ | .saveSendState _ | .removeSendState _ => True
  | _ => False

/-- Requests of `cancel_all_incomplete_sends` and its sibling. -/
def SendRequest.Cancelling : SendRequest → Prop
  | .listSendStates | .readSendState _ | .removeSendState _ | .pendingWaiters
  | .completeWaiter _ (.error _) | .listReceiveStates | .readReceiveState _
  | .removeReceiveState _ | .sendResponse _ => True
  | _ => False

/-- Requests of the task that waits for the client to hang up. -/
def SendRequest.Watching : SendRequest → Prop
  | .readControl | .cancelToken _ | .hang => True
  | _ => False

section Kinds

variable {kind : SendRequest → Prop}

theorem all_ask {request : SendRequest} (h : kind request) : (ask request).All kind :=
  ⟨h, fun _ => trivial⟩

theorem all_liftExcept {ε α : Type} (result : Except ε α) :
    (liftExcept result : SendTry ε α).run.All kind :=
  trivial

theorem working_emitProgress (transferId : Uuid) («to» : DeviceId) (reports : List SendProgress) :
    (emitProgress «to» reports).All (SendRequest.Working transferId) := by
  induction reports with
  | nil => trivial
  | cons report reports ih => exact .bind (all_ask trivial) fun _ => ih

theorem working_chooseReceiveDir (transferId : Uuid) (state : ReceiveTransferState) :
    (chooseReceiveDir state).All (SendRequest.Working transferId) := by
  unfold chooseReceiveDir
  split
  · trivial
  · refine .bind (all_ask trivial) fun base => ?_
    cases base with
    | none => trivial
    | some base => exact .bind (all_ask trivial) fun _ => trivial

theorem working_runReceive (limits : ClipboardLimits) (state : ReceiveTransferState) :
    (runReceive limits state).run.All (SendRequest.Working state.transferId) := by
  refine .tryBind ?_ fun _ => ?_
  · refine .tryBind (all_liftExcept _) fun _ => ?_
    refine .tryBind (all_ask rfl) fun _ => ?_
    refine .tryBind (.lift (working_emitProgress _ _ _)) fun _ => ?_
    refine .tryBind (.lift (all_ask trivial)) fun _ => ?_
    refine .tryBind (.lift (working_emitProgress _ _ _)) fun _ => ?_
    exact .tryBind (all_liftExcept _) fun _ => all_ask rfl
  · refine .tryBind (.lift (working_chooseReceiveDir _ _)) fun _ => ?_
    refine .tryBind (all_liftExcept _) fun _ => ?_
    refine .tryBind (.lift (all_ask rfl)) fun _ => ?_
    refine .tryBind (.lift (working_emitProgress _ _ _)) fun _ => ?_
    refine .tryBind (all_liftExcept _) fun _ => ?_
    refine .tryBind (.lift (working_emitProgress _ _ _)) fun _ => ?_
    exact .tryBind (all_ask rfl) fun _ => .lift (all_ask trivial)

theorem underLock_runReceive (limits : ClipboardLimits) (state : ReceiveTransferState) :
    (runReceive limits state).run.All SendRequest.UnderLock :=
  (working_runReceive limits state).mono fun _ => SendRequest.Working.underLock

theorem settling_sendAck («to» : DeviceId) (ack : SendAck) (receipt : Option String) :
    (sendAck «to» ack receipt).run.All (SendRequest.Settling ack.transferId) :=
  .bind (all_ask rfl) fun _ => trivial

theorem underLock_sendAck («to» : DeviceId) (ack : SendAck) (receipt : Option String) :
    (sendAck «to» ack receipt).run.All SendRequest.UnderLock :=
  (settling_sendAck «to» ack receipt).mono fun _ => SendRequest.Settling.underLock

theorem settling_acknowledgeAndRemove («from» : DeviceId) (transferId : Uuid)
    (receipt : String) :
    (acknowledgeAndRemove «from» transferId receipt).run.All (SendRequest.Settling transferId) :=
  .tryBind (settling_sendAck _ _ _) fun _ => .tryBind (.lift (all_ask rfl)) fun _ => trivial

theorem underLock_acknowledgeAndRemove («from» : DeviceId) (transferId : Uuid)
    (receipt : String) :
    (acknowledgeAndRemove «from» transferId receipt).run.All SendRequest.UnderLock :=
  (settling_acknowledgeAndRemove «from» transferId receipt).mono fun _ =>
    SendRequest.Settling.underLock

theorem underLock_reportReceiveFailure («from» : DeviceId) (transferId : Uuid)
    (message : String) :
    (reportReceiveFailure «from» transferId message).All SendRequest.UnderLock := by
  refine .bind (all_ask trivial) fun result => ?_
  cases result with
  | error error => exact .bind (underLock_sendAck _ _ _) fun _ => trivial
  | ok state =>
      exact .bind (all_ask trivial) fun _ => .bind (underLock_sendAck _ _ _) fun _ => trivial

theorem receiving_locked {α : Type} (lock : LockId) (resumed : Option ReceiveTransferState)
    {body : SendProg α} (h : body.All SendRequest.UnderLock) :
    (locked lock resumed body).All SendRequest.Receiving :=
  .bind (all_ask trivial) fun _ => .bind (h.mono fun _ => SendRequest.UnderLock.receiving)
    fun _ => .bind (all_ask trivial) fun _ => trivial

theorem underLock_handleTransferLocked (limits : ClipboardLimits) («from» : DeviceId)
    (payload : SendPayload) :
    (handleTransferLocked limits «from» payload).run.All SendRequest.UnderLock := by
  unfold handleTransferLocked
  split
  · trivial
  · refine .tryBind (.lift (.bind (all_ask trivial) fun result => ?_)) fun state => ?_
    · cases result <;> trivial
    · split
      · exact underLock_acknowledgeAndRemove _ _ _
      · refine .tryBind (.lift (underLock_runReceive _ _)) fun result => ?_
        cases result with
        | ok _ => exact underLock_acknowledgeAndRemove _ _ _
        | error message =>
            exact .tryBind (.lift (underLock_reportReceiveFailure _ _ _)) fun _ => trivial

theorem receiving_handleTransfer (limits : ClipboardLimits) («from» : DeviceId)
    (payload : SendPayload) :
    (handleTransfer limits «from» payload).All SendRequest.Receiving := by
  have hlocked := underLock_handleTransferLocked limits «from» payload
  refine .bind (all_ask trivial) fun lock => ?_
  refine .bind (receiving_locked _ _ hlocked) fun _ => ?_
  exact .bind (all_ask trivial) fun _ => .bind (all_ask trivial) fun _ => trivial

theorem receiving_resumeListed (limits : ClipboardLimits) (connected : List DeviceId)
    (state : ReceiveTransferState) :
    (resumeListed limits connected state).All SendRequest.Receiving := by
  unfold resumeListed
  split
  · refine .bind (.bind (all_ask trivial) fun lock => ?_) fun result => ?_
    · exact .bind (receiving_locked _ _ (underLock_runReceive _ _)) fun _ =>
        .bind (all_ask trivial) fun _ => trivial
    · cases result with
      | error error => trivial
      | ok _ =>
          have hack := underLock_sendAck state.sender
            { transferId := state.transferId, ok := true, error := none }
            (some state.collectionHash)
          refine .bind (hack.mono fun _ => SendRequest.UnderLock.receiving) fun acked => ?_
          cases acked with
          | error error => trivial
          | ok _ => exact .bind (all_ask trivial) fun _ => trivial
  · trivial

theorem receiving_resumeIncompleteReceives (limits : ClipboardLimits) :
    (resumeIncompleteReceives limits).All SendRequest.Receiving := by
  have hread : ∀ transferIds, (readIncomplete transferIds).run.All SendRequest.Receiving := by
    intro transferIds
    induction transferIds with
    | nil => trivial
    | cons transferId transferIds ih =>
        exact .tryBind (all_ask trivial) fun _ => .tryBind ih fun _ => trivial
  have heach : ∀ connected states,
      (resumeEach limits connected states).All SendRequest.Receiving := by
    intro connected states
    induction states with
    | nil => trivial
    | cons state states ih => exact .bind (receiving_resumeListed _ _ _) fun _ => ih
  refine .bind (.tryBind (all_ask trivial) fun _ => hread _) fun result => ?_
  split
  · trivial
  · trivial
  · exact .bind (all_ask trivial) fun _ => heach _ _

theorem preparing_emitImportProgress (reports : List BlobProgress) :
    (emitImportProgress reports).All SendRequest.Preparing := by
  induction reports with
  | nil => trivial
  | cons report reports ih => exact .bind (all_ask trivial) fun _ => ih

theorem preparing_collectionImportNeeded (collectionHash : Option String)
    (totalBytes : UInt64) :
    (collectionImportNeeded collectionHash totalBytes).All SendRequest.Preparing := by
  cases collectionHash with
  | none => trivial
  | some hash => exact .bind (all_ask trivial) fun result => by cases result <;> trivial

theorem preparing_checkCancelled (cancel : Token) :
    (checkCancelled cancel).run.All SendRequest.Preparing :=
  .tryBind (.lift (all_ask trivial)) fun answer => by cases answer <;> trivial

theorem preparing_loadOrInitSendState (paths : List SendPathSpec) (target : DeviceId)
    (transferId : Uuid) (resume : Bool) :
    (loadOrInitSendState paths target transferId resume).run.All SendRequest.Preparing := by
  unfold loadOrInitSendState
  split
  · refine .tryBind (all_ask trivial) fun saved => ?_
    split <;> trivial
  · exact .tryBind (all_ask trivial) fun _ => trivial

theorem preparing_importCollection (paths : List SendPathSpec) (state : SendTransferState)
    (cancel : Token) :
    (importCollection paths state cancel).run.All SendRequest.Preparing := by
  refine .tryBind (all_ask trivial) fun _ => ?_
  refine .tryBind (.lift (all_ask trivial)) fun _ => ?_
  refine .tryBind (all_ask trivial) fun _ => .tryBind ?_ fun _ => ?_
  · refine .tryBind (.lift (all_ask trivial)) fun ⟨reports, outcome⟩ => ?_
    refine .tryBind (.lift (preparing_emitImportProgress _)) fun _ => ?_
    cases outcome <;> trivial
  · exact .tryBind (all_ask trivial) fun _ =>
      .tryBind (.lift (all_ask trivial)) fun _ => trivial

theorem preparing_ensureImported (paths : List SendPathSpec) (state : SendTransferState)
    (cancel : Token) :
    (ensureImported paths state cancel).run.All SendRequest.Preparing := by
  refine .tryBind (.lift (preparing_collectionImportNeeded _ _)) fun importNeeded => ?_
  cases importNeeded with
  | true => exact preparing_importCollection _ _ _
  | false =>
      have hprepared : (emitPreparedProgress state.bytesTotal).All SendRequest.Preparing :=
        .bind (all_ask trivial) fun _ => all_ask trivial
      exact .tryBind (.lift hprepared) fun _ => trivial

theorem within_prepare (limits : ClipboardLimits) (senderName : String)
    (paths : List SendPathSpec) (target : DeviceId) (transferId : Uuid) (resume : Bool)
    (cancel : Token) :
    (prepareSendPayload limits senderName paths target transferId resume cancel).run.Within
      SendRequest.Preparing (fun _ _ => True) fun result => ∀ payload, result = .ok payload →
        payload.transferId = transferId ∧ payload.senderName = senderName := by
  refine Prog.within_try (preparing_checkCancelled _) (fun _ _ h => nomatch h) fun _ => ?_
  refine Prog.within_try (preparing_loadOrInitSendState _ _ _ _) (fun _ _ h => nomatch h) ?_
  rintro ⟨sendPaths, state⟩
  refine Prog.within_try trivial (fun _ _ h => nomatch h) fun _ => ?_
  refine Prog.within_try (all_ask trivial) (fun _ _ h => nomatch h) fun _ => ?_
  refine Prog.within_try (preparing_ensureImported _ _ _) (fun _ _ h => nomatch h) fun state => ?_
  refine Prog.within_try (preparing_checkCancelled _) (fun _ _ h => nomatch h) fun _ => ?_
  refine Prog.within_try (all_ask trivial) (fun _ _ h => nomatch h) fun _ => ?_
  dsimp only
  cases state.collectionHash with
  | none => exact fun _ h => nomatch h
  | some hash => exact fun payload h => Except.ok.inj h ▸ ⟨rfl, rfl⟩

theorem preparing_prepareSendPayload (limits : ClipboardLimits) (senderName : String)
    (paths : List SendPathSpec) (target : DeviceId) (transferId : Uuid) (resume : Bool)
    (cancel : Token) :
    (prepareSendPayload limits senderName paths target transferId resume cancel).run.All
      SendRequest.Preparing :=
  (within_prepare limits senderName paths target transferId resume cancel).all

theorem sending_sendEnvelopes («to» : DeviceId) {envelopes : List SendEnvelope}
    (henvelopes : ∀ envelope ∈ envelopes, ∀ ack, envelope ≠ .ack ack) :
    (sendEnvelopes «to» envelopes).run.All SendRequest.Sending := by
  induction envelopes with
  | nil => trivial
  | cons envelope envelopes ih =>
      have hsend : SendRequest.Sending (.send «to» envelope none) := by
        cases envelope with
        | ack ack => exact (henvelopes _ List.mem_cons_self ack rfl).elim
        | _ => trivial
      refine .tryBind (.bind (all_ask hsend) fun _ => trivial) fun _ => ih fun envelope hmem => ?_
      exact henvelopes envelope (List.mem_cons_of_mem _ hmem)

theorem planTransferEnvelopes_ne_ack (serde : SerdeJson) («from» «to» : DeviceId)
    (payload : SendPayload) :
    ∀ envelope ∈ planTransferEnvelopes serde «from» «to» payload, ∀ ack, envelope ≠ .ack ack := by
  rintro envelope hmem ack rfl
  simp only [planTransferEnvelopes] at hmem
  split at hmem
  · simp at hmem
  · simp only [List.cons_append, List.mem_cons, reduceCtorEq, List.mem_append,
      List.not_mem_nil, or_false, false_or] at hmem
    obtain ⟨chunk, heq⟩ := chunkEnvelopes_chunk _ _ _ _ _ _ hmem
    cases heq

theorem waiting_waitForSendAck (cancel : Token) (waiter : WaiterId) (turns : Nat) :
    (waitForSendAck cancel waiter turns).run.All SendRequest.Waiting := by
  induction turns with
  | zero => exact ⟨trivial, fun response => nomatch response⟩
  | succ turns ih =>
      refine .tryBind (.lift (all_ask trivial)) fun event => ?_
      cases event with
      | progress report => exact .tryBind (.lift (all_ask trivial)) fun _ => ih
      | _ => trivial

theorem delivering_deliverPayload (config : SendConfig) (request : SendFilesRequest)
    (turns : Nat) (cancel : Token) (waiter : WaiterId) (payload : SendPayload) :
    (deliverPayload config request turns cancel waiter payload).run.All
      SendRequest.Delivering := by
  have hcheck : (checkCancelled cancel).run.All SendRequest.Delivering :=
    .tryBind (.lift (all_ask (.inl trivial))) fun answer => by cases answer <;> trivial
  refine .tryBind hcheck fun _ => .tryBind (.lift (all_ask (.inl trivial))) fun _ => ?_
  refine .tryBind hcheck fun _ => ?_
  have hplanned := planTransferEnvelopes_ne_ack config.serde config.localId request.target payload
  refine .tryBind ((sending_sendEnvelopes _ hplanned).mono fun _ h => .inr (.inl h)) fun _ => ?_
  refine .tryBind (.lift (all_ask (.inl trivial))) fun _ => ?_
  exact (waiting_waitForSendAck _ _ _).mono fun _ h => .inr (.inr h)

theorem all_sendTransfer (config : SendConfig) (request : SendFilesRequest) (turns : Nat)
    (cancel : Token) (waiter : WaiterId) :
    (sendTransfer config request turns cancel waiter).run.All
      fun request => SendRequest.Preparing request ∨ SendRequest.Delivering request := by
  refine .tryBind ?_ fun payload => ?_
  · exact (preparing_prepareSendPayload _ _ _ _ _ _ _).mono fun _ h => .inl h
  · exact (delivering_deliverPayload _ _ _ _ _ _).mono fun _ h => .inr h

theorem marking_markSendComplete (transferId : Uuid) :
    (markSendComplete transferId).run.All SendRequest.Marking :=
  .tryBind (all_ask trivial) fun _ => .tryBind (all_ask trivial) fun _ => all_ask trivial

theorem marking_markSendFailed (transferId : Uuid) (message : String) :
    (markSendFailed transferId message).All SendRequest.Marking := by
  refine .bind (all_ask trivial) fun loaded => ?_
  cases loaded with
  | error error => trivial
  | ok state => exact .bind (all_ask trivial) fun _ => trivial

theorem cancelling_handleCancelAll : handleCancelAll.All SendRequest.Cancelling := by
  have hsends : ∀ transferIds,
      (readIncompleteSends transferIds).run.All SendRequest.Cancelling := by
    intro transferIds
    induction transferIds with
    | nil => trivial
    | cons transferId transferIds ih =>
        exact .tryBind (all_ask trivial) fun _ => .tryBind ih fun _ => trivial
  have hreceives : ∀ transferIds, (readIncomplete transferIds).run.All
      SendRequest.Cancelling := by
    intro transferIds
    induction transferIds with
    | nil => trivial
    | cons transferId transferIds ih =>
        exact .tryBind (all_ask trivial) fun _ => .tryBind ih fun _ => trivial
  have hcancel : ∀ states, (cancelSends states).run.All SendRequest.Cancelling := by
    intro states
    induction states with
    | nil => trivial
    | cons state states ih =>
        exact .tryBind (.lift (all_ask trivial)) fun _ => .tryBind (all_ask trivial) fun _ => ih
  have hwaiters : ∀ transferIds, (cancelWaiters transferIds).All SendRequest.Cancelling := by
    intro transferIds
    induction transferIds with
    | nil => trivial
    | cons transferId transferIds ih => exact .bind (all_ask trivial) fun _ => ih
  have hremove : ∀ states, (removeReceives states).run.All SendRequest.Cancelling := by
    intro states
    induction states with
    | nil => trivial
    | cons state states ih => exact .tryBind (all_ask trivial) fun _ => ih
  refine .bind (.tryBind ?_ fun _ => .tryBind ?_ fun _ => trivial) fun counts => ?_
  · refine .tryBind (.tryBind (all_ask trivial) fun _ => hsends _) fun _ => ?_
    refine .tryBind (hcancel _) fun _ => .tryBind (.lift (all_ask trivial)) fun _ => ?_
    exact .tryBind (.lift (hwaiters _)) fun _ => trivial
  · refine .tryBind (.tryBind (all_ask trivial) fun _ => hreceives _) fun _ => ?_
    exact .tryBind (hremove _) fun _ => trivial
  · cases counts <;> exact .bind (all_ask trivial) fun _ => trivial

theorem watching_disconnectWatcher (child : Token) (turns : Nat) :
    (disconnectWatcher child turns).All SendRequest.Watching := by
  induction turns with
  | zero => exact ⟨trivial, fun response => nomatch response⟩
  | succ turns ih =>
      refine .bind (all_ask trivial) fun more => ?_
      cases more with
      | true => exact ih
      | false => exact all_ask trivial

/-- Requests between the client's request and the waiter of a session. -/
def SendRequest.Opening : SendRequest → Prop
  | .isLocalFeatureEnabled | .isPeerFeatureEnabled _ | .connectedPeers | .sendResponse _
  | .newToken | .childToken _ | .spawnDisconnectWatcher _ | .registerWaiter _ => True
  | _ => False

/-- Requests of `validate_preconditions`. -/
def SendRequest.Validating : SendRequest → Prop
  | .isLocalFeatureEnabled | .isPeerFeatureEnabled _ | .connectedPeers
  | .sendResponse _ => True
  | _ => False

theorem validating_validatePreconditions (target : DeviceId) :
    (validatePreconditions target).All SendRequest.Validating := by
  have hreject : ∀ message, (rejectSend message).All SendRequest.Validating := fun _ =>
    .bind (all_ask trivial) fun _ => trivial
  refine .bind (all_ask trivial) fun enabled => ?_
  split
  · refine .bind (all_ask trivial) fun enabled => ?_
    split
    · refine .bind (all_ask trivial) fun peers => ?_
      split
      · trivial
      · exact hreject _
    · exact hreject _
  · exact hreject _

theorem SendRequest.Validating.opening {request : SendRequest} (h : request.Validating) :
    request.Opening := by
  cases request <;> first | exact h | trivial

/-- Requests of a session, from the client's request to the last event. -/
def SendRequest.InSession : SendRequest → Prop
  | .isLocalFeatureEnabled | .isPeerFeatureEnabled _ | .connectedPeers
  | .sendResponse .ready | .sendResponse (.error _) | .newToken | .childToken _
  | .spawnDisconnectWatcher _ | .registerWaiter _ | .isCancelled _ | .readSendState _
  | .saveSendState _ | .removeSendState _ | .collectFilePreview _ | .collectImportSources _
  | .importSources _ _ | .collectionStatus _ _ | .tryEmit _ _ _ _ | .emit _ _ _ _
  | .awaitAck _ _ | .hang | .completeWaiter _ (.error _) | .writeEvent _ => True
  | .send «to» envelope receipt => (SendRequest.send «to» envelope receipt).Sending
  | _ => False

theorem inSession_of_marking {request : SendRequest} (h : request.Marking) :
    request.InSession := by
  cases request <;> first | exact h.elim | trivial

theorem inSession_validatePreconditions (target : DeviceId) :
    (validatePreconditions target).All SendRequest.InSession := by
  have hreject : ∀ message, (rejectSend message).All SendRequest.InSession := fun _ =>
    .bind (all_ask trivial) fun _ => trivial
  refine .bind (all_ask trivial) fun enabled => ?_
  split
  · refine .bind (all_ask trivial) fun enabled => ?_
    split
    · refine .bind (all_ask trivial) fun peers => ?_
      split
      · trivial
      · exact hreject _
    · exact hreject _
  · exact hreject _

theorem inSession_settle (cancel : Token) (transferId : Uuid) (result : Except String Unit) :
    (settle cancel transferId result).All SendRequest.InSession := by
  refine .bind (all_ask trivial) fun cancelled => ?_
  cases cancelled with
  | true => exact .bind (all_ask trivial) fun _ => trivial
  | false => trivial

theorem inSession_reportOutcome (transferId : Uuid) (outcome : Except String Unit) :
    (reportOutcome transferId outcome).All SendRequest.InSession := by
  cases outcome with
  | ok _ =>
      exact .bind ((marking_markSendComplete _).mono fun _ => inSession_of_marking)
        fun _ => all_ask trivial
  | error message =>
      exact .bind ((marking_markSendFailed _ _).mono fun _ => inSession_of_marking)
        fun _ => all_ask trivial

theorem inSession_handleSendFiles (config : SendConfig) (request : SendFilesRequest)
    (turns : Nat) : (handleSendFiles config request turns).All SendRequest.InSession := by
  refine .bind (inSession_validatePreconditions _) fun valid => ?_
  cases valid with
  | false => trivial
  | true =>
      refine .bind (all_ask trivial) fun ready => ?_
      cases ready with
      | false => trivial
      | true =>
          refine .bind (all_ask trivial) fun cancel => .bind (all_ask trivial) fun _ => ?_
          refine .bind (all_ask trivial) fun _ => .bind (all_ask trivial) fun waiter => ?_
          refine .bind ((all_sendTransfer _ _ _ _ _).mono ?_) fun result => ?_
          · rintro asked (h | h | h | h) <;> cases asked <;> first | exact h.elim | exact h
          · exact .bind (inSession_settle _ _ _) fun _ => inSession_reportOutcome _ _

end Kinds

section Traces

variable {allowed : (request : SendSig.Request) → SendSig.Response request → Prop}
  {log : List (Exchange SendSig)}

/-- A session whose preconditions hold opens, sends, and reports how it went. -/
theorem handleSendFiles_trace {config : SendConfig} {request : SendFilesRequest} {turns : Nat}
    (h : Prog.Trace allowed (handleSendFiles config request turns) log ())
    (hvalid : ∃ exchange ∈ log, ¬SendRequest.Validating exchange.request) :
    ∃ opening cancel waiter body result closing, log = opening ++ (body ++ closing) ∧
      (∀ exchange ∈ opening, SendRequest.Opening exchange.request) ∧
      allowed .newToken cancel ∧
      Prog.Trace allowed (sendTransfer config request turns cancel waiter).run body result ∧
      Prog.Trace allowed (settle cancel request.transferId result >>=
        reportOutcome request.transferId) closing () := by
  obtain ⟨checks, rest, valid, _, rfl, hchecks, hrest⟩ := Prog.Exec.bind_inv h
  have hvalidating := Prog.Trace.all hchecks (validating_validatePreconditions _)
  cases valid with
  | false =>
      cases hrest
      obtain ⟨exchange, hmem, hlater⟩ := hvalid
      rw [List.append_nil] at hmem
      exact (hlater (hvalidating exchange hmem)).elim
  | true =>
      obtain ⟨ready, rest, rfl, -, hready⟩ := Prog.Trace.ask_inv hrest
      cases ready with
      | false =>
          cases hready
          obtain ⟨exchange, hmem, hlater⟩ := hvalid
          rcases List.mem_append.mp hmem with hmem | hmem
          · exact (hlater (hvalidating exchange hmem)).elim
          · rw [List.mem_singleton.mp hmem] at hlater
            exact (hlater trivial).elim
      | true =>
          obtain ⟨cancel, rest, rfl, hnew, hchild⟩ := Prog.Trace.ask_inv hready
          obtain ⟨child', rest, rfl, -, hspawn⟩ := Prog.Trace.ask_inv hchild
          obtain ⟨spawned, rest, rfl, -, hregister⟩ := Prog.Trace.ask_inv hspawn
          obtain ⟨waiter, rest, rfl, -, hsession⟩ := Prog.Trace.ask_inv hregister
          obtain ⟨body, closing, result, _, rfl, hbody, hclosing⟩ :=
            Prog.Exec.bind_inv hsession
          refine ⟨checks ++ [⟨.sendResponse .ready, true⟩, ⟨.newToken, cancel⟩,
            ⟨.childToken cancel, child'⟩, ⟨.spawnDisconnectWatcher child', spawned⟩,
            ⟨.registerWaiter request.transferId, waiter⟩], cancel, waiter, body, result,
            closing, by simp, ?_, hnew, hbody, hclosing⟩
          intro exchange hmem
          rcases List.mem_append.mp hmem with hmem | hmem
          · exact (hvalidating exchange hmem).opening
          · simp only [List.mem_cons, List.not_mem_nil, or_false] at hmem
            rcases hmem with rfl | rfl | rfl | rfl | rfl <;> trivial

/-- What the client is told at the end. -/
def outcomeEvent (transferId : Uuid) : Except String Unit → ControlEvent
  | .ok () => .sendComplete transferId
  | .error message => .sendFailed message

theorem reportOutcome_trace {transferId : Uuid} {outcome : Except String Unit}
    (h : Prog.Trace allowed (reportOutcome transferId outcome) log ()) :
    ∃ marks, log = marks ++ [⟨.writeEvent (outcomeEvent transferId outcome), ()⟩] ∧
      ∀ exchange ∈ marks, SendRequest.Marking exchange.request := by
  cases outcome with
  | ok _ =>
      obtain ⟨marks, rest, _, _, rfl, hmarks, hrest⟩ := Prog.Exec.bind_inv h
      obtain ⟨_, rest, rfl, -, hdone⟩ := Prog.Trace.ask_inv hrest
      cases hdone
      exact ⟨marks, rfl, Prog.Trace.all hmarks (marking_markSendComplete _)⟩
  | error message =>
      obtain ⟨marks, rest, _, _, rfl, hmarks, hrest⟩ := Prog.Exec.bind_inv h
      obtain ⟨_, rest, rfl, -, hdone⟩ := Prog.Trace.ask_inv hrest
      cases hdone
      exact ⟨marks, rfl, Prog.Trace.all hmarks (marking_markSendFailed _ _)⟩

theorem settle_trace {cancel : Token} {transferId : Uuid} {result : Except String Unit}
    (h : Prog.Trace allowed (settle cancel transferId result >>= reportOutcome transferId)
      log ()) :
    ∃ (answer : Bool) (withdrawn marks : List (Exchange SendSig)),
      log = ⟨.isCancelled cancel, answer⟩ :: (withdrawn ++ marks) ∧
      allowed (.isCancelled cancel) answer ∧ (answer = false → withdrawn = []) ∧
      Prog.Trace allowed (reportOutcome transferId
        (if answer then .error "transfer cancelled" else result)) marks () := by
  obtain ⟨answer, rest, rfl, hallowed, hrest⟩ := Prog.Trace.ask_inv h
  cases answer with
  | false => exact ⟨false, [], rest, rfl, hallowed, fun _ => rfl, hrest⟩
  | true =>
      obtain ⟨_, rest, rfl, -, hmarks⟩ := Prog.Trace.ask_inv hrest
      exact ⟨true, [_], rest, rfl, hallowed, (by simp), hmarks⟩

theorem sendEnvelopes_trace {target : DeviceId} {envelopes : List SendEnvelope}
    (h : Prog.Trace allowed (sendEnvelopes target envelopes).run log (.ok ())) :
    log = envelopes.map fun envelope =>
      (⟨.send target envelope none, .ok ()⟩ : Exchange SendSig) := by
  induction envelopes generalizing log with
  | nil => cases h; rfl
  | cons envelope envelopes ih =>
      rcases Prog.Trace.tryBind_inv h with ⟨_, -, heq⟩ | ⟨first, rest, _, rfl, hfirst, hrest⟩
      · cases heq
      · obtain ⟨sent, rest', rfl, -, hsent⟩ := Prog.Trace.ask_inv hfirst
        cases sent with
        | error error => cases hsent
        | ok _ =>
            cases hsent
            rw [ih hrest]
            rfl

/-- Nothing comes after the last envelope of a transfer. -/
def SendEnvelope.isLast : SendEnvelope → Bool
  | .transfer _ | .transferEnd _ => true
  | _ => false

theorem planTransferEnvelopes_last (serde : SerdeJson) («from» «to» : DeviceId)
    (payload : SendPayload) :
    ∃ before last, planTransferEnvelopes serde «from» «to» payload = before ++ [last] ∧
      last.isLast = true ∧ ∀ envelope ∈ before, envelope.isLast = false := by
  by_cases hfits : transferEnvelopeFits serde «from» «to» (.transfer payload) = true
  · exact ⟨[], .transfer payload, by rw [planTransferEnvelopes_of_fits serde _ _ _ hfits]; rfl,
      rfl, by simp⟩
  · simp only [planTransferEnvelopes, hfits]
    refine ⟨_, _, rfl, rfl, fun envelope hmem => ?_⟩
    rcases List.mem_cons.mp hmem with rfl | hmem
    · rfl
    · obtain ⟨chunk, rfl⟩ := chunkEnvelopes_chunk _ _ _ _ _ envelope hmem
      rfl

/-- The collection that an envelope announces. -/
def SendEnvelope.announced : SendEnvelope → Option String
  | .transfer payload => some payload.collectionHash
  | .transferHeader header => some header.collectionHash
  | _ => none

theorem planTransferEnvelopes_announced (serde : SerdeJson) («from» «to» : DeviceId)
    (payload : SendPayload) :
    (∃ envelope ∈ planTransferEnvelopes serde «from» «to» payload,
        envelope.announced = some payload.collectionHash) ∧
      ∀ envelope ∈ planTransferEnvelopes serde «from» «to» payload,
        ∀ hash, envelope.announced = some hash → hash = payload.collectionHash := by
  by_cases hfits : transferEnvelopeFits serde «from» «to» (.transfer payload) = true
  · rw [planTransferEnvelopes_of_fits serde _ _ _ hfits]
    simp [SendEnvelope.announced, eq_comm]
  · simp only [planTransferEnvelopes, hfits]
    refine ⟨⟨_, List.mem_cons_self, rfl⟩, fun envelope hmem hash hannounced => ?_⟩
    simp only [Bool.false_eq_true, if_false, List.cons_append, List.mem_cons,
      List.mem_append, List.not_mem_nil, or_false] at hmem
    rcases hmem with rfl | hmem | rfl
    · exact (Option.some.inj hannounced).symm
    · obtain ⟨chunk, rfl⟩ := chunkEnvelopes_chunk _ _ _ _ _ envelope hmem
      cases hannounced
    · cases hannounced

theorem checkCancelled_trace {cancel : Token} {result : Except String Unit}
    (h : Prog.Trace allowed (checkCancelled cancel).run log result) :
    ∃ answer : Bool, log = [⟨.isCancelled cancel, answer⟩] ∧
      allowed (.isCancelled cancel) answer ∧
      result = if answer then .error "transfer cancelled" else .ok () := by
  obtain ⟨answer, rest, rfl, hallowed, hrest⟩ := Prog.Trace.ask_inv h
  cases answer <;> cases hrest <;> exact ⟨_, rfl, hallowed, rfl⟩

/-- A delivery either stops before the receiver is waited for, or has sent all
envelopes by then. -/
theorem deliverPayload_trace {config : SendConfig} {request : SendFilesRequest} {turns : Nat}
    {cancel : Token} {waiter : WaiterId} {payload : SendPayload} {result : Except String Unit}
    (h : Prog.Trace allowed (deliverPayload config request turns cancel waiter payload).run
      log result) :
    ((∃ error, result = .error error) ∧
        ∀ exchange ∈ log, ∀ token waiter, exchange.request ≠ .awaitAck token waiter) ∨
      ∃ polls reported wait, log = polls ++ ((planTransferEnvelopes config.serde
          config.localId request.target payload).map (fun envelope =>
            (⟨.send request.target envelope none, .ok ()⟩ : Exchange SendSig)) ++
          ⟨.emit .waitingForAck 0 (bytesTotal payload.entries) none, reported⟩ :: wait) ∧
        (∀ exchange ∈ polls, SendRequest.Polling exchange.request) ∧
        Prog.Trace allowed (waitForSendAck cancel waiter turns).run wait result := by
  have hstop : ∀ {polls : List (Exchange SendSig)} {message : String},
      (∀ exchange ∈ polls, SendRequest.Polling exchange.request) →
      ((∃ error, (.error message : Except String Unit) = .error error) ∧
        ∀ exchange ∈ polls, ∀ token waiter, exchange.request ≠ .awaitAck token waiter) := by
    intro polls message hpolls
    refine ⟨⟨message, rfl⟩, fun exchange hmem token waiter heq => ?_⟩
    have hpolling := hpolls exchange hmem
    rw [heq] at hpolling
    exact hpolling
  rcases Prog.Trace.tryBind_inv h with ⟨_, hcheck, rfl⟩ | ⟨_, rest, _, rfl, hcheck, hemit⟩
  · obtain ⟨_, rfl, -, -⟩ := checkCancelled_trace hcheck
    exact .inl (hstop (by simp [SendRequest.Polling]))
  obtain ⟨_, rfl, -, -⟩ := checkCancelled_trace hcheck
  obtain ⟨_, rest, rfl, -, hchecked⟩ := Prog.Trace.liftAsk_inv hemit
  rcases Prog.Trace.tryBind_inv hchecked with
    ⟨_, hcheck, rfl⟩ | ⟨_, rest, _, rfl, hcheck, hsends⟩
  · obtain ⟨_, rfl, -, -⟩ := checkCancelled_trace hcheck
    exact .inl (hstop (by simp [SendRequest.Polling]))
  obtain ⟨_, rfl, -, -⟩ := checkCancelled_trace hcheck
  rcases Prog.Trace.tryBind_inv hsends with
    ⟨error, hsend, rfl⟩ | ⟨sends, rest, _, rfl, hsend, hemit⟩
  · refine .inl ⟨⟨error, rfl⟩, fun exchange hmem token waiter heq => ?_⟩
    simp only [List.cons_append, List.nil_append, List.mem_cons] at hmem
    rcases hmem with rfl | rfl | rfl | hmem
    · cases heq
    · cases heq
    · cases heq
    · have hplanned := planTransferEnvelopes_ne_ack config.serde config.localId request.target
        payload
      have hsending := Prog.Trace.all hsend (sending_sendEnvelopes _ hplanned) exchange hmem
      rw [heq] at hsending
      exact hsending
  · rw [sendEnvelopes_trace hsend]
    obtain ⟨reported, wait, rfl, -, hwait⟩ := Prog.Trace.liftAsk_inv hemit
    exact .inr ⟨[_, _, _], reported, wait, rfl, by simp [SendRequest.Polling], hwait⟩

theorem waitForSendAck_trace {cancel : Token} {waiter : WaiterId} {turns : Nat}
    (h : Prog.Trace allowed (waitForSendAck cancel waiter turns).run log (.ok ())) :
    ∃ before, log = before ++ [⟨.awaitAck cancel waiter, .acked (.ok ())⟩] := by
  induction turns generalizing log with
  | zero =>
      cases h with
      | @call _ _ response => exact nomatch response
  | succ turns ih =>
      obtain ⟨event, rest, rfl, -, hrest⟩ := Prog.Trace.liftAsk_inv h
      cases event with
      | acked answer =>
          cases hrest
          exact ⟨[], rfl⟩
      | progress report =>
          obtain ⟨_, rest, rfl, -, hnext⟩ := Prog.Trace.liftAsk_inv hrest
          obtain ⟨before, rfl⟩ := ih hnext
          exact ⟨_ :: _ :: before, rfl⟩
      | cancelled | deadline | closed => cases hrest

def SendRequest.announced : SendRequest → Option String
  | .send _ envelope _ => envelope.announced
  | _ => none

theorem announced_eq_none {request : SendRequest}
    (h : request.Preparing ∨ request.Polling ∨ request.Waiting ∨ request.Opening ∨
      request.Marking) : request.announced = none := by
  rcases h with h | h | h | h | h <;> cases request <;> first | rfl | cases h

/-- A transfer that succeeds has announced one collection, and then taken an
acknowledgement of success. -/
theorem sendTransfer_trace {config : SendConfig} {request : SendFilesRequest} {turns : Nat}
    {cancel : Token} {waiter : WaiterId}
    (h : Prog.Trace allowed (sendTransfer config request turns cancel waiter).run log (.ok ())) :
    ∃ hash before, log = before ++ [⟨.awaitAck cancel waiter, .acked (.ok ())⟩] ∧
      (∃ exchange ∈ before, SendRequest.announced exchange.request = some hash) ∧
      ∀ exchange ∈ before, ∀ announced,
        SendRequest.announced exchange.request = some announced → announced = hash := by
  rcases Prog.Trace.tryBind_inv h with ⟨_, -, heq⟩ | ⟨prep, rest, payload, rfl, hprep, hdeliver⟩
  · cases heq
  rcases deliverPayload_trace hdeliver with
    ⟨⟨_, heq⟩, -⟩ | ⟨polls, reported, wait, rfl, hpolls, hwait⟩
  · cases heq
  obtain ⟨waits, rfl⟩ := waitForSendAck_trace hwait
  obtain ⟨⟨envelope, hmem, hannounced⟩, honly⟩ := planTransferEnvelopes_announced
    config.serde config.localId request.target payload
  refine ⟨payload.collectionHash, prep ++ (polls ++ ((planTransferEnvelopes config.serde
      config.localId request.target payload).map (fun envelope =>
        (⟨.send request.target envelope none, .ok ()⟩ : Exchange SendSig)) ++
      ⟨.emit .waitingForAck 0 (bytesTotal payload.entries) none, reported⟩ :: waits)),
    by simp, ⟨_, List.mem_append_right _ (List.mem_append_right _ (List.mem_append_left _
      (List.mem_map_of_mem hmem))), hannounced⟩, ?_⟩
  intro exchange hexchange announced heq
  simp only [List.mem_append, List.mem_map, List.mem_cons] at hexchange
  have hnone : SendRequest.Preparing exchange.request ∨ SendRequest.Polling exchange.request ∨
      SendRequest.Waiting exchange.request → announced = payload.collectionHash := by
    intro hkind
    rw [announced_eq_none (hkind.imp_right fun h => h.imp_right .inl)] at heq
    cases heq
  rcases hexchange with hmem' | hmem' | ⟨envelope', hmem', rfl⟩ | rfl | hmem'
  · exact hnone (.inl (Prog.Trace.all hprep
      (preparing_prepareSendPayload _ _ _ _ _ _ _) exchange hmem'))
  · exact hnone (.inr (.inl (hpolls exchange hmem')))
  · exact honly envelope' hmem' announced heq
  · cases heq
  · exact hnone (.inr (.inr (Prog.Trace.all hwait (waiting_waitForSendAck _ _ _) exchange
      (List.mem_append_left _ hmem'))))

theorem writeEvent_cases {opening body marks : List (Exchange SendSig)}
    {token : Token} {answer : Bool} {event written : ControlEvent} {written' : Unit}
    (hopening : ∀ exchange ∈ opening, SendRequest.Opening exchange.request)
    (hbody : ∀ exchange ∈ body, SendRequest.Preparing exchange.request ∨
      SendRequest.Delivering exchange.request)
    (hmarks : ∀ exchange ∈ marks, SendRequest.Marking exchange.request)
    (h : ∃ exchange ∈ opening ++ (body ++ (⟨.isCancelled token, answer⟩ ::
      (marks ++ [⟨.writeEvent event, written'⟩]))),
      exchange.request = SendRequest.writeEvent written) : written = event := by
  obtain ⟨exchange, hmem, heq⟩ := h
  simp only [List.mem_append, List.mem_cons, List.not_mem_nil, or_false] at hmem
  rcases hmem with hmem | hmem | rfl | hmem | rfl
  · have hkind := hopening exchange hmem
    rw [heq] at hkind
    exact hkind.elim
  · have hkind := hbody exchange hmem
    rw [heq] at hkind
    rcases hkind with hkind | hkind | hkind | hkind <;> exact hkind.elim
  · cases heq
  · have hkind := hmarks exchange hmem
    rw [heq] at hkind
    exact hkind.elim
  · cases heq
    rfl

theorem Daemon.receive_started {limits : ClipboardLimits} {daemon : Daemon}
    {«from» : DeviceId} {envelope : SendEnvelope} {receipt : Option String}
    {program : SendProg Unit}
    (h : (daemon.receive limits «from» envelope receipt).2 = some program) :
    ∃ sender payload, program = (handleTransfer limits sender payload >>= fun _ => .ret ()) := by
  unfold Daemon.receive at h
  dsimp only at h
  split at h
  · exact ⟨_, _, (Option.some.inj h).symm⟩
  all_goals cases h

theorem DaemonEvent.started_cases {config : DaemonConfig} {event : DaemonEvent}
    {daemon daemon' : Daemon} {task : TaskId} {program : SendProg Unit}
    (h : event.apply config daemon = some (daemon', some (task, program))) :
    (∃ sender payload,
        program = (handleTransfer config.limits sender payload >>= fun _ => .ret ())) ∨
      program = resumeIncompleteReceives config.limits ∨
      (∃ request turns, program = handleSendFiles config.toSendConfig request turns) ∨
      program = handleCancelAll ∨
      ∃ child ∈ daemon.watchers, ∃ turns, program = disconnectWatcher child turns := by
  cases event with
  | receive task' sender envelope receipt =>
      obtain ⟨-, hstarted⟩ := Prod.mk.inj (Option.some.inj h)
      obtain ⟨program', hprogram', heq⟩ := Option.map_eq_some_iff.mp hstarted
      obtain ⟨-, rfl⟩ := Prod.mk.inj heq
      exact .inl (Daemon.receive_started hprogram')
  | chunkTimeout transferId =>
      simp only [DaemonEvent.apply, Option.ite_none_right_eq_some, Option.some.injEq,
        Prod.mk.injEq] at h
      exact nomatch h.2.2
  | resumePass task' =>
      obtain ⟨-, hstarted⟩ := Prod.mk.inj (Option.some.inj h)
      obtain ⟨-, rfl⟩ := Prod.mk.inj (Option.some.inj hstarted)
      exact .inr (.inl rfl)
  | sendFiles task' request turns =>
      obtain ⟨-, hstarted⟩ := Prod.mk.inj (Option.some.inj h)
      obtain ⟨-, rfl⟩ := Prod.mk.inj (Option.some.inj hstarted)
      exact .inr (.inr (.inl ⟨request, turns, rfl⟩))
  | cancelAll task' =>
      obtain ⟨-, hstarted⟩ := Prod.mk.inj (Option.some.inj h)
      obtain ⟨-, rfl⟩ := Prod.mk.inj (Option.some.inj hstarted)
      exact .inr (.inr (.inr (.inl rfl)))
  | watch task' turns =>
      simp only [DaemonEvent.apply] at h
      split at h
      · cases h
      · rename_i child watchers hwatchers
        obtain ⟨-, hstarted⟩ := Prod.mk.inj (Option.some.inj h)
        obtain ⟨-, rfl⟩ := Prod.mk.inj (Option.some.inj hstarted)
        exact .inr (.inr (.inr (.inr ⟨child, by simp [hwatchers], turns, rfl⟩)))

theorem session_of_request {config : DaemonConfig} {event : DaemonEvent}
    {daemon daemon' : Daemon} {task : TaskId} {first program : SendProg Unit}
    {asked : SendRequest}
    (hasked : ¬asked.Receiving ∧ ¬asked.Cancelling ∧ ¬asked.Watching)
    (hevent : event.apply config daemon = some (daemon', some (task, first)))
    (hfollows : first.Follows allowed log program)
    (hmade : ∃ exchange ∈ log, exchange.request = asked) :
    ∃ request turns, first = handleSendFiles config.toSendConfig request turns := by
  obtain ⟨exchange, hmem, rfl⟩ := hmade
  have hnot : ∀ {kind : SendRequest → Prop}, first.All kind → kind exchange.request :=
    fun hall => (hfollows.all hall).1 exchange hmem
  rcases DaemonEvent.started_cases hevent with
    ⟨sender, payload, rfl⟩ | rfl | hsession | rfl | ⟨child, -, turns, rfl⟩
  · exact (hasked.1 (hnot (.bind (receiving_handleTransfer _ _ _) fun _ => trivial))).elim
  · exact (hasked.1 (hnot (receiving_resumeIncompleteReceives _))).elim
  · exact hsession
  · exact (hasked.2.1 (hnot cancelling_handleCancelAll)).elim
  · exact (hasked.2.2 (hnot (watching_disconnectWatcher _ turns))).elim

end Traces

end Failsafe.Send
