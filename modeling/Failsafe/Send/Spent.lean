import Failsafe.Lib.Within
import Failsafe.Send.Session

/-!
Tasks that have nothing left to do for a transfer: once its state files are gone, they write
none, and they announce it no more.
-/

namespace Failsafe.Send

open Failsafe.Core Failsafe.Clipboard Failsafe.Lib Failsafe.Transport

/-- The envelopes that a transfer is sent in. -/
def SendEnvelope.Carries (transferId : Uuid) : SendEnvelope → Prop
  | .transfer payload => payload.transferId = transferId
  | .transferHeader header => header.transferId = transferId
  | .transferChunk chunk => chunk.transferId = transferId
  | .transferEnd finish => finish.transferId = transferId
  | .ack _ | .progress _ => False

/-- The request writes no state file of the transfer. -/
def SendRequest.Spares (transferId : Uuid) : SendRequest → Prop
  | .saveSendState state => state.transferId ≠ transferId
  | .saveReceiveState state => state.transferId ≠ transferId
  | _ => True

/-- The request neither sends the transfer nor reports it complete. -/
def SendRequest.Silent (transferId : Uuid) : SendRequest → Prop
  | .send _ envelope _ => ¬envelope.Carries transferId
  | .writeEvent (.sendComplete completed) => completed ≠ transferId
  | _ => True

/-- Answers of a disk without a state file of the transfer. -/
def Gone (transferId : Uuid) : (request : SendSig.Request) → SendSig.Response request → Prop
  | .readSendState _, .ok state => SendTransferState.transferId state ≠ transferId
  | .readReceiveState _, .ok state => ReceiveTransferState.transferId state ≠ transferId
  | .loadReceiveState _, .ok state => ReceiveTransferState.transferId state ≠ transferId
  | _, _ => True

/-- Answers of a disk whose state files are named after their transfers. -/
def Named : (request : SendSig.Request) → SendSig.Response request → Prop
  | .readSendState filed, .ok state => SendTransferState.transferId state = filed
  | .loadReceiveState filed, .ok state => ReceiveTransferState.transferId state = filed
  | _, _ => True

/-- The state files `filed` tell nothing of the transfer. -/
structure TellsOthers (allowed : (request : SendSig.Request) → SendSig.Response request → Prop)
    (transferId filed : Uuid) : Prop where
  send : ∀ state, allowed (.readSendState filed) (.ok state) →
    SendTransferState.transferId state ≠ transferId
  receive : ∀ state, allowed (.loadReceiveState filed) (.ok state) →
    ReceiveTransferState.transferId state ≠ transferId

theorem Gone.tellsOthers (transferId filed : Uuid) :
    TellsOthers (Gone transferId) transferId filed :=
  ⟨fun _ h => h, fun _ h => h⟩

theorem Named.tellsOthers {transferId filed : Uuid} (h : filed ≠ transferId) :
    TellsOthers Named transferId filed :=
  ⟨fun _ hnamed => Eq.trans_ne hnamed h, fun _ hnamed => Eq.trans_ne hnamed h⟩

/-- The waiter was answered with an error, or dropped. -/
def Coordinator.failed (coordinator : Coordinator) (waiter : WaiterId) : Bool :=
  match coordinator.channels waiter with
  | .closed | .sent (.error _) _ => true
  | .empty | .sent (.ok ()) _ => false

/-- Answers that tell no session with a failed waiter of an acknowledgement. -/
def NotAcked (coordinator : Coordinator) :
    (request : SendSig.Request) → SendSig.Response request → Prop
  | .awaitAck _ waiter, .acked (.ok ()) => coordinator.failed waiter = false
  | _, _ => True

/-- `run_receive` refuses the entries before it has done anything. -/
def Refuses (limits : ClipboardLimits) (entries : List FileEntry) : Prop :=
  ∃ error, limits.validateEntries (entries.map fun entry => (entry.name, entry.size)) =
    .error error

/-- Answers by which a listing finds nothing to resume for the transfer. -/
def NoneListed (limits : ClipboardLimits) (transferId : Uuid) :
    (request : SendSig.Request) → SendSig.Response request → Prop
  | .readReceiveState _, .ok state =>
      ReceiveTransferState.transferId state = transferId →
        ReceiveTransferState.stage state = .complete ∨
          Refuses limits (ReceiveTransferState.entries state)
  | _, _ => True

theorem Gone.noneListed {limits : ClipboardLimits} {transferId : Uuid}
    {request : SendSig.Request} {response : SendSig.Response request}
    (h : Gone transferId request response) : NoneListed limits transferId request response := by
  cases request with
  | readReceiveState filed =>
      cases response with
      | error error => trivial
      | ok state => exact fun hid => absurd hid h
  | _ => trivial

/-- A pass writes nothing for this state. -/
def PassesOver (limits : ClipboardLimits) (connected : List DeviceId) (transferId : Uuid)
    (state : ReceiveTransferState) : Prop :=
  state.transferId ≠ transferId ∨ state.sender ∉ connected ∨ Refuses limits state.entries

section Spares

variable {transferId : Uuid}

theorem spares_emitProgress («to» : DeviceId) (reports : List SendProgress) :
    (emitProgress «to» reports).All (SendRequest.Spares transferId) := by
  induction reports with
  | nil => trivial
  | cons report reports ih => exact .bind (all_ask trivial) fun _ => ih

theorem spares_chooseReceiveDir (state : ReceiveTransferState) :
    (chooseReceiveDir state).All (SendRequest.Spares transferId) := by
  unfold chooseReceiveDir
  split
  · trivial
  · refine .bind (all_ask trivial) fun base => ?_
    cases base with
    | none => trivial
    | some base => exact .bind (all_ask trivial) fun _ => trivial

theorem spares_runReceive_refused {limits : ClipboardLimits} {state : ReceiveTransferState}
    (h : Refuses limits state.entries) :
    (runReceive limits state).run.All (SendRequest.Spares transferId) := by
  obtain ⟨error, herror⟩ := h
  have hrun : (runReceive limits state).run = .ret (.error error) := by
    simp only [runReceive, downloadReceive, herror]
    rfl
  rw [hrun]
  trivial

theorem spares_runReceive (limits : ClipboardLimits) {state : ReceiveTransferState}
    (h : state.transferId ≠ transferId) :
    (runReceive limits state).run.All (SendRequest.Spares transferId) := by
  have hsave : ∀ saved : ReceiveTransferState, saved.transferId = state.transferId →
      (saveReceiveState saved).run.All (SendRequest.Spares transferId) := fun saved hsaved =>
    all_ask (hsaved.trans_ne h)
  have hdownload : (downloadReceive limits state).run.All (SendRequest.Spares transferId) := by
    refine .tryBind (all_liftExcept _) fun _ => .tryBind (hsave _ rfl) fun _ => ?_
    refine .tryBind (.lift (spares_emitProgress _ _)) fun _ => ?_
    refine .tryBind (.lift (all_ask trivial)) fun _ => ?_
    refine .tryBind (.lift (spares_emitProgress _ _)) fun _ => ?_
    exact .tryBind (all_liftExcept _) fun _ => hsave _ rfl
  refine .tryBind hdownload fun _ => .tryBind (.lift (spares_chooseReceiveDir _)) fun dir => ?_
  refine .tryBind (all_liftExcept _) fun dir => .tryBind (.lift (all_ask trivial)) fun _ => ?_
  refine .tryBind (.lift (spares_emitProgress _ _)) fun _ => ?_
  refine .tryBind (all_liftExcept _) fun _ => .tryBind (.lift (spares_emitProgress _ _)) fun _ => ?_
  exact .tryBind (hsave _ rfl) fun _ => .lift (all_ask trivial)

theorem spares_acknowledgeAndRemove («from» : DeviceId) (acknowledged : Uuid)
    (receipt : String) :
    (acknowledgeAndRemove «from» acknowledged receipt).run.All (SendRequest.Spares transferId) :=
  .tryBind (.bind (all_ask trivial) fun _ => trivial) fun _ =>
    .tryBind (.lift (all_ask trivial)) fun _ => trivial

end Spares

section Within

variable {transferId : Uuid} {α : Type}
  {allowed : (request : SendSig.Request) → SendSig.Response request → Prop}

theorem spares_within {p : SendProg α} (hp : p.All (SendRequest.Spares transferId)) :
    p.Within (SendRequest.Spares transferId) allowed fun _ => True :=
  .of_all hp fun _ h => h

theorem within_then {β : Type} {guard : SendRequest → Prop} {p : SendProg α}
    {f : α → SendProg β} (hp : p.Within guard allowed fun _ => True)
    (hf : ∀ value, (f value).Within guard allowed fun _ => True) :
    (p >>= f).Within guard allowed fun _ => True :=
  Prog.within_bind.mpr (hp.mono fun value _ => hf value)

theorem within_reportReceiveFailure («from» : DeviceId) {failed : Uuid} (message : String)
    (hreads : TellsOthers allowed transferId failed) :
    (reportReceiveFailure «from» failed message).Within (SendRequest.Spares transferId)
      allowed fun _ => True := by
  refine Prog.within_bind.mpr (Prog.within_call.mpr ⟨trivial, fun response hallowed => ?_⟩)
  have hack : ((sendAck «from» { transferId := failed, ok := false, error := some message }
      none).run >>= fun _ => Prog.ret ()).All (SendRequest.Spares transferId) :=
    .bind (.bind (all_ask trivial) fun _ => trivial) fun _ => trivial
  cases response with
  | ok state =>
      exact Prog.within_call.mpr ⟨hreads.receive _ hallowed, fun _ _ => spares_within hack⟩
  | error error => exact spares_within hack

theorem within_handleTransferLocked (limits : ClipboardLimits) («from» : DeviceId)
    {payload : SendPayload}
    (h : payload.transferId ≠ transferId ∨ payload.version ≠ SEND_PAYLOAD_VERSION ∨
      Refuses limits payload.entries)
    (hreads : TellsOthers allowed transferId payload.transferId) :
    (handleTransferLocked limits «from» payload).run.Within (SendRequest.Spares transferId)
      allowed fun _ => True := by
  unfold handleTransferLocked
  split
  · trivial
  · next hversion =>
      have hreceive : ∀ state : ReceiveTransferState,
          (payload.transferId ≠ transferId → state.transferId ≠ transferId) →
          (runReceive limits (state.refresh «from» payload)).run.All
            (SendRequest.Spares transferId) := by
        intro state hstate
        rcases h with hother | hother | hrefused
        · exact spares_runReceive limits (hstate hother)
        · exact absurd hother hversion
        · exact spares_runReceive_refused hrefused
      have hsaved : (savedOrFresh «from» payload).Within (SendRequest.Spares transferId)
          allowed fun state => payload.transferId ≠ transferId →
            state.transferId ≠ transferId := by
        refine Prog.within_bind.mpr (Prog.within_call.mpr ⟨trivial, fun response hallowed => ?_⟩)
        cases response with
        | ok saved => exact fun _ => hreads.receive _ hallowed
        | error error => exact fun hother => hother
      refine Prog.within_tryBind.mpr (Prog.within_lift.mpr (hsaved.mono fun state hstate => ?_))
      dsimp only
      split
      · exact spares_within (spares_acknowledgeAndRemove _ _ _)
      · refine Prog.within_tryBind.mpr (Prog.within_lift.mpr ?_)
        refine (spares_within (hreceive state hstate)).mono fun result _ => ?_
        cases result with
        | ok _ => exact spares_within (spares_acknowledgeAndRemove _ _ _)
        | error message =>
            refine Prog.within_tryBind.mpr (Prog.within_lift.mpr ?_)
            exact (within_reportReceiveFailure _ _ hreads).mono fun _ _ => trivial

theorem within_handleTransfer (limits : ClipboardLimits) («from» : DeviceId)
    {payload : SendPayload}
    (h : payload.transferId ≠ transferId ∨ payload.version ≠ SEND_PAYLOAD_VERSION ∨
      Refuses limits payload.entries)
    (hreads : TellsOthers allowed transferId payload.transferId) :
    (handleTransfer limits «from» payload).Within (SendRequest.Spares transferId)
      allowed fun _ => True := by
  refine within_then (spares_within (all_ask trivial)) fun lock => ?_
  refine within_then ?_ fun _ => spares_within ⟨trivial, fun _ => ⟨trivial, fun _ => trivial⟩⟩
  refine within_then (spares_within (all_ask trivial)) fun _ => ?_
  exact within_then (within_handleTransferLocked limits «from» h hreads) fun _ =>
    spares_within ⟨trivial, fun _ => trivial⟩

theorem within_readIncomplete {limits : ClipboardLimits} (filed : List Uuid) :
    (readIncomplete filed).run.Within (SendRequest.Spares transferId)
      (NoneListed limits transferId) fun result => ∀ states, result = .ok states →
        ∀ state ∈ states, state.transferId ≠ transferId ∨ Refuses limits state.entries := by
  induction filed with
  | nil => exact fun states h => by cases h; simp
  | cons first rest ih =>
      refine Prog.within_tryBind.mpr (Prog.within_call.mpr ⟨trivial, fun response hnone => ?_⟩)
      cases response with
      | error error => exact fun _ h => nomatch h
      | ok read =>
          refine Prog.within_tryBind.mpr (ih.mono fun result hrest => ?_)
          cases result with
          | error error => exact fun _ h => nomatch h
          | ok states =>
              intro listed hlisted state hmem
              obtain rfl := Except.ok.inj hlisted
              split at hmem
              · exact hrest states rfl state hmem
              · next hopen =>
                  rcases List.mem_cons.mp hmem with rfl | hmem
                  · by_cases hid : state.transferId = transferId
                    · exact .inr ((hnone hid).resolve_left hopen)
                    · exact .inl hid
                  · exact hrest states rfl state hmem

theorem spares_resumeListed {limits : ClipboardLimits} {connected : List DeviceId}
    {state : ReceiveTransferState} (h : PassesOver limits connected transferId state) :
    (resumeListed limits connected state).All (SendRequest.Spares transferId) := by
  unfold resumeListed
  split
  · next hconnected =>
      have hreceive : (runReceive limits state).run.All (SendRequest.Spares transferId) := by
        rcases h with hother | haway | hrefused
        · exact spares_runReceive limits hother
        · exact absurd hconnected haway
        · exact spares_runReceive_refused hrefused
      refine .bind (.bind (all_ask trivial) fun lock => ?_) fun result => ?_
      · refine .bind (.bind (all_ask trivial) fun _ => ?_) fun _ =>
          .bind (all_ask trivial) fun _ => trivial
        exact .bind hreceive fun _ => .bind (all_ask trivial) fun _ => trivial
      · cases result with
        | error error => trivial
        | ok _ =>
            refine .bind (.bind (all_ask trivial) fun _ => trivial) fun acked => ?_
            cases acked with
            | error error => trivial
            | ok _ => exact .bind (all_ask trivial) fun _ => trivial
  · trivial

theorem spares_resumeEach {limits : ClipboardLimits} {connected : List DeviceId}
    {states : List ReceiveTransferState}
    (h : ∀ state ∈ states, PassesOver limits connected transferId state) :
    (resumeEach limits connected states).All (SendRequest.Spares transferId) := by
  induction states with
  | nil => trivial
  | cons state states ih =>
      obtain ⟨hstate, hrest⟩ := List.forall_mem_cons.mp h
      exact .bind (spares_resumeListed hstate) fun _ => ih hrest

theorem within_resumeIncompleteReceives (limits : ClipboardLimits) :
    (resumeIncompleteReceives limits).Within (SendRequest.Spares transferId)
      (NoneListed limits transferId) fun _ => True := by
  have hlisted : listIncompleteReceives.run.Within (SendRequest.Spares transferId)
      (NoneListed limits transferId) fun result => ∀ states, result = .ok states →
        ∀ state ∈ states, state.transferId ≠ transferId ∨ Refuses limits state.entries := by
    refine Prog.within_tryBind.mpr (Prog.within_call.mpr ⟨trivial, fun response _ => ?_⟩)
    cases response with
    | error error => exact fun _ h => nomatch h
    | ok filed => exact within_readIncomplete filed
  refine Prog.within_bind.mpr (hlisted.mono fun result hstates => ?_)
  match result with
  | .error _ => trivial
  | .ok [] => trivial
  | .ok (state :: states) =>
      refine spares_within (.bind (all_ask trivial) fun connected => ?_)
      exact spares_resumeEach fun other hother =>
        (hstates _ rfl other hother).imp_right .inr

theorem within_loadOrInitSendState (paths : List SendPathSpec) (target : DeviceId)
    {sent : Uuid} (resume : Bool) (h : sent ≠ transferId)
    (hreads : TellsOthers allowed transferId sent) :
    (loadOrInitSendState paths target sent resume).run.Within (SendRequest.Spares transferId)
      allowed fun result => ∀ loaded, result = .ok loaded →
        loaded.2.transferId ≠ transferId := by
  unfold loadOrInitSendState
  split
  · refine Prog.within_tryBind.mpr (Prog.within_call.mpr ⟨trivial, fun response hallowed => ?_⟩)
    cases response with
    | error error => exact fun _ h => nomatch h
    | ok saved =>
        refine Prog.within_ret.mpr ?_
        dsimp only
        split
        · exact fun _ h => nomatch h
        · exact fun _ hloaded => Except.ok.inj hloaded ▸ hreads.send _ hallowed
  · refine Prog.within_tryBind.mpr (Prog.within_call.mpr ⟨trivial, fun response _ => ?_⟩)
    cases response with
    | error error => exact fun _ h => nomatch h
    | ok previews => exact fun _ hloaded => Except.ok.inj hloaded ▸ h

theorem spares_checkCancelled (cancel : Token) :
    (checkCancelled cancel).run.All (SendRequest.Spares transferId) :=
  .tryBind (.lift (all_ask trivial)) fun answer => by cases answer <;> trivial

theorem all_emitImportProgress {kind : SendRequest → Prop} (reports : List BlobProgress)
    (h : ∀ phase bytesDone bytesTotal currentFile,
      (tryEmit phase bytesDone bytesTotal currentFile).All kind) :
    (emitImportProgress reports).All kind := by
  induction reports with
  | nil => trivial
  | cons report reports ih => exact .bind (h _ _ _ _) fun _ => ih

theorem spares_runCollectionImport (sources : List (String × String)) (cancel : Token) :
    (runCollectionImport sources cancel).run.All (SendRequest.Spares transferId) := by
  refine .tryBind (.lift (all_ask trivial)) fun ⟨reports, outcome⟩ => ?_
  refine .tryBind (.lift (all_emitImportProgress _ fun _ _ _ _ => all_ask trivial)) fun _ => ?_
  cases outcome <;> trivial

theorem within_ensureImported (paths : List SendPathSpec) {state : SendTransferState}
    (cancel : Token) (h : state.transferId ≠ transferId) :
    (ensureImported paths state cancel).run.Within (SendRequest.Spares transferId)
      allowed fun result => ∀ imported, result = .ok imported →
        imported.transferId ≠ transferId := by
  have hneeded : (collectionImportNeeded state.collectionHash state.bytesTotal).All
      (SendRequest.Spares transferId) := by
    cases state.collectionHash with
    | none => trivial
    | some hash => exact .bind (all_ask trivial) fun result => by cases result <;> trivial
  have hsave : ∀ saved : SendTransferState, saved.transferId = state.transferId →
      (saveSendState saved).run.All (SendRequest.Spares transferId) := fun saved hsaved =>
    all_ask (hsaved.trans_ne h)
  refine Prog.within_try (.lift hneeded) (fun _ _ h => nomatch h) fun importNeeded => ?_
  cases importNeeded with
  | true =>
      refine Prog.within_try (hsave _ rfl) (fun _ _ h => nomatch h) fun _ => ?_
      refine Prog.within_try (.lift (all_ask trivial)) (fun _ _ h => nomatch h) fun _ => ?_
      refine Prog.within_try (all_ask trivial) (fun _ _ h => nomatch h) fun sources => ?_
      refine Prog.within_try (spares_runCollectionImport _ _) (fun _ _ h => nomatch h) ?_
      rintro ⟨hash, entries⟩
      refine Prog.within_try (hsave _ rfl) (fun _ _ h => nomatch h) fun _ => ?_
      refine Prog.within_try (.lift (all_ask trivial)) (fun _ _ h => nomatch h) fun _ => ?_
      exact fun imported himported => Except.ok.inj himported ▸ h
  | false =>
      have hprepared : (emitPreparedProgress state.bytesTotal).All
          (SendRequest.Spares transferId) :=
        .bind (all_ask trivial) fun _ => all_ask trivial
      refine Prog.within_try (.lift hprepared) (fun _ _ h => nomatch h) fun _ => ?_
      exact fun imported himported => Except.ok.inj himported ▸ h

theorem within_prepareSendPayload (limits : ClipboardLimits) (senderName : String)
    (paths : List SendPathSpec) (target : DeviceId) {sent : Uuid} (resume : Bool)
    (cancel : Token) (h : sent ≠ transferId) (hreads : TellsOthers allowed transferId sent) :
    (prepareSendPayload limits senderName paths target sent resume cancel).run.Within
      (SendRequest.Spares transferId) allowed fun _ => True := by
  refine Prog.within_try (spares_checkCancelled _) (fun _ => trivial) fun _ => ?_
  refine Prog.within_tryBind.mpr ((within_loadOrInitSendState paths target resume h hreads).mono ?_)
  rintro loaded hloaded
  cases loaded with
  | error error => trivial
  | ok loaded =>
      obtain ⟨sendPaths, state⟩ := loaded
      have hstate := hloaded _ rfl
      refine Prog.within_try trivial (fun _ => trivial) fun _ => ?_
      refine Prog.within_try (all_ask hstate) (fun _ => trivial) fun _ => ?_
      refine Prog.within_tryBind.mpr ((within_ensureImported sendPaths cancel hstate).mono ?_)
      rintro imported himported
      cases imported with
      | error error => trivial
      | ok imported =>
          have hkept := himported _ rfl
          refine Prog.within_try (spares_checkCancelled _) (fun _ => trivial) fun _ => ?_
          refine Prog.within_try (all_ask hkept) (fun _ => trivial) fun _ => ?_
          dsimp only
          cases imported.collectionHash <;> trivial

theorem spares_settle (cancel : Token) (sent : Uuid) (result : Except String Unit) :
    (settle cancel sent result).All (SendRequest.Spares transferId) := by
  refine .bind (all_ask trivial) fun cancelled => ?_
  cases cancelled with
  | true => exact .bind (all_ask trivial) fun _ => trivial
  | false => trivial

theorem within_reportOutcome {sent : Uuid} (outcome : Except String Unit)
    (hreads : TellsOthers allowed transferId sent) :
    (reportOutcome sent outcome).Within (SendRequest.Spares transferId) allowed
      fun _ => True := by
  cases outcome with
  | ok _ =>
      refine Prog.within_bind.mpr (Prog.within_tryBind.mpr (Prog.within_call.mpr ⟨trivial, ?_⟩))
      intro response hallowed
      cases response with
      | error error => exact spares_within (all_ask trivial)
      | ok state =>
          have hother := hreads.send state hallowed
          refine Prog.within_try (all_ask (show state.transferId ≠ transferId from hother))
            (fun _ => spares_within (all_ask trivial)) fun _ => ?_
          exact Prog.within_call.mpr ⟨trivial, fun _ _ => spares_within (all_ask trivial)⟩
  | error message =>
      refine within_then ?_ fun _ => spares_within (all_ask trivial)
      refine Prog.within_bind.mpr (Prog.within_call.mpr ⟨trivial, fun response hallowed => ?_⟩)
      cases response with
      | error error => trivial
      | ok state =>
          have hother := hreads.send state hallowed
          exact within_then
            (spares_within (all_ask (show state.transferId ≠ transferId from hother)))
            fun _ => trivial

theorem within_handleSendFiles (config : SendConfig) {request : SendFilesRequest}
    (turns : Nat) (h : request.transferId ≠ transferId)
    (hreads : TellsOthers allowed transferId request.transferId) :
    (handleSendFiles config request turns).Within (SendRequest.Spares transferId)
      allowed fun _ => True := by
  refine within_then (spares_within ((validating_validatePreconditions _).mono ?_)) fun valid => ?_
  · rintro asked hkind
    cases asked <;> first | exact hkind.elim | trivial
  cases valid with
  | false => trivial
  | true =>
      refine within_then (spares_within (all_ask trivial)) fun ready => ?_
      cases ready with
      | false => trivial
      | true =>
          refine within_then (spares_within (all_ask trivial)) fun cancel => ?_
          refine within_then (spares_within (all_ask trivial)) fun _ => ?_
          refine within_then (spares_within (all_ask trivial)) fun _ => ?_
          refine within_then (spares_within (all_ask trivial)) fun waiter => ?_
          refine within_then ?_ fun result => within_then ?_ fun _ =>
            within_reportOutcome _ hreads
          · refine Prog.within_tryBind.mpr
              ((within_prepareSendPayload _ _ _ _ _ cancel h hreads).mono fun payload _ => ?_)
            cases payload with
            | error error => trivial
            | ok payload =>
                refine spares_within ((delivering_deliverPayload _ _ _ _ _ _).mono ?_)
                rintro asked (hkind | hkind | hkind) <;>
                  cases asked <;> first | exact hkind.elim | trivial
          · exact spares_within (spares_settle _ _ _)

end Within

/-- What a session does after its envelopes are sent. -/
def awaitOutcome (cancel : Token) (waiter : WaiterId) (transferId : Uuid) (turns : Nat) :
    SendProg Unit := do
  let result ← (waitForSendAck cancel waiter turns).run
  let result ← settle cancel transferId result
  reportOutcome transferId result

/-- What a session does after a failure. -/
def settleFailure (cancel : Token) (transferId : Uuid) (message : String) : SendProg Unit := do
  let result ← settle cancel transferId (.error message)
  reportOutcome transferId result

/-- What a receive handler does after `handle_transfer_locked`. -/
def leaveLock (transferId : Uuid) (lock : LockId) : SendProg Unit := do
  ask (.lockRelease lock)
  ask (.removeUnusedEntry transferId lock)
  ask (.dropLock lock)

/-- What a pass does after the `run_receive` of one state, with the states that follow. -/
def leaveResume (limits : ClipboardLimits) (connected : List DeviceId)
    (state : ReceiveTransferState) (lock : LockId) (result : Except String Unit)
    (states : List ReceiveTransferState) : SendProg Unit := do
  ask (.lockRelease lock)
  ask (.dropLock lock)
  match result with
  | .error _ => resumeEach limits connected states
  | .ok () => do
      match ← (acknowledgeCompletedReceive state.sender state.transferId
          state.collectionHash).run with
      | .error _ => resumeEach limits connected states
      | .ok () => do
          let _ ← (removeReceiveState state.transferId).run
          resumeEach limits connected states

/-- Where a session of the transfer neither saves its state any more, when there is no state
file, nor sends or completes it. -/
inductive SessionOver (coordinator : Coordinator) (transferId : Uuid) : SendProg Unit → Prop
  /-- It is being rejected. -/
  | rejected {message : String} :
      SessionOver coordinator transferId (do let _ ← sendResponse (.error message))
  /-- All is sent, and its waiter has failed. -/
  | waiting {cancel : Token} {waiter : WaiterId} {turns : Nat} :
      coordinator.failed waiter = true →
      SessionOver coordinator transferId (awaitOutcome cancel waiter transferId turns)
  | forwarding {phase : SendPhase} {bytesDone bytesTotal : UInt64} {currentFile : Option String}
      {cancel : Token} {waiter : WaiterId} {turns : Nat} :
      coordinator.failed waiter = true →
      SessionOver coordinator transferId (do
        emit phase bytesDone bytesTotal currentFile
        awaitOutcome cancel waiter transferId turns)
  /-- It has failed, and has not read the state file in order to mark it. -/
  | failed {reports : List BlobProgress} {cancel : Token} {message : String}
      {log : List (Exchange SendSig)} {program : SendProg Unit} :
      Prog.Follows (Gone transferId) (do
        emitImportProgress reports
        settleFailure cancel transferId message) log program →
      SessionOver coordinator transferId program
  | marked {message : String} :
      SessionOver coordinator transferId (writeEvent (.sendFailed message))
  | returned : SessionOver coordinator transferId (.ret ())

/-- Where a handler of the transfer saves its state no more when there is no state file. -/
inductive HandlerOver (limits : ClipboardLimits) (transferId : Uuid) : SendProg Unit → Prop
  /-- It refuses what it was given, and has read no state file. -/
  | refusing {sender : DeviceId} {payload : SendPayload} {log : List (Exchange SendSig)}
      {program : SendProg Unit} :
      payload.version ≠ SEND_PAYLOAD_VERSION ∨ Refuses limits payload.entries →
      Prog.Follows (Gone transferId) (do let _ ← handleTransfer limits sender payload) log
        program →
      HandlerOver limits transferId program
  /-- It has failed, and has not read the state file in order to mark it. -/
  | failed {sender : DeviceId} {reports : List SendProgress} {message : String} {lock : LockId}
      {log : List (Exchange SendSig)} {program : SendProg Unit} :
      Prog.Follows (Gone transferId) (do
        emitProgress sender reports
        reportReceiveFailure sender transferId message
        leaveLock transferId lock) log program →
      HandlerOver limits transferId program
  | marked {sender : DeviceId} {message : String} {lock : LockId}
      {log : List (Exchange SendSig)} {program : SendProg Unit} :
      Prog.Follows (fun _ _ => True) (do
        let _ ← (sendAck sender { transferId, ok := false, error := some message } none).run
        leaveLock transferId lock) log program →
      HandlerOver limits transferId program
  /-- The files are exported, and the state is saved for the last time. -/
  | received {sender : DeviceId} {senderName : String} {count : Nat} {dir receipt : String}
      {lock : LockId} {log : List (Exchange SendSig)} {program : SendProg Unit} :
      Prog.Follows (fun _ _ => True) (do
        notifyFilesReceived senderName count dir
        let _ ← (acknowledgeAndRemove sender transferId receipt).run
        leaveLock transferId lock) log program →
      HandlerOver limits transferId program

/-- Where a pass saves the state of the transfer no more when there is no state file. -/
inductive PassOver (limits : ClipboardLimits) (transferId : Uuid) : SendProg Unit → Prop
  /-- It has listed nothing that it would resume. -/
  | listing {log : List (Exchange SendSig)} {program : SendProg Unit} :
      Prog.Follows (NoneListed limits transferId) (resumeIncompleteReceives limits) log
        program →
      PassOver limits transferId program
  /-- Nothing that it resumes, or still has before it, is the transfer. -/
  | passing {connected : List DeviceId} {states : List ReceiveTransferState}
      {log : List (Exchange SendSig)} {program : SendProg Unit} :
      (∀ state ∈ states, PassesOver limits connected transferId state) →
      Prog.Follows (fun _ _ => True) (resumeEach limits connected states) log program →
      PassOver limits transferId program
  /-- It has resumed the transfer, and is past the last save. -/
  | resumed {senderName : String} {count : Nat} {dir : String} {connected : List DeviceId}
      {state : ReceiveTransferState} {lock : LockId} {states : List ReceiveTransferState}
      {log : List (Exchange SendSig)} {program : SendProg Unit} :
      (∀ state ∈ states, PassesOver limits connected transferId state) →
      Prog.Follows (fun _ _ => True) (do
        notifyFilesReceived senderName count dir
        leaveResume limits connected state lock (.ok ()) states) log program →
      PassOver limits transferId program
  /-- It has failed to resume the transfer. -/
  | failed {reports : List SendProgress} {message : String} {connected : List DeviceId}
      {state : ReceiveTransferState} {lock : LockId} {states : List ReceiveTransferState}
      {log : List (Exchange SendSig)} {program : SendProg Unit} :
      (∀ state ∈ states, PassesOver limits connected transferId state) →
      Prog.Follows (fun _ _ => True) (do
        emitProgress state.sender reports
        leaveResume limits connected state lock (.error message) states) log program →
      PassOver limits transferId program

section Points

variable {transferId : Uuid} {coordinator : Coordinator} {limits : ClipboardLimits}
  {program : SendProg Unit}

theorem silent_of_marking {request : SendRequest} (h : request.Marking) :
    request.Silent transferId := by
  cases request <;> first | exact h.elim | trivial

theorem silent_settleFailure (cancel : Token) (sent : Uuid) (message : String) :
    (settleFailure cancel sent message).All (SendRequest.Silent transferId) := by
  have hfailure : ∀ message,
      (reportOutcome sent (.error message)).All (SendRequest.Silent transferId) := fun message =>
    .bind ((marking_markSendFailed _ _).mono fun _ => silent_of_marking) fun _ =>
      all_ask trivial
  refine ⟨trivial, fun cancelled => ?_⟩
  cases cancelled with
  | true => exact ⟨trivial, fun _ => hfailure _⟩
  | false => exact hfailure message

theorem within_settleFailure (cancel : Token) (message : String) :
    (settleFailure cancel transferId message).Within (SendRequest.Spares transferId)
      (Gone transferId) fun _ => True :=
  within_then (spares_within (spares_settle _ _ _)) fun _ =>
    within_reportOutcome _ (Gone.tellsOthers _ _)

theorem within_awaitOutcome (cancel : Token) (waiter : WaiterId) (turns : Nat) :
    (awaitOutcome cancel waiter transferId turns).Within (SendRequest.Spares transferId)
      (Gone transferId) fun _ => True := by
  refine within_then (spares_within ((waiting_waitForSendAck _ _ _).mono ?_)) fun _ =>
    within_then (spares_within (spares_settle _ _ _)) fun _ =>
      within_reportOutcome _ (Gone.tellsOthers _ _)
  intro asked hkind
  cases asked <;> first | exact hkind.elim | trivial

/-- The acknowledgement that a failed waiter waits for cannot come. -/
theorem silent_awaitOutcome (cancel : Token) {waiter : WaiterId} (sent : Uuid) (turns : Nat)
    (h : coordinator.failed waiter = true) :
    (awaitOutcome cancel waiter sent turns).Within (SendRequest.Silent transferId)
      (NotAcked coordinator) fun _ => True := by
  have hwait : (waitForSendAck cancel waiter turns).run.Within
      (SendRequest.Silent transferId) (NotAcked coordinator)
      fun result => ∃ message, result = .error message := by
    induction turns with
    | zero => exact Prog.within_call.mpr ⟨trivial, fun response => nomatch response⟩
    | succ turns ih =>
        refine Prog.within_tryBind.mpr (Prog.within_lift.mpr ?_)
        refine Prog.within_call.mpr ⟨trivial, fun event hallowed => ?_⟩
        cases event with
        | cancelled => exact ⟨_, rfl⟩
        | deadline => exact ⟨_, rfl⟩
        | closed => exact ⟨_, rfl⟩
        | acked result =>
            cases result with
            | error message => exact ⟨message, rfl⟩
            | ok _ => exact absurd h (Bool.eq_false_iff.mp hallowed)
        | progress report =>
            refine Prog.within_tryBind.mpr (Prog.within_lift.mpr ?_)
            exact Prog.within_call.mpr ⟨trivial, fun _ _ => ih⟩
  refine Prog.within_bind.mpr (hwait.mono ?_)
  rintro _ ⟨message, rfl⟩
  exact .of_all (silent_settleFailure _ _ _) fun _ h => h

theorem SessionOver.files (h : SessionOver coordinator transferId program) :
    program.Within (SendRequest.Spares transferId) (Gone transferId) fun _ => True := by
  cases h with
  | rejected => exact spares_within (.bind (all_ask trivial) fun _ => trivial)
  | waiting => exact within_awaitOutcome _ _ _
  | forwarding =>
      exact within_then (spares_within (all_ask trivial)) fun _ => within_awaitOutcome _ _ _
  | failed hfollows =>
      refine Prog.Within.follows (within_then (spares_within ?_) fun _ => ?_) hfollows
      · exact all_emitImportProgress _ fun _ _ _ _ => all_ask trivial
      · exact within_settleFailure _ _
  | marked => exact spares_within (all_ask trivial)
  | returned => trivial

theorem SessionOver.sends (h : SessionOver coordinator transferId program) :
    program.Within (SendRequest.Silent transferId) (NotAcked coordinator) fun _ => True := by
  cases h with
  | rejected => exact ⟨trivial, fun _ _ _ => trivial⟩
  | waiting hfailed => exact silent_awaitOutcome _ _ _ hfailed
  | forwarding hfailed =>
      exact within_then ⟨trivial, fun _ _ _ => trivial⟩ fun _ => silent_awaitOutcome _ _ _ hfailed
  | failed hfollows =>
      refine .of_all (hfollows.all (.bind ?_ fun _ => silent_settleFailure _ _ _)).2 fun _ h => h
      exact all_emitImportProgress _ fun _ _ _ _ => all_ask trivial
  | marked => exact ⟨trivial, fun _ _ _ => trivial⟩
  | returned => trivial

theorem spares_leaveLock (left : Uuid) (lock : LockId) :
    (leaveLock left lock).All (SendRequest.Spares transferId) :=
  .bind (all_ask trivial) fun _ => .bind (all_ask trivial) fun _ => all_ask trivial

theorem HandlerOver.files (h : HandlerOver limits transferId program) :
    program.Within (SendRequest.Spares transferId) (Gone transferId) fun _ => True := by
  cases h with
  | @refusing sender payload _ _ hrefused hfollows =>
      have hhandler : (handleTransfer limits sender payload).Within
          (SendRequest.Spares transferId) (Gone transferId) fun _ => True :=
        within_handleTransfer _ _ (.inr hrefused) (Gone.tellsOthers _ _)
      exact (within_then hhandler fun _ => Prog.within_ret.mpr trivial).follows hfollows
  | failed hfollows =>
      refine Prog.Within.follows (within_then (spares_within (spares_emitProgress _ _))
        fun _ => ?_) hfollows
      exact within_then (within_reportReceiveFailure _ _ (Gone.tellsOthers _ _)) fun _ =>
        spares_within (spares_leaveLock _ _)
  | marked hfollows =>
      refine spares_within (hfollows.all (.bind ?_ fun _ => spares_leaveLock _ _)).2
      exact .bind (all_ask trivial) fun _ => trivial
  | received hfollows =>
      refine spares_within (hfollows.all (.bind (all_ask trivial) fun _ => ?_)).2
      exact .bind (spares_acknowledgeAndRemove _ _ _) fun _ => spares_leaveLock _ _

theorem spares_leaveResume {connected : List DeviceId} {states : List ReceiveTransferState}
    (state : ReceiveTransferState) (lock : LockId) (result : Except String Unit)
    (h : ∀ state ∈ states, PassesOver limits connected transferId state) :
    (leaveResume limits connected state lock result states).All
      (SendRequest.Spares transferId) := by
  refine .bind (all_ask trivial) fun _ => .bind (all_ask trivial) fun _ => ?_
  cases result with
  | error message => exact spares_resumeEach h
  | ok _ =>
      refine .bind (.bind (all_ask trivial) fun _ => trivial) fun acked => ?_
      cases acked with
      | error error => exact spares_resumeEach h
      | ok _ => exact .bind (all_ask trivial) fun _ => spares_resumeEach h

theorem PassOver.files (h : PassOver limits transferId program) :
    program.Within (SendRequest.Spares transferId) (Gone transferId) fun _ => True := by
  cases h with
  | listing hfollows =>
      exact ((within_resumeIncompleteReceives limits).follows hfollows).restrict
        fun _ _ => Gone.noneListed
  | passing hstates hfollows =>
      exact spares_within (hfollows.all (spares_resumeEach hstates)).2
  | resumed hstates hfollows =>
      refine spares_within (hfollows.all (.bind (all_ask trivial) fun _ => ?_)).2
      exact spares_leaveResume _ _ _ hstates
  | failed hstates hfollows =>
      refine spares_within (hfollows.all (.bind (spares_emitProgress _ _) fun _ => ?_)).2
      exact spares_leaveResume _ _ _ hstates

end Points

end Failsafe.Send
