import Failsafe.Clipboard.Limits
import Failsafe.Core.Text
import Failsafe.Send.Effects

/-!
The receiving side: direct transfers and the resumption of saved ones
(`failsafe-send/src/feature.rs`, `resume.rs` and `inbound.rs`).
-/

namespace Failsafe.Send

open Failsafe.Core Failsafe.Clipboard Failsafe.Lib Failsafe.Transport

def sanitizePathComponent (value : String) : String :=
  let trimmed := trim value.toList
  if trimmed.isEmpty then "device"
  else
    String.ofList (trimmed.map fun ch =>
      if ch.isAlphanum || ch == '-' || ch == '_' then ch else '_')

def downloadsBaseDir : SendProg (Option String) :=
  ask .downloadsBaseDir

/-- `Local::now()` in the format of receive directories. -/
def localTimestamp : SendProg String :=
  ask .localTimestamp

def receiveDir (senderName : String) (transferId : Uuid) : SendProg (Option String) := do
  match ← downloadsBaseDir with
  | none => return none
  | some base => do
      let safeSender := sanitizePathComponent senderName
      let timestamp ← localTimestamp
      let shortId := String.ofList ((Uuid.toText transferId).toList.take 8)
      return some (base ++ "/" ++ safeSender ++ "/" ++ timestamp ++ "-" ++ shortId)

def loadReceiveState (transferId : Uuid) : SendTry String ReceiveTransferState :=
  ask (.loadReceiveState transferId)

def saveReceiveState (state : ReceiveTransferState) : SendTry String Unit :=
  ask (.saveReceiveState state)

def removeReceiveState (transferId : Uuid) : SendTry String Unit :=
  ask (.removeReceiveState transferId)

def receiveStateIds : SendTry String (List Uuid) :=
  ask .listReceiveStates

def readReceiveState (transferId : Uuid) : SendTry String ReceiveTransferState :=
  ask (.readReceiveState transferId)

def readIncomplete : List Uuid → SendTry String (List ReceiveTransferState)
  | [] => return []
  | transferId :: transferIds => do
      let state ← readReceiveState transferId
      let states ← readIncomplete transferIds
      return if state.stage = .complete then states else state :: states

def listIncompleteReceives : SendTry String (List ReceiveTransferState) := do
  readIncomplete (← receiveStateIds)

def downloadCollection (peer : DeviceId) (root : String) (totalBytes : UInt64) :
    SendProg (List BlobProgress × Except String Unit) :=
  ask (.downloadCollection peer root totalBytes)

def exportCollection (transferId : Uuid) (root destDir : String) :
    SendProg (List BlobProgress × Except String Nat) :=
  ask (.exportCollection transferId root destDir)

def notifyFilesReceived (senderName : String) (count : Nat) (dir : String) :
    SendProg Unit :=
  ask (.notifyFilesReceived senderName count dir)

/-- Hand progress reports to the task that forwards them. -/
def emitProgress («to» : DeviceId) : List SendProgress → SendProg Unit
  | [] => return ()
  | progress :: rest => do
      ask (.forwardProgress «to» progress)
      emitProgress «to» rest

def transportSend («to» : DeviceId) (envelope : SendEnvelope) (receipt : Option String) :
    SendTry TransportError Unit :=
  ask (.send «to» envelope receipt)

def transportErrorToFeatureError (error : TransportError) : FeatureError :=
  .failed SEND_FEATURE_ID error.toText

/-- `send_ack`, with the receipt of `SendRequest.send`. -/
def sendAck («to» : DeviceId) (ack : SendAck) (receipt : Option String) :
    SendTry FeatureError Unit :=
  (transportSend «to» (.ack ack) receipt).adapt transportErrorToFeatureError

def liftExcept {ε α : Type} (result : Except ε α) : SendTry ε α :=
  .mk (.ret result)

def ReceiveTransferState.report (state : ReceiveTransferState) (phase : SendPhase)
    (bytesDone bytesTotal : UInt64) (currentFile : Option String) : SendProgress :=
  { transferId := state.transferId, phase, bytesDone, bytesTotal, currentFile }

/-- The state once the collection is downloaded. -/
def ReceiveTransferState.downloaded (state : ReceiveTransferState) : ReceiveTransferState :=
  { state with stage := .exporting, bytesDone := state.bytesTotal }

/-- The first half of `run_receive`, up to the saved stage `Exporting`. -/
def downloadReceive (limits : ClipboardLimits) (state : ReceiveTransferState) :
    SendTry String Unit := do
  liftExcept (limits.validateEntries
    (state.entries.map fun entry => (entry.name, entry.size)))
  saveReceiveState { state with stage := .downloading }
  emitProgress state.sender [state.report .waitingForAck state.bytesDone state.bytesTotal none]
  let (downloads, downloaded) ←
    downloadCollection state.sender state.collectionHash state.bytesTotal
  emitProgress state.sender (downloads.map fun progress =>
    state.report .waitingForAck progress.bytesDone progress.bytesTotal progress.currentFile)
  liftExcept downloaded
  saveReceiveState state.downloaded

def chooseReceiveDir (state : ReceiveTransferState) : SendProg (Option String) :=
  match state.receiveDir with
  | some dir => .ret (some dir)
  | none => receiveDir state.senderName state.transferId

/-- The second half of `run_receive`. -/
def exportReceive (state : ReceiveTransferState) : SendTry String Unit := do
  let dir ← chooseReceiveDir state
  let dir ← liftExcept (dir.elim (.error "downloads directory unavailable") .ok)
  let (exports, exported) ← exportCollection state.transferId state.collectionHash dir
  emitProgress state.sender (exports.map fun progress =>
    state.report .storing state.bytesTotal state.bytesTotal progress.currentFile)
  let count ← liftExcept exported
  emitProgress state.sender [state.report .storing state.bytesTotal state.bytesTotal none]
  saveReceiveState
    { state with receiveDir := some dir, stage := .complete, bytesDone := state.bytesTotal }
  notifyFilesReceived state.senderName count dir

def runReceive (limits : ClipboardLimits) (state : ReceiveTransferState) :
    SendTry String Unit := do
  downloadReceive limits state
  exportReceive state.downloaded

def lockEntry (transferId : Uuid) : SendProg LockId :=
  ask (.lockEntry transferId)

/-- Run with the lock held, as between `lock().await` and the guard's drop. -/
def locked {α : Type} (lock : LockId) (resumed : Option ReceiveTransferState)
    (body : SendProg α) : SendProg α := do
  ask (.lockAcquire lock resumed)
  let result ← body
  ask (.lockRelease lock)
  return result

def resumeReceive (limits : ClipboardLimits) (state : ReceiveTransferState) :
    SendTry String Unit := .mk do
  let transferLock ← lockEntry state.transferId
  let result ← locked transferLock (some state) (runReceive limits state).run
  ask (.dropLock transferLock)
  return result

def acknowledgeCompletedReceive (sender : DeviceId) (transferId : Uuid)
    (receipt : String) : SendTry FeatureError Unit :=
  sendAck sender { transferId, ok := true, error := none } (some receipt)

/-- The saved state of the transfer, or a fresh one when none can be read. -/
def savedOrFresh («from» : DeviceId) (payload : SendPayload) :
    SendProg ReceiveTransferState := do
  match ← (loadReceiveState payload.transferId).run with
  | .ok saved => return saved
  | .error _ => return receiveStateFromPayload «from» payload

/-- What `handle_transfer_locked` does after a failed `run_receive`. -/
def reportReceiveFailure («from» : DeviceId) (transferId : Uuid) (message : String) :
    SendProg Unit := do
  match ← (loadReceiveState transferId).run with
  | .ok state => do
      let _ ← (saveReceiveState { state with stage := .failed, error := some message }).run
  | .error _ => pure ()
  let _ ← (sendAck «from» { transferId, ok := false, error := some message } none).run

/-- The receiver's answer to a received transfer, and the end of its state. -/
def acknowledgeAndRemove («from» : DeviceId) (transferId : Uuid) (receipt : String) :
    SendTry FeatureError Unit := do
  acknowledgeCompletedReceive «from» transferId receipt
  let _ ← (removeReceiveState transferId).run

def handleTransferLocked (limits : ClipboardLimits) («from» : DeviceId)
    (payload : SendPayload) : SendTry FeatureError Unit := do
  if payload.version ≠ SEND_PAYLOAD_VERSION then
    throw (.failed SEND_FEATURE_ID
      s!"unsupported send payload version {payload.version} (expected {SEND_PAYLOAD_VERSION})")
  else do
    let state ← savedOrFresh «from» payload
    if state.stage = .complete then
      acknowledgeAndRemove «from» payload.transferId state.collectionHash
    else
      match ← (runReceive limits (state.refresh «from» payload)).run with
      | .ok () =>
          acknowledgeAndRemove «from» payload.transferId payload.collectionHash
      | .error message => do
          reportReceiveFailure «from» payload.transferId message
          throw (.failed SEND_FEATURE_ID message)

def handleTransfer (limits : ClipboardLimits) («from» : DeviceId)
    (payload : SendPayload) : SendProg (Except FeatureError Unit) := do
  let transferLock ← lockEntry payload.transferId
  let result ← locked transferLock none
    (handleTransferLocked limits «from» payload).run
  ask (.removeUnusedEntry payload.transferId transferLock)
  ask (.dropLock transferLock)
  return result

def connectedPeers : SendProg (List DeviceId) :=
  ask .connectedPeers

/-- The body of the loop of `resume_incomplete_receives`. -/
def resumeListed (limits : ClipboardLimits) (connected : List DeviceId)
    (state : ReceiveTransferState) : SendProg Unit := do
  if state.sender ∈ connected then
    match ← (resumeReceive limits state).run with
    | .error _ => return ()
    | .ok () =>
        match ← (acknowledgeCompletedReceive state.sender state.transferId
            state.collectionHash).run with
        | .error _ => return ()
        | .ok () => do
            let _ ← (removeReceiveState state.transferId).run
  else return ()

def resumeEach (limits : ClipboardLimits) (connected : List DeviceId) :
    List ReceiveTransferState → SendProg Unit
  | [] => return ()
  | state :: states => do
      resumeListed limits connected state
      resumeEach limits connected states

def resumeIncompleteReceives (limits : ClipboardLimits) : SendProg Unit := do
  match ← listIncompleteReceives.run with
  | .error _ => return ()
  | .ok [] => return ()
  | .ok states => do
      let connected ← connectedPeers
      resumeEach limits connected states

end Failsafe.Send
