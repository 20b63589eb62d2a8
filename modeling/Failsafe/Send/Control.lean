import Failsafe.Send.Manifest
import Failsafe.Send.Outbound
import Failsafe.Send.Receive

/-!
Send sessions of the control socket (`failsafe-send/src/control.rs`,
`coordinator.rs` and `cancel.rs`).
-/

namespace Failsafe.Send

open Failsafe.Core Failsafe.Clipboard Failsafe.Lib Failsafe.Transport

structure SendFilesRequest where
  target : DeviceId
  paths : List SendPathSpec
  transferId : Uuid
  resume : Bool
deriving DecidableEq, Repr

/-- What a daemon is configured with, and the JSON writer it is linked to. -/
structure SendConfig where
  serde : SerdeJson
  localId : DeviceId
  deviceName : String
  sendLimits : ClipboardLimits

def newToken : SendProg Token :=
  ask .newToken

def childToken (parent : Token) : SendProg Token :=
  ask (.childToken parent)

def registerWaiter (transferId : Uuid) : SendProg WaiterId :=
  ask (.registerWaiter transferId)

def completeWaiter (transferId : Uuid) (result : Except String Unit) : SendProg Unit :=
  ask (.completeWaiter transferId result)

def awaitAck (cancel : Token) (waiter : WaiterId) : SendProg AckEvent :=
  ask (.awaitAck cancel waiter)

def emit (phase : SendPhase) (bytesDone bytesTotal : UInt64)
    (currentFile : Option String) : SendProg Unit :=
  ask (.emit phase bytesDone bytesTotal currentFile)

def sendResponse (response : ControlResponse) : SendProg Bool :=
  ask (.sendResponse response)

def writeEvent (event : ControlEvent) : SendProg Unit :=
  ask (.writeEvent event)

def isLocalFeatureEnabled : SendProg Bool :=
  ask .isLocalFeatureEnabled

def isPeerFeatureEnabled (peer : DeviceId) : SendProg Bool :=
  ask (.isPeerFeatureEnabled peer)

/-- A loop that is still running after all the turns it was given. -/
def hang {α : Type} : SendProg α :=
  .call .hang fun (response : Empty) => nomatch response

/-- `SendCoordinator::cancel`. -/
def cancelWaiter (transferId : Uuid) : SendProg Unit :=
  completeWaiter transferId (.error "transfer cancelled")

def rejectSend (message : String) : SendProg Bool := do
  let _ ← sendResponse (.error message)
  return false

def validatePreconditions (target : DeviceId) : SendProg Bool := do
  if ← isLocalFeatureEnabled then
    if ← isPeerFeatureEnabled target then
      if target ∈ (← connectedPeers) then return true
      else rejectSend s!"device {Uuid.toText target.uuid} is offline or unreachable"
    else
      rejectSend s!"file_send is not enabled on device {Uuid.toText target.uuid}; enable it on both devices"
  else
    rejectSend "file_send is not enabled on this device; enable it in the web UI or with `failsafe devices features`, then wait for the daemon to sync"

def sendEnvelopes («to» : DeviceId) : List SendEnvelope → SendTry String Unit
  | [] => return ()
  | envelope :: envelopes => do
      (transportSend «to» envelope none).adapt TransportError.toText
      sendEnvelopes «to» envelopes

/-- The loop of `wait_for_send_ack`, for its first `turns` turns. -/
def waitForSendAck (cancel : Token) (waiter : WaiterId) : Nat → SendTry String Unit
  | 0 => .mk hang
  | turns + 1 => do
      match ← awaitAck cancel waiter with
      | .cancelled => throw "transfer cancelled"
      | .deadline => throw "timed out waiting for receiver acknowledgement"
      | .acked result => .mk (.ret result)
      | .closed => throw "transfer acknowledgement channel closed"
      | .progress progress => do
          emit progress.phase progress.bytesDone progress.bytesTotal progress.currentFile
          waitForSendAck cancel waiter turns

/-- The second half of the `async` block of `handle_send_files`. -/
def deliverPayload (config : SendConfig) (request : SendFilesRequest) (turns : Nat)
    (cancel : Token) (waiter : WaiterId) (payload : SendPayload) : SendTry String Unit := do
  checkCancelled cancel
  let totalBytes := bytesTotal payload.entries
  emit .sending totalBytes totalBytes none
  checkCancelled cancel
  sendEnvelopes request.target
    (planTransferEnvelopes config.serde config.localId request.target payload)
  emit .waitingForAck 0 totalBytes none
  waitForSendAck cancel waiter turns

/-- The `async` block of `handle_send_files`. -/
def sendTransfer (config : SendConfig) (request : SendFilesRequest) (turns : Nat)
    (cancel : Token) (waiter : WaiterId) : SendTry String Unit := do
  let payload ← prepareSendPayload config.sendLimits config.deviceName request.paths
    request.target request.transferId request.resume cancel
  deliverPayload config request turns cancel waiter payload

/-- Cancellation of the session's own token overrides its result. -/
def settle (cancel : Token) (transferId : Uuid) (result : Except String Unit) :
    SendProg (Except String Unit) := do
  if ← isCancelled cancel then
    cancelWaiter transferId
    return .error "transfer cancelled"
  else
    return result

def reportOutcome (transferId : Uuid) : Except String Unit → SendProg Unit
  | .ok () => do
      let _ ← (markSendComplete transferId).run
      writeEvent (.sendComplete transferId)
  | .error message => do
      markSendFailed transferId message
      writeEvent (.sendFailed message)

/-- A session after its preconditions were checked and the client was told. -/
def runSession (config : SendConfig) (request : SendFilesRequest) (turns : Nat) :
    SendProg Unit := do
  let cancel ← newToken
  let cancelChild ← childToken cancel
  ask (.spawnDisconnectWatcher cancelChild)
  let waiter ← registerWaiter request.transferId
  let result ← (sendTransfer config request turns cancel waiter).run
  let result ← settle cancel request.transferId result
  reportOutcome request.transferId result

def handleSendFiles (config : SendConfig) (request : SendFilesRequest) (turns : Nat) :
    SendProg Unit := do
  if ← validatePreconditions request.target then
    if ← sendResponse .ready then runSession config request turns

/-- Whether the client sent more bytes; `false` at its end of stream or an error. -/
def readControl : SendProg Bool :=
  ask .readControl

/-- The task that waits for the client to hang up, for its first `turns` reads. -/
def disconnectWatcher (cancelChild : Token) : Nat → SendProg Unit
  | 0 => hang
  | turns + 1 => do
      if ← readControl then disconnectWatcher cancelChild turns
      else ask (.cancelToken cancelChild)

def readIncompleteSends : List Uuid → SendTry String (List SendTransferState)
  | [] => return []
  | transferId :: transferIds => do
      let state ← loadSendState transferId
      let states ← readIncompleteSends transferIds
      return if state.stage = .complete then states else state :: states

def sendStateIds : SendTry String (List Uuid) :=
  ask .listSendStates

def listIncompleteSends : SendTry String (List SendTransferState) := do
  readIncompleteSends (← sendStateIds)

def pendingWaiters : SendProg (List Uuid) :=
  ask .pendingWaiters

def cancelSends : List SendTransferState → SendTry String Unit
  | [] => return ()
  | state :: states => do
      cancelWaiter state.transferId
      removeSendState state.transferId
      cancelSends states

def cancelWaiters : List Uuid → SendProg Unit
  | [] => return ()
  | transferId :: transferIds => do
      cancelWaiter transferId
      cancelWaiters transferIds

def cancelAllIncompleteSends : SendTry String Nat := do
  let states ← listIncompleteSends
  cancelSends states
  cancelWaiters (← pendingWaiters)
  return states.length

def removeReceives : List ReceiveTransferState → SendTry String Unit
  | [] => return ()
  | state :: states => do
      removeReceiveState state.transferId
      removeReceives states

def cancelAllIncompleteReceives : SendTry String Nat := do
  let states ← listIncompleteReceives
  removeReceives states
  return states.length

def handleCancelAll : SendProg Unit := do
  let counts ← (show SendTry String (Nat × Nat) from do
    let sends ← cancelAllIncompleteSends
    let receives ← cancelAllIncompleteReceives
    return (sends, receives)).run
  match counts with
  | .error message => do
      let _ ← sendResponse (.error message)
  | .ok (sends, receives) => do
      let _ ← sendResponse (.cancelTransfers sends receives)

end Failsafe.Send
