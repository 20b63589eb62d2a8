import Failsafe.Clipboard.Limits
import Failsafe.Send.Effects

/-!
Preparing a send: its saved state and the import of its files
(`failsafe-send/src/outbound.rs`).
-/

namespace Failsafe.Send

open Failsafe.Core Failsafe.Clipboard Failsafe.Lib

def loadSendState (transferId : Uuid) : SendTry String SendTransferState :=
  ask (.readSendState transferId)

def saveSendState (state : SendTransferState) : SendTry String Unit :=
  ask (.saveSendState state)

def removeSendState (transferId : Uuid) : SendTry String Unit :=
  ask (.removeSendState transferId)

def collectFilePreview (paths : List SendPathSpec) : SendTry String (List FileEntry) :=
  ask (.collectFilePreview paths)

def collectImportSources (paths : List SendPathSpec) :
    SendTry String (List (String × String)) :=
  ask (.collectImportSources paths)

def collectionStatus (root : String) (totalBytes : UInt64) :
    SendTry String (UInt64 × UInt64 × Bool) :=
  ask (.collectionStatus root totalBytes)

def importSources (sources : List (String × String)) (cancel : Token) :
    SendProg (List BlobProgress × ImportOutcome) :=
  ask (.importSources sources cancel)

def isCancelled (token : Token) : SendProg Bool :=
  ask (.isCancelled token)

def tryEmit (phase : SendPhase) (bytesDone bytesTotal : UInt64)
    (currentFile : Option String) : SendProg Unit :=
  ask (.tryEmit phase bytesDone bytesTotal currentFile)

def checkCancelled (cancel : Token) : SendTry String Unit := do
  if ← isCancelled cancel then throw "transfer cancelled"

def loadOrInitSendState (paths : List SendPathSpec) (target : DeviceId)
    (transferId : Uuid) (resume : Bool) :
    SendTry String (List SendPathSpec × SendTransferState) := do
  if resume then
    let saved ← loadSendState transferId
    if saved.stage = .complete then throw "transfer already completed"
    else return (saved.paths, saved)
  else
    let previews ← collectFilePreview paths
    return (paths,
      { transferId, target, paths
        stage := .importing
        collectionHash := none
        entries := previews
        bytesDone := 0
        bytesTotal := bytesTotal previews
        error := none })

def collectionImportNeeded (collectionHash : Option String) (totalBytes : UInt64) :
    SendProg Bool := do
  match collectionHash with
  | none => return true
  | some hash =>
      match ← (collectionStatus hash totalBytes).run with
      | .ok (_, _, complete) => return !complete
      | .error _ => return true

def emitImportProgress : List BlobProgress → SendProg Unit
  | [] => return ()
  | progress :: rest => do
      tryEmit .preparing progress.bytesDone progress.bytesTotal progress.currentFile
      emitImportProgress rest

def runCollectionImport (sources : List (String × String)) (cancel : Token) :
    SendTry String (String × List FileEntry) := do
  let (reports, outcome) ← importSources sources cancel
  emitImportProgress reports
  match outcome with
  | .cancelled => throw "transfer cancelled"
  | .finished result => .mk (.ret result)

/-- Import the files of a send again, and save what was imported. -/
def importCollection (paths : List SendPathSpec) (state : SendTransferState)
    (cancel : Token) : SendTry String SendTransferState := do
  let state := { state with stage := .importing }
  saveSendState state
  tryEmit .preparing 0 state.bytesTotal none
  let sources ← collectImportSources paths
  let (hash, entries) ← runCollectionImport sources cancel
  let state :=
    { state with
      collectionHash := some hash
      entries
      bytesDone := state.bytesTotal
      stage := .readyToSend }
  saveSendState state
  tryEmit .storing state.bytesTotal state.bytesTotal none
  return state

def emitPreparedProgress (totalBytes : UInt64) : SendProg Unit := do
  tryEmit .preparing totalBytes totalBytes none
  tryEmit .storing totalBytes totalBytes none

/-- Import the files unless the blob store still has all of them. -/
def ensureImported (paths : List SendPathSpec) (state : SendTransferState)
    (cancel : Token) : SendTry String SendTransferState := do
  if ← collectionImportNeeded state.collectionHash state.bytesTotal then
    importCollection paths state cancel
  else do
    emitPreparedProgress state.bytesTotal
    return state

def prepareSendPayload (limits : ClipboardLimits) (senderName : String)
    (paths : List SendPathSpec) (target : DeviceId) (transferId : Uuid) (resume : Bool)
    (cancel : Token) : SendTry String SendPayload := do
  checkCancelled cancel
  let (sendPaths, state) ← loadOrInitSendState paths target transferId resume
  ExceptT.mk (.ret (limits.validateEntries
    (state.entries.map fun entry => (entry.name, entry.size))))
  saveSendState state
  let state ← ensureImported sendPaths state cancel
  checkCancelled cancel
  let state := { state with stage := .waitingAck }
  saveSendState state
  match state.collectionHash with
  | none => throw "collection hash missing after import"
  | some collectionHash =>
      return {
        version := SEND_PAYLOAD_VERSION
        transferId, senderName, collectionHash
        entries := state.entries }

def markSendComplete (transferId : Uuid) : SendTry String Unit := do
  let state ← loadSendState transferId
  saveSendState { state with stage := .complete, error := none }
  removeSendState transferId

def markSendFailed (transferId : Uuid) (message : String) : SendProg Unit := do
  match ← (loadSendState transferId).run with
  | .ok state => do
      let _ ← (saveSendState { state with stage := .failed, error := some message }).run
  | .error _ => return ()

end Failsafe.Send
