import Failsafe.Send.Payload

/-!
Persisted transfer states (`failsafe-send/src/transfer_state.rs`).
-/

namespace Failsafe.Send

open Failsafe.Core

inductive SendStage where
  | importing
  | readyToSend
  | waitingAck
  | complete
  | failed
deriving DecidableEq, Repr

inductive ReceiveStage where
  | downloading
  | exporting
  | complete
  | failed
deriving DecidableEq, Repr

structure SendTransferState where
  transferId : Uuid
  target : DeviceId
  paths : List SendPathSpec
  stage : SendStage
  collectionHash : Option String
  entries : List FileEntry
  bytesDone : UInt64
  bytesTotal : UInt64
  error : Option String
deriving DecidableEq, Repr

structure ReceiveTransferState where
  transferId : Uuid
  sender : DeviceId
  senderName : String
  stage : ReceiveStage
  collectionHash : String
  entries : List FileEntry
  receiveDir : Option String
  bytesDone : UInt64
  bytesTotal : UInt64
  error : Option String
deriving DecidableEq, Repr

def receiveStateFromPayload (sender : DeviceId) (payload : SendPayload) :
    ReceiveTransferState :=
  { transferId := payload.transferId
    sender
    senderName := payload.senderName
    stage := .downloading
    collectionHash := payload.collectionHash
    entries := payload.entries
    receiveDir := none
    bytesDone := 0
    bytesTotal := bytesTotal payload.entries
    error := none }

/-- What `handle_transfer_locked` takes over from a payload into a saved state. -/
def ReceiveTransferState.refresh (state : ReceiveTransferState) (sender : DeviceId)
    (payload : SendPayload) : ReceiveTransferState :=
  { state with
    sender
    senderName := payload.senderName
    collectionHash := payload.collectionHash
    entries := payload.entries
    bytesTotal := Send.bytesTotal payload.entries }

end Failsafe.Send
