import Failsafe.Core.Control

/-!
The envelopes of the file-send feature (`failsafe-send/src/payload.rs`).
-/

namespace Failsafe.Send

open Failsafe.Core

def SEND_PAYLOAD_VERSION : UInt32 := 1

def SEND_FEATURE_ID : FeatureId := ⟨"file_send"⟩

structure FileEntry where
  name : String
  size : UInt64
deriving DecidableEq, Repr

structure SendPayload where
  version : UInt32
  transferId : Uuid
  senderName : String
  collectionHash : String
  entries : List FileEntry
deriving DecidableEq, Repr

structure SendTransferHeader where
  version : UInt32
  transferId : Uuid
  senderName : String
  collectionHash : String
  bytesTotal : UInt64
  entryCount : UInt32
deriving DecidableEq, Repr

structure SendTransferChunk where
  transferId : Uuid
  chunkIndex : UInt32
  entries : List FileEntry
deriving DecidableEq, Repr

structure SendTransferEnd where
  transferId : Uuid
  chunkCount : UInt32
deriving DecidableEq, Repr

structure SendAck where
  transferId : Uuid
  ok : Bool
  error : Option String
deriving DecidableEq, Repr

structure SendProgress where
  transferId : Uuid
  phase : SendPhase
  bytesDone : UInt64
  bytesTotal : UInt64
  currentFile : Option String
deriving DecidableEq, Repr

inductive SendEnvelope where
  | transfer (payload : SendPayload)
  | transferHeader (header : SendTransferHeader)
  | transferChunk (chunk : SendTransferChunk)
  | transferEnd (finish : SendTransferEnd)
  | ack (ack : SendAck)
  | progress (progress : SendProgress)
deriving DecidableEq, Repr

/-- `entries.iter().map(|entry| entry.size).sum::<u64>()`, which wraps at
`2 ^ 64` as the release build does. -/
def bytesTotal (entries : List FileEntry) : UInt64 :=
  (entries.map FileEntry.size).foldl (· + ·) 0

end Failsafe.Send
