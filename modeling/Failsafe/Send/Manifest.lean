import Mathlib.Data.List.AList
import Failsafe.Send.Payload
import Failsafe.Transport.Codec

/-!
The manifest of a transfer: how the sender cuts it into envelopes and how the
receiver puts the chunks together (`failsafe-send/src/manifest.rs`).
-/

namespace Failsafe.Send

open Failsafe.Core

/-- The third-party `serde_json::to_vec` at the two types that file send
serializes. -/
structure SerdeJson where
  envelopeToVec : SendEnvelope → List UInt8
  messageToVec : FeatureMessage (List UInt8) → Except String (List UInt8)

def INITIAL_CHUNK_ENTRIES : Nat := 4096

def u32SaturatingAdd (a b : UInt32) : UInt32 :=
  UInt32.ofNat (min (a.toNat + b.toNat) (UInt32.size - 1))

/-- `u32::try_from(n).unwrap_or(u32::MAX)`. -/
def u32TryFromOrMax (n : Nat) : UInt32 :=
  if n < UInt32.size then UInt32.ofNat n else UInt32.ofNat (UInt32.size - 1)

def transferEnvelopeFits (serde : SerdeJson) («from» «to» : DeviceId)
    (envelope : SendEnvelope) : Bool :=
  let message :=
    FeatureMessage.new «from» «to» SEND_FEATURE_ID (serde.envelopeToVec envelope)
  (Transport.encode serde.messageToVec message).isOk

/-- The inner loop `while chunk_len > 0`: the first length, halved at each
turn, at which the chunk fits, or none when the length has reached zero. -/
def fittingChunkLen (fits : SendEnvelope → Bool) (transferId : Uuid)
    (chunkIndex : UInt32) (rest : List FileEntry) (chunkLen : Nat) :
    Option {len : Nat // 0 < len} :=
  if h : 0 < chunkLen then
    let chunk : SendTransferChunk :=
      { transferId, chunkIndex, entries := rest.take chunkLen }
    if fits (.transferChunk chunk) then
      some ⟨chunkLen, h⟩
    else
      fittingChunkLen fits transferId chunkIndex rest (chunkLen / 2)
  else
    none
termination_by chunkLen
decreasing_by omega

/-- The outer loop `while offset < payload.entries.len()`.  It returns the
envelopes it pushes and the final `chunk_index`.  The `debug_assert!` of the
single-entry fallback is not part of a release build. -/
def chunkEnvelopes (fits : SendEnvelope → Bool) (transferId : Uuid)
    (entries : List FileEntry) (offset : Nat) (chunkIndex : UInt32) :
    List SendEnvelope × UInt32 :=
  if _ : offset < entries.length then
    let rest := entries.drop offset
    let chunkLen := min INITIAL_CHUNK_ENTRIES (entries.length - offset)
    match fittingChunkLen fits transferId chunkIndex rest chunkLen with
    | some ⟨len, _⟩ =>
        let chunk : SendTransferChunk :=
          { transferId, chunkIndex, entries := rest.take len }
        let (envelopes, chunkCount) :=
          chunkEnvelopes fits transferId entries (offset + len)
            (u32SaturatingAdd chunkIndex 1)
        (.transferChunk chunk :: envelopes, chunkCount)
    | none =>
        -- One entry alone is sent even when its chunk does not fit.
        let chunk : SendTransferChunk :=
          { transferId, chunkIndex, entries := rest.take 1 }
        let (envelopes, chunkCount) :=
          chunkEnvelopes fits transferId entries (offset + 1)
            (u32SaturatingAdd chunkIndex 1)
        (.transferChunk chunk :: envelopes, chunkCount)
  else
    ([], chunkIndex)
termination_by entries.length - offset

def transferHeader (payload : SendPayload) : SendTransferHeader :=
  { version := SEND_PAYLOAD_VERSION
    transferId := payload.transferId
    senderName := payload.senderName
    collectionHash := payload.collectionHash
    bytesTotal := bytesTotal payload.entries
    entryCount := u32TryFromOrMax payload.entries.length }

def planTransferEnvelopes (serde : SerdeJson) («from» «to» : DeviceId)
    (payload : SendPayload) : List SendEnvelope :=
  let single := SendEnvelope.transfer payload
  if transferEnvelopeFits serde «from» «to» single then
    [single]
  else
    let (chunks, chunkIndex) :=
      chunkEnvelopes (transferEnvelopeFits serde «from» «to») payload.transferId
        payload.entries 0 0
    .transferHeader (transferHeader payload) :: chunks ++
      [.transferEnd { transferId := payload.transferId, chunkCount := chunkIndex }]

/-- A manifest under reassembly.  The association list carries the proof that
no chunk index occurs twice. -/
structure ChunkedTransfer where
  header : SendTransferHeader
  chunks : AList (fun _ : UInt32 => List FileEntry)
  endReceived : Bool
  expectedChunkCount : Option UInt32

namespace ChunkedTransfer

def new (header : SendTransferHeader) : ChunkedTransfer :=
  { header, chunks := ∅, endReceived := false, expectedChunkCount := none }

def pushChunk (state : ChunkedTransfer) (chunkIndex : UInt32)
    (entries : List FileEntry) : ChunkedTransfer :=
  { state with chunks := state.chunks.insert chunkIndex entries }

def markEnd (state : ChunkedTransfer) (chunkCount : UInt32) : ChunkedTransfer :=
  { state with endReceived := true, expectedChunkCount := some chunkCount }

def entriesReceived (state : ChunkedTransfer) : Nat :=
  (state.chunks.entries.map fun chunk => chunk.2.length).sum

def isComplete (state : ChunkedTransfer) : Bool :=
  state.entriesReceived == state.header.entryCount.toNat &&
    state.expectedChunkCount.all fun count =>
      state.chunks.entries.length == count.toNat

/-- `(0..count).filter(|index| !self.chunks.contains_key(index))`. -/
def missingChunks (state : ChunkedTransfer) (count : UInt32) : List Nat :=
  (List.range count.toNat).filter fun index =>
    (state.chunks.lookup (UInt32.ofNat index)).isNone

def missingChunksNote (state : ChunkedTransfer) : String :=
  match state.expectedChunkCount.map state.missingChunks with
  | some (index :: indices) => s!", missing chunk indices: {index :: indices}"
  | _ => ""

def sortedIndices (state : ChunkedTransfer) : List UInt32 :=
  state.chunks.keys.mergeSort

/-- The chunks' entries, concatenated in the order of their indices. -/
def assembledEntries (state : ChunkedTransfer) : List FileEntry :=
  state.sortedIndices.flatMap fun index => (state.chunks.lookup index).getD []

def intoPayload (state : ChunkedTransfer) : Except String SendPayload :=
  let transferId := Uuid.toText state.header.transferId
  let entryCount := state.header.entryCount.toNat
  if state.isComplete then
    let entries := state.assembledEntries
    if entries.length ≠ entryCount then
      .error s!"transfer {transferId} manifest incomplete: expected {entryCount} entries, got {entries.length}"
    else if bytesTotal entries ≠ state.header.bytesTotal then
      .error s!"transfer {transferId} manifest size mismatch: expected {state.header.bytesTotal.toNat} bytes, got {(bytesTotal entries).toNat}"
    else
      .ok
        { version := state.header.version
          transferId := state.header.transferId
          senderName := state.header.senderName
          collectionHash := state.header.collectionHash
          entries }
  else
    .error s!"transfer {transferId} manifest incomplete: expected {entryCount} entries, got {state.entriesReceived}{state.missingChunksNote}"

end ChunkedTransfer

end Failsafe.Send
