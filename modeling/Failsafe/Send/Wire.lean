import Failsafe.Lib.JsonText
import Failsafe.Send.Manifest

/-!
The JSON form of envelopes and messages: a concrete writer for the serializer
that `Manifest` takes as a parameter.
-/

namespace Failsafe.Send

open Failsafe.Core
open Failsafe.Lib.JsonText

def writeUuid (id : Uuid) : List Char :=
  writeString (Uuid.toText id)

def SendPhase.write : SendPhase → List Char
  | .preparing => writeString "preparing"
  | .storing => writeString "storing"
  | .sending => writeString "sending"
  | .waitingForAck => writeString "waiting_for_ack"

def FileEntry.write (entry : FileEntry) : List Char :=
  writeObject [("name", writeString entry.name), ("size", writeNat entry.size.toNat)]

/-- A field that is skipped when it is `None`. -/
def optionalField (name : String) : Option String → List (String × List Char)
  | none => []
  | some value => [(name, writeString value)]

def SendEnvelope.fields : SendEnvelope → List (String × List Char)
  | .transfer payload =>
      [("kind", writeString "transfer"),
        ("version", writeNat payload.version.toNat),
        ("transfer_id", writeUuid payload.transferId),
        ("sender_name", writeString payload.senderName),
        ("collection_hash", writeString payload.collectionHash),
        ("entries", writeArray (payload.entries.map FileEntry.write))]
  | .transferHeader header =>
      [("kind", writeString "transfer_header"),
        ("version", writeNat header.version.toNat),
        ("transfer_id", writeUuid header.transferId),
        ("sender_name", writeString header.senderName),
        ("collection_hash", writeString header.collectionHash),
        ("bytes_total", writeNat header.bytesTotal.toNat),
        ("entry_count", writeNat header.entryCount.toNat)]
  | .transferChunk chunk =>
      [("kind", writeString "transfer_chunk"),
        ("transfer_id", writeUuid chunk.transferId),
        ("chunk_index", writeNat chunk.chunkIndex.toNat),
        ("entries", writeArray (chunk.entries.map FileEntry.write))]
  | .transferEnd finish =>
      [("kind", writeString "transfer_end"),
        ("transfer_id", writeUuid finish.transferId),
        ("chunk_count", writeNat finish.chunkCount.toNat)]
  | .ack answer =>
      [("kind", writeString "ack"),
        ("transfer_id", writeUuid answer.transferId),
        ("ok", writeBool answer.ok)] ++ optionalField "error" answer.error
  | .progress report =>
      [("kind", writeString "progress"),
        ("transfer_id", writeUuid report.transferId),
        ("phase", SendPhase.write report.phase),
        ("bytes_done", writeNat report.bytesDone.toNat),
        ("bytes_total", writeNat report.bytesTotal.toNat)] ++
        optionalField "current_file" report.currentFile

def FeatureMessage.fields (message : FeatureMessage (List UInt8)) :
    List (String × List Char) :=
  [("version", writeNat message.version.toNat),
    ("from", writeUuid message.from.uuid),
    ("to", writeUuid message.to.uuid),
    ("feature", writeString message.feature.id),
    ("payload", writeArray (message.payload.map fun byte => writeNat byte.toNat))]

/-- `serde_json` at the two types: compact text in UTF-8, never an error. -/
def compactSerde : SerdeJson where
  envelopeToVec envelope := utf8 (writeObject envelope.fields)
  messageToVec message := .ok (utf8 (writeObject (FeatureMessage.fields message)))

theorem entry_width (entry : FileEntry) : 20 ≤ entry.write.length := by
  have hsize := one_le_length_writeNat entry.size.toNat
  simp only [FileEntry.write, writeObject, writeField, writeString, commaSeparated,
    List.map_cons, List.map_nil, List.length_append, List.length_cons, List.length_nil]
  have hname : ("name".toList.flatMap escapeChar).length = 4 := by decide
  have hfield : ("size".toList.flatMap escapeChar).length = 4 := by decide
  omega

theorem length_transfer_ge (payload : SendPayload) :
    payload.entries.length * 21 ≤
      (compactSerde.envelopeToVec (.transfer payload)).length := by
  have harray : payload.entries.length * 21 ≤
      (writeArray (payload.entries.map FileEntry.write)).length := by
    have hwidth : ∀ item ∈ payload.entries.map FileEntry.write, 20 ≤ item.length := by
      intro item hitem
      obtain ⟨entry, _, rfl⟩ := List.mem_map.mp hitem
      exact entry_width entry
    simpa using length_writeArray_ge hwidth
  have hobject : (writeArray (payload.entries.map FileEntry.write)).length ≤
      (writeObject (SendEnvelope.transfer payload).fields).length :=
    length_writeObject_ge "entries" (by simp [SendEnvelope.fields])
  exact harray.trans (hobject.trans (length_le_length_utf8 _))

theorem length_message_ge (message : FeatureMessage (List UInt8)) :
    message.payload.length * 2 ≤
      (utf8 (writeObject (FeatureMessage.fields message))).length := by
  have harray : message.payload.length * 2 ≤
      (writeArray (message.payload.map fun byte => writeNat byte.toNat)).length := by
    have hwidth : ∀ item ∈ message.payload.map (fun byte => writeNat byte.toNat),
        1 ≤ item.length := by
      intro item hitem
      obtain ⟨byte, _, rfl⟩ := List.mem_map.mp hitem
      exact one_le_length_writeNat byte.toNat
    simpa using length_writeArray_ge hwidth
  have hobject : (writeArray (message.payload.map fun byte => writeNat byte.toNat)).length ≤
      (writeObject (FeatureMessage.fields message)).length :=
    length_writeObject_ge "payload" (by simp [FeatureMessage.fields])
  exact harray.trans (hobject.trans (length_le_length_utf8 _))

theorem not_fits_of_many_entries («from» «to» : DeviceId) (payload : SendPayload)
    (hcount : 400000 ≤ payload.entries.length) :
    transferEnvelopeFits compactSerde «from» «to» (.transfer payload) = false := by
  have henvelope := length_transfer_ge payload
  have hmessage := length_message_ge (FeatureMessage.new «from» «to» SEND_FEATURE_ID
    (compactSerde.envelopeToVec (.transfer payload)))
  have hpayload : (FeatureMessage.new «from» «to» SEND_FEATURE_ID
      (compactSerde.envelopeToVec (.transfer payload))).payload =
        compactSerde.envelopeToVec (.transfer payload) := rfl
  rw [hpayload] at hmessage
  apply Bool.eq_false_iff.mpr
  intro hfits
  obtain ⟨bytes, hbytes, hsize⟩ := (Transport.encode_isOk_iff _ _).mp hfits
  have hlength := congrArg List.length (Except.ok.inj hbytes)
  simp only [Transport.MAX_MESSAGE_SIZE] at hsize
  omega

end Failsafe.Send
