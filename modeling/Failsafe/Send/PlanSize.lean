import Failsafe.Core.Uuid
import Failsafe.Lib.JsonSize
import Failsafe.Send.ManifestPlan
import Failsafe.Send.Wire

/-!
Every planned envelope fits a message of the transport: what the two JSON encodings make of
an envelope at most, and that the loop over the chunk lengths ends at a length that fits.
-/

namespace Failsafe.Send

open Failsafe.Core
open Failsafe.Lib.JsonText

section Sizes

theorem byteLength_writeUuid_le (id : Uuid) : byteLength (writeUuid id) ≤ 866 := by
  have hwritten := byteLength_writeString_le (Uuid.toText id)
  have hbytes : byteLength (Uuid.toText id).toList ≤ (Uuid.toText id).toList.length * 4 :=
    byteLength_le_mul fun c _ => Char.utf8Size_le_four c
  rw [byteLength_toList, Uuid.length_toText] at hbytes
  unfold writeUuid
  omega

theorem byteLength_writeNat_uint32 (n : UInt32) : byteLength (writeNat n.toNat) ≤ 10 := by
  have hn := n.toNat_lt
  exact byteLength_writeNat_le (by decide) (by omega)

theorem byteLength_writeNat_uint64 (n : UInt64) : byteLength (writeNat n.toNat) ≤ 20 := by
  have hn := n.toNat_lt
  exact byteLength_writeNat_le (by decide) (by omega)

theorem length_message_le («from» «to» : DeviceId) (payload : List UInt8) :
    (utf8 (writeObject (FeatureMessage.fields
      (FeatureMessage.new «from» «to» SEND_FEATURE_ID payload)))).length ≤
        payload.length * 4 + 2400 := by
  have hbytes : byteLength (writeArray (payload.map fun byte => writeNat byte.toNat)) ≤
      (payload.map fun byte => writeNat byte.toNat).length * (3 + 1) + 2 := by
    refine byteLength_writeArray_le fun item hitem => ?_
    obtain ⟨byte, -, rfl⟩ := List.mem_map.mp hitem
    have hbyte := byte.toNat_lt
    exact byteLength_writeNat_le (by decide) (by omega)
  rw [List.length_map] at hbytes
  have hobject := @byteLength_writeObject_le 7 (FeatureMessage.fields
    (FeatureMessage.new «from» «to» SEND_FEATURE_ID payload)) rfl
  have hversion := byteLength_writeNat_uint32 FEATURE_MESSAGE_VERSION
  have hfrom := byteLength_writeUuid_le «from».uuid
  have hto := byteLength_writeUuid_le «to».uuid
  have hfeature := byteLength_writeString_le SEND_FEATURE_ID.id
  have hid : SEND_FEATURE_ID.id.utf8ByteSize = 9 := rfl
  simp only [FeatureMessage.fields, FeatureMessage.new, List.map_cons, List.map_nil,
    List.sum_cons, List.sum_nil] at hobject
  change byteLength _ ≤ _
  simp only [FeatureMessage.fields, FeatureMessage.new]
  omega

theorem fits_of_length («from» «to» : DeviceId) {envelope : SendEnvelope}
    (h : byteLength (writeObject envelope.fields) ≤ 4000000) :
    transferEnvelopeFits compactSerde «from» «to» envelope = true := by
  have hmessage := length_message_le «from» «to» (utf8 (writeObject envelope.fields))
  refine (Transport.encode_isOk_iff _ _).mpr ⟨_, rfl, ?_⟩
  refine hmessage.trans ?_
  change byteLength _ * 4 + 2400 ≤ _
  unfold Transport.MAX_MESSAGE_SIZE
  omega

variable {limit : Nat}

theorem byteLength_entry_le {entry : FileEntry} (h : entry.name.utf8ByteSize ≤ limit) :
    byteLength entry.write ≤ 6 * limit + 100 := by
  have hobject := @byteLength_writeObject_le 4
    [("name", writeString entry.name), ("size", writeNat entry.size.toNat)] rfl
  have hname := byteLength_writeString_le entry.name
  have hsize := byteLength_writeNat_uint64 entry.size
  simp only [List.map_cons, List.map_nil, List.sum_cons, List.sum_nil] at hobject
  unfold FileEntry.write
  omega

theorem byteLength_chunk_le (transferId : Uuid) (chunkIndex : UInt32) {entry : FileEntry}
    (h : entry.name.utf8ByteSize ≤ limit) :
    byteLength (writeObject
      (SendEnvelope.transferChunk ⟨transferId, chunkIndex, [entry]⟩).fields) ≤
        6 * limit + 1500 := by
  have hentries : byteLength (writeArray ([entry].map FileEntry.write)) ≤
      ([entry].map FileEntry.write).length * (6 * limit + 100 + 1) + 2 := by
    refine byteLength_writeArray_le fun item hitem => ?_
    obtain rfl := List.mem_singleton.mp hitem
    exact byteLength_entry_le h
  have hobject := @byteLength_writeObject_le 11
    (SendEnvelope.transferChunk ⟨transferId, chunkIndex, [entry]⟩).fields rfl
  have hkind := byteLength_writeString_le "transfer_chunk"
  have hkindSize : "transfer_chunk".utf8ByteSize = 14 := rfl
  have hid := byteLength_writeUuid_le transferId
  have hindex := byteLength_writeNat_uint32 chunkIndex
  simp only [SendEnvelope.fields, List.map_cons, List.map_nil, List.sum_cons, List.sum_nil,
    List.length_cons, List.length_nil] at hobject hentries ⊢
  omega

theorem byteLength_header_le {header : SendTransferHeader}
    (hsender : header.senderName.utf8ByteSize ≤ limit)
    (hhash : header.collectionHash.utf8ByteSize ≤ limit) :
    byteLength (writeObject (SendEnvelope.transferHeader header).fields) ≤
      12 * limit + 2000 := by
  have hobject := @byteLength_writeObject_le 15 (SendEnvelope.transferHeader header).fields rfl
  have hkind := byteLength_writeString_le "transfer_header"
  have hkindSize : "transfer_header".utf8ByteSize = 15 := rfl
  have hversion := byteLength_writeNat_uint32 header.version
  have hid := byteLength_writeUuid_le header.transferId
  have hname := byteLength_writeString_le header.senderName
  have hcollection := byteLength_writeString_le header.collectionHash
  have htotal := byteLength_writeNat_uint64 header.bytesTotal
  have hcount := byteLength_writeNat_uint32 header.entryCount
  simp only [SendEnvelope.fields, List.map_cons, List.map_nil, List.sum_cons,
    List.sum_nil] at hobject ⊢
  omega

theorem byteLength_end_le (finish : SendTransferEnd) :
    byteLength (writeObject (SendEnvelope.transferEnd finish).fields) ≤ 1500 := by
  have hobject := @byteLength_writeObject_le 11 (SendEnvelope.transferEnd finish).fields rfl
  have hkind := byteLength_writeString_le "transfer_end"
  have hkindSize : "transfer_end".utf8ByteSize = 12 := rfl
  have hid := byteLength_writeUuid_le finish.transferId
  have hcount := byteLength_writeNat_uint32 finish.chunkCount
  simp only [SendEnvelope.fields, List.map_cons, List.map_nil, List.sum_cons,
    List.sum_nil] at hobject ⊢
  omega

end Sizes

section Loops

variable {fits : SendEnvelope → Bool} {transferId : Uuid} {chunkIndex : UInt32}
  {entries rest : List FileEntry} {chunkLen offset : Nat}

theorem fittingChunkLen_fits {found : { len : Nat // 0 < len }}
    (h : fittingChunkLen fits transferId chunkIndex rest chunkLen = some found) :
    fits (.transferChunk ⟨transferId, chunkIndex, rest.take found.val⟩) = true := by
  induction chunkLen using Nat.strongRecOn with
  | _ chunkLen ih =>
      unfold fittingChunkLen at h
      split at h
      · rename_i hpos
        dsimp only at h
        split at h
        · rename_i hfits
          obtain rfl := Option.some.inj h
          exact hfits
        · exact ih (chunkLen / 2) (by omega) h
      · cases h

theorem fittingChunkLen_isSome (hpos : 0 < chunkLen)
    (hone : fits (.transferChunk ⟨transferId, chunkIndex, rest.take 1⟩) = true) :
    (fittingChunkLen fits transferId chunkIndex rest chunkLen).isSome = true := by
  induction chunkLen using Nat.strongRecOn with
  | _ chunkLen ih =>
      unfold fittingChunkLen
      rw [dif_pos hpos]
      dsimp only
      split
      · rfl
      · rename_i hunfit
        have hmore : chunkLen ≠ 1 := by
          rintro rfl
          exact hunfit hone
        exact ih (chunkLen / 2) (by omega) (by omega)

theorem take_one_drop (hoffset : offset < entries.length) :
    ∃ entry ∈ entries, (entries.drop offset).take 1 = [entry] := by
  refine ⟨entries[offset], List.getElem_mem hoffset, ?_⟩
  rw [List.drop_eq_getElem_cons hoffset]
  rfl

theorem chunkLen_found (hoffset : offset < entries.length)
    (hone : ∀ entry ∈ entries, fits (.transferChunk ⟨transferId, chunkIndex, [entry]⟩) = true) :
    (fittingChunkLen fits transferId chunkIndex (entries.drop offset)
      (min INITIAL_CHUNK_ENTRIES (entries.length - offset))).isSome = true := by
  obtain ⟨entry, hentry, htake⟩ := take_one_drop hoffset
  refine fittingChunkLen_isSome ?_ ?_
  · unfold INITIAL_CHUNK_ENTRIES
    omega
  · rw [htake]
    exact hone entry hentry

theorem chunkEnvelopes_fit
    (hone : ∀ index, ∀ entry ∈ entries, fits (.transferChunk ⟨transferId, index, [entry]⟩) = true) :
    ∀ envelope ∈ (chunkEnvelopes fits transferId entries offset chunkIndex).1,
      fits envelope = true := by
  induction hrest : entries.length - offset using Nat.strongRecOn
    generalizing offset chunkIndex with
  | _ rest ih =>
      by_cases hoffset : offset < entries.length
      · obtain ⟨⟨len, hlen⟩, hfound⟩ :=
          Option.isSome_iff_exists.mp (chunkLen_found hoffset (hone chunkIndex))
        rw [chunkEnvelopes, dif_pos hoffset]
        dsimp only
        rw [hfound]
        intro envelope henvelope
        rcases List.mem_cons.mp henvelope with rfl | henvelope
        · exact fittingChunkLen_fits hfound
        · exact ih (entries.length - (offset + len)) (by omega) rfl envelope henvelope
      · rw [chunkEnvelopes, dif_neg hoffset]
        simp

end Loops

section Plan

variable {«from» «to» : DeviceId} {payload : SendPayload}

/-- Every planned envelope fits a message, and the loop over the chunk lengths never ends without
a length. -/
theorem planned_envelopes_fit (hsender : payload.senderName.utf8ByteSize ≤ 64 * 1024)
    (hhash : payload.collectionHash.utf8ByteSize ≤ 64 * 1024)
    (hnames : ∀ entry ∈ payload.entries, entry.name.utf8ByteSize ≤ 64 * 1024) :
    (∀ envelope ∈ planTransferEnvelopes compactSerde «from» «to» payload,
        transferEnvelopeFits compactSerde «from» «to» envelope = true) ∧
      ∀ offset < payload.entries.length, ∀ chunkIndex,
        (fittingChunkLen (transferEnvelopeFits compactSerde «from» «to») payload.transferId
          chunkIndex (payload.entries.drop offset)
          (min INITIAL_CHUNK_ENTRIES (payload.entries.length - offset))).isSome = true := by
  have hone (chunkIndex : UInt32) : ∀ entry ∈ payload.entries,
      transferEnvelopeFits compactSerde «from» «to»
        (.transferChunk ⟨payload.transferId, chunkIndex, [entry]⟩) = true := by
    intro entry hentry
    have hsize := byteLength_chunk_le payload.transferId chunkIndex (hnames entry hentry)
    exact fits_of_length «from» «to» (by omega)
  constructor
  · intro envelope henvelope
    cases hsingle : transferEnvelopeFits compactSerde «from» «to» (.transfer payload) with
    | true =>
        rw [planTransferEnvelopes_of_fits compactSerde «from» «to» payload hsingle] at henvelope
        obtain rfl := List.mem_singleton.mp henvelope
        exact hsingle
    | false =>
        simp only [planTransferEnvelopes, hsingle, Bool.false_eq_true, if_false] at henvelope
        rcases List.mem_append.mp henvelope with hfirst | hlast
        · rcases List.mem_cons.mp hfirst with rfl | hchunk
          · have hsize : byteLength (writeObject
                (SendEnvelope.transferHeader (transferHeader payload)).fields) ≤
                  12 * (64 * 1024) + 2000 := byteLength_header_le hsender hhash
            exact fits_of_length «from» «to» (by omega)
          · exact chunkEnvelopes_fit hone envelope hchunk
        · obtain rfl := List.mem_singleton.mp hlast
          exact fits_of_length «from» «to» ((byteLength_end_le _).trans (by decide))
  · intro offset hoffset chunkIndex
    exact chunkLen_found hoffset (hone chunkIndex)

/-- Files that do not fit one message, with control characters in their names. -/
def controlNames : SendPayload :=
  { version := SEND_PAYLOAD_VERSION, transferId := 7, senderName := "laptop\n",
    collectionHash := "hash", entries := List.replicate 400000 ⟨"\x01\x02", 1⟩ }

theorem controlNames_fit :
    transferEnvelopeFits compactSerde ⟨1⟩ ⟨2⟩ (.transfer controlNames) = false ∧
      (planTransferEnvelopes compactSerde ⟨1⟩ ⟨2⟩ controlNames).all
        (transferEnvelopeFits compactSerde ⟨1⟩ ⟨2⟩) = true := by
  have hnames : ∀ entry ∈ controlNames.entries, entry.name.utf8ByteSize ≤ 64 * 1024 := by
    intro entry hentry
    obtain ⟨-, rfl⟩ := List.mem_replicate.mp hentry
    decide
  constructor
  · refine not_fits_of_many_entries ⟨1⟩ ⟨2⟩ controlNames ?_
    rw [controlNames, List.length_replicate]
  · exact List.all_eq_true.mpr (planned_envelopes_fit (by decide) (by decide) hnames).1

end Plan

end Failsafe.Send
