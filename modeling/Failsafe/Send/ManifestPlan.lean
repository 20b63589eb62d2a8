import Failsafe.Send.Manifest

/-!
What `planTransferEnvelopes` produces: a manifest, that is a header, chunks
that partition the entries in order, and an end that counts the chunks.
-/

namespace Failsafe.Send

open Failsafe.Core

/-- `chunks` and `finish`, behind the header of `payload`, are a manifest of
`payload`. -/
structure IsManifest (payload : SendPayload) (chunks : List SendTransferChunk)
    (finish : SendTransferEnd) : Prop where
  transferId : ∀ chunk ∈ chunks, chunk.transferId = payload.transferId
  indices : chunks.map (fun chunk => chunk.chunkIndex.toNat) = List.range chunks.length
  nonempty : ∀ chunk ∈ chunks, chunk.entries ≠ []
  entries : chunks.flatMap SendTransferChunk.entries = payload.entries
  finishId : finish.transferId = payload.transferId
  finishCount : finish.chunkCount.toNat = chunks.length

def manifestEnvelopes (payload : SendPayload) (chunks : List SendTransferChunk)
    (finish : SendTransferEnd) : List SendEnvelope :=
  .transferHeader (transferHeader payload) :: chunks.map .transferChunk ++
    [.transferEnd finish]

/-- Blocks of entries as chunks, numbered from `start`. -/
def numberedChunks (transferId : Uuid) (start : Nat) :
    List (List FileEntry) → List SendTransferChunk
  | [] => []
  | block :: blocks =>
      { transferId, chunkIndex := UInt32.ofNat start, entries := block } ::
        numberedChunks transferId (start + 1) blocks

@[simp] theorem numberedChunks_length (transferId : Uuid) (start : Nat)
    (blocks : List (List FileEntry)) :
    (numberedChunks transferId start blocks).length = blocks.length := by
  induction blocks generalizing start with
  | nil => rfl
  | cons block blocks ih => simp [numberedChunks, ih]

theorem numberedChunks_entries (transferId : Uuid) (start : Nat)
    (blocks : List (List FileEntry)) :
    (numberedChunks transferId start blocks).map SendTransferChunk.entries = blocks := by
  induction blocks generalizing start with
  | nil => rfl
  | cons block blocks ih => simp [numberedChunks, ih]

theorem numberedChunks_transferId {transferId : Uuid} {start : Nat}
    {blocks : List (List FileEntry)} {chunk : SendTransferChunk}
    (hchunk : chunk ∈ numberedChunks transferId start blocks) :
    chunk.transferId = transferId := by
  induction blocks generalizing start with
  | nil => simp [numberedChunks] at hchunk
  | cons block blocks ih =>
      rcases List.mem_cons.mp hchunk with rfl | hrest
      · rfl
      · exact ih hrest

theorem numberedChunks_indices (transferId : Uuid) (start : Nat)
    (blocks : List (List FileEntry)) (hbound : start + blocks.length ≤ UInt32.size) :
    (numberedChunks transferId start blocks).map (fun chunk => chunk.chunkIndex.toNat) =
      List.range' start blocks.length := by
  induction blocks generalizing start with
  | nil => rfl
  | cons block blocks ih =>
      have hlen : start + (blocks.length + 1) ≤ UInt32.size := by simpa using hbound
      have hstart : start < UInt32.size := by omega
      simp only [numberedChunks, List.map_cons, List.length_cons, List.range'_succ]
      rw [UInt32.toNat_ofNat_of_lt' hstart, ih (start + 1) (by omega)]

theorem length_le_length_flatten {α : Type} {blocks : List (List α)}
    (hne : ∀ block ∈ blocks, block ≠ []) : blocks.length ≤ blocks.flatten.length := by
  induction blocks with
  | nil => simp
  | cons block blocks ih =>
      have hblock : 0 < block.length :=
        List.length_pos_iff.mpr (hne block (by simp))
      have hrest := ih fun b hb => hne b (by simp [hb])
      simp only [List.length_cons, List.flatten_cons, List.length_append]
      omega

theorem u32SaturatingAdd_one {n : Nat} (hn : n + 1 < UInt32.size) :
    u32SaturatingAdd (UInt32.ofNat n) 1 = UInt32.ofNat (n + 1) := by
  have hn' : n < UInt32.size := by omega
  have hmin : min (n + 1) (UInt32.size - 1) = n + 1 := by omega
  simp only [u32SaturatingAdd, UInt32.toNat_ofNat_of_lt' hn']
  exact congrArg UInt32.ofNat hmin

/-- One turn of the outer loop pushes a chunk of at least one entry, whether
the inner loop found a fitting length or the single-entry fallback was taken. -/
theorem chunkEnvelopes_of_lt (fits : SendEnvelope → Bool) (transferId : Uuid)
    (entries : List FileEntry) (offset : Nat) (chunkIndex : UInt32)
    (hoffset : offset < entries.length) :
    ∃ len, 0 < len ∧
      chunkEnvelopes fits transferId entries offset chunkIndex =
        let next := chunkEnvelopes fits transferId entries (offset + len)
          (u32SaturatingAdd chunkIndex 1)
        (.transferChunk
          { transferId, chunkIndex, entries := (entries.drop offset).take len } :: next.1,
          next.2) := by
  rw [chunkEnvelopes, dif_pos hoffset]
  dsimp only
  cases fittingChunkLen fits transferId chunkIndex (entries.drop offset)
      (min INITIAL_CHUNK_ENTRIES (entries.length - offset)) with
  | none => exact ⟨1, Nat.one_pos, rfl⟩
  | some found => exact ⟨found.val, found.property, rfl⟩

/-- The loop invariant: from `offset` on, the loop pushes numbered nonempty
blocks that concatenate to the remaining entries. -/
theorem chunkEnvelopes_eq (fits : SendEnvelope → Bool) (transferId : Uuid)
    (entries : List FileEntry) (offset start : Nat)
    (hbound : start + (entries.length - offset) < UInt32.size) :
    ∃ blocks : List (List FileEntry),
      (∀ block ∈ blocks, block ≠ []) ∧
      blocks.flatten = entries.drop offset ∧
      chunkEnvelopes fits transferId entries offset (UInt32.ofNat start) =
        ((numberedChunks transferId start blocks).map .transferChunk,
          UInt32.ofNat (start + blocks.length)) := by
  induction hrest : entries.length - offset using Nat.strongRecOn
    generalizing offset start with
  | _ rest ih =>
      by_cases hoffset : offset < entries.length
      · obtain ⟨len, hlen, hstep⟩ := chunkEnvelopes_of_lt fits transferId entries
          offset (UInt32.ofNat start) hoffset
        obtain ⟨blocks, hne, hflatten, heq⟩ :=
          ih (entries.length - (offset + len)) (by omega) (offset + len) (start + 1)
            (by omega) rfl
        refine ⟨(entries.drop offset).take len :: blocks, ?_, ?_, ?_⟩
        · intro block hblock
          rcases List.mem_cons.mp hblock with rfl | hblock
          · intro hnil
            have hzero := congrArg List.length hnil
            simp only [List.length_take, List.length_drop, List.length_nil] at hzero
            omega
          · exact hne block hblock
        · rw [List.flatten_cons, hflatten, ← List.drop_drop, List.take_append_drop]
        · rw [hstep, u32SaturatingAdd_one (by omega), heq]
          simp only [numberedChunks, List.map_cons, List.length_cons]
          congr 2
          omega
      · refine ⟨[], by simp, ?_, ?_⟩
        · rw [List.flatten_nil, List.drop_eq_nil_of_le (by omega)]
        · rw [chunkEnvelopes, dif_neg hoffset]
          rfl

theorem chunkEnvelopes_chunk (fits : SendEnvelope → Bool) (transferId : Uuid)
    (entries : List FileEntry) (offset : Nat) (chunkIndex : UInt32) :
    ∀ envelope ∈ (chunkEnvelopes fits transferId entries offset chunkIndex).1,
      ∃ chunk, envelope = .transferChunk chunk := by
  induction hrest : entries.length - offset using Nat.strongRecOn
    generalizing offset chunkIndex with
  | _ rest ih =>
      by_cases hoffset : offset < entries.length
      · obtain ⟨len, hlen, hstep⟩ := chunkEnvelopes_of_lt fits transferId entries
          offset chunkIndex hoffset
        rw [hstep]
        intro envelope hmem
        rcases List.mem_cons.mp hmem with rfl | hmem
        · exact ⟨_, rfl⟩
        · exact ih (entries.length - (offset + len)) (by omega) (offset + len) _ rfl
            envelope hmem
      · rw [chunkEnvelopes, dif_neg hoffset]
        simp

theorem planTransferEnvelopes_of_fits (serde : SerdeJson) («from» «to» : DeviceId)
    (payload : SendPayload)
    (hfits : transferEnvelopeFits serde «from» «to» (.transfer payload) = true) :
    planTransferEnvelopes serde «from» «to» payload = [.transfer payload] := by
  simp [planTransferEnvelopes, hfits]

theorem planTransferEnvelopes_of_not_fits (serde : SerdeJson) («from» «to» : DeviceId)
    (payload : SendPayload) (hcount : payload.entries.length < UInt32.size)
    (hfits : transferEnvelopeFits serde «from» «to» (.transfer payload) = false) :
    ∃ chunks finish, IsManifest payload chunks finish ∧
      planTransferEnvelopes serde «from» «to» payload =
        manifestEnvelopes payload chunks finish := by
  obtain ⟨blocks, hne, hflatten, heq⟩ :=
    chunkEnvelopes_eq (transferEnvelopeFits serde «from» «to») payload.transferId
      payload.entries 0 0 (by omega)
  have hlength : blocks.length ≤ payload.entries.length := by
    simpa [hflatten] using length_le_length_flatten hne
  refine ⟨numberedChunks payload.transferId 0 blocks,
    { transferId := payload.transferId, chunkCount := UInt32.ofNat blocks.length },
    ?_, ?_⟩
  · refine ⟨fun chunk => numberedChunks_transferId, ?_, ?_, ?_, rfl, ?_⟩
    · rw [numberedChunks_indices _ _ _ (by omega), numberedChunks_length,
        List.range_eq_range']
    · intro chunk hchunk
      apply hne
      rw [← numberedChunks_entries payload.transferId 0 blocks]
      exact List.mem_map_of_mem hchunk
    · rw [List.flatMap_def, numberedChunks_entries]
      simpa using hflatten
    · rw [numberedChunks_length]
      exact UInt32.toNat_ofNat_of_lt' (by omega)
  · have hstart : (0 : UInt32) = UInt32.ofNat 0 := rfl
    simp only [planTransferEnvelopes, hfits, Bool.false_eq_true, if_false, hstart, heq,
      manifestEnvelopes, Nat.zero_add]

end Failsafe.Send
