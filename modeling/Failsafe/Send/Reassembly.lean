import Mathlib.Algebra.BigOperators.Group.List.Basic
import Failsafe.Send.ManifestPlan
import Failsafe.Send.Wire

/-!
Reassembly of a manifest: `ChunkedTransfer` under any order of its calls.
-/

namespace Failsafe.Send

open Failsafe.Core

/-- The two mutating calls of a `ChunkedTransfer`. -/
inductive ChunkedCall where
  | pushChunk (chunkIndex : UInt32) (entries : List FileEntry)
  | markEnd (chunkCount : UInt32)
deriving DecidableEq

def SendTransferChunk.call (chunk : SendTransferChunk) : ChunkedCall :=
  .pushChunk chunk.chunkIndex chunk.entries

def SendTransferEnd.call (finish : SendTransferEnd) : ChunkedCall :=
  .markEnd finish.chunkCount

def manifestCalls (chunks : List SendTransferChunk) (finish : SendTransferEnd) :
    List ChunkedCall :=
  finish.call :: chunks.map SendTransferChunk.call

namespace ChunkedTransfer

def applyCall (state : ChunkedTransfer) : ChunkedCall → ChunkedTransfer
  | .pushChunk chunkIndex entries => state.pushChunk chunkIndex entries
  | .markEnd chunkCount => state.markEnd chunkCount

def applyCalls (state : ChunkedTransfer) (calls : List ChunkedCall) : ChunkedTransfer :=
  calls.foldl applyCall state

@[simp] theorem applyCalls_nil (state : ChunkedTransfer) : state.applyCalls [] = state := rfl

@[simp] theorem applyCalls_cons (state : ChunkedTransfer) (call : ChunkedCall)
    (calls : List ChunkedCall) :
    state.applyCalls (call :: calls) = (state.applyCall call).applyCalls calls := rfl

@[simp] theorem applyCalls_concat (state : ChunkedTransfer) (call : ChunkedCall)
    (calls : List ChunkedCall) :
    state.applyCalls (calls ++ [call]) = (state.applyCalls calls).applyCall call := by
  simp [applyCalls]

end ChunkedTransfer

/-- A chunk as an entry of the chunk map. -/
abbrev ChunkSlot := Σ _ : UInt32, List FileEntry

def SendTransferChunk.slot (chunk : SendTransferChunk) : ChunkSlot :=
  ⟨chunk.chunkIndex, chunk.entries⟩

def ChunkedCall.slot? : ChunkedCall → Option ChunkSlot
  | .pushChunk chunkIndex entries => some ⟨chunkIndex, entries⟩
  | .markEnd _ => none

/-- The chunks that a sequence of calls pushes. -/
def pushedSlots (calls : List ChunkedCall) : List ChunkSlot :=
  calls.filterMap ChunkedCall.slot?

def slotsLength (slots : List ChunkSlot) : Nat :=
  (slots.map fun slot => slot.2.length).sum

theorem slotsLength_append (left right : List ChunkSlot) :
    slotsLength (left ++ right) = slotsLength left + slotsLength right := by
  simp [slotsLength]

theorem slotsLength_perm {left right : List ChunkSlot} (h : left.Perm right) :
    slotsLength left = slotsLength right :=
  (h.map _).sum_eq

theorem slotsLength_eq_zero_iff {slots : List ChunkSlot}
    (hne : ∀ slot ∈ slots, slot.2 ≠ []) : slotsLength slots = 0 ↔ slots = [] := by
  constructor
  · intro hzero
    rcases slots with _ | ⟨slot, slots⟩
    · rfl
    · have hlen : 0 < slot.2.length := List.length_pos_iff.mpr (hne slot (by simp))
      simp only [slotsLength, List.map_cons, List.sum_cons] at hzero
      omega
  · rintro rfl
    rfl

theorem pushedSlots_manifestCalls (chunks : List SendTransferChunk)
    (finish : SendTransferEnd) :
    pushedSlots (manifestCalls chunks finish) = chunks.map SendTransferChunk.slot := by
  simp only [pushedSlots, manifestCalls, List.filterMap_cons, SendTransferEnd.call,
    ChunkedCall.slot?, List.filterMap_map]
  induction chunks with
  | nil => rfl
  | cons chunk chunks ih =>
      simp only [List.map_cons, ← ih]
      rfl

theorem applyCalls_entries_perm (state : ChunkedTransfer) (calls : List ChunkedCall)
    (hnodup : (pushedSlots calls ++ state.chunks.entries).NodupKeys) :
    (state.applyCalls calls).chunks.entries.Perm
      (pushedSlots calls ++ state.chunks.entries) := by
  induction calls generalizing state with
  | nil => exact List.Perm.refl _
  | cons call calls ih =>
      cases call with
      | markEnd chunkCount => exact ih (state.markEnd chunkCount) hnodup
      | pushChunk chunkIndex entries =>
          change (⟨chunkIndex, entries⟩ :: (pushedSlots calls ++ _)).NodupKeys at hnodup
          have habsent : chunkIndex ∉ state.chunks := by
            intro hmem
            have hkeys := List.notMem_keys_of_nodupKeys_cons hnodup
            apply hkeys
            rw [List.keys_append]
            exact List.mem_append_right _ (AList.mem_keys.mp hmem)
          have hinsert : (state.pushChunk chunkIndex entries).chunks.entries =
              ⟨chunkIndex, entries⟩ :: state.chunks.entries :=
            AList.entries_insert_of_notMem habsent
          have hperm := ih (state.pushChunk chunkIndex entries) (by
            rw [hinsert]
            exact (List.perm_nodupKeys List.perm_middle).mpr hnodup)
          rw [hinsert] at hperm
          exact hperm.trans List.perm_middle

theorem applyCalls_header (state : ChunkedTransfer) (calls : List ChunkedCall) :
    (state.applyCalls calls).header = state.header := by
  induction calls generalizing state with
  | nil => rfl
  | cons call calls ih => cases call <;> exact ih _

theorem applyCalls_expectedChunkCount (state : ChunkedTransfer) (calls : List ChunkedCall)
    (chunkCount : UInt32)
    (hends : ∀ count, ChunkedCall.markEnd count ∈ calls → count = chunkCount)
    (hstate : ∀ count, state.expectedChunkCount = some count → count = chunkCount) :
    ∀ count, (state.applyCalls calls).expectedChunkCount = some count →
      count = chunkCount := by
  induction calls generalizing state with
  | nil => exact hstate
  | cons call calls ih =>
      refine ih _ (fun count hcount => hends count (by simp [hcount])) ?_
      cases call with
      | pushChunk chunkIndex entries => exact hstate
      | markEnd count' =>
          intro count hcount
          have hcount : count' = count := by
            simpa [ChunkedTransfer.applyCall, ChunkedTransfer.markEnd] using hcount
          exact hends count (by simp [hcount])

/-- What the receiver has of a manifest: the calls made so far, and the chunks
that are still missing. -/
structure Received (chunks : List SendTransferChunk) (finish : SendTransferEnd)
    (calls : List ChunkedCall) (missing : List ChunkSlot) : Prop where
  slots : (pushedSlots calls ++ missing).Perm (chunks.map SendTransferChunk.slot)
  ends : ∀ count, ChunkedCall.markEnd count ∈ calls → count = finish.chunkCount

theorem toNat_u32TryFromOrMax {n : Nat} (hn : n < UInt32.size) :
    (u32TryFromOrMax n).toNat = n := by
  rw [u32TryFromOrMax, if_pos hn, UInt32.toNat_ofNat_of_lt' hn]

section Manifest

variable {payload : SendPayload} {chunks : List SendTransferChunk}
  {finish : SendTransferEnd} {calls : List ChunkedCall} {missing : List ChunkSlot}

theorem IsManifest.nodup_indices (hmanifest : IsManifest payload chunks finish) :
    (chunks.map SendTransferChunk.chunkIndex).Nodup := by
  apply List.Nodup.of_map UInt32.toNat
  have hindices := hmanifest.indices
  rw [List.map_map]
  exact hindices ▸ List.nodup_range

theorem IsManifest.nodupKeys (hmanifest : IsManifest payload chunks finish) :
    (chunks.map SendTransferChunk.slot).NodupKeys := by
  have hkeys : (chunks.map SendTransferChunk.slot).keys =
      chunks.map SendTransferChunk.chunkIndex := by
    simp [List.keys, SendTransferChunk.slot]
  rw [List.NodupKeys, hkeys]
  exact hmanifest.nodup_indices

theorem IsManifest.slotsLength (hmanifest : IsManifest payload chunks finish) :
    slotsLength (chunks.map SendTransferChunk.slot) = payload.entries.length := by
  rw [← hmanifest.entries, List.length_flatMap, Send.slotsLength, List.map_map]
  rfl

theorem Received.entries_perm (hmanifest : IsManifest payload chunks finish)
    (hreceived : Received chunks finish calls missing) (header : SendTransferHeader) :
    ((ChunkedTransfer.new header).applyCalls calls).chunks.entries.Perm
      (pushedSlots calls) := by
  have hnodup : (pushedSlots calls).NodupKeys :=
    List.NodupKeys.sublist (List.sublist_append_left _ missing)
      ((List.perm_nodupKeys hreceived.slots).mpr hmanifest.nodupKeys)
  have hperm := applyCalls_entries_perm (ChunkedTransfer.new header) calls (by
    simpa [ChunkedTransfer.new] using hnodup)
  simpa [ChunkedTransfer.new] using hperm

theorem Received.entriesReceived_add (hmanifest : IsManifest payload chunks finish)
    (hreceived : Received chunks finish calls missing) (header : SendTransferHeader) :
    ((ChunkedTransfer.new header).applyCalls calls).entriesReceived +
      Send.slotsLength missing = payload.entries.length := by
  rw [← hmanifest.slotsLength, ← slotsLength_perm hreceived.slots, slotsLength_append]
  exact congrArg (· + _) (slotsLength_perm (hreceived.entries_perm hmanifest header))

theorem Received.missing_nonempty (hmanifest : IsManifest payload chunks finish)
    (hreceived : Received chunks finish calls missing) :
    ∀ slot ∈ missing, slot.2 ≠ [] := by
  intro slot hslot
  have hmem : slot ∈ chunks.map SendTransferChunk.slot :=
    hreceived.slots.subset (List.mem_append_right _ hslot)
  obtain ⟨chunk, hchunk, rfl⟩ := List.mem_map.mp hmem
  exact hmanifest.nonempty chunk hchunk

/-- The count-based test is exact: the transfer is complete when, and only
when, no chunk is missing, whether or not the end has been seen. -/
theorem Received.isComplete_iff (hmanifest : IsManifest payload chunks finish)
    (hcount : payload.entries.length < UInt32.size)
    (hreceived : Received chunks finish calls missing) :
    ((ChunkedTransfer.new (transferHeader payload)).applyCalls calls).isComplete = true ↔
      missing = [] := by
  have htotal := hreceived.entriesReceived_add hmanifest (transferHeader payload)
  have hzero := slotsLength_eq_zero_iff (hreceived.missing_nonempty hmanifest)
  have hentryCount : (transferHeader payload).entryCount.toNat = payload.entries.length :=
    toNat_u32TryFromOrMax hcount
  simp only [ChunkedTransfer.isComplete, Bool.and_eq_true, beq_iff_eq, applyCalls_header]
  rw [show (ChunkedTransfer.new (transferHeader payload)).header = transferHeader payload
    from rfl, hentryCount]
  constructor
  · rintro ⟨hall, -⟩
    exact hzero.mp (by omega)
  · intro hmissing
    have hlength : slotsLength missing = 0 := hzero.mpr hmissing
    refine ⟨by omega, ?_⟩
    rw [Option.all_eq_true]
    intro count hexpected
    have hends : count = finish.chunkCount :=
      applyCalls_expectedChunkCount _ calls finish.chunkCount hreceived.ends
        (by simp [ChunkedTransfer.new]) count hexpected
    have hslots := hreceived.slots
    rw [hmissing, List.append_nil] at hslots
    have hchunks := ((hreceived.entries_perm hmanifest (transferHeader payload)).trans
      hslots).length_eq
    rw [beq_iff_eq, hchunks, List.length_map, hends, hmanifest.finishCount]

theorem sortedIndices_eq (hmanifest : IsManifest payload chunks finish)
    {state : ChunkedTransfer}
    (hstate : state.chunks.entries.Perm (chunks.map SendTransferChunk.slot)) :
    state.sortedIndices = chunks.map SendTransferChunk.chunkIndex := by
  have hkeys : state.chunks.keys.Perm (chunks.map SendTransferChunk.chunkIndex) := by
    have hmap := hstate.map Sigma.fst
    rwa [List.map_map] at hmap
  have hsorted : state.sortedIndices.Pairwise fun a b => decide (a ≤ b) = true :=
    List.pairwise_mergeSort
      (fun a b c hab hbc => by
        simp only [decide_eq_true_eq, UInt32.le_iff_toNat_le] at *
        omega)
      (fun a b => by
        simp only [Bool.or_eq_true, decide_eq_true_eq, UInt32.le_iff_toNat_le]
        omega) _
  have hrange : (chunks.map SendTransferChunk.chunkIndex).Pairwise
      fun a b => decide (a ≤ b) = true := by
    have hlt : (chunks.map fun chunk => chunk.chunkIndex.toNat).Pairwise (· < ·) :=
      hmanifest.indices ▸ List.pairwise_lt_range
    rw [List.pairwise_map] at hlt ⊢
    refine hlt.imp fun {a b} hab => ?_
    simp only [decide_eq_true_eq, UInt32.le_iff_toNat_le]
    omega
  refine List.Perm.eq_of_pairwise ?_ hsorted hrange ((List.mergeSort_perm _ _).trans hkeys)
  intro a b _ _ hab hba
  simp only [decide_eq_true_eq, UInt32.le_iff_toNat_le] at hab hba
  exact UInt32.toNat_inj.mp (by omega)

theorem assembledEntries_eq (hmanifest : IsManifest payload chunks finish)
    {state : ChunkedTransfer}
    (hstate : state.chunks.entries.Perm (chunks.map SendTransferChunk.slot)) :
    state.assembledEntries = payload.entries := by
  have hlookup : ∀ chunk ∈ chunks,
      (state.chunks.lookup chunk.chunkIndex).getD [] = chunk.entries := by
    intro chunk hchunk
    have hmem : chunk.slot ∈ state.chunks.entries :=
      hstate.mem_iff.mpr (List.mem_map_of_mem hchunk)
    have hsome : chunk.entries ∈ state.chunks.lookup chunk.chunkIndex :=
      AList.mem_lookup_iff.mpr hmem
    rw [Option.mem_def.mp hsome, Option.getD_some]
  rw [ChunkedTransfer.assembledEntries, sortedIndices_eq hmanifest hstate,
    List.flatMap_map, ← hmanifest.entries]
  exact List.flatMap_congr fun chunk hchunk => hlookup chunk hchunk

/-- Once every chunk is there, the payload that was planned comes out. -/
theorem intoPayload_of_perm (hmanifest : IsManifest payload chunks finish)
    (hversion : payload.version = SEND_PAYLOAD_VERSION)
    (hcount : payload.entries.length < UInt32.size) {state : ChunkedTransfer}
    (hheader : state.header = transferHeader payload)
    (hstate : state.chunks.entries.Perm (chunks.map SendTransferChunk.slot))
    (hcomplete : state.isComplete = true) : state.intoPayload = .ok payload := by
  have hentryCount : (transferHeader payload).entryCount.toNat = payload.entries.length :=
    toNat_u32TryFromOrMax hcount
  have htotal : (transferHeader payload).bytesTotal = bytesTotal payload.entries := rfl
  simp only [ChunkedTransfer.intoPayload, hcomplete, if_true,
    assembledEntries_eq hmanifest hstate, hheader, hentryCount, htotal, ne_eq,
    not_true_eq_false, if_false]
  rw [show (transferHeader payload).version = payload.version from hversion.symm]
  rfl

theorem Received.intoPayload_eq (hmanifest : IsManifest payload chunks finish)
    (hversion : payload.version = SEND_PAYLOAD_VERSION)
    (hcount : payload.entries.length < UInt32.size)
    (hreceived : Received chunks finish calls []) :
    ((ChunkedTransfer.new (transferHeader payload)).applyCalls calls).intoPayload =
      .ok payload := by
  have hstate := (hreceived.entries_perm hmanifest (transferHeader payload)).trans (by
    simpa using hreceived.slots)
  exact intoPayload_of_perm hmanifest hversion hcount (applyCalls_header _ _) hstate
    ((hreceived.isComplete_iff hmanifest hcount).mpr rfl)

/-- A prefix of a permutation of the manifest's calls misses exactly the chunks
that the remaining calls push. -/
theorem Received.of_perm {rest : List ChunkedCall}
    (hperm : (calls ++ rest).Perm (manifestCalls chunks finish)) :
    Received chunks finish calls (pushedSlots rest) := by
  constructor
  · rw [← pushedSlots_manifestCalls chunks finish]
    have hslots := hperm.filterMap ChunkedCall.slot?
    rwa [List.filterMap_append] at hslots
  · intro count hcount
    have hmem : ChunkedCall.markEnd count ∈ manifestCalls chunks finish :=
      hperm.subset (List.mem_append_left _ hcount)
    rcases List.mem_cons.mp hmem with hend | hchunk
    · exact ChunkedCall.markEnd.inj hend
    · obtain ⟨chunk, _, hcall⟩ := List.mem_map.mp hchunk
      exact ChunkedCall.noConfusion hcall

end Manifest

/-- Planning a payload and reassembling the plan, in any order of the calls, is
the identity.  The plan is the single envelope exactly when that one encodes;
the sums of sizes wrap alike on both sides. -/
theorem planTransferEnvelopes_roundTrip (serde : SerdeJson) («from» «to» : DeviceId)
    (payload : SendPayload) (hversion : payload.version = SEND_PAYLOAD_VERSION)
    (hcount : payload.entries.length < UInt32.size) :
    (planTransferEnvelopes serde «from» «to» payload = [.transfer payload] ↔
      (Transport.encode serde.messageToVec (FeatureMessage.new «from» «to» SEND_FEATURE_ID
        (serde.envelopeToVec (.transfer payload)))).isOk = true) ∧
    (planTransferEnvelopes serde «from» «to» payload = [.transfer payload] ∨
      ∃ (chunks : List SendTransferChunk) (finish : SendTransferEnd),
        planTransferEnvelopes serde «from» «to» payload =
          .transferHeader (transferHeader payload) :: chunks.map .transferChunk ++
            [.transferEnd finish] ∧
        chunks.map (fun chunk => chunk.chunkIndex.toNat) = List.range chunks.length ∧
        (∀ chunk ∈ chunks, chunk.entries ≠ []) ∧
        chunks.flatMap SendTransferChunk.entries = payload.entries ∧
        finish.chunkCount.toNat = chunks.length ∧
        ∀ calls : List ChunkedCall, calls.Perm (manifestCalls chunks finish) →
          (∀ done rest, calls = done ++ rest →
            (∃ chunk ∈ chunks, chunk.call ∈ rest) →
            ((ChunkedTransfer.new (transferHeader payload)).applyCalls done).isComplete =
              false) ∧
          ((ChunkedTransfer.new (transferHeader payload)).applyCalls calls).intoPayload =
            .ok payload) := by
  change (_ ↔ transferEnvelopeFits serde «from» «to» (.transfer payload) = true) ∧ _
  by_cases hfits : transferEnvelopeFits serde «from» «to» (.transfer payload) = true
  · have hplan := planTransferEnvelopes_of_fits serde «from» «to» payload hfits
    exact ⟨iff_of_true hplan hfits, Or.inl hplan⟩
  · obtain ⟨chunks, finish, hmanifest, hplan⟩ :=
      planTransferEnvelopes_of_not_fits serde «from» «to» payload hcount
        (Bool.eq_false_iff.mpr hfits)
    refine ⟨iff_of_false ?_ hfits, Or.inr ⟨chunks, finish, hplan, hmanifest.indices,
      hmanifest.nonempty, hmanifest.entries, hmanifest.finishCount, ?_⟩⟩
    · rw [hplan]
      simp [manifestEnvelopes]
    · intro calls hperm
      constructor
      · rintro done rest rfl ⟨chunk, _, hcall⟩
        apply Bool.eq_false_iff.mpr
        rw [ne_eq, (Received.of_perm hperm).isComplete_iff hmanifest hcount]
        intro hnil
        have hslot : chunk.slot ∈ pushedSlots rest :=
          List.mem_filterMap.mpr ⟨chunk.call, hcall, rfl⟩
        simp [hnil] at hslot
      · rw [← List.append_nil calls] at hperm
        exact (Received.of_perm hperm).intoPayload_eq hmanifest hversion hcount

/-- A payload too large for one message. -/
def manyFiles : SendPayload :=
  { version := SEND_PAYLOAD_VERSION
    transferId := 7
    senderName := "laptop"
    collectionHash := "abc123"
    entries := List.replicate 400000 { name := "doc.txt", size := 42 } }

theorem manyFiles_length : manyFiles.entries.length = 400000 := List.length_replicate

theorem manyFiles_roundTrip :
    ∃ (chunks : List SendTransferChunk) (finish : SendTransferEnd),
      planTransferEnvelopes compactSerde ⟨1⟩ ⟨2⟩ manyFiles =
        .transferHeader (transferHeader manyFiles) :: chunks.map .transferChunk ++
          [.transferEnd finish] ∧
      chunks.flatMap SendTransferChunk.entries = manyFiles.entries := by
  have hcount : manyFiles.entries.length < UInt32.size := by
    rw [manyFiles_length]
    decide
  obtain ⟨hsingle, hplan | ⟨chunks, finish, hplan, -, -, hentries, -⟩⟩ :=
    planTransferEnvelopes_roundTrip compactSerde ⟨1⟩ ⟨2⟩ manyFiles rfl hcount
  · have hfits : transferEnvelopeFits compactSerde ⟨1⟩ ⟨2⟩ (.transfer manyFiles) = false :=
      not_fits_of_many_entries _ _ manyFiles (manyFiles_length ▸ Nat.le_refl _)
    exact absurd (hsingle.mp hplan) (Bool.eq_false_iff.mp hfits)
  · exact ⟨chunks, finish, hplan, hentries⟩

end Failsafe.Send
