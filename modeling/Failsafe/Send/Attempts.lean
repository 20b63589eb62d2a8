import Failsafe.Send.ChunkTimer

/-!
Several attempts of one transfer: which payloads the receiver hands over when the envelopes
of all of them arrive in any order (`failsafe-send/src/feature.rs`, `manifest.rs`).
-/

namespace Failsafe.Send

open Failsafe.Core

theorem ChunkedTransfer.nodup_slots (state : ChunkedTransfer) : state.chunks.entries.Nodup :=
  List.Nodup.of_map Sigma.fst state.chunks.nodupKeys

section Planned

variable {payload : SendPayload} {chunks : List SendTransferChunk}
  {finish : SendTransferEnd} {state : ChunkedTransfer}

/-- Chunks of one plan that carry as many entries as the plan are all of its chunks. -/
theorem IsManifest.slots_perm (hmanifest : IsManifest payload chunks finish)
    {held : List ChunkSlot} (hnodup : held.Nodup)
    (hheld : held ⊆ chunks.map SendTransferChunk.slot)
    (hlength : Send.slotsLength held = payload.entries.length) :
    held.Perm (chunks.map SendTransferChunk.slot) := by
  obtain ⟨sorted, hsorted, hsublist⟩ := hnodup.subperm hheld
  obtain ⟨missing, hmissing⟩ := hsublist.exists_perm_append
  have hsplit : (chunks.map SendTransferChunk.slot).Perm (held ++ missing) :=
    hmissing.trans (hsorted.append_right missing)
  have hnone : Send.slotsLength missing = 0 := by
    have htotal := hmanifest.slotsLength
    rw [slotsLength_perm hsplit, slotsLength_append, hlength] at htotal
    omega
  have hnonempty : ∀ slot ∈ missing, slot.2 ≠ [] := by
    intro slot hslot
    have hplanned := hsplit.mem_iff.mpr (List.mem_append_right held hslot)
    obtain ⟨chunk, hchunk, rfl⟩ := List.mem_map.mp hplanned
    exact hmanifest.nonempty chunk hchunk
  rw [(slotsLength_eq_zero_iff hnonempty).mp hnone, List.append_nil] at hsplit
  exact hsplit.symm

theorem intoPayload_of_planned (hmanifest : IsManifest payload chunks finish)
    (hversion : payload.version = SEND_PAYLOAD_VERSION)
    (hcount : payload.entries.length < UInt32.size)
    (hheader : state.header = transferHeader payload)
    (hheld : state.chunks.entries ⊆ chunks.map SendTransferChunk.slot)
    (hcomplete : state.isComplete = true) : state.intoPayload = .ok payload := by
  have hentryCount : (transferHeader payload).entryCount.toNat = payload.entries.length :=
    toNat_u32TryFromOrMax hcount
  have hlength : slotsLength state.chunks.entries = payload.entries.length := by
    simp only [ChunkedTransfer.isComplete, Bool.and_eq_true, beq_iff_eq, hheader,
      hentryCount] at hcomplete
    exact hcomplete.1
  have hperm := hmanifest.slots_perm state.nodup_slots hheld hlength
  exact intoPayload_of_perm hmanifest hversion hcount hheader hperm hcomplete

end Planned

/-- Why a handler runs: it was there, or the manifest that is finalized is complete and in
order. -/
theorem Inbound.tryFinalize_spawned {inbound : Inbound} {«from» : DeviceId}
    {transferId : Uuid} {handler : DeviceId × SendPayload}
    (h : handler ∈ (inbound.tryFinalizeChunkedTransfer «from» transferId).2.spawnedHandlers) :
    handler ∈ inbound.spawnedHandlers ∨
      ∃ pending, inbound.pendingChunkedTransfers transferId = some pending ∧
        pending.isComplete = true ∧ pending.intoPayload = .ok handler.2 := by
  rw [tryFinalizeChunkedTransfer] at h
  cases hpending : inbound.pendingChunkedTransfers transferId with
  | none =>
      rw [hpending] at h
      exact .inl h
  | some pending =>
      simp only [hpending] at h
      cases hcomplete : pending.isComplete with
      | false =>
          rw [hcomplete] at h
          exact .inl h
      | true =>
          cases hinto : pending.intoPayload with
          | error error =>
              simp only [hcomplete, hinto, if_true] at h
              exact .inl h
          | ok payload =>
              simp only [hcomplete, hinto, if_true, spawnedHandlers_emit_handler,
                spawnedHandlers_setPending, List.mem_append, List.mem_singleton] at h
              rcases h with hold | rfl
              · exact .inl hold
              · exact .inr ⟨pending, rfl, hcomplete, hinto⟩

namespace ReceiverInput

def envelope? : ReceiverInput → Option SendEnvelope
  | .receive _ envelope => some envelope
  | _ => none

theorem onPending_cases {transferId : Uuid} {input : ReceiverInput}
    {earlier : Option ChunkedTransfer} {pending : ChunkedTransfer}
    (h : input.onPending transferId earlier = some pending) :
    earlier = some pending ∨
      (∃ header, input.envelope? = some (.transferHeader header) ∧
        header.transferId = transferId ∧ pending = ChunkedTransfer.new header) ∨
      (∃ (chunk : SendTransferChunk) (state : ChunkedTransfer),
        input.envelope? = some (.transferChunk chunk) ∧ earlier = some state ∧
          pending = state.pushChunk chunk.chunkIndex chunk.entries) ∨
      ∃ (finish : SendTransferEnd) (state : ChunkedTransfer), earlier = some state ∧
        pending = state.markEnd finish.chunkCount := by
  cases input with
  | receive «from» envelope =>
      cases envelope with
      | transferHeader header =>
          rw [onPending] at h
          split at h
          · next hid => exact .inr (.inl ⟨header, rfl, hid, (Option.some.inj h).symm⟩)
          · exact .inl h
      | transferChunk chunk =>
          by_cases hid : chunk.transferId = transferId
          · simp only [onPending, SendEnvelope.callOn, hid, if_true] at h
            obtain ⟨state, hstate, rfl⟩ := Option.map_eq_some_iff.mp h
            exact .inr (.inr (.inl ⟨chunk, state, rfl, hstate, rfl⟩))
          · simp only [onPending, SendEnvelope.callOn, hid, if_false] at h
            exact .inl h
      | transferEnd finish =>
          by_cases hid : finish.transferId = transferId
          · simp only [onPending, SendEnvelope.callOn, hid, if_true] at h
            obtain ⟨state, hstate, rfl⟩ := Option.map_eq_some_iff.mp h
            exact .inr (.inr (.inr ⟨finish, state, hstate, rfl⟩))
          · simp only [onPending, SendEnvelope.callOn, hid, if_false] at h
            exact .inl h
      | transfer payload => exact .inl h
      | ack ack => exact .inl h
      | progress progress => exact .inl h
  | finalize finished =>
      rw [onPending] at h
      split at h
      · exact .inl (Option.filter_eq_some_iff.mp h).1
      · exact .inl h
  | elapse seconds => exact .inl h
  | timeout timer =>
      rw [onPending] at h
      split at h
      · cases h
      · exact .inl h

end ReceiverInput

namespace Receiver

theorem receive_spawned {state : Receiver} {«from» : DeviceId} {envelope : SendEnvelope}
    {handler : DeviceId × SendPayload}
    (h : handler ∈ (state.receive «from» envelope).inbound.spawnedHandlers) :
    handler ∈ state.inbound.spawnedHandlers ∨ envelope = .transfer handler.2 := by
  cases envelope with
  | transfer payload =>
      have hspawned : handler ∈ state.inbound.spawnedHandlers ++ [(«from», payload)] := by
        simpa [receive, Inbound.handleEnvelope] using h
      rcases List.mem_append.mp hspawned with hold | hnew
      · exact .inl hold
      · rw [List.mem_singleton.mp hnew]
        exact .inr rfl
  | transferHeader header => exact .inl h
  | transferChunk chunk =>
      rw [receive] at h
      split at h <;> exact .inl h
  | transferEnd finish =>
      rw [receive] at h
      split at h <;> exact .inl h
  | ack ack =>
      left
      simpa [receive, Inbound.handleEnvelope, Inbound.handleAck, Inbound.emit,
        Inbound.spawnedHandlers] using h
  | progress progress =>
      left
      simpa [receive, Inbound.handleEnvelope, Inbound.emit, Inbound.spawnedHandlers] using h

theorem finalize_spawned {state : Receiver} {finishing : Finishing}
    {handler : DeviceId × SendPayload}
    (h : handler ∈ (state.finalize finishing).inbound.spawnedHandlers) :
    handler ∈ (state.inbound.tryFinalizeChunkedTransfer finishing.from
      finishing.transferId).2.spawnedHandlers := by
  rw [finalize] at h
  split at h
  · next hfinal =>
      rw [hfinal]
      split at h
      · simpa using h
      · exact h
  · next hfinal =>
      rw [hfinal]
      exact h

theorem step_spawned {state next : Receiver} {input : ReceiverInput}
    (h : state.step input = some next) {handler : DeviceId × SendPayload}
    (hhandler : handler ∈ next.inbound.spawnedHandlers) :
    handler ∈ state.inbound.spawnedHandlers ∨
      input.envelope? = some (.transfer handler.2) ∨
      ∃ transferId pending, input = .finalize transferId ∧
        state.inbound.pendingChunkedTransfers transferId = some pending ∧
        pending.isComplete = true ∧ pending.intoPayload = .ok handler.2 := by
  obtain ⟨middle, hact, rfl⟩ := Option.map_eq_some_iff.mp h
  have hhandler : handler ∈ middle.inbound.spawnedHandlers := hhandler
  cases input with
  | receive «from» envelope =>
      obtain ⟨-, hmiddle⟩ := Option.ite_none_right_eq_some.mp hact
      rw [← Option.some.inj hmiddle] at hhandler
      rcases receive_spawned hhandler with hold | rfl
      · exact .inl hold
      · exact .inr (.inl rfl)
  | finalize transferId =>
      obtain ⟨finishing, -, rfl, rfl⟩ := act_finalize hact
      rcases Inbound.tryFinalize_spawned (finalize_spawned hhandler) with hold | hfinal
      · exact .inl hold
      · exact .inr (.inr ⟨_, hfinal.choose, rfl, hfinal.choose_spec⟩)
  | elapse seconds =>
      cases hact
      exact .inl hhandler
  | timeout timer =>
      obtain ⟨-, hmiddle⟩ := Option.ite_none_right_eq_some.mp hact
      rw [← Option.some.inj hmiddle] at hhandler
      exact .inl hhandler

theorem pending_received {inputs : List ReceiverInput} {state : Receiver}
    (hrun : run inputs = some state) {transferId : Uuid} {pending : ChunkedTransfer}
    (hpending : state.inbound.pendingChunkedTransfers transferId = some pending) :
    .transferHeader pending.header ∈ inputs.filterMap ReceiverInput.envelope? ∧
      ∀ slot ∈ pending.chunks.entries, ∃ chunk : SendTransferChunk,
        .transferChunk chunk ∈ inputs.filterMap ReceiverInput.envelope? ∧ chunk.slot = slot := by
  rw [run_pending hrun] at hpending
  clear hrun state
  induction inputs using List.reverseRecOn generalizing pending with
  | nil => cases hpending
  | append_singleton inputs input ih =>
      rw [manifestAfter, List.foldl_append] at hpending
      change input.onPending transferId (manifestAfter transferId inputs) = some pending
        at hpending
      rw [List.filterMap_append]
      rcases ReceiverInput.onPending_cases hpending with
        hold | ⟨header, henvelope, -, rfl⟩ | ⟨chunk, earlier, henvelope, hold, rfl⟩ |
          ⟨finish, earlier, hold, rfl⟩
      · obtain ⟨hheader, hchunks⟩ := ih hold
        refine ⟨List.mem_append_left _ hheader, fun slot hslot => ?_⟩
        obtain ⟨chunk, hchunk, hslot⟩ := hchunks slot hslot
        exact ⟨chunk, List.mem_append_left _ hchunk, hslot⟩
      · refine ⟨List.mem_append_right _ (by simp [henvelope, ChunkedTransfer.new]), ?_⟩
        simp [ChunkedTransfer.new]
      · obtain ⟨hheader, hchunks⟩ := ih hold
        refine ⟨List.mem_append_left _ hheader, fun slot hslot => ?_⟩
        have hslot : slot ∈ ⟨chunk.chunkIndex, chunk.entries⟩ ::
            earlier.chunks.entries.kerase chunk.chunkIndex := hslot
        rcases List.mem_cons.mp hslot with rfl | hslot
        · exact ⟨chunk, List.mem_append_right _ (by simp [henvelope]), rfl⟩
        · obtain ⟨chunk', hchunk', hslot⟩ :=
            hchunks slot ((List.kerase_sublist _ _).subset hslot)
          exact ⟨chunk', List.mem_append_left _ hchunk', hslot⟩
      · obtain ⟨hheader, hchunks⟩ := ih hold
        refine ⟨List.mem_append_left _ hheader, fun slot hslot => ?_⟩
        obtain ⟨chunk, hchunk, hslot⟩ := hchunks slot hslot
        exact ⟨chunk, List.mem_append_left _ hchunk, hslot⟩

theorem exists_run_deliver («from» : DeviceId) (envelopes : List SendEnvelope) :
    ∃ inputs state, inputs.filterMap ReceiverInput.envelope? = envelopes ∧
      run inputs = some state ∧ state.finishing = none ∧
      state.inbound = Inbound.empty.deliver «from» envelopes := by
  induction envelopes using List.reverseRecOn with
  | nil => exact ⟨[], start, rfl, rfl, rfl, rfl⟩
  | append_singleton envelopes envelope ih =>
      obtain ⟨inputs, state, hreceived, hrun, hidle, hinbound⟩ := ih
      have hhandled := state.handleEnvelope_eq «from» envelope hidle
      let received : Receiver :=
        { state.receive «from» envelope with
          received := (state.receive «from» envelope).received + 1 }
      have hreceive : run (inputs ++ [.receive «from» envelope]) = some received := by
        rw [run_snoc, hrun]
        simp [step, act, hidle, received]
      rw [Inbound.deliver_append, ← hinbound, Inbound.deliver_cons, Inbound.deliver_nil]
      cases hfinishing : (state.receive «from» envelope).finishing with
      | none =>
          rw [hfinishing] at hhandled
          refine ⟨_, _, ?_, hreceive, hfinishing, hhandled⟩
          simp [hreceived, ReceiverInput.envelope?]
      | some finishing =>
          rw [hfinishing] at hhandled
          let finished := received.finalize finishing
          have hfinish : run (inputs ++ [.receive «from» envelope] ++
              [.finalize finishing.transferId]) =
                some { finished with received := finished.received + 1 } := by
            rw [run_snoc, hreceive]
            simp [step, act, received, finished, hfinishing]
          refine ⟨_, _, ?_, hfinish, finalize_finishing received finishing, ?_⟩
          · simp [hreceived, ReceiverInput.envelope?]
          · rw [← hhandled]
            simp only [finished, finalize_inbound, received]

end Receiver

theorem mem_plan_transfer {serde : SerdeJson} {«from» «to» : DeviceId}
    {payload payload' : SendPayload}
    (h : .transfer payload' ∈ planTransferEnvelopes serde «from» «to» payload) :
    payload' = payload := by
  rw [planTransferEnvelopes] at h
  split at h
  · exact SendEnvelope.transfer.inj (List.mem_singleton.mp h)
  · have hchunk := chunkEnvelopes_chunk (transferEnvelopeFits serde «from» «to»)
      payload.transferId payload.entries 0 0 (.transfer payload')
    simp only [List.cons_append, List.mem_cons, List.mem_append, List.not_mem_nil, or_false,
      reduceCtorEq, false_or] at h
    obtain ⟨chunk, hchunk⟩ := hchunk h
    cases hchunk

section Attempts

variable (serde : SerdeJson) («from» «to» : DeviceId)

/-- A pending transfer whose header and chunks one attempt has planned. -/
structure OfAttempt (payload : SendPayload) (pending : ChunkedTransfer) : Prop where
  count : payload.entries.length < UInt32.size
  header : .transferHeader pending.header ∈ planTransferEnvelopes serde «from» «to» payload
  chunks : ∀ slot ∈ pending.chunks.entries, ∃ chunk : SendTransferChunk,
    .transferChunk chunk ∈ planTransferEnvelopes serde «from» «to» payload ∧ chunk.slot = slot

variable {serde «from» «to»}

theorem OfAttempt.intoPayload {payload : SendPayload} {pending : ChunkedTransfer}
    (h : OfAttempt serde «from» «to» payload pending)
    (hversion : payload.version = SEND_PAYLOAD_VERSION)
    (hcomplete : pending.isComplete = true) : pending.intoPayload = .ok payload := by
  have hfits : transferEnvelopeFits serde «from» «to» (.transfer payload) = false := by
    rw [Bool.eq_false_iff]
    intro hfits
    have hheader := h.header
    rw [planTransferEnvelopes_of_fits serde «from» «to» payload hfits] at hheader
    cases List.mem_singleton.mp hheader
  obtain ⟨chunks, finish, hmanifest, hplan⟩ :=
    planTransferEnvelopes_of_not_fits serde «from» «to» payload h.count hfits
  obtain ⟨hcount, hheader, hchunks⟩ := h
  simp only [hplan, manifestEnvelopes, List.cons_append, List.mem_cons, List.mem_append,
    List.mem_map, SendEnvelope.transferHeader.injEq, SendEnvelope.transferChunk.injEq,
    List.not_mem_nil, or_false, reduceCtorEq, and_false, exists_false, false_or,
    exists_eq_right] at hheader hchunks
  refine intoPayload_of_planned hmanifest hversion hcount hheader ?_ hcomplete
  intro slot hslot
  obtain ⟨chunk, hchunk, rfl⟩ := hchunks slot hslot
  exact List.mem_map_of_mem hchunk

/-- Whenever a transfer is complete and its sizes sum up, one attempt has planned all of it. -/
def FinalizedWhole (serde : SerdeJson) («from» «to» : DeviceId) (payloads : List SendPayload)
    (inputs : List ReceiverInput) : Prop :=
  ∀ before transferId after state pending, inputs = before ++ .finalize transferId :: after →
    Receiver.run before = some state →
    state.inbound.pendingChunkedTransfers transferId = some pending →
    pending.isComplete = true → bytesTotal pending.assembledEntries = pending.header.bytesTotal →
    ∃ payload ∈ payloads, OfAttempt serde «from» «to» payload pending

theorem intoPayload_bytesTotal {pending : ChunkedTransfer} {payload : SendPayload}
    (h : pending.intoPayload = .ok payload) :
    bytesTotal pending.assembledEntries = pending.header.bytesTotal := by
  rw [ChunkedTransfer.intoPayload] at h
  split at h
  · dsimp only at h
    split at h
    · cases h
    · split at h
      · cases h
      · next hbytes => exact not_not.mp hbytes
  · cases h

/-- The payload that the receiver hands over is the payload of an attempt. -/
theorem attempts_apart {payloads : List SendPayload}
    (hversion : ∀ payload ∈ payloads, payload.version = SEND_PAYLOAD_VERSION)
    {inputs : List ReceiverInput} {state : Receiver} (hrun : Receiver.run inputs = some state)
    (hsent : (inputs.filterMap ReceiverInput.envelope?).Subperm
      (payloads.flatMap fun payload => planTransferEnvelopes serde «from» «to» payload))
    (hwhole : FinalizedWhole serde «from» «to» payloads inputs) :
    ∀ handler ∈ state.inbound.spawnedHandlers, handler.2 ∈ payloads := by
  have hsubset := hsent.subset
  clear hsent
  induction inputs using List.reverseRecOn generalizing state with
  | nil =>
      cases hrun
      simp [Receiver.start, Inbound.empty, Inbound.spawnedHandlers]
  | append_singleton inputs input ih =>
      rw [Receiver.run_snoc] at hrun
      obtain ⟨middle, hmiddle, hstep⟩ := Option.bind_eq_some_iff.mp hrun
      intro handler hhandler
      rcases Receiver.step_spawned hstep hhandler with hold | htransfer | hfinal
      · refine ih hmiddle ?_ ?_ handler hold
        · rintro before finished after state pending rfl
          exact hwhole before finished (after ++ [input]) state pending (by simp)
        · exact fun envelope henvelope => hsubset (by
            rw [List.filterMap_append]
            exact List.mem_append_left _ henvelope)
      · have hplanned : SendEnvelope.transfer handler.2 ∈ payloads.flatMap fun payload =>
            planTransferEnvelopes serde «from» «to» payload :=
          hsubset (List.mem_filterMap.mpr ⟨input, by simp, htransfer⟩)
        obtain ⟨payload, hpayload, hplan⟩ := List.mem_flatMap.mp hplanned
        rw [mem_plan_transfer hplan]
        exact hpayload
      · obtain ⟨finished, pending, rfl, hpending, hcomplete, hinto⟩ := hfinal
        obtain ⟨payload, hpayload, hof⟩ := hwhole inputs finished [] middle pending rfl hmiddle
          hpending hcomplete (intoPayload_bytesTotal hinto)
        have hsame := hof.intoPayload (hversion payload hpayload) hcomplete
        rw [Except.ok.inj (hinto.symm.trans hsame)]
        exact hpayload

theorem finalizedWhole_of_one {payloads : List SendPayload} {payload : SendPayload}
    (hpayload : payload ∈ payloads) (hcount : payload.entries.length < UInt32.size)
    {inputs : List ReceiverInput}
    (hsent : inputs.filterMap ReceiverInput.envelope? ⊆
      planTransferEnvelopes serde «from» «to» payload) :
    FinalizedWhole serde «from» «to» payloads inputs := by
  rintro before transferId after state pending rfl hrun hpending - -
  obtain ⟨hheader, hchunks⟩ := Receiver.pending_received hrun hpending
  have hplanned : before.filterMap ReceiverInput.envelope? ⊆
      planTransferEnvelopes serde «from» «to» payload := by
    intro envelope henvelope
    apply hsent
    rw [List.filterMap_append]
    exact List.mem_append_left _ henvelope
  refine ⟨payload, hpayload, hcount, hplanned hheader, fun slot hslot => ?_⟩
  obtain ⟨chunk, hchunk, hslot⟩ := hchunks slot hslot
  exact ⟨chunk, hplanned hchunk, hslot⟩

end Attempts

/-- The files of `manyFiles` after a change of names, for a second attempt. -/
def renamedFiles : SendPayload :=
  { manyFiles with
    collectionHash := "def456"
    entries := List.replicate 400000 { name := "new.txt", size := 42 } }

/-- What the receiver makes of the first attempt's chunks under the second one's header. -/
def mixedFiles : SendPayload :=
  { renamedFiles with entries := manyFiles.entries }

theorem renamedFiles_length : renamedFiles.entries.length = 400000 := List.length_replicate

theorem transferHeader_mixedFiles : transferHeader mixedFiles = transferHeader renamedFiles := by
  have hbytes : bytesTotal manyFiles.entries = bytesTotal renamedFiles.entries := by
    simp only [bytesTotal, manyFiles, renamedFiles, List.map_replicate]
  have hlength : manyFiles.entries.length = renamedFiles.entries.length :=
    manyFiles_length.trans renamedFiles_length.symm
  simp only [transferHeader, mixedFiles, hbytes, hlength]

theorem mixedFiles_of_no_attempt : mixedFiles ∉ [manyFiles, renamedFiles] := by
  rw [List.mem_pair]
  rintro (hmany | hrenamed)
  · have hhash : "def456" = "abc123" := congrArg SendPayload.collectionHash hmany
    exact absurd hhash (by decide)
  · have hentries : mixedFiles.entries = renamedFiles.entries :=
      congrArg SendPayload.entries hrenamed
    have hold : { name := "doc.txt", size := 42 } ∈ mixedFiles.entries :=
      List.mem_replicate.mpr ⟨by decide, rfl⟩
    rw [hentries] at hold
    have hname := congrArg FileEntry.name (List.eq_of_mem_replicate hold)
    exact absurd hname (by decide)

/-- Both attempts are planned, and the first one arrives. -/
theorem manyFiles_apart :
    ∃ inputs state, Receiver.run inputs = some state ∧
      inputs.filterMap ReceiverInput.envelope? =
        planTransferEnvelopes compactSerde ⟨1⟩ ⟨2⟩ manyFiles ∧
      ∀ handler ∈ state.inbound.spawnedHandlers, handler.2 ∈ [manyFiles, renamedFiles] := by
  obtain ⟨inputs, state, hreceived, hrun, -, -⟩ := Receiver.exists_run_deliver ⟨1⟩
    (planTransferEnvelopes compactSerde ⟨1⟩ ⟨2⟩ manyFiles)
  have hversion : ∀ payload ∈ [manyFiles, renamedFiles],
      payload.version = SEND_PAYLOAD_VERSION := by
    intro payload hpayload
    rcases List.mem_pair.mp hpayload with rfl | rfl <;> rfl
  have hsent : (inputs.filterMap ReceiverInput.envelope?).Subperm
      ([manyFiles, renamedFiles].flatMap fun payload =>
        planTransferEnvelopes compactSerde ⟨1⟩ ⟨2⟩ payload) := by
    rw [hreceived, List.flatMap_cons]
    exact (List.sublist_append_left _ _).subperm
  have hwhole : FinalizedWhole compactSerde ⟨1⟩ ⟨2⟩ [manyFiles, renamedFiles] inputs :=
    finalizedWhole_of_one (List.mem_cons_self) (manyFiles_length ▸ by decide)
      (fun _ henvelope => hreceived ▸ henvelope)
  exact ⟨inputs, state, hrun, hreceived, attempts_apart hversion hrun hsent hwhole⟩

/-- The second attempt's header arrives before the first one's chunks. -/
theorem attempts_mixed :
    ∃ (payloads : List SendPayload) (inputs : List ReceiverInput) (state : Receiver),
      (∀ payload ∈ payloads, payload.version = SEND_PAYLOAD_VERSION ∧
        payload.transferId = manyFiles.transferId) ∧
      (inputs.filterMap ReceiverInput.envelope?).Subperm
        (payloads.flatMap fun payload => planTransferEnvelopes compactSerde ⟨1⟩ ⟨2⟩ payload) ∧
      Receiver.run inputs = some state ∧
      ∃ handler ∈ state.inbound.spawnedHandlers, handler.2 ∉ payloads := by
  obtain ⟨chunks, finish, hmany, hplanMany⟩ := manyFiles_chunked ⟨1⟩ ⟨2⟩
  obtain ⟨chunks', finish', -, hplanRenamed⟩ :=
    planTransferEnvelopes_of_not_fits compactSerde ⟨1⟩ ⟨2⟩ renamedFiles
      (renamedFiles_length ▸ by decide)
      (not_fits_of_many_entries _ _ renamedFiles (renamedFiles_length ▸ Nat.le_refl _))
  have hmixed : IsManifest mixedFiles chunks finish :=
    ⟨hmany.transferId, hmany.indices, hmany.nonempty, hmany.entries, hmany.finishId,
      hmany.finishCount⟩
  have hcount : mixedFiles.entries.length < UInt32.size :=
    show manyFiles.entries.length < UInt32.size from manyFiles_length ▸ by decide
  have hfresh : Inbound.empty.pendingChunkedTransfers mixedFiles.transferId = none := rfl
  have horder : ([] ++ SendEnvelope.transferHeader (transferHeader mixedFiles) ::
      (chunks.map SendEnvelope.transferChunk ++ [SendEnvelope.transferEnd finish])).Perm
        (manifestEnvelopes mixedFiles chunks finish) := List.Perm.refl _
  have hdelivered := deliver_around_header ⟨1⟩ hmixed rfl hcount hfresh horder
  obtain ⟨inputs, state, hreceived, hrun, -, hinbound⟩ := Receiver.exists_run_deliver ⟨1⟩
    ([] ++ SendEnvelope.transferHeader (transferHeader mixedFiles) ::
      (chunks.map SendEnvelope.transferChunk ++ [.transferEnd finish]))
  rw [← hinbound, if_pos ⟨rfl, by simp⟩] at hdelivered
  refine ⟨[manyFiles, renamedFiles], inputs, state, ?_, ?_, hrun, (⟨1⟩, mixedFiles), ?_,
    mixedFiles_of_no_attempt⟩
  · intro payload hpayload
    rcases List.mem_pair.mp hpayload with rfl | rfl <;> exact ⟨rfl, rfl⟩
  · rw [hreceived, transferHeader_mixedFiles, List.flatMap_cons, List.flatMap_cons, hplanMany,
      hplanRenamed, List.flatMap_nil, List.append_nil]
    have hbody : (chunks.map SendEnvelope.transferChunk ++
        [SendEnvelope.transferEnd finish]).Subperm
        (manifestEnvelopes manyFiles chunks finish) := (List.sublist_cons_self _ _).subperm
    have hheader : [SendEnvelope.transferHeader (transferHeader renamedFiles)].Subperm
        (manifestEnvelopes renamedFiles chunks' finish') :=
      List.singleton_subperm_iff.mpr List.mem_cons_self
    exact (List.perm_append_singleton _ _).symm.subperm.trans (hbody.append hheader)
  · rw [hdelivered]
    simp

end Failsafe.Send
