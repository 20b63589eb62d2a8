import Failsafe.Send.Reassembly

/-!
Inbound messages of the file-send feature: `SendFeature::handle_message` and
the chunked transfers it keeps (`failsafe-send/src/feature.rs`).
-/

namespace Failsafe.Send

open Failsafe.Core

/-- What handling a message makes the daemon do besides updating the pending
chunked transfers. -/
inductive SendEffect where
  | spawnTransferHandler («from» : DeviceId) (payload : SendPayload)
  | spawnIncompleteChunkTimeout («from» : DeviceId) (transferId : Uuid)
  | complete (transferId : Uuid) (result : Except String Unit)
  | reportProgress (progress : SendProgress)

/-- The pending chunked transfers and the effects so far, oldest first. -/
structure Inbound where
  pendingChunkedTransfers : Uuid → Option ChunkedTransfer
  effects : List SendEffect

namespace Inbound

def setPending (inbound : Inbound) (transferId : Uuid) (state : Option ChunkedTransfer) :
    Inbound :=
  { inbound with
    pendingChunkedTransfers :=
      Function.update inbound.pendingChunkedTransfers transferId state }

def emit (inbound : Inbound) (effect : SendEffect) : Inbound :=
  { inbound with effects := inbound.effects ++ [effect] }

def tryFinalizeChunkedTransfer («from» : DeviceId) (transferId : Uuid)
    (inbound : Inbound) : Except FeatureError Bool × Inbound :=
  match inbound.pendingChunkedTransfers transferId with
  | none => (.ok false, inbound)
  | some state =>
      if state.isComplete then
        let inbound := inbound.setPending transferId none
        match state.intoPayload with
        | .error error => (.error (.failed SEND_FEATURE_ID error), inbound)
        | .ok payload => (.ok true, inbound.emit (.spawnTransferHandler «from» payload))
      else
        (.ok false, inbound)

def handleAck (ack : SendAck) (inbound : Inbound) : Inbound :=
  let result : Except String Unit :=
    if ack.ok then .ok () else .error (ack.error.getD "receiver reported failure")
  inbound.emit (.complete ack.transferId result)

def handleEnvelope («from» : DeviceId) (envelope : SendEnvelope) (inbound : Inbound) :
    Except FeatureError Unit × Inbound :=
  match envelope with
  | .transfer payload => (.ok (), inbound.emit (.spawnTransferHandler «from» payload))
  | .transferHeader header =>
      (.ok (), inbound.setPending header.transferId (some (ChunkedTransfer.new header)))
  | .transferChunk chunk =>
      match inbound.pendingChunkedTransfers chunk.transferId with
      | none =>
          (.error (.failed SEND_FEATURE_ID
            s!"received transfer chunk for unknown transfer {Uuid.toText chunk.transferId}"),
            inbound)
      | some state =>
          let inbound := inbound.setPending chunk.transferId
            (some (state.pushChunk chunk.chunkIndex chunk.entries))
          match tryFinalizeChunkedTransfer «from» chunk.transferId inbound with
          | (.error error, inbound) => (.error error, inbound)
          | (.ok _, inbound) => (.ok (), inbound)
  | .transferEnd finish =>
      match inbound.pendingChunkedTransfers finish.transferId with
      | none =>
          (.error (.failed SEND_FEATURE_ID
            s!"received transfer end for unknown transfer {Uuid.toText finish.transferId}"),
            inbound)
      | some state =>
          let inbound := inbound.setPending finish.transferId
            (some (state.markEnd finish.chunkCount))
          match tryFinalizeChunkedTransfer «from» finish.transferId inbound with
          | (.error error, inbound) => (.error error, inbound)
          | (.ok true, inbound) => (.ok (), inbound)
          -- The end can arrive before the last chunks: wait for them.
          | (.ok false, inbound) =>
              (.ok (), inbound.emit (.spawnIncompleteChunkTimeout «from» finish.transferId))
  | .ack ack => (.ok (), inbound.handleAck ack)
  | .progress progress => (.ok (), inbound.emit (.reportProgress progress))

/-- `SendFeature::handle_message`, over any decoder of the message payload. -/
def handleMessage {ε : Type} (decodeEnvelope : ε → Except FeatureError SendEnvelope)
    (message : FeatureMessage ε) (inbound : Inbound) :
    Except FeatureError Unit × Inbound :=
  match decodeEnvelope message.payload with
  | .error error => (.error error, inbound)
  | .ok envelope => inbound.handleEnvelope message.from envelope

/-- The state after a sequence of messages from one device.  The dispatch loop
of the daemon only logs an error of `handle_message` and goes on. -/
def deliver («from» : DeviceId) (inbound : Inbound) (envelopes : List SendEnvelope) :
    Inbound :=
  envelopes.foldl (fun inbound envelope => (inbound.handleEnvelope «from» envelope).2) inbound

def spawnedHandlers (inbound : Inbound) : List (DeviceId × SendPayload) :=
  inbound.effects.filterMap fun
    | .spawnTransferHandler «from» payload => some («from», payload)
    | _ => none

@[simp] theorem spawnedHandlers_setPending (inbound : Inbound) (transferId : Uuid)
    (state : Option ChunkedTransfer) :
    (inbound.setPending transferId state).spawnedHandlers = inbound.spawnedHandlers := rfl

@[simp] theorem spawnedHandlers_emit_handler (inbound : Inbound) («from» : DeviceId)
    (payload : SendPayload) :
    (inbound.emit (.spawnTransferHandler «from» payload)).spawnedHandlers =
      inbound.spawnedHandlers ++ [(«from», payload)] := by
  simp [spawnedHandlers, emit]

@[simp] theorem spawnedHandlers_emit_timeout (inbound : Inbound) («from» : DeviceId)
    (transferId : Uuid) :
    (inbound.emit (.spawnIncompleteChunkTimeout «from» transferId)).spawnedHandlers =
      inbound.spawnedHandlers := by
  simp [spawnedHandlers, emit]

@[simp] theorem pending_setPending_self (inbound : Inbound) (transferId : Uuid)
    (state : Option ChunkedTransfer) :
    (inbound.setPending transferId state).pendingChunkedTransfers transferId = state := by
  simp [setPending]

@[simp] theorem pending_emit (inbound : Inbound) (effect : SendEffect) :
    (inbound.emit effect).pendingChunkedTransfers = inbound.pendingChunkedTransfers := rfl

@[simp] theorem deliver_nil («from» : DeviceId) (inbound : Inbound) :
    inbound.deliver «from» [] = inbound := rfl

@[simp] theorem deliver_cons («from» : DeviceId) (inbound : Inbound)
    (envelope : SendEnvelope) (envelopes : List SendEnvelope) :
    inbound.deliver «from» (envelope :: envelopes) =
      (inbound.handleEnvelope «from» envelope).2.deliver «from» envelopes := rfl

theorem deliver_append («from» : DeviceId) (inbound : Inbound)
    (left right : List SendEnvelope) :
    inbound.deliver «from» (left ++ right) =
      (inbound.deliver «from» left).deliver «from» right :=
  List.foldl_append

end Inbound

/-- The call on the pending transfer that an envelope of a manifest stands for. -/
def SendEnvelope.call? : SendEnvelope → Option ChunkedCall
  | .transferChunk chunk => some chunk.call
  | .transferEnd finish => some finish.call
  | _ => none

/-- The chunks that a sequence of envelopes carries. -/
def envelopeSlots (envelopes : List SendEnvelope) : List ChunkSlot :=
  pushedSlots (envelopes.filterMap SendEnvelope.call?)

/-- A chunk or an end of the manifest, as opposed to its header. -/
inductive IsBody (chunks : List SendTransferChunk) (finish : SendTransferEnd) :
    SendEnvelope → Prop
  | chunk {chunk : SendTransferChunk} : chunk ∈ chunks → IsBody chunks finish (.transferChunk chunk)
  | finish : IsBody chunks finish (.transferEnd finish)

section Delivery

variable {payload : SendPayload} {chunks : List SendTransferChunk}
  {finish : SendTransferEnd} {«from» : DeviceId}

open Inbound

/-- Without a pending transfer, a chunk or an end only makes `handle_message`
fail: nothing is remembered of it. -/
theorem handleEnvelope_unknown (hmanifest : IsManifest payload chunks finish)
    {inbound : Inbound} (hpending : inbound.pendingChunkedTransfers payload.transferId = none)
    {envelope : SendEnvelope} (hbody : IsBody chunks finish envelope) :
    (inbound.handleEnvelope «from» envelope).2 = inbound := by
  cases hbody with
  | @chunk chunk hchunk =>
      simp [handleEnvelope, hmanifest.transferId chunk hchunk, hpending]
  | finish => simp [handleEnvelope, hmanifest.finishId, hpending]

theorem deliver_unknown (hmanifest : IsManifest payload chunks finish)
    {inbound : Inbound} (hpending : inbound.pendingChunkedTransfers payload.transferId = none)
    {envelopes : List SendEnvelope} (hbody : ∀ e ∈ envelopes, IsBody chunks finish e) :
    inbound.deliver «from» envelopes = inbound := by
  induction envelopes with
  | nil => rfl
  | cons envelope envelopes ih =>
      rw [deliver_cons, handleEnvelope_unknown hmanifest hpending (hbody envelope (by simp))]
      exact ih fun e he => hbody e (by simp [he])

theorem handleEnvelope_pending («from» : DeviceId) (hmanifest : IsManifest payload chunks finish)
    {inbound : Inbound} {state : ChunkedTransfer}
    (hpending : inbound.pendingChunkedTransfers payload.transferId = some state)
    {envelope : SendEnvelope} (hbody : IsBody chunks finish envelope) :
    ∃ call, envelope.call? = some call ∧
      ((state.applyCall call).isComplete = false →
        (inbound.handleEnvelope «from» envelope).2.spawnedHandlers =
          inbound.spawnedHandlers ∧
        (inbound.handleEnvelope «from» envelope).2.pendingChunkedTransfers
          payload.transferId = some (state.applyCall call)) ∧
      ((state.applyCall call).isComplete = true →
        (state.applyCall call).intoPayload = .ok payload →
        (inbound.handleEnvelope «from» envelope).2.spawnedHandlers =
          inbound.spawnedHandlers ++ [(«from», payload)] ∧
        (inbound.handleEnvelope «from» envelope).2.pendingChunkedTransfers
          payload.transferId = none) := by
  cases hbody with
  | @chunk chunk hchunk =>
      have hid := hmanifest.transferId chunk hchunk
      refine ⟨chunk.call, rfl, ?_, ?_⟩
      · intro hincomplete
        have hpush : (state.pushChunk chunk.chunkIndex chunk.entries).isComplete = false :=
          hincomplete
        simp [handleEnvelope, hid, hpending, tryFinalizeChunkedTransfer, hpush,
          ChunkedTransfer.applyCall, SendTransferChunk.call]
      · intro hcomplete hinto
        have hpush : (state.pushChunk chunk.chunkIndex chunk.entries).isComplete = true :=
          hcomplete
        have hpayload : (state.pushChunk chunk.chunkIndex chunk.entries).intoPayload =
            .ok payload := hinto
        simp [handleEnvelope, hid, hpending, tryFinalizeChunkedTransfer, hpush, hpayload]
  | finish =>
      have hid := hmanifest.finishId
      refine ⟨finish.call, rfl, ?_, ?_⟩
      · intro hincomplete
        have hend : (state.markEnd finish.chunkCount).isComplete = false := hincomplete
        simp [handleEnvelope, hid, hpending, tryFinalizeChunkedTransfer, hend,
          ChunkedTransfer.applyCall, SendTransferEnd.call]
      · intro hcomplete hinto
        have hend : (state.markEnd finish.chunkCount).isComplete = true := hcomplete
        have hpayload : (state.markEnd finish.chunkCount).intoPayload = .ok payload := hinto
        simp [handleEnvelope, hid, hpending, tryFinalizeChunkedTransfer, hend, hpayload]

/-- Delivery on a pending transfer.  `lost` are the chunks that will never come:
with none lost, exactly one handler is spawned, and for the planned payload. -/
theorem deliver_pending (hmanifest : IsManifest payload chunks finish)
    (hversion : payload.version = SEND_PAYLOAD_VERSION)
    (hcount : payload.entries.length < UInt32.size)
    {inbound : Inbound} {calls : List ChunkedCall} {lost : List ChunkSlot}
    {envelopes : List SendEnvelope}
    (hpending : inbound.pendingChunkedTransfers payload.transferId =
      some ((ChunkedTransfer.new (transferHeader payload)).applyCalls calls))
    (hbody : ∀ e ∈ envelopes, IsBody chunks finish e)
    (hreceived : Received chunks finish calls (envelopeSlots envelopes ++ lost)) :
    (inbound.deliver «from» envelopes).spawnedHandlers =
      inbound.spawnedHandlers ++
        if lost = [] ∧ envelopes ≠ [] then [(«from», payload)] else [] := by
  induction envelopes generalizing inbound calls with
  | nil => simp
  | cons envelope envelopes ih =>
      have hhead := hbody envelope (by simp)
      have htail : ∀ e ∈ envelopes, IsBody chunks finish e :=
        fun e he => hbody e (by simp [he])
      obtain ⟨call, hcall, hwait, hdone⟩ :=
        handleEnvelope_pending «from» hmanifest hpending hhead
      rw [← ChunkedTransfer.applyCalls_concat] at hwait hdone
      have hslots : envelopeSlots (envelope :: envelopes) =
          pushedSlots [call] ++ envelopeSlots envelopes := by
        simp only [envelopeSlots, List.filterMap_cons, hcall, pushedSlots]
        cases call.slot? <;> rfl
      have hreceived' : Received chunks finish (calls ++ [call])
          (envelopeSlots envelopes ++ lost) := by
        constructor
        · have hslot := hreceived.slots
          rw [hslots] at hslot
          simpa [pushedSlots] using hslot
        · intro count hmem
          rcases List.mem_append.mp hmem with hold | hnew
          · exact hreceived.ends count hold
          · rw [List.mem_singleton.mp hnew |>.symm] at hcall
            cases hhead with
            | chunk _ => exact ChunkedCall.noConfusion (Option.some.inj hcall)
            | finish => exact (ChunkedCall.markEnd.inj (Option.some.inj hcall)).symm
      have hiff := hreceived'.isComplete_iff hmanifest hcount
      rw [deliver_cons]
      by_cases hmissing : envelopeSlots envelopes ++ lost = []
      · obtain ⟨hspawned, hgone⟩ := hdone (hiff.mpr hmissing)
          ((hmissing ▸ hreceived').intoPayload_eq hmanifest hversion hcount)
        have hlost := (List.append_eq_nil_iff.mp hmissing).2
        rw [deliver_unknown hmanifest hgone htail, hspawned]
        simp [hlost]
      · obtain ⟨hspawned, hkept⟩ := hwait (Bool.eq_false_iff.mpr (mt hiff.mp hmissing))
        rw [ih hkept htail hreceived', hspawned]
        congr 1
        refine if_congr (and_congr_right fun hlost => ?_) rfl rfl
        simp only [ne_eq, reduceCtorEq, not_false_eq_true, iff_true]
        rintro rfl
        exact hmissing (by simp [hlost, envelopeSlots, pushedSlots])

theorem envelopeSlots_eq_nil_iff {envelopes : List SendEnvelope}
    (hbody : ∀ e ∈ envelopes, IsBody chunks finish e) :
    envelopeSlots envelopes = [] ↔ ∀ chunk, .transferChunk chunk ∉ envelopes := by
  simp only [envelopeSlots, pushedSlots, List.filterMap_filterMap,
    List.filterMap_eq_nil_iff]
  constructor
  · intro hnone chunk hchunk
    simpa [SendEnvelope.call?, SendTransferChunk.call, ChunkedCall.slot?] using
      hnone _ hchunk
  · intro hno envelope henvelope
    cases hbody envelope henvelope with
    | @chunk chunk _ => exact absurd henvelope (hno chunk)
    | finish => rfl

theorem body_around_header {before after : List SendEnvelope}
    (hperm : (before ++ .transferHeader (transferHeader payload) :: after).Perm
      (manifestEnvelopes payload chunks finish)) :
    (before ++ after).Perm (chunks.map SendEnvelope.transferChunk ++ [.transferEnd finish]) :=
  (List.perm_middle.symm.trans hperm).cons_inv

theorem isBody_of_perm {envelopes : List SendEnvelope}
    (hperm : envelopes.Perm (chunks.map SendEnvelope.transferChunk ++ [.transferEnd finish])) :
    ∀ e ∈ envelopes, IsBody chunks finish e := by
  intro envelope henvelope
  rcases List.mem_append.mp (hperm.subset henvelope) with hmapped | hend
  · obtain ⟨chunk, hchunk, rfl⟩ := List.mem_map.mp hmapped
    exact .chunk hchunk
  · rw [List.mem_singleton.mp hend]
    exact .finish

theorem envelopeSlots_body (chunks : List SendTransferChunk) (finish : SendTransferEnd) :
    ((chunks.map SendEnvelope.transferChunk ++
      [SendEnvelope.transferEnd finish]).filterMap SendEnvelope.call?).filterMap ChunkedCall.slot? =
        chunks.map SendTransferChunk.slot := by
  induction chunks with
  | nil => rfl
  | cons chunk chunks ih => exact congrArg (chunk.slot :: ·) ih

/-- Whatever comes before the header is lost; the handler is spawned just when
that was no chunk and something follows the header. -/
theorem deliver_around_header («from» : DeviceId) (hmanifest : IsManifest payload chunks finish)
    (hversion : payload.version = SEND_PAYLOAD_VERSION)
    (hcount : payload.entries.length < UInt32.size)
    {inbound : Inbound}
    (hfresh : inbound.pendingChunkedTransfers payload.transferId = none)
    {before after : List SendEnvelope}
    (hperm : (before ++ .transferHeader (transferHeader payload) :: after).Perm
      (manifestEnvelopes payload chunks finish)) :
    (inbound.deliver «from»
        (before ++ .transferHeader (transferHeader payload) :: after)).spawnedHandlers =
      inbound.spawnedHandlers ++
        if envelopeSlots before = [] ∧ after ≠ [] then [(«from», payload)] else [] := by
  have hrest := body_around_header hperm
  have hbody := isBody_of_perm hrest
  have hbefore : ∀ e ∈ before, IsBody chunks finish e :=
    fun e he => hbody e (List.mem_append_left _ he)
  have hafter : ∀ e ∈ after, IsBody chunks finish e :=
    fun e he => hbody e (List.mem_append_right _ he)
  have hslots : (envelopeSlots after ++ envelopeSlots before).Perm
      (chunks.map SendTransferChunk.slot) := by
    have hmap := (hrest.filterMap SendEnvelope.call?).filterMap ChunkedCall.slot?
    rw [envelopeSlots_body] at hmap
    simp only [List.filterMap_append] at hmap
    exact List.perm_append_comm.trans hmap
  rw [deliver_append, deliver_unknown hmanifest hfresh hbefore, deliver_cons]
  have hpending : (inbound.handleEnvelope «from»
      (.transferHeader (transferHeader payload))).2.pendingChunkedTransfers
        payload.transferId =
      some ((ChunkedTransfer.new (transferHeader payload)).applyCalls []) :=
    pending_setPending_self inbound _ _
  have hreceived : Received chunks finish [] (envelopeSlots after ++ envelopeSlots before) :=
    ⟨by simpa [pushedSlots] using hslots, by simp⟩
  rw [deliver_pending hmanifest hversion hcount hpending hafter hreceived]
  rfl

end Delivery

/-- The header arrives before every chunk, and is not the last to arrive. -/
def HeaderInTime (payload : SendPayload) (order : List SendEnvelope) : Prop :=
  ∃ before after,
    order = before ++ .transferHeader (transferHeader payload) :: after ∧
      (∀ chunk, .transferChunk chunk ∉ before) ∧ after ≠ []

/-- A chunked plan that arrives in any order is delivered, once and unchanged,
exactly when its header arrives in time. -/
theorem deliver_planned_iff (serde : SerdeJson) («from» «to» : DeviceId)
    (payload : SendPayload) (hversion : payload.version = SEND_PAYLOAD_VERSION)
    (hcount : payload.entries.length < UInt32.size)
    (hchunked : planTransferEnvelopes serde «from» «to» payload ≠ [.transfer payload])
    (inbound : Inbound)
    (hfresh : inbound.pendingChunkedTransfers payload.transferId = none)
    (order : List SendEnvelope)
    (horder : order.Perm (planTransferEnvelopes serde «from» «to» payload)) :
    (inbound.deliver «from» order).spawnedHandlers =
        inbound.spawnedHandlers ++ [(«from», payload)] ↔
      HeaderInTime payload order := by
  obtain ⟨chunks, finish, hmanifest, hplan⟩ :=
    planTransferEnvelopes_of_not_fits serde «from» «to» payload hcount
      (Bool.eq_false_iff.mpr fun hfits =>
        hchunked (planTransferEnvelopes_of_fits serde «from» «to» payload hfits))
  rw [hplan] at horder
  constructor
  · intro hspawned
    have hheader : .transferHeader (transferHeader payload) ∈ order :=
      horder.symm.subset (by simp [manifestEnvelopes])
    obtain ⟨before, after, rfl⟩ := List.append_of_mem hheader
    rw [deliver_around_header _ hmanifest hversion hcount hfresh horder] at hspawned
    have hbefore : ∀ e ∈ before, IsBody chunks finish e :=
      fun e he => isBody_of_perm (body_around_header horder) e (List.mem_append_left _ he)
    by_cases htime : envelopeSlots before = [] ∧ after ≠ []
    · exact ⟨before, after, rfl, (envelopeSlots_eq_nil_iff hbefore).mp htime.1, htime.2⟩
    · simp [if_neg htime] at hspawned
  · rintro ⟨before, after, rfl, hnochunk, hafter⟩
    have hbefore : ∀ e ∈ before, IsBody chunks finish e :=
      fun e he => isBody_of_perm (body_around_header horder) e (List.mem_append_left _ he)
    rw [deliver_around_header _ hmanifest hversion hcount hfresh horder,
      if_pos ⟨(envelopeSlots_eq_nil_iff hbefore).mpr hnochunk, hafter⟩]

/-- The receiver before any message. -/
def Inbound.empty : Inbound :=
  { pendingChunkedTransfers := fun _ => none, effects := [] }

theorem manyFiles_chunked («from» «to» : DeviceId) :
    ∃ (chunks : List SendTransferChunk) (finish : SendTransferEnd),
      IsManifest manyFiles chunks finish ∧
      planTransferEnvelopes compactSerde «from» «to» manyFiles =
        manifestEnvelopes manyFiles chunks finish :=
  planTransferEnvelopes_of_not_fits compactSerde «from» «to» manyFiles
    (manyFiles_length ▸ by decide)
    (not_fits_of_many_entries _ _ manyFiles (manyFiles_length ▸ Nat.le_refl _))

theorem manyFiles_delivered_in_plan_order :
    (Inbound.empty.deliver ⟨1⟩
      (planTransferEnvelopes compactSerde ⟨1⟩ ⟨2⟩ manyFiles)).spawnedHandlers =
        [(⟨1⟩, manyFiles)] := by
  obtain ⟨chunks, finish, -, hplan⟩ := manyFiles_chunked ⟨1⟩ ⟨2⟩
  refine (deliver_planned_iff compactSerde ⟨1⟩ ⟨2⟩ manyFiles rfl
    (manyFiles_length ▸ by decide) ?_ Inbound.empty rfl _ (List.Perm.refl _)).mpr ?_
  · rw [hplan]
    simp [manifestEnvelopes]
  · exact ⟨[], _, hplan, by simp, by simp⟩

/-- The first chunk overtakes the header: no handler is ever spawned. -/
theorem manyFiles_lost_when_chunk_overtakes :
    ∃ (header chunk : SendEnvelope) (rest : List SendEnvelope),
      planTransferEnvelopes compactSerde ⟨1⟩ ⟨2⟩ manyFiles = header :: chunk :: rest ∧
      (chunk :: header :: rest).Perm
        (planTransferEnvelopes compactSerde ⟨1⟩ ⟨2⟩ manyFiles) ∧
      (Inbound.empty.deliver ⟨1⟩ (chunk :: header :: rest)).spawnedHandlers = [] := by
  obtain ⟨chunks, finish, hmanifest, hplan⟩ := manyFiles_chunked ⟨1⟩ ⟨2⟩
  rcases chunks with _ | ⟨chunk, chunks⟩
  · have hentries := congrArg List.length hmanifest.entries
    rw [manyFiles_length] at hentries
    simp at hentries
  · have hperm : (SendEnvelope.transferChunk chunk ::
        .transferHeader (transferHeader manyFiles) ::
          (chunks.map .transferChunk ++ [.transferEnd finish])).Perm
        (manifestEnvelopes manyFiles (chunk :: chunks) finish) :=
      List.Perm.swap _ _ _
    refine ⟨_, _, _, hplan, hplan ▸ hperm, ?_⟩
    have hfresh : Inbound.empty.pendingChunkedTransfers manyFiles.transferId = none := rfl
    have hlost := deliver_around_header ⟨1⟩ hmanifest rfl (manyFiles_length ▸ by decide)
      hfresh (show ([.transferChunk chunk] ++ _).Perm _ from hperm)
    rw [if_neg fun htime => List.cons_ne_nil _ _ htime.1] at hlost
    exact hlost

end Failsafe.Send
