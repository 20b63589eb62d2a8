import Failsafe.Send.Answering

/-!
The totals that the receiving side computes from the sizes of the entries, in the order in
which it comes to them.
-/

namespace Failsafe.Send

open Failsafe.Core Failsafe.Clipboard Failsafe.Lib

/-- The sum of the sizes, without a bound. -/
def exactTotal (entries : List FileEntry) : Nat :=
  (entries.map fun entry => entry.size.toNat).sum

/-- The total at the end of the loop of `validate_entries`, if the loop comes there. -/
def validatedTotal (limits : ClipboardLimits) (total : UInt64) :
    List (String × UInt64) → Option UInt64
  | [] => some total
  | (_, size) :: entries =>
      if size > limits.maxFileBytes then none
      else validatedTotal limits (saturatingAdd total size) entries

def entrySizes (entries : List FileEntry) : List (String × UInt64) :=
  entries.map fun entry => (entry.name, entry.size)

/-- The totals of `handle_transfer_locked`: the one in the log, that of a fresh state, that of
the state that is gone on with, and that of `validate_entries`. -/
def transferTotals (limits : ClipboardLimits) («from» : DeviceId) (payload : SendPayload)
    (saved : Except String ReceiveTransferState) : List UInt64 :=
  if payload.version ≠ SEND_PAYLOAD_VERSION then []
  else
    bytesTotal payload.entries ::
      match saved with
      | .error _ =>
          let state := receiveStateFromPayload «from» payload
          let refreshed := state.refresh «from» payload
          [state.bytesTotal, refreshed.bytesTotal] ++
            (validatedTotal limits 0 (entrySizes refreshed.entries)).toList
      | .ok state =>
          if state.stage = .complete then []
          else
            let refreshed := state.refresh «from» payload
            refreshed.bytesTotal ::
              (validatedTotal limits 0 (entrySizes refreshed.entries)).toList

/-- The total of `into_payload`. -/
def manifestTotals (manifest : ChunkedTransfer) : List UInt64 :=
  if manifest.isComplete ∧ manifest.assembledEntries.length = manifest.header.entryCount.toNat then
    [bytesTotal manifest.assembledEntries]
  else []

/-- Every total of a transfer is the sum of the sizes. -/
def TransferExact (payload : SendPayload) : Prop :=
  ∀ limits sender saved, ∀ total ∈ transferTotals limits sender payload saved,
    total.toNat = exactTotal payload.entries

/-- So are the total of a manifest, and those of the transfer that it becomes. -/
def ManifestExact (manifest : ChunkedTransfer) : Prop :=
  (∀ total ∈ manifestTotals manifest, total.toNat = exactTotal manifest.assembledEntries) ∧
    ∀ payload, manifest.intoPayload = .ok payload → TransferExact payload

theorem foldl_sizes (sizes : List UInt64) (start : UInt64) :
    (sizes.foldl (· + ·) start).toNat =
      (start.toNat + (sizes.map UInt64.toNat).sum) % 2 ^ 64 := by
  induction sizes generalizing start with
  | nil =>
      rw [List.foldl_nil, List.map_nil, List.sum_nil, Nat.add_zero]
      exact (Nat.mod_eq_of_lt start.toNat_lt).symm
  | cons size sizes ih =>
      rw [List.foldl_cons, ih, UInt64.toNat_add, List.map_cons, List.sum_cons, Nat.mod_add_mod,
        Nat.add_assoc]

theorem bytesTotal_toNat (entries : List FileEntry) :
    (bytesTotal entries).toNat = exactTotal entries % 2 ^ 64 := by
  rw [bytesTotal, foldl_sizes, UInt64.toNat_zero, Nat.zero_add, exactTotal, List.map_map]
  rfl

theorem bytesTotal_exact_iff {entries : List FileEntry} :
    (bytesTotal entries).toNat = exactTotal entries ↔ exactTotal entries < 2 ^ 64 := by
  rw [bytesTotal_toNat]
  constructor
  · intro h
    rw [← h]
    exact Nat.mod_lt _ (by decide)
  · exact Nat.mod_eq_of_lt

theorem saturatingAdd_toNat (left right : UInt64) :
    (saturatingAdd left right).toNat = min (left.toNat + right.toNat) (UInt64.size - 1) := by
  rw [saturatingAdd, UInt64.toNat_ofNat']
  refine Nat.mod_eq_of_lt ?_
  have hsize : UInt64.size = 2 ^ 64 := rfl
  omega

theorem validatedTotal_toNat {limits : ClipboardLimits} {entries : List (String × UInt64)}
    {start total : UInt64} (h : validatedTotal limits start entries = some total) :
    total.toNat = min (start.toNat + (entries.map fun entry => entry.2.toNat).sum)
      (UInt64.size - 1) := by
  induction entries generalizing start with
  | nil =>
      obtain rfl := Option.some.inj h
      have hlt : start.toNat < UInt64.size := start.toNat_lt
      simp only [List.map_nil, List.sum_nil]
      omega
  | cons entry entries ih =>
      obtain ⟨name, size⟩ := entry
      obtain ⟨-, hrest⟩ := Option.ite_none_left_eq_some.mp h
      rw [ih hrest, saturatingAdd_toNat]
      simp only [List.map_cons, List.sum_cons]
      omega

theorem validateTotal_eq (limits : ClipboardLimits) (start : UInt64)
    (entries : List (String × UInt64)) :
    limits.validateTotal start entries = .ok () ↔
      ∃ total, validatedTotal limits start entries = some total ∧
        total ≤ limits.maxTotalBytes := by
  induction entries generalizing start with
  | nil =>
      simp only [ClipboardLimits.validateTotal, validatedTotal, Option.some.injEq,
        exists_eq_left']
      split
      · rename_i hover
        constructor
        · intro h
          cases h
        · intro hfits
          exact (UInt64.not_le.mpr hover hfits).elim
      · rename_i hfits
        exact ⟨fun _ => UInt64.not_lt.mp hfits, fun _ => rfl⟩
  | cons entry entries ih =>
      obtain ⟨name, size⟩ := entry
      simp only [ClipboardLimits.validateTotal, validatedTotal]
      split
      · constructor
        · intro h
          cases h
        · rintro ⟨_, h, -⟩
          cases h
      · exact ih _

theorem exactTotal_entrySizes (entries : List FileEntry) :
    ((entrySizes entries).map fun entry => entry.2.toNat).sum = exactTotal entries := by
  rw [entrySizes, List.map_map]
  rfl

/-- The total of all files that a request states. -/
def SendRequest.total : SendRequest → Option UInt64
  | .saveReceiveState state => some state.bytesTotal
  | .downloadCollection _ _ totalBytes => some totalBytes
  | _ => none

/-- `run_receive` states the total of its state only, and only if `validate_entries` came to one
in the limit. -/
def Measured (limits : ClipboardLimits) (state : ReceiveTransferState) (request : SendRequest) :
    Prop :=
  ∀ total, request.total = some total → total = state.bytesTotal ∧
    ∃ validated, validatedTotal limits 0 (entrySizes state.entries) = some validated ∧
      validated ≤ limits.maxTotalBytes

theorem measured_aside {limits : ClipboardLimits} {state : ReceiveTransferState}
    {request : SendRequest} (h : request.total = none) : Measured limits state request := by
  intro total htotal
  rw [h] at htotal
  cases htotal

theorem measured_emitProgress {limits : ClipboardLimits} {state : ReceiveTransferState}
    («to» : DeviceId) (reports : List SendProgress) :
    (emitProgress «to» reports).All (Measured limits state) := by
  induction reports with
  | nil => trivial
  | cons report reports ih => exact .bind (all_ask (measured_aside rfl)) fun _ => ih

theorem measured_runReceive (limits : ClipboardLimits) (state : ReceiveTransferState) :
    (runReceive limits state).run.All (Measured limits state) := by
  cases hvalid : limits.validateEntries (entrySizes state.entries) with
  | error error =>
      have hrun : (runReceive limits state).run = .ret (.error error) := by
        simp only [runReceive, downloadReceive, show (state.entries.map fun entry =>
          (entry.name, entry.size)) = entrySizes state.entries from rfl, hvalid]
        rfl
      rw [hrun]
      trivial
  | ok _ =>
      have hstates : ∀ {request : SendRequest}, request.total = some state.bytesTotal →
          Measured limits state request := by
        intro request hrequest total htotal
        rw [hrequest] at htotal
        exact ⟨(Option.some.inj htotal).symm, (validateTotal_eq limits 0 _).mp hvalid⟩
      have hchoose : (chooseReceiveDir state.downloaded).All (Measured limits state) := by
        unfold chooseReceiveDir
        split
        · trivial
        · refine .bind (all_ask (measured_aside rfl)) fun base => ?_
          cases base with
          | none => trivial
          | some base => exact .bind (all_ask (measured_aside rfl)) fun _ => trivial
      have hemit (reports : List SendProgress) :
          (emitProgress state.sender reports).All (Measured limits state) :=
        measured_emitProgress state.sender reports
      have hdownload : (downloadReceive limits state).run.All (Measured limits state) := by
        refine .tryBind (all_liftExcept _) fun _ => .tryBind (all_ask (hstates rfl)) fun _ => ?_
        refine .tryBind (.lift (hemit _)) fun _ => ?_
        refine .tryBind (.lift (all_ask (hstates rfl))) fun _ => ?_
        refine .tryBind (.lift (hemit _)) fun _ => ?_
        exact .tryBind (all_liftExcept _) fun _ => all_ask (hstates rfl)
      refine .tryBind hdownload fun _ => .tryBind (.lift hchoose) fun dir => ?_
      refine .tryBind (all_liftExcept _) fun dir => ?_
      refine .tryBind (.lift (all_ask (measured_aside rfl))) fun _ => ?_
      refine .tryBind (.lift (hemit _)) fun _ => .tryBind (all_liftExcept _) fun _ => ?_
      refine .tryBind (.lift (hemit _)) fun _ => .tryBind (all_ask (hstates rfl)) fun _ => ?_
      exact .lift (all_ask (measured_aside rfl))

/-- The handler has looked for a saved state of the transfer. -/
abbrev lookedUp (payload : SendPayload) (saved : Except String ReceiveTransferState) :
    Exchange SendSig :=
  ⟨.loadReceiveState payload.transferId, saved⟩

/-- A total that the handler states is one of `transferTotals` for the state that it found, or
stands in a state file. -/
def Reckoned (limits : ClipboardLimits) («from» : DeviceId) (payload : SendPayload)
    (log : List (Exchange SendSig)) (request : SendRequest) : Prop :=
  ∀ total, request.total = some total → ∃ saved, lookedUp payload saved ∈ log ∧
    ((total ∈ transferTotals limits «from» payload saved ∧
        ∃ validated ∈ transferTotals limits «from» payload saved,
          validated ≤ limits.maxTotalBytes) ∨
      ∃ state, saved = .ok state ∧ total = ReceiveTransferState.bytesTotal state)

section Reckoned

variable {limits : ClipboardLimits} {«from» : DeviceId} {payload : SendPayload}
  {log : List (Exchange SendSig)} {saved : Except String ReceiveTransferState}

theorem reckoned_aside {request : SendRequest} (h : request.total = none) :
    Reckoned limits «from» payload log request := by
  intro total htotal
  rw [h] at htotal
  cases htotal

theorem reckoned_after {α : Type} {kind : SendRequest → Prop} {p : SendProg α} (hp : p.All kind)
    (hkind : ∀ log request, lookedUp payload saved ∈ log → kind request →
      Reckoned limits «from» payload log request)
    (hlog : lookedUp payload saved ∈ log) :
    p.Ensures (Reckoned limits «from» payload) Prog.heard
      (fun _ log' => lookedUp payload saved ∈ log') log := by
  refine Prog.Ensures.of_all hp (fun log request hmem => hkind log request hmem) ?_
    (fun _ _ h => h) hlog
  rintro request response log _ - hmem rfl
  exact List.mem_append_left _ hmem

theorem untotalled_acknowledgeAndRemove (transferId : Uuid) (receipt : String) :
    (acknowledgeAndRemove «from» transferId receipt).run.All fun request : SendRequest =>
      request.total = none := by
  refine .tryBind (.bind (all_ask rfl) fun sent => ?_) fun _ => ?_
  · cases sent <;> trivial
  · exact .tryBind (.lift (all_ask rfl)) fun _ => trivial

theorem measured_reckoned (hversion : payload.version = SEND_PAYLOAD_VERSION)
    {state : ReceiveTransferState} (hstage : state.stage ≠ .complete)
    (hstate : saved = .ok state ∨ (∃ message, saved = .error message) ∧
      state = receiveStateFromPayload «from» payload)
    {request : SendRequest} (h : Measured limits (state.refresh «from» payload) request)
    (hlog : lookedUp payload saved ∈ log) :
    Reckoned limits «from» payload log request := by
  intro total htotal
  obtain ⟨rfl, validated, hvalidated, hlimit⟩ := h total htotal
  have htotals : ∀ other : UInt64, other = (state.refresh «from» payload).bytesTotal ∨
      other = validated → other ∈ transferTotals limits «from» payload saved := by
    intro other hother
    unfold transferTotals
    rw [if_neg (not_not.mpr hversion)]
    rcases hstate with rfl | ⟨⟨message, rfl⟩, rfl⟩
    · dsimp only
      rw [if_neg hstage, hvalidated]
      rcases hother with rfl | rfl <;> simp
    · dsimp only
      rw [hvalidated]
      rcases hother with rfl | rfl <;> simp
  exact ⟨saved, hlog, .inl ⟨htotals _ (.inl rfl), validated, htotals _ (.inr rfl), hlimit⟩⟩

theorem reportReceiveFailure_reckoned (message : String) :
    (reportReceiveFailure «from» payload.transferId message).Ensures
      (Reckoned limits «from» payload) Prog.heard (fun _ _ => True) log := by
  have hack : ∀ log, (sendAck «from»
      { transferId := payload.transferId, ok := false, error := some message } none).run.Ensures
        (Reckoned limits «from» payload) Prog.heard (fun _ _ => True) log :=
    fun log => ⟨reckoned_aside rfl, fun _ _ _ => trivial⟩
  refine ⟨reckoned_aside rfl, ?_⟩
  rintro found _ rfl
  cases found with
  | error error => exact Prog.ensures_bind.mpr (hack _)
  | ok state =>
      refine ⟨fun total htotal => ⟨.ok state, ?_, .inr ⟨state, rfl, ?_⟩⟩, ?_⟩
      · exact List.mem_append_right _ (List.mem_singleton_self _)
      · exact (Option.some.inj htotal).symm
      · rintro done _ rfl
        exact Prog.ensures_bind.mpr (hack _)

theorem lookedUp_reckoned (hversion : payload.version = SEND_PAYLOAD_VERSION)
    {state : ReceiveTransferState}
    (hstate : saved = .ok state ∨ (∃ message, saved = .error message) ∧
      state = receiveStateFromPayload «from» payload)
    (hlog : lookedUp payload saved ∈ log) :
    (if state.stage = .complete then
      acknowledgeAndRemove «from» payload.transferId state.collectionHash
    else do
      match ← (runReceive limits (state.refresh «from» payload)).run with
      | .ok () => acknowledgeAndRemove «from» payload.transferId payload.collectionHash
      | .error message => do
          reportReceiveFailure «from» payload.transferId message
          throw (.failed SEND_FEATURE_ID message) : SendTry FeatureError Unit).run.Ensures
      (Reckoned limits «from» payload) Prog.heard (fun _ _ => True) log := by
  have hdone : ∀ receipt log', lookedUp payload saved ∈ log' →
      (acknowledgeAndRemove «from» payload.transferId receipt).run.Ensures
        (Reckoned limits «from» payload) Prog.heard (fun _ _ => True) log' := by
    intro receipt log' hlog'
    exact (reckoned_after (untotalled_acknowledgeAndRemove _ _)
      (fun _ _ _ h => reckoned_aside h) hlog').mono fun _ _ _ => trivial
  split
  · exact hdone _ log hlog
  · rename_i hstage
    refine Prog.ensures_tryBind.mpr (Prog.ensures_lift.mpr
      ((reckoned_after (measured_runReceive limits _) (fun _ _ hmem h =>
        measured_reckoned hversion hstage hstate h hmem) hlog).mono ?_))
    intro result log' hlog'
    cases result with
    | ok done => exact hdone _ log' hlog'
    | error message =>
        refine Prog.ensures_tryBind.mpr (Prog.ensures_lift.mpr
          ((reportReceiveFailure_reckoned message).mono fun _ _ _ => trivial))

/-- The totals that the handler states are those of `transferTotals`. -/
theorem handleTransferLocked_totals (limits : ClipboardLimits) («from» : DeviceId)
    (payload : SendPayload) :
    (handleTransferLocked limits «from» payload).run.Ensures (Reckoned limits «from» payload)
      Prog.heard (fun _ _ => True) [] := by
  unfold handleTransferLocked
  split
  · trivial
  · rename_i hversion
    refine Prog.ensures_tryBind.mpr (Prog.ensures_lift.mpr ⟨reckoned_aside rfl, ?_⟩)
    rintro saved _ rfl
    cases saved with
    | error message =>
        exact lookedUp_reckoned (not_not.mp hversion) (.inr ⟨⟨message, rfl⟩, rfl⟩)
          (List.mem_singleton_self _)
    | ok state =>
        exact lookedUp_reckoned (not_not.mp hversion) (.inl rfl) (List.mem_singleton_self _)

end Reckoned

theorem intoPayload_ok_iff {manifest : ChunkedTransfer} :
    (∃ payload, manifest.intoPayload = .ok payload) ↔
      manifestTotals manifest = [manifest.header.bytesTotal] := by
  have herror (message : String) :
      ¬∃ payload : SendPayload, Except.error message = .ok payload := by
    rintro ⟨payload, h⟩
    cases h
  unfold ChunkedTransfer.intoPayload manifestTotals
  by_cases hcomplete : manifest.isComplete = true
  · by_cases hcount : manifest.assembledEntries.length = manifest.header.entryCount.toNat
    · simp only [if_pos hcomplete, if_neg (not_not.mpr hcount), if_pos (And.intro hcomplete hcount)]
      by_cases htotal : bytesTotal manifest.assembledEntries = manifest.header.bytesTotal
      · simp [htotal]
      · simp [htotal]
    · simp only [if_pos hcomplete, if_pos hcount, if_neg fun h : _ ∧ _ => hcount h.2]
      exact iff_of_false (herror _) (List.cons_ne_nil _ _).symm
  · simp only [if_neg hcomplete, if_neg fun h : _ ∧ _ => hcomplete h.1]
    exact iff_of_false (herror _) (List.cons_ne_nil _ _).symm

theorem transferExact_of_lt {payload : SendPayload} (h : exactTotal payload.entries < 2 ^ 64) :
    TransferExact payload := by
  have hsum := bytesTotal_exact_iff.mpr h
  have hvalidated : ∀ limits total, validatedTotal limits 0 (entrySizes payload.entries) =
      some total → total.toNat = exactTotal payload.entries := by
    intro limits total htotal
    have hsize : UInt64.size = 2 ^ 64 := rfl
    rw [validatedTotal_toNat htotal, exactTotal_entrySizes, UInt64.toNat_zero]
    omega
  intro limits sender saved total hmem
  unfold transferTotals at hmem
  split at hmem
  · cases hmem
  · rcases List.mem_cons.mp hmem with rfl | hmem
    · exact hsum
    · cases saved with
      | error message =>
          simp only [List.cons_append, List.nil_append, List.mem_cons, Option.mem_toList] at hmem
          rcases hmem with rfl | rfl | hmem
          · exact hsum
          · exact hsum
          · exact hvalidated limits total hmem
      | ok state =>
          dsimp only at hmem
          split at hmem
          · cases hmem
          · simp only [List.mem_cons, Option.mem_toList] at hmem
            rcases hmem with rfl | hmem
            · exact hsum
            · exact hvalidated limits total hmem

theorem transferExact_iff {payload : SendPayload} :
    TransferExact payload ↔
      payload.version ≠ SEND_PAYLOAD_VERSION ∨ exactTotal payload.entries < 2 ^ 64 := by
  constructor
  · intro h
    by_cases hversion : payload.version = SEND_PAYLOAD_VERSION
    · refine .inr (bytesTotal_exact_iff.mp (h .default ⟨0⟩ (.error "") _ ?_))
      unfold transferTotals
      rw [if_neg (not_not.mpr hversion)]
      exact List.mem_cons_self
    · exact .inl hversion
  · rintro (hversion | hfits)
    · intro limits sender saved total hmem
      unfold transferTotals at hmem
      rw [if_pos hversion] at hmem
      cases hmem
    · exact transferExact_of_lt hfits

theorem intoPayload_entries {manifest : ChunkedTransfer} {payload : SendPayload}
    (h : manifest.intoPayload = .ok payload) : payload.entries = manifest.assembledEntries := by
  unfold ChunkedTransfer.intoPayload at h
  dsimp only at h
  split at h
  · split at h
    · cases h
    · split at h
      · cases h
      · obtain rfl := Except.ok.inj h
        rfl
  · cases h

theorem manifestExact_iff {manifest : ChunkedTransfer} (hcomplete : manifest.isComplete = true) :
    ManifestExact manifest ↔ exactTotal manifest.assembledEntries < 2 ^ 64 := by
  have hcount : manifest.assembledEntries.length = manifest.header.entryCount.toNat := by
    rw [ChunkedTransfer.length_assembledEntries]
    unfold ChunkedTransfer.isComplete at hcomplete
    exact beq_iff_eq.mp (Bool.and_eq_true_iff.mp hcomplete).1
  constructor
  · rintro ⟨htotal, -⟩
    refine bytesTotal_exact_iff.mp (htotal _ ?_)
    unfold manifestTotals
    rw [if_pos ⟨hcomplete, hcount⟩]
    exact List.mem_singleton_self _
  · intro hfits
    constructor
    · intro total hmem
      unfold manifestTotals at hmem
      rw [if_pos ⟨hcomplete, hcount⟩, List.mem_singleton] at hmem
      rw [hmem]
      exact bytesTotal_exact_iff.mpr hfits
    · intro payload hpayload
      refine transferExact_of_lt ?_
      rw [intoPayload_entries hpayload]
      exact hfits

/-- The totals of the receiving side are right just if the sizes of the entries sum up to less
than `2 ^ 64`, or the version of a payload is refused before. -/
theorem totals_exact_iff (payload : SendPayload) (manifest : ChunkedTransfer)
    (hcomplete : manifest.isComplete = true) :
    (TransferExact payload ↔
      payload.version ≠ SEND_PAYLOAD_VERSION ∨ exactTotal payload.entries < 2 ^ 64) ∧
    (ManifestExact manifest ↔ exactTotal manifest.assembledEntries < 2 ^ 64) :=
  ⟨transferExact_iff, manifestExact_iff hcomplete⟩

/-- Two files whose sizes sum up to `2 ^ 64`. -/
def hugePayload : SendPayload :=
  { emptyPayload with entries := [⟨"a", 18446744073709551615⟩, ⟨"b", 1⟩] }

/-- The total in the log, in the state and before the limits wraps around. -/
theorem hugePayload_wraps :
    transferTotals { maxFileBytes := 18446744073709551615, maxTotalBytes := 18446744073709551615 }
        ⟨2⟩ hugePayload (.error "no state found") = [0, 0, 0, 18446744073709551615] ∧
      exactTotal hugePayload.entries = 18446744073709551616 ∧
      ¬∀ payload, TransferExact payload := by
  refine ⟨by decide, by decide, fun h => ?_⟩
  have hwrapped := h hugePayload .default ⟨2⟩ (.error "") 0 (by decide)
  revert hwrapped
  decide

/-- The same files in a manifest that is announced with the wrapped total. -/
def hugeManifest : ChunkedTransfer :=
  (ChunkedTransfer.new
    { version := SEND_PAYLOAD_VERSION
      transferId := 7
      senderName := "laptop"
      collectionHash := "h1"
      bytesTotal := 0
      entryCount := 2 }).pushChunk 0 hugePayload.entries

theorem hugeManifest_wraps :
    TransferExact emptyPayload ∧ hugeManifest.isComplete = true ∧
      ¬ManifestExact hugeManifest := by
  have hcomplete : hugeManifest.isComplete = true := by decide
  have hsorted : hugeManifest.sortedIndices = [0] := List.mergeSort_singleton _
  have hentries : hugeManifest.assembledEntries = hugePayload.entries := by
    rw [ChunkedTransfer.assembledEntries, hsorted]
    decide
  obtain ⟨htransfer, hmanifest⟩ := totals_exact_iff emptyPayload hugeManifest hcomplete
  refine ⟨htransfer.mpr (.inr (by decide)), hcomplete, ?_⟩
  rw [hmanifest, hentries]
  decide

end Failsafe.Send
