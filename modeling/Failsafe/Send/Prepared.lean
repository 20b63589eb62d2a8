import Failsafe.Lib.Staged
import Failsafe.Send.CancelAll
import Failsafe.Send.Session

/-!
The saved state of a send against the payload that is sent: `prepare_send_payload`
(`failsafe-send/src/outbound.rs`).
-/

namespace Failsafe.Send

open Failsafe.Core Failsafe.Clipboard Failsafe.Lib

/-- What the file system and the blob store said of the files of a send. -/
structure FilesTold where
  previewed : Option (List FileEntry)
  imported : Option (List FileEntry)

namespace FilesTold

def none : FilesTold :=
  { previewed := .none, imported := .none }

def note (told : FilesTold) : Exchange SendSig → FilesTold
  | ⟨.collectFilePreview _, (.ok previews : Except String (List FileEntry))⟩ =>
      { told with previewed := some previews }
  | ⟨.importSources _ _, ((_, .finished (.ok (_, entries))) : List BlobProgress × ImportOutcome)⟩ =>
      { told with imported := some entries }
  | _ => told

end FilesTold

def filesTold (log : List (Exchange SendSig)) : FilesTold :=
  stageAfter FilesTold.note .none log

/-- The state file of a send, after an exchange. -/
def noteSendFile (transferId : Uuid) (saved : Option SendTransferState) :
    Exchange SendSig → Option SendTransferState
  | ⟨.saveSendState state, (.ok () : Except String Unit)⟩ =>
      if state.transferId = transferId then some state else saved
  | _ => saved

/-- A saved state is that of a payload on its way to a device. -/
structure SendTransferState.Describes (state : SendTransferState) (target : DeviceId)
    (payload : SendPayload) : Prop where
  stage : state.stage = .waitingAck
  error : state.error = none
  target : state.target = target
  entries : state.entries = payload.entries
  collectionHash : state.collectionHash = some payload.collectionHash
  bytesTotal : state.bytesTotal = Send.bytesTotal payload.entries
  bytesDone : state.bytesDone = Send.bytesTotal payload.entries

/-- What is saved before the import is still right after it. -/
def Accurate (target : DeviceId) (resume : Bool) (saved : Option SendTransferState)
    (told : FilesTold) : Prop :=
  if resume then
    ∃ state, saved = some state ∧ state.target = target ∧ state.error = none ∧
      match told.imported with
      | some entries => state.bytesTotal = bytesTotal entries
      | none => state.bytesDone = bytesTotal state.entries ∧
          state.bytesTotal = bytesTotal state.entries
  else told.previewed.map bytesTotal = told.imported.map bytesTotal

/-- What is read of a state file is what was saved. -/
def SeesSendFile (transferId : Uuid) (saved : Option SendTransferState) :
    (request : SendRequest) → request.Response → Prop
  | .readSendState other, (.ok state : Except String SendTransferState) =>
      other = transferId → saved = some state
  | _, _ => True

/-- A step of `prepare_send_payload`, as far as one state file is concerned. -/
def preparingAct (transferId : Uuid) (request : SendRequest) (response : request.Response)
    (before after : Option SendTransferState × FilesTold) : Prop :=
  SeesSendFile transferId before.1 request response ∧
    after = (noteSendFile transferId before.1 ⟨request, response⟩,
      before.2.note ⟨request, response⟩)

theorem perform_preparing {transferId : Uuid} {request : SendRequest}
    {response : request.Response} {daemon daemon' : Daemon} (hrequest : request.Preparing)
    (h : Daemon.perform 0 request response daemon = some daemon') :
    SeesSendFile transferId (daemon.sendFiles.lookup transferId) request response ∧
      daemon'.sendFiles.lookup transferId =
        noteSendFile transferId (daemon.sendFiles.lookup transferId) ⟨request, response⟩ := by
  cases request with
  | readSendState other =>
      obtain ⟨hread, hsame⟩ := Option.ite_none_right_eq_some.mp h
      obtain rfl := Option.some.inj hsame
      rcases (response : Except String SendTransferState) with _ | state
      · exact ⟨trivial, rfl⟩
      · have hread : daemon.sendFiles.lookup other = some state := of_decide_eq_true hread
        refine ⟨?_, rfl⟩
        rintro rfl
        exact hread
  | saveSendState state =>
      obtain rfl := Option.some.inj h
      refine ⟨trivial, ?_⟩
      rcases (response : Except String Unit) with _ | _
      · rfl
      · by_cases hid : state.transferId = transferId
        · subst hid
          simp [Daemon.saveSend, noteSendFile]
        · simp [Daemon.saveSend, noteSendFile, hid, AList.lookup_insert_ne (Ne.symm hid)]
  | isCancelled token =>
      obtain ⟨-, hsame⟩ := Option.ite_none_right_eq_some.mp h
      obtain rfl := Option.some.inj hsame
      exact ⟨trivial, rfl⟩
  | importSources sources cancel =>
      obtain ⟨reports, outcome⟩ := response
      cases outcome with
      | cancelled =>
          obtain ⟨-, hsame⟩ := Option.ite_none_right_eq_some.mp h
          obtain rfl := Option.some.inj hsame
          exact ⟨trivial, rfl⟩
      | finished result =>
          obtain rfl := Option.some.inj h
          exact ⟨trivial, rfl⟩
  | collectFilePreview | collectImportSources | collectionStatus | tryEmit =>
      obtain rfl := Option.some.inj h
      exact ⟨trivial, rfl⟩
  | _ => exact hrequest.elim

theorem exec_preparing {α : Type} {transferId : Uuid} {p : SendProg α}
    {daemon daemon' : Daemon} {log : List (Exchange SendSig)} {value : α}
    (h : Prog.Exec (fun request response daemon daemon' =>
      Daemon.perform 0 request response daemon = some daemon') p daemon log value daemon')
    (hp : p.All SendRequest.Preparing) :
    Prog.Exec (preparingAct transferId) p (daemon.sendFiles.lookup transferId, .none) log value
      (daemon'.sendFiles.lookup transferId, filesTold log) := by
  have hnoted := (h.of_all hp).noted FilesTold.note .none
  refine hnoted.map (fun both => (both.1.sendFiles.lookup transferId, both.2))
    (I := fun _ => True) ?_ trivial
  rintro request response ⟨daemon, told⟩ ⟨daemon', told'⟩ - ⟨⟨hrequest, hperform⟩, htold⟩
  obtain ⟨hsees, hfile⟩ := perform_preparing hrequest hperform
  exact ⟨trivial, hsees, Prod.ext hfile htold⟩

/-- How a part of `prepare_send_payload` ends. -/
abbrev Prepares {α : Type} (transferId : Uuid) (p : SendProg α)
    (post : α → Option SendTransferState × FilesTold → Prop)
    (state : Option SendTransferState × FilesTold) : Prop :=
  p.Ensures (fun _ _ => True) (preparingAct transferId) post state

/-- Requests after which the state file and what is known of the files are the same. -/
def SendRequest.Idle : SendRequest → Prop
  | .isCancelled _ | .readSendState _ | .collectImportSources _ | .collectionStatus _ _
  | .tryEmit _ _ _ _ => True
  | _ => False

section Prepares

variable {α : Type} {transferId : Uuid} {before : Option SendTransferState × FilesTold}

theorem prepares_idle {p : SendProg α} (hp : p.All SendRequest.Idle) :
    Prepares transferId p (fun _ after => after = before) before := by
  refine .of_all (I := (· = before)) hp (fun _ _ _ _ => trivial) ?_ (fun _ _ h => h) rfl
  rintro request response _ _ hrequest rfl ⟨-, rfl⟩
  cases request with
  | readSendState other => cases response <;> rfl
  | isCancelled | collectImportSources | collectionStatus | tryEmit => rfl
  | _ => exact hrequest.elim

theorem prepares_saveSendState {state : SendTransferState} (hid : state.transferId = transferId)
    {post : Except String Unit → Option SendTransferState × FilesTold → Prop}
    (herror : ∀ message, post (.error message) before)
    (hok : post (.ok ()) (some state, before.2)) :
    Prepares transferId (saveSendState state).run post before := by
  refine ⟨trivial, ?_⟩
  rintro response _ ⟨-, rfl⟩
  rcases (response : Except String Unit) with message | _
  · exact herror message
  · have hfile : noteSendFile transferId before.1
        ⟨.saveSendState state, (.ok () : Except String Unit)⟩ = some state := if_pos hid
    change post _ (noteSendFile transferId before.1 ⟨.saveSendState state, _⟩, before.2)
    rw [hfile]
    exact hok

/-- The state that a call begins with. -/
def BegunWith (target : DeviceId) (transferId : Uuid) (paths : List SendPathSpec) (resume : Bool)
    (saved : Option SendTransferState) (told : FilesTold) (state : SendTransferState) : Prop :=
  if resume then saved = some state
  else ∃ previews, told.previewed = some previews ∧
    state =
      { transferId, target, paths
        stage := .importing
        collectionHash := none
        entries := previews
        bytesDone := 0
        bytesTotal := bytesTotal previews
        error := none }

theorem prepares_loadOrInit (paths : List SendPathSpec) (target : DeviceId) (resume : Bool)
    (saved : Option SendTransferState) :
    Prepares transferId (loadOrInitSendState paths target transferId resume).run
      (fun result after => ∀ begun, result = .ok begun →
        after.1 = saved ∧ after.2.imported = none ∧
          BegunWith target transferId paths resume saved after.2 begun.2) (saved, .none) := by
  unfold loadOrInitSendState
  cases resume with
  | true =>
      refine Prog.ensures_tryBind.mpr ⟨trivial, ?_⟩
      rintro response _ ⟨hsees, rfl⟩
      rcases (response : Except String SendTransferState) with message | state
      · rintro begun ⟨⟩
      · have hsaved : saved = some state := hsees rfl
        change Prog.Ensures _ _ (ExceptT.run (if state.stage = .complete then _ else _)) _ _
        split
        · rintro begun ⟨⟩
        · rintro begun ⟨⟩
          exact ⟨rfl, rfl, hsaved⟩
  | false =>
      refine Prog.ensures_tryBind.mpr ⟨trivial, ?_⟩
      rintro response _ ⟨-, rfl⟩
      rcases (response : Except String (List FileEntry)) with message | previews
      · rintro begun ⟨⟩
      · rintro begun ⟨⟩
        exact ⟨rfl, rfl, previews, rfl, rfl⟩

/-- What the import leaves of the state; nothing is changed if none was needed. -/
def SendTransferState.imports (state : SendTransferState) (imported : Option (List FileEntry))
    (state' : SendTransferState) : Prop :=
  match imported with
  | some entries => ∃ hash, state' =
      { state with
        collectionHash := some hash
        entries
        bytesDone := state.bytesTotal
        stage := .readyToSend }
  | none => state' = state

theorem idle_emitImportProgress (reports : List BlobProgress) :
    (emitImportProgress reports).All SendRequest.Idle := by
  induction reports with
  | nil => trivial
  | cons report reports ih => exact .bind (all_ask trivial) fun _ => ih

theorem idle_collectionImportNeeded (collectionHash : Option String) (totalBytes : UInt64) :
    (collectionImportNeeded collectionHash totalBytes).All SendRequest.Idle := by
  cases collectionHash with
  | none => trivial
  | some hash =>
      refine .bind (all_ask trivial) fun status => ?_
      rcases status with message | ⟨_, _, complete⟩ <;> trivial

theorem prepares_importCollection (paths : List SendPathSpec) {state : SendTransferState}
    (hid : state.transferId = transferId) (cancel : Token) :
    Prepares transferId (importCollection paths state cancel).run (fun result after =>
      ∀ state', result = .ok state' →
        after.2.previewed = before.2.previewed ∧ state.imports after.2.imported state')
      before := by
  subst hid
  refine Prog.ensures_tryBind.mpr (prepares_saveSendState rfl ?_ ?_)
  · rintro message state' ⟨⟩
  have hidle : ∀ request, request.Idle → ∀ before, Prepares state.transferId (ask request)
      (fun _ after => after = before) before :=
    fun request hrequest before => prepares_idle (all_ask hrequest)
  refine Prog.ensures_tryBind.mpr (Prog.ensures_lift.mpr ((hidle _ ?_ _).mono ?_))
  · trivial
  rintro _ _ rfl
  refine Prog.ensures_tryBind.mpr ((hidle (.collectImportSources paths) trivial _).mono ?_)
  rintro (message | sources) _ rfl
  · rintro state' ⟨⟩
  refine Prog.ensures_tryBind.mpr (Prog.ensures_tryBind.mpr (Prog.ensures_lift.mpr ⟨trivial, ?_⟩))
  rintro ⟨reports, outcome⟩ _ ⟨-, rfl⟩
  refine Prog.ensures_tryBind.mpr (Prog.ensures_lift.mpr
    ((prepares_idle (idle_emitImportProgress reports)).mono ?_))
  rintro _ _ rfl
  rcases outcome with _ | message | ⟨hash, entries⟩
  · rintro state' ⟨⟩
  · rintro state' ⟨⟩
  refine Prog.ensures_tryBind.mpr (prepares_saveSendState rfl ?_ ?_)
  · rintro message state' ⟨⟩
  refine Prog.ensures_tryBind.mpr (Prog.ensures_lift.mpr ((hidle _ ?_ _).mono ?_))
  · trivial
  rintro _ _ rfl
  rintro state' ⟨⟩
  exact ⟨rfl, hash, rfl⟩

theorem prepares_ensureImported (paths : List SendPathSpec) {state : SendTransferState}
    (hid : state.transferId = transferId) (cancel : Token) (hnone : before.2.imported = none) :
    Prepares transferId (ensureImported paths state cancel).run (fun result after =>
      ∀ state', result = .ok state' →
        after.2.previewed = before.2.previewed ∧ state.imports after.2.imported state')
      before := by
  refine Prog.ensures_tryBind.mpr (Prog.ensures_lift.mpr
    ((prepares_idle (idle_collectionImportNeeded _ _)).mono ?_))
  rintro needed _ rfl
  cases needed with
  | true => exact prepares_importCollection paths hid cancel
  | false =>
      refine Prog.ensures_tryBind.mpr (Prog.ensures_lift.mpr ((prepares_idle ?_).mono ?_))
      · exact .bind (all_ask trivial) fun _ => all_ask trivial
      · rintro _ _ rfl
        rintro state' ⟨⟩
        refine ⟨rfl, ?_⟩
        rw [hnone]
        rfl

theorem prepares_checkCancelled (cancel : Token) :
    Prepares transferId (checkCancelled cancel).run (fun _ after => after = before) before := by
  refine prepares_idle (.tryBind (.lift (all_ask trivial)) fun cancelled => ?_)
  cases cancelled <;> trivial

theorem begun_transferId {target : DeviceId} {paths : List SendPathSpec} {resume : Bool}
    {saved : Option SendTransferState} {told : FilesTold} {state : SendTransferState}
    (hsaved : ∀ state, saved = some state → state.transferId = transferId)
    (h : BegunWith target transferId paths resume saved told state) :
    state.transferId = transferId := by
  cases resume with
  | true => exact hsaved state h
  | false =>
      obtain ⟨previews, -, rfl⟩ := h
      rfl

theorem imports_transferId {state imported : SendTransferState}
    {entries : Option (List FileEntry)} (h : state.imports entries imported) :
    imported.transferId = state.transferId := by
  cases entries with
  | none =>
      have h : imported = state := h
      rw [h]
  | some entries =>
      obtain ⟨hash, rfl⟩ := h
      rfl

theorem describes_iff {target : DeviceId} {paths : List SendPathSpec} {resume : Bool}
    {saved : Option SendTransferState} {told : FilesTold} {begun imported : SendTransferState}
    {payload : SendPayload} (hbegun : BegunWith target transferId paths resume saved told begun)
    (himported : begun.imports told.imported imported)
    (hhash : imported.collectionHash = some payload.collectionHash)
    (hentries : payload.entries = imported.entries) :
    ({ imported with stage := .waitingAck } : SendTransferState).Describes target payload ↔
      Accurate target resume saved told := by
  have hfields : ({ imported with stage := .waitingAck } : SendTransferState).Describes target
      payload ↔ imported.target = target ∧ imported.error = none ∧
        imported.bytesDone = bytesTotal imported.entries ∧
        imported.bytesTotal = bytesTotal imported.entries := by
    constructor
    · rintro ⟨-, herror, htarget, -, -, htotal, hdone⟩
      exact ⟨htarget, herror, hentries ▸ hdone, hentries ▸ htotal⟩
    · rintro ⟨htarget, herror, hdone, htotal⟩
      exact ⟨rfl, herror, htarget, hentries.symm, hhash, hentries ▸ htotal, hentries ▸ hdone⟩
  rw [hfields]
  cases resume with
  | true =>
      have hbegun : saved = some begun := hbegun
      cases hentered : told.imported with
      | none =>
          rw [hentered] at himported
          have himported : imported = begun := himported
          simp [Accurate, hbegun, hentered, himported]
      | some entries =>
          rw [hentered] at himported
          obtain ⟨hash, rfl⟩ := himported
          simp [Accurate, hbegun, hentered]
  | false =>
      obtain ⟨previews, hpreviewed, rfl⟩ := hbegun
      cases hentered : told.imported with
      | none =>
          rw [hentered] at himported
          have himported : imported = _ := himported
          rw [himported] at hhash
          cases hhash
      | some entries =>
          rw [hentered] at himported
          obtain ⟨hash, rfl⟩ := himported
          simp [Accurate, hpreviewed, hentered]

/-- A call that returns a payload has saved a state, which describes the payload exactly if
what was known before the import is still right. -/
theorem prepares_payload (limits : ClipboardLimits) (senderName : String)
    (paths : List SendPathSpec) (target : DeviceId) (resume : Bool) (cancel : Token)
    {saved : Option SendTransferState}
    (hsaved : ∀ state, saved = some state → state.transferId = transferId) :
    Prepares transferId
      (prepareSendPayload limits senderName paths target transferId resume cancel).run
      (fun result after => ∀ payload, result = .ok payload →
        ∃ state, after.1 = some state ∧
          (state.Describes target payload ↔ Accurate target resume saved after.2))
      (saved, .none) := by
  refine Prog.ensures_tryBind.mpr ((prepares_checkCancelled cancel).mono ?_)
  rintro (message | _) _ rfl
  · rintro payload ⟨⟩
  refine Prog.ensures_tryBind.mpr ((prepares_loadOrInit paths target resume saved).mono ?_)
  rintro (message | ⟨sendPaths, begun⟩) after hbegun
  · rintro payload ⟨⟩
  obtain ⟨hfile, hnone, hbegun⟩ := hbegun _ rfl
  have hid := begun_transferId hsaved hbegun
  subst hid
  refine Prog.ensures_tryBind.mpr ?_
  change Prog.Ensures _ _ (.ret (limits.validateEntries _)) _ _
  cases limits.validateEntries (begun.entries.map fun entry => (entry.name, entry.size)) with
  | error message => rintro payload ⟨⟩
  | ok _ =>
      refine Prog.ensures_tryBind.mpr (prepares_saveSendState rfl ?_ ?_)
      · rintro message payload ⟨⟩
      have hensure := @prepares_ensureImported begun.transferId (some begun, after.2) sendPaths
        begun rfl cancel hnone
      refine Prog.ensures_tryBind.mpr (hensure.mono ?_)
      rintro (message | imported) after' hended
      · rintro payload ⟨⟩
      obtain ⟨hpreviewed, himported⟩ := hended _ rfl
      have hid := imports_transferId himported
      refine Prog.ensures_tryBind.mpr ((prepares_checkCancelled cancel).mono ?_)
      rintro (message | _) after'' hsame
      · rintro payload ⟨⟩
      rw [hsame]
      refine Prog.ensures_tryBind.mpr (prepares_saveSendState ?_ ?_ ?_)
      · exact hid
      · rintro message payload ⟨⟩
      have hbegun : BegunWith target begun.transferId paths resume saved after'.2 begun := by
        rw [BegunWith, hpreviewed]
        exact hbegun
      cases hhash : imported.collectionHash with
      | none => rintro payload ⟨⟩
      | some collectionHash =>
          rintro payload ⟨⟩
          refine ⟨{ imported with stage := .waitingAck }, ?_,
            describes_iff hbegun himported hhash rfl⟩
          rw [hhash]

end Prepares

/-- What `prepare_send_payload` leaves in the state file describes the payload it returns exactly
if what was saved before the import is still right after it. -/
theorem prepared_describes_iff {limits : ClipboardLimits} {senderName : String}
    {paths : List SendPathSpec} {target : DeviceId} {transferId : Uuid} {resume : Bool}
    {cancel : Token} {daemon daemon' : Daemon} {log : List (Exchange SendSig)}
    {payload : SendPayload}
    (horderly : daemon.Orderly)
    (hrun : Prog.Exec (fun request response daemon daemon' =>
      Daemon.perform 0 request response daemon = some daemon')
      (prepareSendPayload limits senderName paths target transferId resume cancel).run daemon log
      (.ok payload) daemon') :
    ∃ state, daemon'.sendFiles.lookup transferId = some state ∧
      (state.Describes target payload ↔
        Accurate target resume (daemon.sendFiles.lookup transferId) (filesTold log)) := by
  have hseen := @exec_preparing _ transferId _ _ _ _ _ hrun
    (preparing_prepareSendPayload limits senderName paths target transferId resume cancel)
  have hends := prepares_payload limits senderName paths target resume cancel
    (horderly.sends transferId)
  exact hends.exec hseen payload rfl

/-- Surroundings in which a file has one size when it is previewed and one when it is imported. -/
def measuring (previewed imported : UInt64) (daemon : Daemon) :
    (request : SendRequest) → Option request.Response
  | .importSources sources cancel =>
      daemon.oblige { laptop with sizeOf := fun _ => imported } (.importSources sources cancel)
  | request => daemon.oblige { laptop with sizeOf := fun _ => previewed } request

theorem prepared_measured :
    ∃ log payload daemon',
      Prog.Exec (fun request response daemon daemon' =>
        Daemon.perform 0 request response daemon = some daemon')
        (prepareSendPayload .default "desk" photosRequest.paths ⟨2⟩ 7 false []).run .empty log
        (.ok payload) daemon' ∧
      ∃ state, daemon'.sendFiles.lookup 7 = some state ∧ state.Describes ⟨2⟩ payload := by
  have hdrive : (Prog.drive (Daemon.perform 0) (measuring 42 42)
      (prepareSendPayload .default "desk" photosRequest.paths ⟨2⟩ 7 false []).run .empty).any
        (fun (log, result, _) => result.isOk &&
          (filesTold log).previewed.map bytesTotal = (filesTold log).imported.map bytesTotal) =
            true := by
    decide +kernel
  obtain ⟨⟨log, result, daemon'⟩, hdrive, hended⟩ := Option.any_eq_true _ _ |>.mp hdrive
  obtain ⟨hok, hsame⟩ := Bool.and_eq_true_iff.mp hended
  rcases result with message | payload
  · cases hok
  have hexec := Prog.exec_of_drive hdrive
  obtain ⟨state, hstate, hiff⟩ := prepared_describes_iff orderly_empty hexec
  refine ⟨log, payload, daemon', hexec, state, hstate, hiff.mpr ?_⟩
  exact of_decide_eq_true (p := _ = _) hsame

/-- A file grows between the preview and the import: the totals that are saved are those of the
preview. -/
theorem prepared_grown :
    ∃ log payload daemon' state,
      Prog.Exec (fun request response daemon daemon' =>
        Daemon.perform 0 request response daemon = some daemon')
        (prepareSendPayload .default "desk" photosRequest.paths ⟨2⟩ 7 false []).run .empty log
        (.ok payload) daemon' ∧
      daemon'.sendFiles.lookup 7 = some state ∧ state.bytesTotal = 42 ∧
      bytesTotal payload.entries = 43 ∧ ¬ state.Describes ⟨2⟩ payload := by
  have hdrive : (Prog.drive (Daemon.perform 0) (measuring 42 43)
      (prepareSendPayload .default "desk" photosRequest.paths ⟨2⟩ 7 false []).run .empty).any
        (fun (_, result, daemon') => result.toOption.any fun payload =>
          (daemon'.sendFiles.lookup 7).any fun state =>
            state.bytesTotal = 42 && bytesTotal payload.entries = 43) = true := by
    decide +kernel
  obtain ⟨⟨log, result, daemon'⟩, hdrive, hended⟩ := Option.any_eq_true _ _ |>.mp hdrive
  obtain ⟨payload, hpayload, hended⟩ := Option.any_eq_true _ _ |>.mp hended
  obtain ⟨state, hstate, hended⟩ := Option.any_eq_true _ _ |>.mp hended
  obtain ⟨hsaved, hsent⟩ := Bool.and_eq_true_iff.mp hended
  have hsaved : state.bytesTotal = 42 := of_decide_eq_true hsaved
  have hsent : bytesTotal payload.entries = 43 := of_decide_eq_true hsent
  rcases result with message | payload'
  · cases hpayload
  obtain rfl : payload' = payload := Option.some.inj hpayload
  refine ⟨log, payload', daemon', state, Prog.exec_of_drive hdrive, hstate, hsaved, hsent, ?_⟩
  intro hdescribes
  have htotal := hdescribes.bytesTotal
  rw [hsaved, hsent] at htotal
  exact absurd htotal (by decide)

end Failsafe.Send
