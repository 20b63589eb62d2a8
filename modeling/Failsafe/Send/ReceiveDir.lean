import Failsafe.Lib.Ensures
import Failsafe.Send.Retransmission
import Failsafe.Send.Session

/-!
Where the directory that a receive is exported into comes from: `receive_dir` of
`failsafe-send/src/inbound.rs`, and the state file that `run_receive` keeps it in.
-/

namespace Failsafe.Send

open Failsafe.Core Failsafe.Clipboard Failsafe.Lib

/-- What a call of `receive_dir` reads: the base directory, the name of the sender and the
clock. -/
structure DirReading where
  base : String
  senderName : String
  timestamp : String
deriving DecidableEq

def DirReading.path (reading : DirReading) (transferId : Uuid) : String :=
  reading.base ++ "/" ++ sanitizePathComponent reading.senderName ++ "/" ++ reading.timestamp ++
    "-" ++ String.ofList ((Uuid.toText transferId).toList.take 8)

def savedState? : Exchange SendSig → Option ReceiveTransferState
  | ⟨.saveReceiveState state, _⟩ => some state
  | _ => none

def baseDir? : Exchange SendSig → Option String
  | ⟨.downloadsBaseDir, base⟩ => base
  | _ => none

def timestamp? : Exchange SendSig → Option String
  | ⟨.localTimestamp, timestamp⟩ => some timestamp
  | _ => none

theorem timestamp?_saved (state : ReceiveTransferState) (response : Except String Unit) :
    timestamp? ⟨.saveReceiveState state, response⟩ = none := rfl

/-- What `receive_dir` has just read, at the end of a history. -/
def lastReading (history : List (Exchange SendSig)) : Option DirReading :=
  match history.reverse with
  | clock :: base :: saved :: _ => do
      return { base := ← baseDir? base, senderName := (← savedState? saved).senderName,
               timestamp := ← timestamp? clock }
  | _ => none

theorem lastReading_saved (history : List (Exchange SendSig)) (state : ReceiveTransferState)
    (response : Except String Unit) :
    lastReading (history ++ [⟨.saveReceiveState state, response⟩]) = none := by
  rw [lastReading, List.reverse_append]
  rcases history.reverse with _ | ⟨base, _ | ⟨saved, rest⟩⟩
  · rfl
  · rfl
  · cases hbase : baseDir? base <;> cases hsaved : savedState? saved <;>
      simp [hbase, hsaved, timestamp?_saved]

theorem lastReading_read (history : List (Exchange SendSig)) (state : ReceiveTransferState)
    (response : Except String Unit) (base timestamp : String) :
    lastReading (history ++ [⟨.saveReceiveState state, response⟩] ++
      [⟨.downloadsBaseDir, some base⟩] ++ [⟨.localTimestamp, timestamp⟩]) =
        some { base, senderName := state.senderName, timestamp } := by
  rw [lastReading, List.reverse_append, List.reverse_append, List.reverse_append]
  rfl

/-- A state file was read that names the directory. -/
def DirHeard (transferId : Uuid) (history : List (Exchange SendSig)) (dir : String) : Prop :=
  ∃ (filed : Uuid) (state : ReceiveTransferState),
    (⟨.loadReceiveState filed, .ok state⟩ ∈ history ∨
      ⟨.readReceiveState filed, .ok state⟩ ∈ history) ∧
    state.transferId = transferId ∧ state.receiveDir = some dir

def DirExported (transferId : Uuid) (history : List (Exchange SendSig)) (dir : String) : Prop :=
  ∃ root response, ⟨.exportCollection transferId root dir, response⟩ ∈ history

/-- Where a directory that is exported into comes from. -/
def DirSource (transferId : Uuid) (history : List (Exchange SendSig)) (dir : String) :
    Option DirReading → Prop
  | some reading => dir = reading.path transferId
  | none => DirHeard transferId history dir

/-- Where a directory that is saved or exported into comes from. -/
def DirGuard (transferId : Uuid) (history : List (Exchange SendSig)) : SendRequest → Prop
  | .saveReceiveState state =>
      ∀ dir, state.transferId = transferId → state.receiveDir = some dir →
        DirHeard transferId history dir ∨ DirExported transferId history dir
  | .exportCollection exported _ dir =>
      exported = transferId → DirSource transferId history dir (lastReading history)
  | _ => True

/-- The requests that `DirGuard` says nothing about. -/
def SendRequest.Undirected : SendRequest → Prop
  | .saveReceiveState _ | .exportCollection _ _ _ => False
  | _ => True

theorem SendRequest.Undirected.guard {request : SendRequest} (h : request.Undirected)
    (transferId : Uuid) (history : List (Exchange SendSig)) :
    DirGuard transferId history request := by
  cases request <;> first | exact h.elim | trivial

theorem DirHeard.mono {transferId : Uuid} {history history' : List (Exchange SendSig)}
    {dir : String} (h : DirHeard transferId history dir) (hgrown : history <+: history') :
    DirHeard transferId history' dir := by
  obtain ⟨filed, state, hread, hstate⟩ := h
  exact ⟨filed, state, hread.imp (fun h => hgrown.subset h) (fun h => hgrown.subset h), hstate⟩

section Programs

variable {transferId : Uuid} {history : List (Exchange SendSig)}

theorem undirected_ensures {α : Type} {p : SendProg α}
    (hp : p.All SendRequest.Undirected) :
    p.Ensures (DirGuard transferId) Prog.heard (fun _ history' => history <+: history')
      history := by
  refine .of_all hp (fun _ _ _ hrequest => hrequest.guard _ _) ?_ (fun _ _ h => h)
    List.prefix_rfl
  rintro request response middle _ - hahead rfl
  exact hahead.trans (List.prefix_append _ _)

/-- What a state says about its directory was read from a file. -/
def StateHeard (transferId : Uuid) (history : List (Exchange SendSig))
    (state : ReceiveTransferState) : Prop :=
  ∀ dir, state.transferId = transferId → state.receiveDir = some dir →
    DirHeard transferId history dir

theorem StateHeard.mono {history' : List (Exchange SendSig)} {state : ReceiveTransferState}
    (h : StateHeard transferId history state) (hgrown : history <+: history') :
    StateHeard transferId history' state :=
  fun dir hid hdir => (h dir hid hdir).mono hgrown

theorem quiet_undirected {α : Type} {p : SendProg α} (h : p.All SendRequest.Quiet) :
    p.All SendRequest.Undirected :=
  h.mono fun request hquiet => by cases request <;> first | exact hquiet.elim | trivial

theorem saveReceiveState_ensures {state : ReceiveTransferState}
    (hstate : StateHeard transferId history state) :
    (saveReceiveState state).run.Ensures (DirGuard transferId) Prog.heard
      (fun result history' => history' = history ++ [⟨.saveReceiveState state, result⟩])
      history := by
  refine ⟨fun dir hid hdir => .inl (hstate dir hid hdir), ?_⟩
  rintro response _ rfl
  rfl

theorem undirected_bind {ε α β : Type} {p : SendProg α} {f : α → SendTry ε β}
    {post : Except ε β → List (Exchange SendSig) → Prop} (hp : p.All SendRequest.Undirected)
    (hf : ∀ value history', history <+: history' →
      (f value).run.Ensures (DirGuard transferId) Prog.heard post history') :
    ((liftM p : SendTry ε α) >>= f).run.Ensures (DirGuard transferId) Prog.heard post history :=
  Prog.ensures_tryBind.mpr (Prog.ensures_lift.mpr
    ((undirected_ensures hp).mono fun value history' hgrown => hf value history' hgrown))

theorem liftExcept_bind {ε α β : Type} {result : Except ε α} {f : α → SendTry ε β}
    {post : Except ε β → List (Exchange SendSig) → Prop}
    (herror : ∀ error, result = .error error → post (.error error) history)
    (hf : ∀ value, result = .ok value →
      (f value).run.Ensures (DirGuard transferId) Prog.heard post history) :
    (liftExcept result >>= f).run.Ensures (DirGuard transferId) Prog.heard post history := by
  refine Prog.ensures_tryBind.mpr ?_
  cases result with
  | ok value => exact hf value rfl
  | error error => exact herror error rfl

theorem downloadReceive_ensures (limits : ClipboardLimits) {state : ReceiveTransferState}
    (hstate : StateHeard transferId history state) :
    (downloadReceive limits state).run.Ensures (DirGuard transferId) Prog.heard
      (fun result history' => result = .ok () → ∃ earlier response, history <+: earlier ∧
        history' = earlier ++ [⟨.saveReceiveState state.downloaded, response⟩]) history := by
  have hdownloading : StateHeard transferId history { state with stage := .downloading } :=
    hstate
  refine liftExcept_bind (fun _ _ h => by cases h) fun _ _ => ?_
  refine Prog.ensures_tryBind.mpr ((saveReceiveState_ensures hdownloading).mono ?_)
  rintro result history₁ rfl
  cases result with
  | error error => exact fun h => by cases h
  | ok _ =>
      have hgrown := List.prefix_append history
        [⟨.saveReceiveState { state with stage := .downloading }, .ok ()⟩]
      refine undirected_bind (quiet_undirected (quiet_emitProgress _ _)) fun _ history₂ h₂ => ?_
      refine undirected_bind ⟨trivial, fun _ => trivial⟩ ?_
      rintro ⟨downloads, downloaded⟩ history₃ h₃
      refine undirected_bind (quiet_undirected (quiet_emitProgress _ _)) fun _ history₄ h₄ => ?_
      have h := hgrown.trans (h₂.trans (h₃.trans h₄))
      refine liftExcept_bind (fun _ _ h => by cases h) fun _ _ => ?_
      have hdownloaded : StateHeard transferId history₄ state.downloaded := hstate.mono h
      refine (saveReceiveState_ensures hdownloaded).mono ?_
      rintro result history₅ rfl -
      exact ⟨history₄, result, h, rfl⟩

theorem exportTo_ensures {state : ReceiveTransferState} {dir : String}
    (hdir : state.transferId = transferId →
      DirSource transferId history dir (lastReading history)) :
    (do
      let (exports, exported) ← exportCollection state.transferId state.collectionHash dir
      emitProgress state.sender (exports.map fun progress =>
        state.report .storing state.bytesTotal state.bytesTotal progress.currentFile)
      let count ← liftExcept exported
      emitProgress state.sender [state.report .storing state.bytesTotal state.bytesTotal none]
      saveReceiveState
        { state with receiveDir := some dir, stage := .complete, bytesDone := state.bytesTotal }
      notifyFilesReceived state.senderName count dir :
        SendTry String Unit).run.Ensures (DirGuard transferId) Prog.heard (fun _ _ => True)
      history := by
  refine Prog.ensures_tryBind.mpr (Prog.ensures_lift.mpr ⟨hdir, ?_⟩)
  rintro ⟨exports, exported⟩ _ rfl
  refine undirected_bind (quiet_undirected (quiet_emitProgress _ _)) fun _ history₂ h₂ => ?_
  refine liftExcept_bind (fun _ _ => trivial) fun count hcount => ?_
  refine undirected_bind (quiet_undirected (quiet_emitProgress _ _)) fun _ history₃ h₃ => ?_
  refine Prog.ensures_tryBind.mpr ⟨fun dir' hid hdir' => .inr ?_, ?_⟩
  · obtain rfl : dir = dir' := Option.some.inj hdir'
    have hid : state.transferId = transferId := hid
    subst hid
    refine ⟨state.collectionHash, (exports, exported), (h₂.trans h₃).subset ?_⟩
    exact List.mem_append_right _ (List.mem_singleton.mpr rfl)
  · rintro response _ rfl
    cases response with
    | error error => trivial
    | ok _ => exact ⟨trivial, fun _ _ _ => trivial⟩

theorem exportReceive_ensures {state : ReceiveTransferState} {response : Except String Unit}
    (hstate : StateHeard transferId history state) :
    (exportReceive state).run.Ensures (DirGuard transferId) Prog.heard (fun _ _ => True)
      (history ++ [⟨.saveReceiveState state, response⟩]) := by
  refine Prog.ensures_tryBind.mpr (Prog.ensures_lift.mpr ?_)
  cases hdir : state.receiveDir with
  | some dir =>
      rw [chooseReceiveDir, hdir]
      refine exportTo_ensures fun hid => ?_
      rw [lastReading_saved]
      exact (hstate dir hid hdir).mono (List.prefix_append _ _)
  | none =>
      rw [chooseReceiveDir, hdir]
      refine ⟨trivial, ?_⟩
      rintro base _ rfl
      cases base with
      | none => trivial
      | some base =>
          refine ⟨trivial, ?_⟩
          rintro (timestamp : String) _ rfl
          refine exportTo_ensures fun hid => ?_
          have hread := lastReading_read history state response base timestamp
          refine Eq.mpr (congrArg (DirSource transferId _ _) hread) ?_
          rw [← hid]
          rfl

theorem runReceive_ensures (limits : ClipboardLimits) {state : ReceiveTransferState}
    (hstate : StateHeard transferId history state) :
    (runReceive limits state).run.Ensures (DirGuard transferId) Prog.heard
      (fun _ history' => history <+: history') history := by
  have hrun : (runReceive limits state).run.Ensures (DirGuard transferId) Prog.heard
      (fun _ _ => True) history := by
    refine Prog.ensures_tryBind.mpr ((downloadReceive_ensures limits hstate).mono ?_)
    rintro result history' hdone
    cases result with
    | error error => trivial
    | ok _ =>
        obtain ⟨earlier, response, hgrown, rfl⟩ := hdone rfl
        have hdownloaded : StateHeard transferId earlier state.downloaded := hstate.mono hgrown
        exact exportReceive_ensures hdownloaded
  exact hrun.grows.mono fun _ _ h => h.2

theorem undirected_then {α β : Type} {p : SendProg α} {f : α → SendProg β}
    {post : β → List (Exchange SendSig) → Prop} (hp : p.All SendRequest.Undirected)
    (hf : ∀ value history', history <+: history' →
      (f value).Ensures (DirGuard transferId) Prog.heard post history') :
    (p >>= f).Ensures (DirGuard transferId) Prog.heard post history :=
  Prog.ensures_bind.mpr ((undirected_ensures hp).mono hf)

theorem loadReceiveState_ensures (filed : Uuid) :
    (loadReceiveState filed).run.Ensures (DirGuard transferId) Prog.heard
      (fun result history' => history <+: history' ∧
        ∀ state, result = .ok state → StateHeard transferId history' state) history := by
  refine ⟨trivial, ?_⟩
  rintro result _ rfl
  refine ⟨List.prefix_append _ _, fun state hresult dir hid hdir => ?_⟩
  cases hresult
  exact ⟨filed, state, .inl (List.mem_append_right _ (List.mem_singleton.mpr rfl)), hid, hdir⟩

theorem savedOrFresh_ensures («from» : DeviceId) (payload : SendPayload) :
    (savedOrFresh «from» payload).Ensures (DirGuard transferId) Prog.heard
      (fun state history' => StateHeard transferId history' state) history := by
  refine Prog.ensures_bind.mpr ((loadReceiveState_ensures payload.transferId).mono ?_)
  rintro result history' ⟨-, hheard⟩
  cases result with
  | ok saved => exact hheard saved rfl
  | error error => exact fun dir _ hdir => nomatch hdir

theorem reportReceiveFailure_ensures («from» : DeviceId) (failed : Uuid) (message : String) :
    (reportReceiveFailure «from» failed message).Ensures (DirGuard transferId) Prog.heard
      (fun _ _ => True) history := by
  refine Prog.ensures_bind.mpr ((loadReceiveState_ensures failed).mono ?_)
  rintro result history' ⟨-, hheard⟩
  cases result with
  | error error => exact ⟨trivial, fun _ _ _ => trivial⟩
  | ok state =>
      have hfailed : StateHeard transferId history'
          { state with stage := .failed, error := some message } := hheard state rfl
      refine Prog.ensures_bind.mpr ((saveReceiveState_ensures hfailed).mono ?_)
      exact fun _ _ _ => ⟨trivial, fun _ _ _ => trivial⟩

theorem undirected_acknowledgeAndRemove («from» : DeviceId) (acknowledged : Uuid)
    (receipt : String) :
    (acknowledgeAndRemove «from» acknowledged receipt).run.All SendRequest.Undirected :=
  .tryBind (.bind (all_ask trivial) fun _ => trivial) fun _ =>
    .tryBind (.lift (all_ask trivial)) fun _ => trivial

theorem handleTransferLocked_ensures (limits : ClipboardLimits) («from» : DeviceId)
    (payload : SendPayload) :
    (handleTransferLocked limits «from» payload).run.Ensures (DirGuard transferId) Prog.heard
      (fun _ _ => True) history := by
  have hquit : ∀ (receipt : String) (history' : List (Exchange SendSig)),
      (acknowledgeAndRemove «from» payload.transferId receipt).run.Ensures
        (DirGuard transferId) Prog.heard (fun _ _ => True) history' :=
    fun receipt _ => (undirected_ensures (undirected_acknowledgeAndRemove _ _ receipt)).mono
      fun _ _ _ => trivial
  unfold handleTransferLocked
  split
  · trivial
  · refine Prog.ensures_tryBind.mpr (Prog.ensures_lift.mpr ?_)
    refine (savedOrFresh_ensures «from» payload).mono fun state history₁ hstate => ?_
    dsimp only
    split
    · exact hquit _ _
    · have hrefreshed : StateHeard transferId history₁ (state.refresh «from» payload) := hstate
      refine Prog.ensures_tryBind.mpr (Prog.ensures_lift.mpr ?_)
      refine (runReceive_ensures limits hrefreshed).mono fun result history₂ _ => ?_
      cases result with
      | ok _ => exact hquit _ _
      | error message =>
          refine Prog.ensures_tryBind.mpr (Prog.ensures_lift.mpr ?_)
          exact (reportReceiveFailure_ensures _ _ _).mono fun _ _ _ => trivial

theorem locked_ensures {α : Type} {lock : LockId} {resumed : Option ReceiveTransferState}
    {body : SendProg α}
    (hbody : ∀ history', history <+: history' →
      body.Ensures (DirGuard transferId) Prog.heard (fun _ _ => True) history') :
    (locked lock resumed body).Ensures (DirGuard transferId) Prog.heard (fun _ _ => True)
      history := by
  refine undirected_then (all_ask trivial) fun _ history' hgrown => ?_
  refine Prog.ensures_bind.mpr ((hbody history' hgrown).mono fun _ _ _ => ?_)
  exact ⟨trivial, fun _ _ _ => trivial⟩

theorem handleTransfer_ensures (limits : ClipboardLimits) («from» : DeviceId)
    (payload : SendPayload) :
    (handleTransfer limits «from» payload).Ensures (DirGuard transferId) Prog.heard
      (fun _ _ => True) history := by
  refine undirected_then (all_ask trivial) fun lock _ _ => ?_
  refine Prog.ensures_bind.mpr ((locked_ensures fun _ _ =>
    handleTransferLocked_ensures _ _ _).mono fun _ _ _ => ?_)
  exact ⟨trivial, fun _ _ _ => ⟨trivial, fun _ _ _ => trivial⟩⟩

theorem readIncomplete_ensures (filed : List Uuid) :
    (readIncomplete filed).run.Ensures (DirGuard transferId) Prog.heard
      (fun result history' => history <+: history' ∧ ∀ states, result = .ok states →
        ∀ state ∈ states, StateHeard transferId history' state) history := by
  induction filed generalizing history with
  | nil => exact ⟨List.prefix_rfl, fun _ hstates => by cases hstates; simp⟩
  | cons first rest ih =>
      refine Prog.ensures_tryBind.mpr ⟨trivial, ?_⟩
      rintro (result : Except String ReceiveTransferState) _ rfl
      cases result with
      | error error => exact ⟨List.prefix_append _ _, fun _ h => nomatch h⟩
      | ok read =>
          have hread : StateHeard transferId (history ++ [⟨.readReceiveState first, .ok read⟩])
              read := fun dir hid hdir =>
            ⟨first, read, .inr (List.mem_append_right _ (List.mem_singleton.mpr rfl)), hid, hdir⟩
          refine Prog.ensures_tryBind.mpr (ih.mono ?_)
          rintro result history' ⟨hgrown, hstates⟩
          cases result with
          | error error => exact ⟨(List.prefix_append _ _).trans hgrown, fun _ h => nomatch h⟩
          | ok states =>
              refine ⟨(List.prefix_append _ _).trans hgrown, fun listed hlisted state hmem => ?_⟩
              obtain rfl := Except.ok.inj hlisted
              split at hmem
              · exact hstates states rfl state hmem
              · rcases List.mem_cons.mp hmem with rfl | hmem
                · exact hread.mono hgrown
                · exact hstates states rfl state hmem

theorem resumeListed_ensures (limits : ClipboardLimits) (connected : List DeviceId)
    {state : ReceiveTransferState} (hstate : StateHeard transferId history state) :
    (resumeListed limits connected state).Ensures (DirGuard transferId) Prog.heard
      (fun _ _ => True) history := by
  unfold resumeListed
  split
  · refine Prog.ensures_bind.mpr (undirected_then (all_ask trivial) fun lock _ h₁ => ?_)
    refine Prog.ensures_bind.mpr ((locked_ensures fun _ h₂ => ?_).mono fun result _ _ => ?_)
    · exact (runReceive_ensures limits ((hstate.mono h₁).mono h₂)).mono fun _ _ _ => trivial
    · refine undirected_then (all_ask trivial) fun _ _ _ => ?_
      cases result with
      | error error => trivial
      | ok _ =>
          refine ⟨trivial, ?_⟩
          rintro acked _ rfl
          cases acked with
          | error error => trivial
          | ok _ => exact ⟨trivial, fun _ _ _ => trivial⟩
  · trivial

theorem resumeEach_ensures (limits : ClipboardLimits) (connected : List DeviceId)
    {states : List ReceiveTransferState}
    (hstates : ∀ state ∈ states, StateHeard transferId history state) :
    (resumeEach limits connected states).Ensures (DirGuard transferId) Prog.heard
      (fun _ _ => True) history := by
  induction states generalizing history with
  | nil => trivial
  | cons state states ih =>
      obtain ⟨hfirst, hrest⟩ := List.forall_mem_cons.mp hstates
      refine Prog.ensures_bind.mpr ((resumeListed_ensures limits connected hfirst).grows.mono ?_)
      rintro _ history' ⟨-, hgrown⟩
      exact ih fun other hmem => (hrest other hmem).mono hgrown

theorem resumeIncompleteReceives_ensures (limits : ClipboardLimits) :
    (resumeIncompleteReceives limits).Ensures (DirGuard transferId) Prog.heard
      (fun _ _ => True) history := by
  have hlisted : listIncompleteReceives.run.Ensures (DirGuard transferId) Prog.heard
      (fun result history' => ∀ states, result = .ok states →
        ∀ state ∈ states, StateHeard transferId history' state) history := by
    refine Prog.ensures_tryBind.mpr ⟨trivial, ?_⟩
    rintro (result : Except String (List Uuid)) _ rfl
    cases result with
    | error error => exact fun _ h => nomatch h
    | ok filed => exact (readIncomplete_ensures filed).mono fun _ _ h => h.2
  refine Prog.ensures_bind.mpr (hlisted.mono fun result history' hstates => ?_)
  match result with
  | .error _ => trivial
  | .ok [] => trivial
  | .ok (state :: states) =>
      refine ⟨trivial, ?_⟩
      rintro connected _ rfl
      exact resumeEach_ensures limits connected fun other hmem =>
        (hstates _ rfl other hmem).mono (List.prefix_append _ _)

end Programs

end Failsafe.Send
