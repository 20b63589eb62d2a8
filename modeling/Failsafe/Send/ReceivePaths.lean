import Failsafe.Send.Answering
import Failsafe.Send.ReceiveProtocol

/-!
The two ways to go on with a saved receive: from the sender's message (`handle_transfer` of
`failsafe-send/src/feature.rs`) and from the saved state (`resume_incomplete_receives` of
`resume.rs`).
-/

namespace Failsafe.Send

open Failsafe.Core Failsafe.Clipboard Failsafe.Lib Failsafe.Transport

/-- What the disk, the blob store and the transport answer, given the saved state of the
transfer; `none` where they never answer. -/
abbrev Behaviour :=
  Option ReceiveTransferState → (request : SendRequest) → Option request.Response

/-- The locks answer for themselves.  Listing and loading both read a file by `read_state`. -/
def Behaviour.Answers (behave : Behaviour) (saved : Option ReceiveTransferState) :
    (request : SendRequest) → request.Response → Prop
  | .lockEntry _, _ | .lockAcquire _ _, _ | .lockRelease _, _ | .removeUnusedEntry _ _, _
  | .dropLock _, _ => True
  | .readReceiveState transferId, response =>
      behave saved (.loadReceiveState transferId) = some response
  | request, response => behave saved request = some response

/-- Running alone in such surroundings. -/
def Behaviour.alone (behave : Behaviour) (transferId : Uuid) (request : SendRequest)
    (response : request.Response) (daemon daemon' : Daemon) : Prop :=
  behave.Answers (daemon.receiveFiles.lookup transferId) request response ∧
    Daemon.perform 0 request response daemon = some daemon'

/-- What is left of a receive: its state file, and what the sender was told. -/
structure ReceiveView where
  saved : Option ReceiveTransferState
  acks : List (DeviceId × SendAck)

def SentMessage.ackFor (transferId : Uuid) (message : SentMessage) :
    Option (DeviceId × SendAck) :=
  match message.envelope with
  | .ack ack => if ack.transferId = transferId then some (message.to, ack) else none
  | _ => none

def Daemon.view (daemon : Daemon) (transferId : Uuid) : ReceiveView :=
  { saved := daemon.receiveFiles.lookup transferId
    acks := daemon.outbox.filterMap (SentMessage.ackFor transferId) }

namespace ReceiveView

def note (transferId : Uuid) (view : ReceiveView) : Exchange SendSig → ReceiveView
  | ⟨.saveReceiveState state, (.ok () : Except String Unit)⟩ =>
      if state.transferId = transferId then { view with saved := some state } else view
  | ⟨.removeReceiveState other, (.ok () : Except String Unit)⟩ =>
      if other = transferId then { view with saved := none } else view
  | ⟨.send «to» (.ack ack) _, _⟩ =>
      if ack.transferId = transferId then { view with acks := view.acks ++ [(«to», ack)] }
      else view
  | _ => view

/-- What is read is what was saved. -/
def Sees (transferId : Uuid) (view : ReceiveView) :
    (request : SendRequest) → request.Response → Prop
  | .loadReceiveState other, (.ok state : Except String ReceiveTransferState)
  | .readReceiveState other, (.ok state : Except String ReceiveTransferState) =>
      state.transferId = other ∧ (other = transferId → view.saved = some state)
  | .listReceiveStates, (.ok transferIds : Except String (List Uuid)) =>
      transferIds.Nodup ∧ (view.saved.isSome → transferId ∈ transferIds)
  | _, _ => True

end ReceiveView

/-- A step alone, as far as one transfer is concerned. -/
def Behaviour.shows (behave : Behaviour) (transferId : Uuid) (request : SendRequest)
    (response : request.Response) (view view' : ReceiveView) : Prop :=
  behave.Answers view.saved request response ∧ view.Sees transferId request response ∧
    view' = view.note transferId ⟨request, response⟩

section Views

variable {request : SendRequest} {response : request.Response} {daemon daemon' : Daemon}

theorem perform_view (h : Daemon.perform 0 request response daemon = some daemon')
    (transferId : Uuid) :
    daemon'.view transferId = (daemon.view transferId).note transferId ⟨request, response⟩ := by
  cases request with
  | saveReceiveState state =>
      obtain rfl := Option.some.inj h
      rcases (response : Except String Unit) with _ | _
      · rfl
      · by_cases hid : state.transferId = transferId
        · subst hid
          simp [Daemon.view, ReceiveView.note, Daemon.saveReceive]
        · simp [Daemon.view, ReceiveView.note, Daemon.saveReceive, hid,
            AList.lookup_insert_ne (Ne.symm hid)]
  | removeReceiveState other =>
      obtain rfl := Option.some.inj h
      rcases (response : Except String Unit) with _ | _
      · rfl
      · by_cases hfile : other ∈ daemon.receiveFiles
        · by_cases hid : other = transferId
          · subst hid
            simp [Daemon.view, ReceiveView.note, Daemon.removeReceive, hfile]
          · simp [Daemon.view, ReceiveView.note, Daemon.removeReceive, hfile, hid,
              AList.lookup_erase_ne (Ne.symm hid)]
        · have hnone : daemon.receiveFiles.lookup other = none :=
            AList.lookup_eq_none.mpr hfile
          by_cases hid : other = transferId
          · subst hid
            simp [Daemon.view, ReceiveView.note, Daemon.removeReceive, hfile, hnone]
          · simp [Daemon.view, ReceiveView.note, Daemon.removeReceive, hfile, hid]
  | send «to» envelope receipt =>
      obtain rfl := Option.some.inj h
      cases envelope with
      | ack ack =>
          by_cases hid : ack.transferId = transferId <;>
            simp [Daemon.view, ReceiveView.note, Daemon.sent, SentMessage.ackFor, hid]
      | _ => simp [Daemon.view, ReceiveView.note, Daemon.sent, SentMessage.ackFor]
  | forwardProgress «to» progress =>
      obtain rfl := Option.some.inj h
      simp [Daemon.view, ReceiveView.note, Daemon.sent, SentMessage.ackFor]
  | hang => exact (response : Empty).elim
  | lockEntry | lockAcquire | awaitAck =>
      obtain ⟨_, -, rfl⟩ := Option.map_eq_some_iff.mp h
      rfl
  | saveSendState | removeSendState =>
      obtain rfl := Option.some.inj h
      cases response <;> rfl
  | listReceiveStates | readReceiveState | loadReceiveState | listSendStates
  | readSendState | pendingWaiters =>
      obtain ⟨-, hsame⟩ := Option.ite_none_right_eq_some.mp h
      obtain rfl := Option.some.inj hsame
      rfl
  | isCancelled | registerWaiter | newToken | childToken =>
      obtain ⟨-, hsame⟩ := Option.ite_none_right_eq_some.mp h
      obtain rfl := Option.some.inj hsame
      rfl
  | importSources sources cancel =>
      obtain ⟨reports, outcome⟩ := response
      cases outcome with
      | cancelled =>
          obtain ⟨-, hsame⟩ := Option.ite_none_right_eq_some.mp h
          obtain rfl := Option.some.inj hsame
          rfl
      | finished result =>
          obtain rfl := Option.some.inj h
          rfl
  | exportCollection exported root destDir =>
      obtain ⟨reports, result⟩ := response
      obtain rfl := Option.some.inj h
      rfl
  | _ =>
      obtain rfl := Option.some.inj h
      rfl

theorem perform_filed (h : Daemon.perform 0 request response daemon = some daemon')
    (hfiled : daemon.Filed) : daemon'.Filed := by
  cases request with
  | saveReceiveState state =>
      obtain rfl := Option.some.inj h
      exact hfiled.saveReceive state response
  | removeReceiveState other =>
      obtain rfl := Option.some.inj h
      exact hfiled.removeReceive other response
  | lockEntry | lockAcquire =>
      obtain ⟨_, -, rfl⟩ := Option.map_eq_some_iff.mp h
      exact hfiled
  | exportCollection exported root destDir =>
      obtain ⟨reports, result⟩ := response
      obtain rfl := Option.some.inj h
      exact hfiled
  | lockRelease | removeUnusedEntry | dropLock =>
      obtain rfl := Option.some.inj h
      exact hfiled
  | _ =>
      have hsame : SameReceiving daemon daemon' := by
        refine Daemon.perform_quiet ?_ h
        trivial
      rw [Daemon.Filed, hsame.receiveFiles]
      exact hfiled

theorem perform_sees (h : Daemon.perform 0 request response daemon = some daemon')
    (hfiled : daemon.Filed) (transferId : Uuid) :
    (daemon.view transferId).Sees transferId request response := by
  cases request with
  | loadReceiveState other | readReceiveState other =>
      rcases (response : Except String ReceiveTransferState) with _ | state
      · trivial
      · obtain ⟨hread, -⟩ := Option.ite_none_right_eq_some.mp h
        have hread : daemon.receiveFiles.lookup other = some state := of_decide_eq_true hread
        refine ⟨hfiled other state hread, ?_⟩
        rintro rfl
        exact hread
  | listReceiveStates =>
      rcases (response : Except String (List Uuid)) with _ | transferIds
      · trivial
      · obtain ⟨hlist, -⟩ := Option.ite_none_right_eq_some.mp h
        have hperm : transferIds.Perm daemon.receiveFiles.keys := List.isPerm_iff.mp hlist
        refine ⟨hperm.nodup_iff.mpr daemon.receiveFiles.nodupKeys, fun hsome => ?_⟩
        rw [hperm.mem_iff]
        exact AList.lookup_isSome.mp hsome
  | _ => trivial

end Views

theorem exec_view {α : Type} {behave : Behaviour} {transferId : Uuid} {p : SendProg α}
    {daemon daemon' : Daemon} {log : List (Exchange SendSig)} {value : α}
    (h : Prog.Exec (behave.alone transferId) p daemon log value daemon')
    (hfiled : daemon.Filed) :
    Prog.Exec (behave.shows transferId) p (daemon.view transferId) log value
      (daemon'.view transferId) := by
  refine h.map (fun daemon => daemon.view transferId) ?_ hfiled
  rintro request response daemon daemon' hfiled ⟨hanswers, hperform⟩
  exact ⟨perform_filed hperform hfiled, hanswers, perform_sees hperform hfiled transferId,
    perform_view hperform transferId⟩

/-- How a program ends that runs alone, as far as one transfer is concerned. -/
abbrev Behaviour.Ends {α : Type} (behave : Behaviour) (transferId : Uuid) (p : SendProg α)
    (post : α → ReceiveView → Prop) (view : ReceiveView) : Prop :=
  p.Ensures (fun _ _ => True) (behave.shows transferId) post view

/-- Requests that leave the transfer as it is. -/
def SendRequest.Elsewhere (transferId : Uuid) : SendRequest → Prop
  | .saveReceiveState state => state.transferId ≠ transferId
  | .removeReceiveState other => other ≠ transferId
  | .send _ (.ack ack) _ => ack.transferId ≠ transferId
  | _ => True

section Ends

variable {α β : Type} {behave : Behaviour} {transferId : Uuid} {view : ReceiveView}

theorem note_elsewhere {request : SendRequest} (h : request.Elsewhere transferId)
    (response : request.Response) : view.note transferId ⟨request, response⟩ = view := by
  cases request with
  | saveReceiveState state => cases response <;> first | rfl | exact if_neg h
  | removeReceiveState other => cases response <;> first | rfl | exact if_neg h
  | send «to» envelope receipt => cases envelope <;> first | rfl | exact if_neg h
  | _ => rfl

theorem ends_elsewhere {p : SendProg α} (hp : p.All (SendRequest.Elsewhere transferId)) :
    behave.Ends transferId p (fun _ view' => view' = view) view := by
  refine .of_all (I := (· = view)) hp (fun _ _ _ _ => trivial) ?_ (fun _ _ h => h) rfl
  rintro request response _ _ hrequest rfl ⟨-, -, rfl⟩
  exact note_elsewhere hrequest response

theorem ends_ask {request : SendRequest} {f : request.Response → SendProg β}
    {post : β → ReceiveView → Prop}
    (h : ∀ response, behave.Answers view.saved request response →
      view.Sees transferId request response →
      behave.Ends transferId (f response) post (view.note transferId ⟨request, response⟩)) :
    behave.Ends transferId (ask request >>= f) post view := by
  refine ⟨trivial, ?_⟩
  rintro response _ ⟨hanswers, hsees, rfl⟩
  exact h response hanswers hsees

end Ends

/-- The first half of `run_receive` succeeds. -/
structure Behaviour.Downloads (behave : Behaviour) (limits : ClipboardLimits)
    (state : ReceiveTransferState) : Prop where
  valid : limits.validateEntries (state.entries.map fun entry => (entry.name, entry.size)) =
    .ok ()
  started : behave (some state) (.saveReceiveState { state with stage := .downloading }) =
    some (.ok () : Except String Unit)
  fetched : ∃ reports, behave (some { state with stage := .downloading })
    (.downloadCollection state.sender state.collectionHash state.bytesTotal) =
      some ((reports, .ok ()) : List BlobProgress × Except String Unit)
  saved : behave (some { state with stage := .downloading })
    (.saveReceiveState state.downloaded) = some (.ok () : Except String Unit)

/-- A receive that is done, in the directory. -/
def ReceiveTransferState.completed (state : ReceiveTransferState) (dir : String) :
    ReceiveTransferState :=
  { state with receiveDir := some dir, stage := .complete, bytesDone := state.bytesTotal }

/-- The second half of `run_receive` succeeds, in the directory. -/
structure Behaviour.Exports (behave : Behaviour) (state : ReceiveTransferState)
    (dir : String) : Prop where
  chosen : (chooseReceiveDir state).eval (behave (some state)) = some (some dir)
  exported : ∃ reports count, behave (some state)
    (.exportCollection state.transferId state.collectionHash dir) =
      some ((reports, .ok count) : List BlobProgress × Except String Nat)
  saved : behave (some state) (.saveReceiveState (state.completed dir)) =
    some (.ok () : Except String Unit)

section RunReceive

variable {behave : Behaviour} {limits : ClipboardLimits} {state : ReceiveTransferState}
  {view : ReceiveView}

theorem elsewhere_emitProgress (transferId : Uuid) («to» : DeviceId)
    (reports : List SendProgress) :
    (emitProgress «to» reports).All (SendRequest.Elsewhere transferId) := by
  induction reports with
  | nil => trivial
  | cons report reports ih => exact .bind (all_ask trivial) fun _ => ih

theorem ends_saveReceiveState {saved : ReceiveTransferState} {transferId : Uuid}
    {post : Except String Unit → ReceiveView → Prop} (hid : saved.transferId = transferId)
    (herror : ∀ message,
      behave view.saved (.saveReceiveState saved) = some (.error message : Except String Unit) →
        post (.error message) view)
    (hok : behave view.saved (.saveReceiveState saved) = some (.ok () : Except String Unit) →
      post (.ok ()) { view with saved := some saved }) :
    behave.Ends transferId (saveReceiveState saved).run post view := by
  refine ⟨trivial, ?_⟩
  rintro response _ ⟨hsaved, -, rfl⟩
  have hsaved : behave view.saved (.saveReceiveState saved) = some response := hsaved
  rcases (response : Except String Unit) with message | _
  · exact herror message hsaved
  · have hnote : view.note transferId ⟨.saveReceiveState saved, (.ok () : Except String Unit)⟩ =
        { view with saved := some saved } := if_pos hid
    exact hnote ▸ hok hsaved

theorem ends_downloadReceive (hview : view.saved = some state) :
    behave.Ends state.transferId (downloadReceive limits state).run (fun result view' =>
      view'.acks = view.acks ∧ match result with
        | .ok _ => behave.Downloads limits state ∧ view'.saved = some state.downloaded
        | .error _ => ¬behave.Downloads limits state) view := by
  have hemit : ∀ reports view, behave.Ends state.transferId (emitProgress state.sender reports)
      (fun _ view' => view' = view) view :=
    fun reports view => ends_elsewhere (elsewhere_emitProgress _ _ reports)
  refine Prog.ensures_tryBind.mpr ?_
  change Prog.Ensures _ _ (.ret (limits.validateEntries _)) _ _
  cases hvalid : limits.validateEntries
      (state.entries.map fun entry => (entry.name, entry.size)) with
  | error message => exact ⟨rfl, fun h => nomatch hvalid.symm.trans h.valid⟩
  | ok _ =>
      refine Prog.ensures_tryBind.mpr (ends_saveReceiveState rfl ?_ ?_)
      · rw [hview]
        exact fun message hstarted => ⟨rfl, fun h => nomatch hstarted.symm.trans h.started⟩
      rw [hview]
      intro hstarted
      refine Prog.ensures_tryBind.mpr (Prog.ensures_lift.mpr ((hemit _ _).mono ?_))
      rintro _ _ rfl
      refine Prog.ensures_tryBind.mpr (Prog.ensures_lift.mpr ⟨trivial, ?_⟩)
      rintro ⟨reports, fetched⟩ _ ⟨hfetched, -, rfl⟩
      have hfetched : behave (some _) (.downloadCollection _ _ _) = some (reports, fetched) :=
        hfetched
      refine Prog.ensures_tryBind.mpr (Prog.ensures_lift.mpr ((hemit _ _).mono ?_))
      rintro _ _ rfl
      rcases fetched with message | _
      · refine ⟨rfl, fun h => ?_⟩
        obtain ⟨reports', hfetched'⟩ := h.fetched
        cases hfetched.symm.trans hfetched'
      refine ends_saveReceiveState rfl ?_ ?_
      · exact fun message hsaved => ⟨rfl, fun h => nomatch hsaved.symm.trans h.saved⟩
      · exact fun hsaved => ⟨rfl, ⟨hvalid, hstarted, ⟨reports, hfetched⟩, hsaved⟩, rfl⟩

/-- Requests of `receive_dir`. -/
def SendRequest.Choosing : SendRequest → Prop
  | .downloadsBaseDir | .localTimestamp => True
  | _ => False

theorem choosing_chooseReceiveDir (state : ReceiveTransferState) :
    (chooseReceiveDir state).All SendRequest.Choosing := by
  unfold chooseReceiveDir
  split
  · trivial
  · refine .bind (all_ask trivial) fun base => ?_
    cases base with
    | none => trivial
    | some base => exact .bind (all_ask trivial) fun _ => trivial

theorem ends_chooseReceiveDir (hview : view.saved = some state) :
    behave.Ends state.transferId (chooseReceiveDir state) (fun dir view' =>
      (chooseReceiveDir state).eval (behave (some state)) = some dir ∧ view' = view) view := by
  refine .eval (choosing_chooseReceiveDir state) (fun _ _ => trivial) ?_
  rintro request response view' hrequest ⟨hanswers, -, rfl⟩
  rw [hview] at hanswers
  cases request <;> first | exact hrequest.elim | exact ⟨hanswers, rfl⟩

theorem ends_exportReceive (hview : view.saved = some state) :
    behave.Ends state.transferId (exportReceive state).run (fun result view' =>
      view'.acks = view.acks ∧ match result with
        | .ok _ => ∃ dir, behave.Exports state dir ∧ view'.saved = some (state.completed dir)
        | .error _ => ∀ dir, ¬behave.Exports state dir) view := by
  have hemit : ∀ reports view, behave.Ends state.transferId (emitProgress state.sender reports)
      (fun _ view' => view' = view) view :=
    fun reports view => ends_elsewhere (elsewhere_emitProgress _ _ reports)
  refine Prog.ensures_tryBind.mpr (Prog.ensures_lift.mpr ((ends_chooseReceiveDir hview).mono ?_))
  rintro dir view' ⟨hchosen, hsame⟩
  rw [hsame]
  refine Prog.ensures_tryBind.mpr ?_
  rcases dir with _ | dir
  · exact ⟨rfl, fun dir h => nomatch hchosen.symm.trans h.chosen⟩
  have hunique : ∀ dir', behave.Exports state dir' → dir' = dir :=
    fun dir' h => Option.some.inj (Option.some.inj (h.chosen.symm.trans hchosen))
  refine Prog.ensures_tryBind.mpr (Prog.ensures_lift.mpr ⟨trivial, ?_⟩)
  rintro ⟨reports, exported⟩ view' ⟨hanswers, -, hsame⟩
  have hexported : behave view.saved (.exportCollection _ _ _) = some (reports, exported) :=
    hanswers
  rw [hview] at hexported
  have hsame : view' = view := hsame
  rw [hsame]
  refine Prog.ensures_tryBind.mpr (Prog.ensures_lift.mpr ((hemit _ _).mono ?_))
  rintro _ _ rfl
  refine Prog.ensures_tryBind.mpr ?_
  rcases exported with message | count
  · refine ⟨rfl, fun dir' h => ?_⟩
    obtain rfl := hunique dir' h
    obtain ⟨reports', count', hexported'⟩ := h.exported
    cases hexported.symm.trans hexported'
  refine Prog.ensures_tryBind.mpr (Prog.ensures_lift.mpr ((hemit _ _).mono ?_))
  rintro _ _ rfl
  refine Prog.ensures_tryBind.mpr (ends_saveReceiveState rfl ?_ ?_)
  · rw [hview]
    refine fun message hsaved => ⟨rfl, fun dir' h => ?_⟩
    obtain rfl := hunique dir' h
    cases hsaved.symm.trans h.saved
  · rw [hview]
    refine fun hsaved => Prog.ensures_lift.mpr ⟨trivial, ?_⟩
    rintro _ _ ⟨-, -, rfl⟩
    exact ⟨rfl, dir, ⟨hchosen, ⟨reports, count, hexported⟩, hsaved⟩, rfl⟩

/-- `run_receive` succeeds, in the directory. -/
structure Behaviour.Receives (behave : Behaviour) (limits : ClipboardLimits)
    (state : ReceiveTransferState) (dir : String) : Prop where
  downloads : behave.Downloads limits state
  exports : behave.Exports state.downloaded dir

theorem Behaviour.Receives.unique {dir dir' : String} (h : behave.Receives limits state dir)
    (h' : behave.Receives limits state dir') : dir = dir' :=
  Option.some.inj (Option.some.inj (h.exports.chosen.symm.trans h'.exports.chosen))

theorem ends_runReceive (hview : view.saved = some state) :
    behave.Ends state.transferId (runReceive limits state).run (fun result view' =>
      view'.acks = view.acks ∧ match result with
        | .ok _ => ∃ dir, behave.Receives limits state dir ∧
            view'.saved = some (state.downloaded.completed dir)
        | .error _ => ∀ dir, ¬behave.Receives limits state dir) view := by
  refine Prog.ensures_tryBind.mpr ((ends_downloadReceive hview).mono ?_)
  rintro (message | _) view' ⟨hacks, hresult⟩
  · exact ⟨hacks, fun dir h => hresult h.downloads⟩
  obtain ⟨hdownloads, hsaved⟩ := hresult
  have hexport : behave.Ends state.transferId _ _ view' :=
    @ends_exportReceive behave state.downloaded view' hsaved
  refine hexport.mono ?_
  rintro (message | _) view'' ⟨hacks', hresult⟩
  · exact ⟨hacks'.trans hacks, fun dir h => hresult dir h.exports⟩
  · obtain ⟨dir, hexports, hsaved'⟩ := hresult
    exact ⟨hacks'.trans hacks, dir, ⟨hdownloads, hexports⟩, hsaved'⟩

end RunReceive

/-- The acknowledgement of a completed receive reaches the transport. -/
def Behaviour.SendsAck (behave : Behaviour) (completed : ReceiveTransferState) : Prop :=
  behave (some completed)
    (.send completed.sender
      (.ack { transferId := completed.transferId, ok := true, error := none })
      (some completed.collectionHash)) = some (.ok () : Except TransportError Unit)

def Behaviour.Removes (behave : Behaviour) (completed : ReceiveTransferState) : Prop :=
  behave (some completed) (.removeReceiveState completed.transferId) =
    some (.ok () : Except String Unit)

/-- A completed receive is acknowledged, and then forgotten if nothing fails. -/
structure Behaviour.Acknowledges (behave : Behaviour) (completed : ReceiveTransferState)
    (view view' : ReceiveView) : Prop where
  acks : view'.acks = view.acks ++
    [(completed.sender, { transferId := completed.transferId, ok := true, error := none })]
  saved : view'.saved = none ∧ behave.SendsAck completed ∧ behave.Removes completed ∨
    view'.saved = some completed ∧ ¬(behave.SendsAck completed ∧ behave.Removes completed)

theorem Behaviour.Acknowledges.unique {behave : Behaviour} {completed : ReceiveTransferState}
    {view first second : ReceiveView} (h : behave.Acknowledges completed view first)
    (h' : behave.Acknowledges completed view second) : first = second := by
  have hsaved : first.saved = second.saved := by
    rcases h.saved with ⟨hfirst, hsends⟩ | ⟨hfirst, hfails⟩ <;>
      rcases h'.saved with ⟨hsecond, hsends'⟩ | ⟨hsecond, hfails'⟩
    · rw [hfirst, hsecond]
    · exact (hfails' hsends).elim
    · exact (hfails hsends').elim
    · rw [hfirst, hsecond]
  have hacks := h.acks.trans h'.acks.symm
  cases first
  cases second
  simp_all

section Acknowledge

variable {behave : Behaviour} {completed : ReceiveTransferState} {view : ReceiveView}

theorem ends_acknowledge (hview : view.saved = some completed) :
    behave.Ends completed.transferId
      (acknowledgeCompletedReceive completed.sender completed.transferId
        completed.collectionHash).run (fun result view' =>
      view' = { view with acks := view.acks ++
        [(completed.sender, { transferId := completed.transferId, ok := true, error := none })] } ∧
      match result with
        | .ok _ => behave.SendsAck completed
        | .error _ => ¬behave.SendsAck completed) view := by
  refine ⟨trivial, ?_⟩
  rintro response view' ⟨hanswers, -, hnote⟩
  have hsend : behave view.saved (.send _ _ _) = some response := hanswers
  rw [hview] at hsend
  have hview' : view' = { view with acks := view.acks ++
      [(completed.sender, { transferId := completed.transferId, ok := true, error := none })] } :=
    hnote.trans (if_pos rfl)
  rcases (response : Except TransportError Unit) with error | _
  · exact ⟨hview', fun h => nomatch hsend.symm.trans h⟩
  · exact ⟨hview', hsend⟩

theorem ends_remove (hview : view.saved = some completed) :
    behave.Ends completed.transferId (removeReceiveState completed.transferId).run
      (fun _ view' => view'.acks = view.acks ∧
        (view'.saved = none ∧ behave.Removes completed ∨
          view'.saved = some completed ∧ ¬behave.Removes completed)) view := by
  refine ⟨trivial, ?_⟩
  rintro response view' ⟨hanswers, -, hnote⟩
  have hremove : behave view.saved (.removeReceiveState _) = some response := hanswers
  rw [hview] at hremove
  rcases (response : Except String Unit) with message | _
  · have hview' : view' = view := hnote
    rw [hview']
    exact ⟨rfl, .inr ⟨hview, fun h => nomatch hremove.symm.trans h⟩⟩
  · have hview' : view' = { view with saved := none } := hnote.trans (if_pos rfl)
    rw [hview']
    exact ⟨rfl, .inl ⟨rfl, hremove⟩⟩

theorem ends_acknowledgeAndRemove (hview : view.saved = some completed) :
    behave.Ends completed.transferId
      (acknowledgeAndRemove completed.sender completed.transferId completed.collectionHash).run
      (fun _ view' => behave.Acknowledges completed view view') view := by
  refine Prog.ensures_tryBind.mpr ((ends_acknowledge hview).mono ?_)
  rintro (error | _) _ ⟨rfl, hsend⟩
  · exact ⟨rfl, .inr ⟨hview, fun h => hsend h.1⟩⟩
  · refine Prog.ensures_tryBind.mpr (Prog.ensures_lift.mpr ((ends_remove ?_).mono ?_))
    · exact hview
    · rintro result view' ⟨hacks, ⟨hnone, hremoves⟩ | ⟨hkept, hfails⟩⟩
      · exact ⟨hacks, .inl ⟨hnone, hsend, hremoves⟩⟩
      · exact ⟨hacks, .inr ⟨hkept, fun h => hfails h.2⟩⟩

end Acknowledge

/-- What resuming a saved state leaves behind, when its sender is connected. -/
def Behaviour.Resumed (behave : Behaviour) (limits : ClipboardLimits)
    (state : ReceiveTransferState) (view view' : ReceiveView) : Prop :=
  (∃ dir, behave.Receives limits state dir ∧
      behave.Acknowledges (state.downloaded.completed dir) view view') ∨
    (∀ dir, ¬behave.Receives limits state dir) ∧ view'.acks = view.acks

section Resume

variable {behave : Behaviour} {limits : ClipboardLimits} {state : ReceiveTransferState}
  {view : ReceiveView}

theorem ends_locked {α : Type} {transferId : Uuid} {body : SendProg α}
    {post : α → ReceiveView → Prop} (lock : LockId) (resumed : Option ReceiveTransferState)
    (h : behave.Ends transferId body post view) :
    behave.Ends transferId (locked lock resumed body) post view := by
  refine ends_ask fun _ _ _ => Prog.ensures_bind.mpr (h.mono fun value view' hvalue => ?_)
  exact ends_ask fun _ _ _ => hvalue

theorem ends_resumeListed {connected : List DeviceId} (hview : view.saved = some state) :
    behave.Ends state.transferId (resumeListed limits connected state) (fun _ view' =>
      if state.sender ∈ connected then behave.Resumed limits state view view'
      else view' = view) view := by
  unfold resumeListed
  by_cases hconnected : state.sender ∈ connected
  · rw [if_pos hconnected]
    simp only [if_pos hconnected]
    refine Prog.ensures_bind.mpr (ends_ask fun lock _ _ => ?_)
    refine Prog.ensures_bind.mpr (ends_locked _ _ ((ends_runReceive hview).mono ?_))
    rintro result view' ⟨hacks, hresult⟩
    refine ends_ask fun _ _ _ => ?_
    rcases result with message | _
    · exact .inr ⟨hresult, hacks⟩
    · obtain ⟨dir, hreceives, hsaved⟩ := hresult
      have hack := @ends_acknowledge behave (state.downloaded.completed dir) view' hsaved
      refine Prog.ensures_bind.mpr (hack.mono ?_)
      rintro (error | _) _ ⟨rfl, hsend⟩
      · refine .inl ⟨dir, hreceives, ?_, .inr ⟨hsaved, fun h => hsend h.1⟩⟩
        exact congrArg (· ++ _) hacks
      · have hremove := fun acks => @ends_remove behave (state.downloaded.completed dir)
          { view' with acks } hsaved
        refine Prog.ensures_bind.mpr ((hremove _).mono ?_)
        rintro result view'' ⟨hacks', ⟨hnone, hremoves⟩ | ⟨hkept, hfails⟩⟩
        · refine .inl ⟨dir, hreceives, ?_, .inl ⟨hnone, hsend, hremoves⟩⟩
          exact hacks'.trans (congrArg (· ++ _) hacks)
        · refine .inl ⟨dir, hreceives, ?_, .inr ⟨hkept, fun h => hfails h.2⟩⟩
          exact hacks'.trans (congrArg (· ++ _) hacks)
  · rw [if_neg hconnected]
    simp only [if_neg hconnected]
    rfl

theorem elsewhere_runReceive {transferId : Uuid} (h : state.transferId ≠ transferId) :
    (runReceive limits state).run.All (SendRequest.Elsewhere transferId) := by
  refine .tryBind ?_ fun _ => ?_
  · refine .tryBind (all_liftExcept _) fun _ => ?_
    refine .tryBind (all_ask h) fun _ => ?_
    refine .tryBind (.lift (elsewhere_emitProgress _ _ _)) fun _ => ?_
    refine .tryBind (.lift (all_ask trivial)) fun _ => ?_
    refine .tryBind (.lift (elsewhere_emitProgress _ _ _)) fun _ => ?_
    exact .tryBind (all_liftExcept _) fun _ => all_ask h
  · refine .tryBind (.lift ((choosing_chooseReceiveDir _).mono ?_)) fun _ => ?_
    · intro request hrequest
      cases request <;> first | exact hrequest.elim | trivial
    refine .tryBind (all_liftExcept _) fun _ => ?_
    refine .tryBind (.lift (all_ask trivial)) fun _ => ?_
    refine .tryBind (.lift (elsewhere_emitProgress _ _ _)) fun _ => ?_
    refine .tryBind (all_liftExcept _) fun _ => ?_
    refine .tryBind (.lift (elsewhere_emitProgress _ _ _)) fun _ => ?_
    exact .tryBind (all_ask h) fun _ => .lift (all_ask trivial)

theorem elsewhere_resumeListed {transferId : Uuid} (connected : List DeviceId)
    (h : state.transferId ≠ transferId) :
    (resumeListed limits connected state).All (SendRequest.Elsewhere transferId) := by
  unfold resumeListed
  split
  · refine .bind (.bind (all_ask trivial) fun lock => ?_) fun result => ?_
    · refine .bind (.bind (all_ask trivial) fun _ => .bind (elsewhere_runReceive h) fun _ =>
        .bind (all_ask trivial) fun _ => trivial) fun _ => ?_
      exact .bind (all_ask trivial) fun _ => trivial
    · rcases result with error | _
      · trivial
      · refine .bind (.bind (all_ask h) fun _ => trivial) fun sent => ?_
        rcases sent with error | _
        · trivial
        · exact .bind (all_ask h) fun _ => trivial
  · trivial

theorem elsewhere_resumeEach {transferId : Uuid} (connected : List DeviceId)
    {states : List ReceiveTransferState} (h : ∀ other ∈ states, other.transferId ≠ transferId) :
    (resumeEach limits connected states).All (SendRequest.Elsewhere transferId) := by
  induction states with
  | nil => trivial
  | cons first states ih =>
      refine .bind (elsewhere_resumeListed connected (h first (by simp))) fun _ => ?_
      exact ih fun other hother => h other (by simp [hother])

theorem ends_resumeEach {connected : List DeviceId} {states : List ReceiveTransferState}
    (hview : view.saved = some state) (hmem : state ∈ states)
    (hnodup : (states.map ReceiveTransferState.transferId).Nodup) :
    behave.Ends state.transferId (resumeEach limits connected states) (fun _ view' =>
      if state.sender ∈ connected then behave.Resumed limits state view view'
      else view' = view) view := by
  induction states with
  | nil => cases hmem
  | cons first states ih =>
      obtain ⟨hfirst, hnodup⟩ := List.nodup_cons.mp hnodup
      rcases List.mem_cons.mp hmem with rfl | hmem
      · refine Prog.ensures_bind.mpr ((ends_resumeListed hview).mono fun _ view' hview' => ?_)
        refine (ends_elsewhere (elsewhere_resumeEach connected ?_)).mono ?_
        · exact fun other hother hid => hfirst (hid ▸ List.mem_map_of_mem hother)
        · rintro _ _ rfl
          exact hview'
      · have hother : first.transferId ≠ state.transferId :=
          fun hid => hfirst (hid ▸ List.mem_map_of_mem hmem)
        refine Prog.ensures_bind.mpr
          ((ends_elsewhere (elsewhere_resumeListed connected hother)).mono ?_)
        rintro _ _ rfl
        exact ih hmem hnodup

/-- A state file that is listed can be read. -/
def Behaviour.Reads (behave : Behaviour) (saved : Option ReceiveTransferState)
    (transferId : Uuid) : Prop :=
  ∃ state, behave saved (.loadReceiveState transferId) =
    some (.ok state : Except String ReceiveTransferState)

theorem ends_readIncomplete {transferIds : List Uuid} (hview : view.saved = some state)
    (hincomplete : state.stage ≠ .complete) :
    behave.Ends state.transferId (readIncomplete transferIds).run (fun result view' =>
      view' = view ∧ match result with
        | .ok states => (∀ other ∈ transferIds, behave.Reads (some state) other) ∧
            (states.map ReceiveTransferState.transferId).Sublist transferIds ∧
            (state.transferId ∈ transferIds → state ∈ states)
        | .error _ => ∃ other ∈ transferIds, ¬behave.Reads (some state) other) view := by
  induction transferIds with
  | nil => exact ⟨rfl, by simp, by simp, by simp⟩
  | cons transferId transferIds ih =>
      refine Prog.ensures_tryBind.mpr ⟨trivial, ?_⟩
      rintro response view' ⟨hanswers, hsees, hnote⟩
      have hread : behave view.saved (.loadReceiveState transferId) = some response := hanswers
      rw [hview] at hread
      have hsame : view' = view := by
        rw [hnote]
        rcases (response : Except String ReceiveTransferState) with _ | _ <;> rfl
      rw [hsame]
      rcases (response : Except String ReceiveTransferState) with message | found
      · refine ⟨rfl, transferId, by simp, ?_⟩
        rintro ⟨found, hfound⟩
        cases hread.symm.trans hfound
      · obtain ⟨hid, hfound⟩ := hsees
        refine Prog.ensures_tryBind.mpr (ih.mono ?_)
        rintro (message | states) _ ⟨rfl, hrest⟩
        · obtain ⟨other, hother, hfails⟩ := hrest
          exact ⟨rfl, other, by simp [hother], hfails⟩
        · obtain ⟨hreads, hsublist, hmem⟩ := hrest
          have hreads' : ∀ other ∈ transferId :: transferIds,
              behave.Reads (some state) other := by
            intro other hother
            rcases List.mem_cons.mp hother with rfl | hother
            · exact ⟨found, hread⟩
            · exact hreads other hother
          refine ⟨rfl, hreads', ?_, ?_⟩
          · split
            · exact hsublist.cons transferId
            · rw [List.map_cons, hid]
              exact hsublist.cons_cons transferId
          · intro hlisted
            rcases List.mem_cons.mp hlisted with hself | hlater
            · have hstate : found = state :=
                Option.some.inj ((hfound hself.symm).symm.trans hview)
              rw [hstate, if_neg hincomplete]
              exact List.mem_cons_self
            · have hmem := hmem hlater
              split
              · exact hmem
              · exact List.mem_cons_of_mem _ hmem

/-- Nothing fails on the way of the resuming pass to an acknowledgement of the saved state. -/
structure Behaviour.Resumes (behave : Behaviour) (limits : ClipboardLimits)
    (state : ReceiveTransferState) : Prop where
  listed : ∃ transferIds, behave (some state) .listReceiveStates =
    some (.ok transferIds : Except String (List Uuid)) ∧
      ∀ other ∈ transferIds, behave.Reads (some state) other
  connected : ∃ connected : List DeviceId,
    behave (some state) .connectedPeers = some connected ∧ state.sender ∈ connected
  received : ∃ dir, behave.Receives limits state dir

theorem ends_resumeIncompleteReceives (hview : view.saved = some state)
    (hincomplete : state.stage ≠ .complete) :
    behave.Ends state.transferId (resumeIncompleteReceives limits) (fun _ view' =>
      (behave.Resumes limits state ∧ behave.Reads (some state) state.transferId ∧
        ∃ dir, behave.Receives limits state dir ∧
          behave.Acknowledges (state.downloaded.completed dir) view view') ∨
      ¬behave.Resumes limits state ∧ view'.acks = view.acks) view := by
  refine Prog.ensures_bind.mpr (Prog.ensures_tryBind.mpr ⟨trivial, ?_⟩)
  rintro response view' ⟨hanswers, hsees, hnote⟩
  have hlist : behave view.saved .listReceiveStates = some response := hanswers
  rw [hview] at hlist
  have hsame : view' = view := by
    rw [hnote]
    rcases (response : Except String (List Uuid)) with _ | _ <;> rfl
  rw [hsame]
  rcases (response : Except String (List Uuid)) with message | transferIds
  · refine .inr ⟨fun h => ?_, rfl⟩
    obtain ⟨transferIds, hlist', -⟩ := h.listed
    cases hlist.symm.trans hlist'
  have hlisted : ∀ transferIds', behave (some state) .listReceiveStates =
      some (.ok transferIds' : Except String (List Uuid)) → transferIds' = transferIds :=
    fun transferIds' h => Except.ok.inj (Option.some.inj (h.symm.trans hlist))
  obtain ⟨hnodup, hnamed⟩ := hsees
  have hmem : state.transferId ∈ transferIds := hnamed (by rw [hview]; rfl)
  refine (ends_readIncomplete hview hincomplete).mono ?_
  rintro (message | states) _ ⟨rfl, hread⟩
  · obtain ⟨other, hother, hfails⟩ := hread
    refine .inr ⟨fun h => ?_, rfl⟩
    obtain ⟨transferIds', hlist', hreads⟩ := h.listed
    obtain rfl := hlisted transferIds' hlist'
    exact hfails (hreads other hother)
  obtain ⟨hreads, hsublist, hstate⟩ := hread
  have hstate := hstate hmem
  rcases states with _ | ⟨first, states⟩
  · cases hstate
  refine ends_ask fun (connected : List DeviceId) hconnected _ => ?_
  have hconnected : behave _ .connectedPeers = some connected := hconnected
  rw [hview] at hconnected
  refine (ends_resumeEach hview hstate (hnodup.sublist hsublist)).mono ?_
  intro _ view'' hend
  by_cases hsender : state.sender ∈ connected
  · rw [if_pos hsender] at hend
    rcases hend with ⟨dir, hreceives, hacked⟩ | ⟨hfails, hacks⟩
    · exact .inl ⟨⟨⟨transferIds, hlist, hreads⟩, ⟨connected, hconnected, hsender⟩,
        ⟨dir, hreceives⟩⟩, hreads _ hmem, dir, hreceives, hacked⟩
    · exact .inr ⟨fun h => h.received.elim hfails, hacks⟩
  · rw [if_neg hsender] at hend
    refine .inr ⟨fun h => ?_, by rw [hend]⟩
    obtain ⟨connected', hconnected', hsender'⟩ := h.connected
    obtain rfl := Option.some.inj (hconnected'.symm.trans hconnected)
    exact hsender hsender'

end Resume

/-- The state is that of the payload, in whatever stage. -/
structure ReceiveTransferState.BuiltFrom (state : ReceiveTransferState) (payload : SendPayload) :
    Prop where
  version : payload.version = SEND_PAYLOAD_VERSION
  transferId : payload.transferId = state.transferId
  senderName : payload.senderName = state.senderName
  collectionHash : payload.collectionHash = state.collectionHash
  entries : payload.entries = state.entries
  bytesTotal : Send.bytesTotal payload.entries = state.bytesTotal

theorem ReceiveTransferState.BuiltFrom.refresh {state : ReceiveTransferState}
    {payload : SendPayload} (h : state.BuiltFrom payload) :
    state.refresh state.sender payload = state := by
  obtain ⟨-, -, hname, hhash, hentries, htotal⟩ := h
  cases state
  simp_all [ReceiveTransferState.refresh]

/-- An acknowledgement that is sent, whether or not it arrives. -/
def ackCall : Exchange SendSig → Option (DeviceId × SendAck)
  | ⟨.send «to» (.ack ack) _, _⟩ => some («to», ack)
  | _ => none

section Direct

variable {behave : Behaviour} {limits : ClipboardLimits} {state : ReceiveTransferState}
  {payload : SendPayload} {view : ReceiveView}

theorem answering_acks (log : List (Exchange SendSig)) (answer : Answer) :
    (stageAfter Answer.note answer log).acks = answer.acks ++ log.filterMap ackCall := by
  induction log generalizing answer with
  | nil => simp [stageAfter]
  | cons exchange log ih =>
      have hnote : (answer.note exchange).acks =
          answer.acks ++ (ackCall exchange).toList := by
        obtain ⟨request, response⟩ := exchange
        cases request with
        | loadReceiveState transferId =>
            rcases (response : Except String ReceiveTransferState) with _ | _
            · exact (List.append_nil _).symm
            · rw [Answer.note]
              split <;> exact (List.append_nil _).symm
        | saveReceiveState saved =>
            rcases (response : Except String Unit) with _ | _ <;>
              exact (List.append_nil _).symm
        | send «to» envelope receipt =>
            cases envelope <;> first | rfl | exact (List.append_nil _).symm
        | _ => exact (List.append_nil _).symm
      change (stageAfter Answer.note (answer.note exchange) log).acks = _
      rw [ih, hnote, List.append_assoc, List.filterMap_cons]
      cases ackCall exchange <;> rfl

theorem exec_acks {α : Type} {transferId : Uuid} {p : SendProg α} {view' : ReceiveView}
    {log : List (Exchange SendSig)} {value : α}
    (h : Prog.Exec (behave.shows transferId) p view log value view') :
    view'.acks = view.acks ++
      (log.filterMap ackCall).filter fun sent => sent.2.transferId = transferId := by
  induction h with
  | ret => simp
  | @call request next response view middle view' log value hshows hrest ih =>
      have hnote : middle.acks = view.acks ++
          (ackCall ⟨request, response⟩).toList.filter
            fun sent => sent.2.transferId = transferId := by
        rw [hshows.2.2]
        cases request with
        | saveReceiveState saved =>
            rcases (response : Except String Unit) with _ | _
            · exact (List.append_nil _).symm
            · simp only [ReceiveView.note]
              split <;> exact (List.append_nil _).symm
        | removeReceiveState other =>
            rcases (response : Except String Unit) with _ | _
            · exact (List.append_nil _).symm
            · simp only [ReceiveView.note]
              split <;> exact (List.append_nil _).symm
        | send «to» envelope receipt =>
            cases envelope with
            | ack ack =>
                by_cases hid : ack.transferId = transferId <;>
                  simp [ReceiveView.note, ackCall, hid]
            | _ => exact (List.append_nil _).symm
        | _ => exact (List.append_nil _).symm
      rw [ih, hnote, List.append_assoc, ← List.filter_append, List.filterMap_cons]
      cases ackCall ⟨request, response⟩ <;> rfl

theorem ends_handleTransfer {dir : String} (hview : view.saved = some state)
    (hincomplete : state.stage ≠ .complete) (hbuilt : state.BuiltFrom payload)
    (hreads : behave.Reads (some state) state.transferId)
    (hreceives : behave.Receives limits state dir) :
    behave.Ends state.transferId (handleTransfer limits state.sender payload) (fun _ view' =>
      behave.Acknowledges (state.downloaded.completed dir) view view') view := by
  refine ends_ask fun lock _ _ => ?_
  refine Prog.ensures_bind.mpr (ends_locked _ _ ?_)
  have hlocked : behave.Ends state.transferId (handleTransferLocked limits state.sender payload).run
      (fun _ view' => behave.Acknowledges (state.downloaded.completed dir) view view') view := by
    unfold handleTransferLocked
    rw [if_neg (not_not.mpr hbuilt.version), hbuilt.transferId, hbuilt.collectionHash]
    have hfound : behave.Ends state.transferId (savedOrFresh state.sender payload)
        (fun found view' => found = state ∧ view' = view) view := by
      rw [savedOrFresh, hbuilt.transferId]
      refine ⟨trivial, ?_⟩
      rintro response view' ⟨hanswers, hsees, hnote⟩
      have hread : behave view.saved (.loadReceiveState _) = some response := hanswers
      rw [hview] at hread
      rcases (response : Except String ReceiveTransferState) with message | found
      · obtain ⟨found, hfound⟩ := hreads
        cases hread.symm.trans hfound
      · exact ⟨Option.some.inj ((hsees.2 rfl).symm.trans hview), hnote⟩
    refine Prog.ensures_tryBind.mpr (Prog.ensures_lift.mpr (hfound.mono ?_))
    rintro found view' ⟨hstate, hsame⟩
    rw [hstate, hsame]
    change Prog.Ensures _ _ (ExceptT.run (if state.stage = .complete then _ else _)) _ _
    rw [if_neg hincomplete, hbuilt.refresh]
    refine Prog.ensures_tryBind.mpr (Prog.ensures_lift.mpr ((ends_runReceive hview).mono ?_))
    rintro (message | _) view' ⟨hacks, hresult⟩
    · exact (hresult dir hreceives).elim
    · obtain ⟨dir', hreceives', hsaved⟩ := hresult
      obtain rfl : dir' = dir := hreceives'.unique hreceives
      have hacked := @ends_acknowledgeAndRemove behave (state.downloaded.completed dir') view'
        hsaved
      refine hacked.mono fun _ view'' hend => ⟨?_, hend.saved⟩
      exact hend.acks.trans (congrArg (· ++ _) hacks)
  refine hlocked.mono fun result view' hend => ?_
  exact ends_ask fun _ _ _ => ends_ask fun _ _ _ => hend

end Direct

/-- The message of a saved transfer and the resuming pass end alike exactly if nothing fails
on the way of the pass to an acknowledgement. -/
theorem paths_agree_iff {behave : Behaviour} {limits : ClipboardLimits}
    {state : ReceiveTransferState} {payload : SendPayload} {daemon direct resumed : Daemon}
    {log log' : List (Exchange SendSig)} {result : Except FeatureError Unit}
    (hfiled : daemon.Filed) (hsaved : daemon.receiveFiles.lookup state.transferId = some state)
    (hincomplete : state.stage ≠ .complete) (hbuilt : state.BuiltFrom payload)
    (hdirect : Prog.Exec (behave.alone state.transferId)
      (handleTransfer limits state.sender payload) daemon log result direct)
    (hresumed : Prog.Exec (behave.alone state.transferId)
      (resumeIncompleteReceives limits) daemon log' () resumed) :
    direct.view state.transferId = resumed.view state.transferId ↔
      behave.Resumes limits state := by
  have hdirect := exec_view hdirect hfiled
  have hend := (ends_resumeIncompleteReceives hsaved hincomplete).exec (exec_view hresumed hfiled)
  rcases hend with ⟨hresumes, hread, dir, hreceives, hacked⟩ | ⟨hfails, hacks⟩
  · refine iff_of_true ?_ hresumes
    exact ((ends_handleTransfer hsaved hincomplete hbuilt hread hreceives).exec hdirect).unique
      hacked
  · refine iff_of_false (fun hsame => ?_) hfails
    have htrace : Prog.Trace (fun _ _ => True) (handleTransfer limits state.sender payload) log
        result :=
      hdirect.map (fun _ => ()) (I := fun _ => True) (fun _ _ _ _ _ _ => ⟨trivial, trivial⟩)
        trivial
    have hanswers := (handleTransfer_answers limits state.sender payload).trace htrace
    rw [if_pos hbuilt.version] at hanswers
    obtain ⟨ack, hack, hid, -⟩ := hanswers
    rw [answering_acks] at hack
    have hcalls : log.filterMap ackCall = [(state.sender, ack)] := hack
    have hsent := exec_acks hdirect
    rw [hcalls, hsame, hacks] at hsent
    simp [hid, hbuilt.transferId] at hsent

section Examples

def Behaviour.oracle (behave : Behaviour) (transferId : Uuid) (daemon : Daemon) :
    (request : SendRequest) → Option request.Response
  | .lockEntry other => some ((daemon.locks.entries other).getD daemon.locks.next)
  | .lockAcquire _ _ | .lockRelease _ | .removeUnusedEntry _ _ | .dropLock _ => some ()
  | .readReceiveState other =>
      behave (daemon.receiveFiles.lookup transferId) (.loadReceiveState other)
  | request => behave (daemon.receiveFiles.lookup transferId) request

theorem exec_alone {α : Type} {behave : Behaviour} {transferId : Uuid} {p : SendProg α}
    {daemon daemon' : Daemon} {log : List (Exchange SendSig)} {value : α}
    (h : Prog.drive (Daemon.perform 0) (behave.oracle transferId) p daemon =
      some (log, value, daemon')) :
    Prog.Exec (behave.alone transferId) p daemon log value daemon' := by
  refine (Prog.exec_of_oracle h).mono ?_
  rintro request response daemon daemon' ⟨horacle, hperform⟩
  refine ⟨?_, hperform⟩
  cases request <;> trivial

/-- A daemon that was interrupted in the middle of a receive. -/
def interrupted : Daemon :=
  { Daemon.empty with receiveFiles := .singleton 7 (receiveStateFromPayload ⟨2⟩ emptyPayload) }

/-- Surroundings in which at most the download fails. -/
def fetching (fetched : Except String Unit) : Behaviour
  | _, .downloadCollection _ _ _ => some ([], fetched)
  | saved, request =>
      { Daemon.empty with receiveFiles := saved.elim ∅ fun state => .singleton 7 state }.oblige
        laptop request

theorem interrupted_filed : interrupted.Filed := by
  intro transferId state hstate
  by_cases hid : transferId = 7
  · subst hid
    obtain rfl := Option.some.inj hstate
    rfl
  · have hnone : interrupted.receiveFiles.lookup transferId = none :=
      AList.lookup_eq_none.mpr fun hmem => hid (List.mem_singleton.mp hmem)
    cases hnone.symm.trans hstate

theorem resumed_like_direct :
    ∃ log result direct log' resumed,
      Prog.Exec ((fetching (.ok ())).alone 7) (handleTransfer .default ⟨2⟩ emptyPayload)
        interrupted log result direct ∧
      Prog.Exec ((fetching (.ok ())).alone 7) (resumeIncompleteReceives .default)
        interrupted log' () resumed ∧
      direct.view 7 = resumed.view 7 := by
  have hdirect : (Prog.drive (Daemon.perform 0) ((fetching (.ok ())).oracle 7)
      (handleTransfer .default ⟨2⟩ emptyPayload) interrupted).isSome = true := by
    decide +kernel
  have hresumed : (Prog.drive (Daemon.perform 0) ((fetching (.ok ())).oracle 7)
      (resumeIncompleteReceives .default) interrupted).isSome = true := by
    decide +kernel
  obtain ⟨⟨log, result, direct⟩, hdirect⟩ := Option.isSome_iff_exists.mp hdirect
  obtain ⟨⟨log', _, resumed⟩, hresumed⟩ := Option.isSome_iff_exists.mp hresumed
  have hiff := @paths_agree_iff (fetching (.ok ())) .default
    (receiveStateFromPayload ⟨2⟩ emptyPayload) emptyPayload interrupted direct resumed log log'
    result interrupted_filed rfl (by decide) ⟨rfl, rfl, rfl, rfl, rfl, rfl⟩ (exec_alone hdirect)
    (exec_alone hresumed)
  refine ⟨log, result, direct, log', resumed, exec_alone hdirect, exec_alone hresumed,
    hiff.mpr ⟨⟨[7], rfl, ?_⟩, ⟨[⟨2⟩], rfl, by decide⟩, ?_⟩⟩
  · intro other hother
    obtain rfl := List.mem_singleton.mp hother
    exact ⟨_, rfl⟩
  · exact ⟨_, ⟨rfl, rfl, ⟨[], rfl⟩, rfl⟩, ⟨rfl, ⟨[], 1, rfl⟩, rfl⟩⟩

/-- The download fails: only the handler of the message tells the sender. -/
theorem failed_resume_silent :
    ∃ log result direct log' resumed,
      Prog.Exec ((fetching (.error "lost")).alone 7) (handleTransfer .default ⟨2⟩ emptyPayload)
        interrupted log result direct ∧
      Prog.Exec ((fetching (.error "lost")).alone 7) (resumeIncompleteReceives .default)
        interrupted log' () resumed ∧
      (direct.view 7).acks.length = 1 ∧ (resumed.view 7).acks.length = 0 ∧
      (direct.view 7).saved.map ReceiveTransferState.stage = some .failed ∧
      (resumed.view 7).saved.map ReceiveTransferState.stage = some .downloading := by
  have hdirect : (Prog.drive (Daemon.perform 0) ((fetching (.error "lost")).oracle 7)
      (handleTransfer .default ⟨2⟩ emptyPayload) interrupted).map (fun ended =>
        ((ended.2.2.view 7).acks.length,
          (ended.2.2.view 7).saved.map ReceiveTransferState.stage)) = some (1, some .failed) := by
    decide +kernel
  have hresumed : (Prog.drive (Daemon.perform 0) ((fetching (.error "lost")).oracle 7)
      (resumeIncompleteReceives .default) interrupted).map (fun ended =>
        ((ended.2.2.view 7).acks.length,
          (ended.2.2.view 7).saved.map ReceiveTransferState.stage)) =
            some (0, some .downloading) := by
    decide +kernel
  obtain ⟨⟨log, result, direct⟩, hdirect, hended⟩ := Option.map_eq_some_iff.mp hdirect
  obtain ⟨⟨log', _, resumed⟩, hresumed, hended'⟩ := Option.map_eq_some_iff.mp hresumed
  obtain ⟨hacks, hstage⟩ := Prod.mk.inj hended
  obtain ⟨hacks', hstage'⟩ := Prod.mk.inj hended'
  exact ⟨log, result, direct, log', resumed, exec_alone hdirect, exec_alone hresumed, hacks,
    hacks', hstage, hstage'⟩

end Examples

end Failsafe.Send
