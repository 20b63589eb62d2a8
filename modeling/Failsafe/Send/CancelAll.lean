import Failsafe.Send.ReceiveProtocol
import Failsafe.Send.Spent
import Failsafe.Send.Waiters

/-!
What is left of a transfer after `handle_cancel_all` has answered (`failsafe-send/src/cancel.rs`
and `control.rs`).
-/

namespace Failsafe.Send

open Failsafe.Core Failsafe.Clipboard Failsafe.Lib Failsafe.Transport

section Listing

def ListedSend (transferId : Uuid) (history : List (Exchange SendSig)) : Prop :=
  ∃ (filed : Uuid) (state : SendTransferState),
    ⟨.readSendState filed, .ok state⟩ ∈ history ∧ state.stage ≠ .complete ∧
      state.transferId = transferId

def ListedReceive (transferId : Uuid) (history : List (Exchange SendSig)) : Prop :=
  ∃ (filed : Uuid) (state : ReceiveTransferState),
    ⟨.readReceiveState filed, .ok state⟩ ∈ history ∧ state.stage ≠ .complete ∧
      state.transferId = transferId

def RemovedSend (transferId : Uuid) (history : List (Exchange SendSig)) : Prop :=
  (⟨.removeSendState transferId, .ok ()⟩ : Exchange SendSig) ∈ history

def RemovedReceive (transferId : Uuid) (history : List (Exchange SendSig)) : Prop :=
  (⟨.removeReceiveState transferId, .ok ()⟩ : Exchange SendSig) ∈ history

/-- A cancellation is confirmed when all that was listed is removed. -/
def ConfirmGuard (history : List (Exchange SendSig)) : SendRequest → Prop
  | .sendResponse (.cancelTransfers _ _) =>
      ∀ transferId, (ListedSend transferId history → RemovedSend transferId history) ∧
        (ListedReceive transferId history → RemovedReceive transferId history)
  | _ => True

/-- Requests that list no state and confirm nothing. -/
def SendRequest.Unlisting : SendRequest → Prop
  | .readSendState _ | .readReceiveState _ | .sendResponse (.cancelTransfers _ _) => False
  | _ => True

/-- Requests that may list receives but no sends, and confirm nothing. -/
def SendRequest.Receives : SendRequest → Prop
  | .readSendState _ | .sendResponse (.cancelTransfers _ _) => False
  | _ => True

theorem confirmGuard_of_receives {request : SendRequest} (h : request.Receives)
    (history : List (Exchange SendSig)) : ConfirmGuard history request := by
  cases request with
  | sendResponse response => cases response <;> first | exact h.elim | trivial
  | _ => trivial

variable {transferId : Uuid} {history history' : List (Exchange SendSig)}

theorem listedSend_of_adds (h : Prog.Adds SendRequest.Receives history history')
    (hlisted : ListedSend transferId history') : ListedSend transferId history := by
  obtain ⟨added, rfl, hadded⟩ := h
  obtain ⟨filed, state, hmem, hstate⟩ := hlisted
  rcases List.mem_append.mp hmem with hmem | hmem
  · exact ⟨filed, state, hmem, hstate⟩
  · exact (hadded _ hmem).elim

theorem listedReceive_of_adds (h : Prog.Adds SendRequest.Unlisting history history')
    (hlisted : ListedReceive transferId history') : ListedReceive transferId history := by
  obtain ⟨added, rfl, hadded⟩ := h
  obtain ⟨filed, state, hmem, hstate⟩ := hlisted
  rcases List.mem_append.mp hmem with hmem | hmem
  · exact ⟨filed, state, hmem, hstate⟩
  · exact (hadded _ hmem).elim

theorem subset_of_adds {kind : SendRequest → Prop} (h : Prog.Adds kind history history') :
    history ⊆ history' := by
  obtain ⟨added, rfl, -⟩ := h
  exact List.subset_append_left _ _

theorem receives_of_unlisting {request : SendRequest} (h : request.Unlisting) :
    request.Receives := by
  cases request with
  | sendResponse response => cases response <;> first | exact h.elim | trivial
  | readSendState => exact h.elim
  | _ => trivial

theorem adds_receives (h : Prog.Adds SendRequest.Unlisting history history') :
    Prog.Adds SendRequest.Receives history history' := by
  obtain ⟨added, rfl, hadded⟩ := h
  exact ⟨added, rfl, fun exchange hmem => receives_of_unlisting (hadded exchange hmem)⟩

theorem unlisting_ensures {α : Type} {p : SendProg α} (hp : p.All SendRequest.Unlisting) :
    p.Ensures ConfirmGuard Prog.heard
      (fun _ history' => Prog.Adds SendRequest.Unlisting history history') history :=
  .of_kind hp fun log _ h => confirmGuard_of_receives (receives_of_unlisting h) log

theorem readIncompleteSends_ensures (filed : List Uuid) :
    (readIncompleteSends filed).run.Ensures ConfirmGuard Prog.heard
      (fun result history' => ∀ states, result = .ok states →
        (∀ transferId, ListedReceive transferId history' → ListedReceive transferId history) ∧
        ∀ transferId, ListedSend transferId history' → ListedSend transferId history ∨
          ∃ state ∈ states, state.transferId = transferId) history := by
  induction filed generalizing history with
  | nil => exact fun states _ => ⟨fun _ h => h, fun _ h => .inl h⟩
  | cons first rest ih =>
      refine Prog.ensures_tryBind.mpr ⟨trivial, ?_⟩
      rintro (response : Except String SendTransferState) _ rfl
      cases response with
      | error error => exact fun _ h => nomatch h
      | ok read =>
          refine Prog.ensures_tryBind.mpr (ih.mono fun result history' hrest => ?_)
          cases result with
          | error error => exact fun _ h => nomatch h
          | ok states =>
              intro listed hlisted
              obtain ⟨hreceives, hsends⟩ := hrest states rfl
              refine ⟨fun transferId h => ?_, fun transferId h => ?_⟩
              · obtain ⟨filed, state, hmem, hstate⟩ := hreceives transferId h
                rcases List.mem_append.mp hmem with hmem | hmem
                · exact ⟨filed, state, hmem, hstate⟩
                · cases List.mem_singleton.mp hmem
              · obtain rfl := Except.ok.inj hlisted
                rcases hsends transferId h with ⟨filed, state, hmem, hstage, hid⟩ | hstate
                · rcases List.mem_append.mp hmem with hmem | hmem
                  · exact .inl ⟨filed, state, hmem, hstage, hid⟩
                  · cases List.mem_singleton.mp hmem
                    rw [if_neg hstage]
                    exact .inr ⟨read, List.mem_cons_self, hid⟩
                · obtain ⟨state, hmem, hid⟩ := hstate
                  refine .inr ⟨state, ?_, hid⟩
                  split
                  · exact hmem
                  · exact List.mem_cons_of_mem _ hmem

theorem readIncomplete_listed (filed : List Uuid) :
    (readIncomplete filed).run.Ensures ConfirmGuard Prog.heard
      (fun result history' => ∀ states, result = .ok states →
        ∀ transferId, ListedReceive transferId history' → ListedReceive transferId history ∨
          ∃ state ∈ states, state.transferId = transferId) history := by
  induction filed generalizing history with
  | nil => exact fun states _ _ h => .inl h
  | cons first rest ih =>
      refine Prog.ensures_tryBind.mpr ⟨trivial, ?_⟩
      rintro (response : Except String ReceiveTransferState) _ rfl
      cases response with
      | error error => exact fun _ h => nomatch h
      | ok read =>
          refine Prog.ensures_tryBind.mpr (ih.mono fun result history' hrest => ?_)
          cases result with
          | error error => exact fun _ h => nomatch h
          | ok states =>
              intro listed hlisted transferId h
              obtain rfl := Except.ok.inj hlisted
              rcases hrest states rfl transferId h with ⟨filed, state, hmem, hstage, hid⟩ | hstate
              · rcases List.mem_append.mp hmem with hmem | hmem
                · exact .inl ⟨filed, state, hmem, hstage, hid⟩
                · cases List.mem_singleton.mp hmem
                  rw [if_neg hstage]
                  exact .inr ⟨read, List.mem_cons_self, hid⟩
              · obtain ⟨state, hmem, hid⟩ := hstate
                refine .inr ⟨state, ?_, hid⟩
                split
                · exact hmem
                · exact List.mem_cons_of_mem _ hmem

theorem unlisting_cancelSends (states : List SendTransferState) :
    (cancelSends states).run.All SendRequest.Unlisting := by
  induction states with
  | nil => trivial
  | cons state states ih =>
      exact .tryBind (.lift (all_ask trivial)) fun _ => .tryBind (all_ask trivial) fun _ => ih

theorem cancelSends_ensures (states : List SendTransferState) :
    (cancelSends states).run.Ensures ConfirmGuard Prog.heard
      (fun result history' => result = .ok () →
        ∀ state ∈ states, RemovedSend state.transferId history') history := by
  induction states generalizing history with
  | nil => exact fun _ _ hmem => absurd hmem (List.not_mem_nil)
  | cons state states ih =>
      refine Prog.ensures_tryBind.mpr (Prog.ensures_lift.mpr ⟨trivial, ?_⟩)
      rintro _ history₁ rfl
      refine Prog.ensures_tryBind.mpr ⟨trivial, ?_⟩
      rintro (response : Except String Unit) history₂ rfl
      cases response with
      | error error => exact fun h => nomatch h
      | ok _ =>
          refine (ih.adds (unlisting_cancelSends states)).mono ?_
          rintro result history' ⟨hremoved, hadds⟩ hresult other hmem
          rcases List.mem_cons.mp hmem with rfl | hmem
          · refine subset_of_adds hadds ?_
            exact List.mem_append_right _ (List.mem_singleton.mpr rfl)
          · exact hremoved hresult other hmem

theorem unlisting_removeReceives (states : List ReceiveTransferState) :
    (removeReceives states).run.All SendRequest.Unlisting := by
  induction states with
  | nil => trivial
  | cons state states ih => exact .tryBind (all_ask trivial) fun _ => ih

theorem removeReceives_ensures (states : List ReceiveTransferState) :
    (removeReceives states).run.Ensures ConfirmGuard Prog.heard
      (fun result history' => result = .ok () →
        ∀ state ∈ states, RemovedReceive state.transferId history') history := by
  induction states generalizing history with
  | nil => exact fun _ _ hmem => absurd hmem (List.not_mem_nil)
  | cons state states ih =>
      refine Prog.ensures_tryBind.mpr ⟨trivial, ?_⟩
      rintro (response : Except String Unit) history₁ rfl
      cases response with
      | error error => exact fun h => nomatch h
      | ok _ =>
          refine (ih.adds (unlisting_removeReceives states)).mono ?_
          rintro result history' ⟨hremoved, hadds⟩ hresult other hmem
          rcases List.mem_cons.mp hmem with rfl | hmem
          · refine subset_of_adds hadds ?_
            exact List.mem_append_right _ (List.mem_singleton.mpr rfl)
          · exact hremoved hresult other hmem

theorem cancelAllIncompleteSends_ensures :
    cancelAllIncompleteSends.run.Ensures ConfirmGuard Prog.heard
      (fun result history' => ∀ count, result = .ok count → ∀ transferId,
        ¬ListedReceive transferId history' ∧
          (ListedSend transferId history' → RemovedSend transferId history')) [] := by
  have hlisted : listIncompleteSends.run.Ensures ConfirmGuard Prog.heard
      (fun result history' => ∀ states, result = .ok states → ∀ transferId,
        ¬ListedReceive transferId history' ∧ (ListedSend transferId history' →
          ∃ state ∈ states, state.transferId = transferId)) [] := by
    refine Prog.ensures_tryBind.mpr ⟨trivial, ?_⟩
    rintro (response : Except String (List Uuid)) _ rfl
    cases response with
    | error error => exact fun _ h => nomatch h
    | ok filed =>
        refine (readIncompleteSends_ensures filed).mono ?_
        intro result history' hread states hstates
        obtain ⟨hreceives, hsends⟩ := hread states hstates
        refine fun transferId => ⟨fun h => ?_, fun h => (hsends transferId h).resolve_left ?_⟩
        · obtain ⟨_, _, hmem, -⟩ := hreceives transferId h
          cases List.mem_singleton.mp hmem
        · rintro ⟨_, _, hmem, -⟩
          cases List.mem_singleton.mp hmem
  have hwaiters : ∀ transferIds, (cancelWaiters transferIds).All SendRequest.Unlisting := by
    intro transferIds
    induction transferIds with
    | nil => trivial
    | cons transferId transferIds ih => exact .bind (all_ask trivial) fun _ => ih
  refine Prog.ensures_tryBind.mpr (hlisted.mono fun result history₁ hstates => ?_)
  cases result with
  | error error => exact fun _ h => nomatch h
  | ok states =>
      refine Prog.ensures_tryBind.mpr (((cancelSends_ensures states).adds
        (unlisting_cancelSends states)).mono fun result history₂ hremoved => ?_)
      cases result with
      | error error => exact fun _ h => nomatch h
      | ok _ =>
          obtain ⟨hremoved, hadds₂⟩ := hremoved
          have hrest : ((liftM pendingWaiters : SendTry String (List Uuid)) >>= fun waiters =>
              liftM (cancelWaiters waiters) >>= fun _ =>
                pure states.length).run.All SendRequest.Unlisting :=
            .tryBind (.lift (all_ask trivial)) fun _ =>
              .tryBind (.lift (hwaiters _)) fun _ => trivial
          refine (unlisting_ensures hrest).mono fun result history₃ hadds₃ count _ transferId => ?_
          refine ⟨fun h => ?_, fun h => ?_⟩
          · refine (hstates states rfl transferId).1 (listedReceive_of_adds hadds₂ ?_)
            exact listedReceive_of_adds hadds₃ h
          · have hbefore := listedSend_of_adds (adds_receives hadds₂)
              (listedSend_of_adds (adds_receives hadds₃) h)
            obtain ⟨state, hmem, rfl⟩ := (hstates states rfl transferId).2 hbefore
            exact subset_of_adds hadds₃ (hremoved rfl state hmem)

theorem cancelAllIncompleteReceives_ensures
    (hhistory : ∀ transferId, ¬ListedReceive transferId history ∧
      (ListedSend transferId history → RemovedSend transferId history)) :
    cancelAllIncompleteReceives.run.Ensures ConfirmGuard Prog.heard
      (fun result history' => ∀ count, result = .ok count → ∀ transferId,
        (ListedSend transferId history' → RemovedSend transferId history') ∧
          (ListedReceive transferId history' → RemovedReceive transferId history'))
      history := by
  have hread : ∀ transferIds, (readIncomplete transferIds).run.All SendRequest.Receives := by
    intro transferIds
    induction transferIds with
    | nil => trivial
    | cons transferId transferIds ih =>
        exact .tryBind (all_ask trivial) fun _ => .tryBind ih fun _ => trivial
  have hall : listIncompleteReceives.run.All SendRequest.Receives :=
    .tryBind (all_ask trivial) fun _ => hread _
  have hlisted : listIncompleteReceives.run.Ensures ConfirmGuard Prog.heard
      (fun result history' => ∀ states, result = .ok states → ∀ transferId,
        ListedReceive transferId history' → ∃ state ∈ states, state.transferId = transferId)
      history := by
    refine Prog.ensures_tryBind.mpr ⟨trivial, ?_⟩
    rintro (response : Except String (List Uuid)) _ rfl
    cases response with
    | error error => exact fun _ h => nomatch h
    | ok filed =>
        refine (readIncomplete_listed filed).mono fun result history' hread states hstates => ?_
        refine fun transferId h => (hread states hstates transferId h).resolve_left ?_
        rintro ⟨filed, state, hmem, hstate⟩
        rcases List.mem_append.mp hmem with hmem | hmem
        · exact (hhistory transferId).1 ⟨filed, state, hmem, hstate⟩
        · cases List.mem_singleton.mp hmem
  refine Prog.ensures_tryBind.mpr ((hlisted.adds hall).mono fun result history₁ hstates => ?_)
  obtain ⟨hstates, hadds₁⟩ := hstates
  cases result with
  | error error => exact fun _ h => nomatch h
  | ok states =>
      refine Prog.ensures_tryBind.mpr (((removeReceives_ensures states).adds
        (unlisting_removeReceives states)).mono fun result history₂ hremoved => ?_)
      obtain ⟨hremoved, hadds₂⟩ := hremoved
      cases result with
      | error error => exact fun _ h => nomatch h
      | ok _ =>
          intro count _ transferId
          refine ⟨fun h => ?_, fun h => ?_⟩
          · have hbefore := listedSend_of_adds hadds₁ (listedSend_of_adds (adds_receives hadds₂) h)
            have hgone := (hhistory transferId).2 hbefore
            exact subset_of_adds hadds₂ (subset_of_adds hadds₁ hgone)
          · obtain ⟨state, hmem, rfl⟩ :=
              hstates states rfl transferId (listedReceive_of_adds hadds₂ h)
            exact hremoved rfl state hmem

theorem handleCancelAll_ensures :
    handleCancelAll.Ensures ConfirmGuard Prog.heard (fun _ _ => True) [] := by
  refine Prog.ensures_bind.mpr (Prog.ensures_tryBind.mpr
    (cancelAllIncompleteSends_ensures.mono fun result history₁ hsends => ?_))
  cases result with
  | error error => exact ⟨trivial, fun _ _ _ => trivial⟩
  | ok sends =>
      refine Prog.ensures_tryBind.mpr ((cancelAllIncompleteReceives_ensures
        (hsends sends rfl)).mono fun result history₂ hreceives => ?_)
      cases result with
      | error error => exact ⟨trivial, fun _ _ _ => trivial⟩
      | ok receives => exact ⟨hreceives receives rfl, fun _ _ _ => trivial⟩

end Listing

theorem started_confirms {config : DaemonConfig} {event : DaemonEvent}
    {daemon daemon' : Daemon} {task : TaskId} {program : SendProg Unit}
    (h : event.apply config daemon = some (daemon', some (task, program))) :
    program.Ensures ConfirmGuard Prog.heard (fun _ _ => True) [] := by
  have hkind : ∀ {kind : SendRequest → Prop}, program.All kind →
      (∀ request, kind request → ∀ history, ConfirmGuard history request) →
      program.Ensures ConfirmGuard Prog.heard (fun _ _ => True) [] := fun hall hguard =>
    (Prog.Ensures.of_kind hall fun log request h => hguard request h log).mono
      fun _ _ _ => trivial
  rcases DaemonEvent.started_cases h with
    ⟨sender, payload, rfl⟩ | rfl | ⟨request, turns, rfl⟩ | rfl | ⟨child, -, turns, rfl⟩
  · refine hkind (.bind (receiving_handleTransfer _ _ _) fun _ => trivial) ?_
    intro request hrequest
    cases request <;> first | exact hrequest.elim | exact fun _ => trivial
  · refine hkind (receiving_resumeIncompleteReceives _) fun request hrequest => ?_
    cases request <;> first | exact hrequest.elim | exact fun _ => trivial
  · refine hkind (inSession_handleSendFiles _ _ _) fun request hrequest => ?_
    cases request with
    | sendResponse response =>
        cases response <;> first | exact hrequest.elim | exact fun _ => trivial
    | _ => first | exact hrequest.elim | exact fun _ => trivial
  · exact handleCancelAll_ensures
  · refine hkind (watching_disconnectWatcher _ turns) fun request hrequest => ?_
    cases request <;> first | exact hrequest.elim | exact fun _ => trivial

/-- State files are named after their transfers, and waiters are in order. -/
structure Daemon.Orderly (daemon : Daemon) : Prop where
  receives : daemon.Filed
  sends : ∀ transferId state, daemon.sendFiles.lookup transferId = some state →
    state.transferId = transferId
  waiters : daemon.coordinator.Sound

theorem orderly_empty : Daemon.empty.Orderly where
  receives _ _ h := by cases h
  sends _ _ h := by cases h
  waiters := Coordinator.sound_empty

/-- The disk has no state file of the transfer. -/
structure Daemon.Forgot (transferId : Uuid) (daemon : Daemon) : Prop where
  receives : daemon.receiveFiles.lookup transferId = none
  sends : daemon.sendFiles.lookup transferId = none

/-- The state files and the waiters are the same. -/
structure SameFiles (daemon daemon' : Daemon) : Prop where
  receiveFiles : daemon'.receiveFiles = daemon.receiveFiles
  sendFiles : daemon'.sendFiles = daemon.sendFiles
  coordinator : daemon'.coordinator = daemon.coordinator

/-- Requests that leave the state files and the waiters alone. -/
def SendRequest.Aside : SendRequest → Prop
  | .saveReceiveState _ | .removeReceiveState _ | .saveSendState _ | .removeSendState _
  | .registerWaiter _ | .completeWaiter _ _ | .awaitAck _ _ => False
  | _ => True

section Steps

variable {daemon daemon' : Daemon} {transferId : Uuid}

theorem SameFiles.refl (daemon : Daemon) : SameFiles daemon daemon := ⟨rfl, rfl, rfl⟩

theorem perform_aside {task : TaskId} {request : SendRequest} {response : request.Response}
    (haside : request.Aside)
    (h : Daemon.perform task request response daemon = some daemon') :
    SameFiles daemon daemon' := by
  cases request with
  | saveReceiveState | removeReceiveState | saveSendState | removeSendState | registerWaiter
  | completeWaiter | awaitAck => exact haside.elim
  | hang => nomatch response
  | lockEntry | lockAcquire =>
      obtain ⟨locks, -, rfl⟩ := Option.map_eq_some_iff.mp h
      exact ⟨rfl, rfl, rfl⟩
  | listReceiveStates | readReceiveState | loadReceiveState | listSendStates
  | readSendState | pendingWaiters | isCancelled =>
      obtain ⟨-, h⟩ := Option.ite_none_right_eq_some.mp h
      obtain rfl := Option.some.inj h
      exact .refl _
  | newToken | childToken =>
      obtain ⟨-, h⟩ := Option.ite_none_right_eq_some.mp h
      obtain rfl := Option.some.inj h
      exact ⟨rfl, rfl, rfl⟩
  | importSources sources cancel =>
      obtain ⟨reports, outcome⟩ := response
      cases outcome with
      | cancelled =>
          obtain ⟨-, h⟩ := Option.ite_none_right_eq_some.mp h
          obtain rfl := Option.some.inj h
          exact .refl _
      | finished result =>
          obtain rfl := Option.some.inj h
          exact .refl _
  | _ =>
      obtain rfl := Option.some.inj h
      exact ⟨rfl, rfl, rfl⟩

theorem Daemon.receive_files (limits : ClipboardLimits) (daemon : Daemon)
    («from» : DeviceId) (envelope : SendEnvelope) (receipt : Option String)
    (hsound : daemon.coordinator.Sound) :
    (daemon.receive limits «from» envelope receipt).1.receiveFiles = daemon.receiveFiles ∧
      (daemon.receive limits «from» envelope receipt).1.sendFiles = daemon.sendFiles ∧
      (daemon.receive limits «from» envelope receipt).1.coordinator.Sound ∧
      daemon.coordinator.Keeps (daemon.receive limits «from» envelope receipt).1.coordinator := by
  unfold Daemon.receive
  dsimp only
  split
  · exact ⟨rfl, rfl, hsound, fun _ _ => rfl⟩
  · exact ⟨rfl, rfl, hsound.complete _ _⟩
  · obtain ⟨hpending, hchannels, hnext⟩ := daemon.coordinator.reportProgress_same _
    exact ⟨rfl, rfl, hsound.of_same hpending hchannels hnext⟩
  · exact ⟨rfl, rfl, hsound, fun _ _ => rfl⟩
  · exact ⟨rfl, rfl, hsound, fun _ _ => rfl⟩

theorem event_files {config : DaemonConfig} {event : DaemonEvent}
    {started : Option (TaskId × SendProg Unit)} (hsound : daemon.coordinator.Sound)
    (h : event.apply config daemon = some (daemon', started)) :
    daemon'.receiveFiles = daemon.receiveFiles ∧ daemon'.sendFiles = daemon.sendFiles ∧
      daemon'.coordinator.Sound ∧ daemon.coordinator.Keeps daemon'.coordinator := by
  have hkeeps : daemon.coordinator.Keeps daemon.coordinator := fun _ _ => rfl
  cases event with
  | receive task sender envelope receipt =>
      obtain ⟨rfl, -⟩ := Prod.mk.inj (Option.some.inj h)
      exact daemon.receive_files config.limits sender envelope receipt hsound
  | chunkTimeout timed =>
      simp only [DaemonEvent.apply, Option.ite_none_right_eq_some, Option.some.injEq,
        Prod.mk.injEq] at h
      obtain ⟨-, rfl, -⟩ := h
      exact ⟨rfl, rfl, hsound, hkeeps⟩
  | resumePass | sendFiles | cancelAll =>
      obtain ⟨rfl, -⟩ := Prod.mk.inj (Option.some.inj h)
      exact ⟨rfl, rfl, hsound, hkeeps⟩
  | watch task turns =>
      simp only [DaemonEvent.apply] at h
      split at h
      · cases h
      · obtain ⟨rfl, -⟩ := Prod.mk.inj (Option.some.inj h)
        exact ⟨rfl, rfl, hsound, hkeeps⟩

theorem Daemon.Orderly.perform {task : TaskId} {request : SendRequest}
    {response : request.Response} (h : daemon.Orderly)
    (hperform : Daemon.perform task request response daemon = some daemon') :
    daemon'.Orderly ∧ daemon.coordinator.Keeps daemon'.coordinator := by
  have hkeeps : daemon.coordinator.Keeps daemon.coordinator := fun _ _ => rfl
  by_cases haside : request.Aside
  · have hsame := perform_aside haside hperform
    refine ⟨⟨?_, ?_, hsame.coordinator ▸ h.waiters⟩, hsame.coordinator ▸ hkeeps⟩
    · exact fun filed state hlookup => h.receives filed state (hsame.receiveFiles ▸ hlookup)
    · exact fun filed state hlookup => h.sends filed state (hsame.sendFiles ▸ hlookup)
  · cases request with
    | saveReceiveState state =>
        obtain rfl := Option.some.inj hperform
        refine ⟨⟨h.receives.saveReceive _ _, ?_, ?_⟩, ?_⟩ <;> cases response
        · exact h.sends
        · exact h.sends
        · exact h.waiters
        · exact h.waiters
        · exact hkeeps
        · exact hkeeps
    | removeReceiveState removed =>
        obtain rfl := Option.some.inj hperform
        have hrest : (daemon.removeReceive removed response).sendFiles = daemon.sendFiles ∧
            (daemon.removeReceive removed response).coordinator = daemon.coordinator := by
          cases response with
          | error error => exact ⟨rfl, rfl⟩
          | ok _ =>
              simp only [Daemon.removeReceive]
              split <;> exact ⟨rfl, rfl⟩
        refine ⟨⟨h.receives.removeReceive _ _, ?_, hrest.2 ▸ h.waiters⟩, hrest.2 ▸ hkeeps⟩
        exact fun filed state hlookup => h.sends filed state (hrest.1 ▸ hlookup)
    | saveSendState state =>
        obtain rfl := Option.some.inj hperform
        cases response with
        | error error => exact ⟨h, hkeeps⟩
        | ok _ =>
            refine ⟨⟨h.receives, fun filed saved hlookup => ?_, h.waiters⟩, hkeeps⟩
            by_cases hfiled : filed = state.transferId
            · subst hfiled
              have hsaved : some state = some saved :=
                (AList.lookup_insert daemon.sendFiles).symm.trans hlookup
              exact Option.some.inj hsaved ▸ rfl
            · exact h.sends filed saved ((AList.lookup_insert_ne hfiled).symm.trans hlookup)
    | removeSendState removed =>
        obtain rfl := Option.some.inj hperform
        cases response with
        | error error => exact ⟨h, hkeeps⟩
        | ok _ =>
            refine ⟨⟨h.receives, fun filed saved hlookup => ?_, h.waiters⟩, hkeeps⟩
            by_cases hfiled : filed = removed
            · subst hfiled
              have hnone : none = some saved :=
                (AList.lookup_erase filed daemon.sendFiles).symm.trans hlookup
              cases hnone
            · exact h.sends filed saved ((AList.lookup_erase_ne hfiled).symm.trans hlookup)
    | registerWaiter registered =>
        obtain ⟨-, hsome⟩ := Option.ite_none_right_eq_some.mp hperform
        obtain rfl := Option.some.inj hsome
        obtain ⟨hsound, hkept⟩ := h.waiters.register
        exact ⟨⟨h.receives, h.sends, hsound⟩, hkept⟩
    | completeWaiter completed result =>
        obtain rfl := Option.some.inj hperform
        obtain ⟨hsound, hkept⟩ := h.waiters.complete result none
        exact ⟨⟨h.receives, h.sends, hsound⟩, hkept⟩
    | awaitAck cancel waiter =>
        obtain ⟨coordinator, hawait, rfl⟩ := Option.map_eq_some_iff.mp hperform
        obtain ⟨hpending, hchannels, hnext⟩ := Coordinator.await_same hawait
        obtain ⟨hsound, hkept⟩ := h.waiters.of_same hpending hchannels hnext
        exact ⟨⟨h.receives, h.sends, hsound⟩, hkept⟩
    | _ => exact absurd trivial haside

theorem Daemon.Orderly.event {config : DaemonConfig} {event : DaemonEvent}
    {started : Option (TaskId × SendProg Unit)} (h : daemon.Orderly)
    (hevent : event.apply config daemon = some (daemon', started)) :
    daemon'.Orderly ∧ daemon.coordinator.Keeps daemon'.coordinator := by
  obtain ⟨hreceives, hsends, hsound, hkept⟩ := event_files h.waiters hevent
  refine ⟨⟨fun filed state hlookup => ?_, fun filed state hlookup => ?_, hsound⟩, hkept⟩
  · exact h.receives filed state (hreceives ▸ hlookup)
  · exact h.sends filed state (hsends ▸ hlookup)

theorem Daemon.Forgot.perform {task : TaskId} {request : SendRequest}
    {response : request.Response} (h : daemon.Forgot transferId)
    (hspares : request.Spares transferId)
    (hperform : Daemon.perform task request response daemon = some daemon') :
    daemon'.Forgot transferId := by
  by_cases haside : request.Aside
  · have hsame := perform_aside haside hperform
    exact ⟨hsame.receiveFiles ▸ h.receives, hsame.sendFiles ▸ h.sends⟩
  · cases request with
    | saveReceiveState state =>
        obtain rfl := Option.some.inj hperform
        cases response with
        | error error => exact h
        | ok _ => exact ⟨(AList.lookup_insert_ne hspares.symm).trans h.receives, h.sends⟩
    | saveSendState state =>
        obtain rfl := Option.some.inj hperform
        cases response with
        | error error => exact h
        | ok _ => exact ⟨h.receives, (AList.lookup_insert_ne hspares.symm).trans h.sends⟩
    | removeReceiveState removed =>
        obtain rfl := Option.some.inj hperform
        cases response with
        | error error => exact h
        | ok _ =>
            simp only [Daemon.removeReceive]
            split
            · refine ⟨?_, h.sends⟩
              by_cases hremoved : transferId = removed
              · subst hremoved
                exact AList.lookup_erase _ _
              · exact (AList.lookup_erase_ne hremoved).trans h.receives
            · exact h
    | removeSendState removed =>
        obtain rfl := Option.some.inj hperform
        cases response with
        | error error => exact h
        | ok _ =>
            refine ⟨h.receives, ?_⟩
            by_cases hremoved : transferId = removed
            · subst hremoved
              exact AList.lookup_erase _ _
            · exact (AList.lookup_erase_ne hremoved).trans h.sends
    | registerWaiter registered =>
        obtain ⟨-, hsome⟩ := Option.ite_none_right_eq_some.mp hperform
        obtain rfl := Option.some.inj hsome
        exact ⟨h.receives, h.sends⟩
    | completeWaiter completed result =>
        obtain rfl := Option.some.inj hperform
        exact ⟨h.receives, h.sends⟩
    | awaitAck cancel waiter =>
        obtain ⟨coordinator, -, rfl⟩ := Option.map_eq_some_iff.mp hperform
        exact ⟨h.receives, h.sends⟩
    | _ => exact absurd trivial haside

theorem Daemon.Forgot.gone {task : TaskId} {request : SendRequest}
    {response : request.Response} (h : daemon.Forgot transferId) (horderly : daemon.Orderly)
    (hperform : Daemon.perform task request response daemon = some daemon') :
    Gone transferId request response := by
  have hreceive : ∀ filed (state : ReceiveTransferState),
      Daemon.readFile daemon.receiveFiles filed (.ok state) = true →
        state.transferId ≠ transferId := by
    rintro filed state hread rfl
    have hlookup : daemon.receiveFiles.lookup filed = some state := of_decide_eq_true hread
    obtain rfl := horderly.receives filed state hlookup
    cases h.receives.symm.trans hlookup
  have hsend : ∀ filed (state : SendTransferState),
      Daemon.readFile daemon.sendFiles filed (.ok state) = true →
        state.transferId ≠ transferId := by
    rintro filed state hread rfl
    have hlookup : daemon.sendFiles.lookup filed = some state := of_decide_eq_true hread
    obtain rfl := horderly.sends filed state hlookup
    cases h.sends.symm.trans hlookup
  cases request with
  | readSendState filed =>
      cases response with
      | error error => trivial
      | ok state => exact hsend filed state (Option.ite_none_right_eq_some.mp hperform).1
  | readReceiveState filed | loadReceiveState filed =>
      cases response with
      | error error => trivial
      | ok state => exact hreceive filed state (Option.ite_none_right_eq_some.mp hperform).1
  | _ => trivial

theorem Daemon.Orderly.named {task : TaskId} {request : SendRequest}
    {response : request.Response} (h : daemon.Orderly)
    (hperform : Daemon.perform task request response daemon = some daemon') :
    Named request response := by
  cases request with
  | readSendState filed =>
      cases response with
      | error error => trivial
      | ok state =>
          have hread := (Option.ite_none_right_eq_some.mp hperform).1
          exact h.sends filed state (of_decide_eq_true hread)
  | loadReceiveState filed =>
      cases response with
      | error error => trivial
      | ok state =>
          have hread := (Option.ite_none_right_eq_some.mp hperform).1
          exact h.receives filed state (of_decide_eq_true hread)
  | _ => trivial

theorem Coordinator.Keeps.trans {first second third : Coordinator} (h : first.Keeps second)
    (h' : second.Keeps third) : first.Keeps third := fun waiter hused =>
  (h' waiter (h waiter hused ▸ hused)).trans (h waiter hused)

theorem notAcked_of_perform {coordinator : Coordinator} {task : TaskId}
    {request : SendRequest} {response : request.Response}
    (hkeeps : coordinator.Keeps daemon.coordinator)
    (hperform : Daemon.perform task request response daemon = some daemon') :
    NotAcked coordinator request response := by
  cases request with
  | awaitAck cancel waiter =>
      obtain ⟨_, hawait, -⟩ := Option.map_eq_some_iff.mp hperform
      cases response with
      | acked result =>
          cases result with
          | error message => trivial
          | ok _ =>
              simp only [Coordinator.await] at hawait
              split at hawait
              · next sent receipt hchannel =>
                  obtain ⟨rfl, -⟩ := Option.ite_none_right_eq_some.mp hawait
                  refine Bool.eq_false_iff.mpr fun hfailed => ?_
                  have hused : coordinator.channels waiter ≠ .empty := by
                    intro hempty
                    simp [Coordinator.failed, hempty] at hfailed
                  have hkept := hkeeps waiter hused
                  rw [hchannel] at hkept
                  simp [Coordinator.failed, ← hkept] at hfailed
              · cases hawait
      | _ => trivial
  | _ => trivial

end Steps

/-- The event asks for the transfer: a client sends it, or a peer has announced it. -/
def DaemonEvent.Brings (transferId : Uuid) (daemon : Daemon) : DaemonEvent → Prop
  | .sendFiles _ request _ => request.transferId = transferId
  | .receive _ «from» envelope _ =>
      ∃ sender payload, .spawnTransferHandler sender payload ∈
        (Inbound.handleEnvelope «from» envelope
          { pendingChunkedTransfers := daemon.pendingChunkedTransfers
            effects := [] }).2.effects ∧
        payload.transferId = transferId
  | _ => False

def Undisturbed (transferId : Uuid) (daemon : Daemon) :
    Label SendSig TaskId DaemonEvent → Prop
  | .event event => ¬event.Brings transferId daemon
  | .call _ _ _ => True

section Runs

variable {transferId : Uuid} {config : DaemonConfig} {pool pool' : Pool SendSig TaskId Daemon}
  {labels : List (Label SendSig TaskId DaemonEvent)}

/-- What is told to a task where no file is there for the transfer. -/
def Forgotten (transferId : Uuid) (request : SendSig.Request)
    (response : SendSig.Response request) : Prop :=
  Named request response ∧ Gone transferId request response

theorem started_within {event : DaemonEvent} {daemon daemon' : Daemon} {task : TaskId}
    {program : SendProg Unit} (hnot : ¬event.Brings transferId daemon)
    (hpass : ∀ resumed, event ≠ .resumePass resumed)
    (h : event.apply config daemon = some (daemon', some (task, program))) :
    program.Within (SendRequest.Spares transferId) Named fun _ => True := by
  cases event with
  | receive task' «from» envelope receipt =>
      obtain ⟨-, hstarted⟩ := Prod.mk.inj (Option.some.inj h)
      obtain ⟨handler, hhandler, heq⟩ := Option.map_eq_some_iff.mp hstarted
      obtain ⟨-, rfl⟩ := Prod.mk.inj heq
      dsimp only at hhandler
      split at hhandler
      · next sender payload rest heffects =>
          obtain rfl := Option.some.inj hhandler
          have hother : payload.transferId ≠ transferId := fun hid =>
            hnot ⟨sender, payload, heffects ▸ List.mem_cons_self, hid⟩
          exact Prog.within_bind.mpr
            (within_handleTransfer _ _ (.inl hother) (Named.tellsOthers hother))
      all_goals cases hhandler
  | chunkTimeout timed =>
      simp only [DaemonEvent.apply, Option.ite_none_right_eq_some, Option.some.injEq,
        Prod.mk.injEq] at h
      cases h.2.2
  | resumePass task' => exact absurd rfl (hpass task')
  | sendFiles task' request turns =>
      obtain ⟨-, hstarted⟩ := Prod.mk.inj (Option.some.inj h)
      obtain ⟨-, rfl⟩ := Prod.mk.inj (Option.some.inj hstarted)
      exact within_handleSendFiles _ turns hnot (Named.tellsOthers hnot)
  | cancelAll task' =>
      obtain ⟨-, hstarted⟩ := Prod.mk.inj (Option.some.inj h)
      obtain ⟨-, rfl⟩ := Prod.mk.inj (Option.some.inj hstarted)
      refine .of_all cancelling_handleCancelAll fun request hkind => ?_
      cases request <;> first | exact hkind.elim | trivial
  | watch task' turns =>
      simp only [DaemonEvent.apply] at h
      split at h
      · cases h
      · obtain ⟨-, hstarted⟩ := Prod.mk.inj (Option.some.inj h)
        obtain ⟨-, rfl⟩ := Prod.mk.inj (Option.some.inj hstarted)
        refine .of_all (watching_disconnectWatcher _ _) fun request hkind => ?_
        cases request <;> first | exact hkind.elim | trivial

theorem forgot_run
    (hrun : (daemonWorld config).Run (Undisturbed transferId) pool labels pool')
    (horderly : pool.state.Orderly) (hforgot : pool.state.Forgot transferId)
    (htasks : ∀ task program, pool.tasks task = some program →
      program.Within (SendRequest.Spares transferId) (Forgotten transferId) fun _ => True) :
    pool'.state.Forgot transferId := by
  have hI : pool.state.Orderly ∧ pool.state.Forgot transferId := ⟨horderly, hforgot⟩
  refine (World.Run.within_all (I := fun daemon => daemon.Orderly ∧ daemon.Forgot transferId)
    hrun hI ?_ ?_ htasks).1.2
  · rintro task request response state state' ⟨hstate, hgone⟩ hguard hperform
    exact ⟨⟨(hstate.perform hperform).1, hgone.perform hguard hperform⟩,
      hstate.named hperform, hgone.gone hstate hperform⟩
  · rintro event state state' started ⟨hstate, hgone⟩ hnot hevent
    obtain ⟨hreceives, hsends, -⟩ := event_files hstate.waiters hevent
    refine ⟨⟨(hstate.event hevent).1, ⟨hreceives ▸ hgone.receives, hsends ▸ hgone.sends⟩⟩, ?_⟩
    rintro task program rfl
    by_cases hpass : ∃ resumed, event = .resumePass resumed
    · obtain ⟨resumed, rfl⟩ := hpass
      obtain ⟨-, hstarted⟩ := Prod.mk.inj (Option.some.inj hevent)
      obtain ⟨-, rfl⟩ := Prod.mk.inj (Option.some.inj hstarted)
      exact (within_resumeIncompleteReceives _).restrict fun _ _ h => h.2.noneListed
    · exact (started_within hnot (not_exists.mp hpass) hevent).restrict fun _ _ h => h.1

theorem silent_run (hrun : (daemonWorld config).Run (fun _ _ => True) pool labels pool')
    (horderly : pool.state.Orderly) {session : TaskId} {program : SendProg Unit}
    (hsession : pool.tasks session = some program)
    (hover : program.Within (SendRequest.Silent transferId) (NotAcked pool.state.coordinator)
      fun _ => True) :
    ∀ exchange ∈ trace session labels, SendRequest.Silent transferId exchange.request := by
  have hI : pool.state.Orderly ∧ pool.state.coordinator.Keeps pool.state.coordinator :=
    ⟨horderly, fun _ _ => rfl⟩
  refine (World.Run.within (I := fun daemon => daemon.Orderly ∧
    pool.state.coordinator.Keeps daemon.coordinator) hrun hI ?_ ?_ hsession hover).2
  · rintro task request response state state' ⟨hstate, hkept⟩ hperform
    obtain ⟨hstate', hkept'⟩ := hstate.perform hperform
    exact ⟨⟨hstate', hkept.trans hkept'⟩, notAcked_of_perform hkept hperform⟩
  · rintro event state state' started ⟨hstate, hkept⟩ hevent
    obtain ⟨hstate', hkept'⟩ := hstate.event hevent
    exact ⟨hstate', hkept.trans hkept'⟩

/-- A cancellation removes a state file of the transfer. -/
def cancelRemoves (canceller : TaskId) (transferId : Uuid) :
    Label SendSig TaskId DaemonEvent → Bool
  | .call task (.removeSendState removed) (.ok ()) => task == canceller && removed == transferId
  | .call task (.removeReceiveState removed) (.ok ()) =>
      task == canceller && removed == transferId
  | _ => false

/-- Where one kind of state file is removed, there is none of the other kind. -/
def otherGone (transferId : Uuid) (daemon : Daemon) : Label SendSig TaskId DaemonEvent → Bool
  | .call _ (.removeSendState _) _ => (daemon.receiveFiles.lookup transferId).isNone
  | _ => (daemon.sendFiles.lookup transferId).isNone

/-- Where a task that the event started in the daemon is to be. -/
def DaemonEvent.Quits (limits : ClipboardLimits) (coordinator : Coordinator) (transferId : Uuid)
    (daemon : Daemon) (program : SendProg Unit) : DaemonEvent → Prop
  | .sendFiles session request turns =>
      (sendFiles session request turns).Brings transferId daemon →
        SessionOver coordinator transferId program
  | .receive handler sender envelope receipt =>
      (receive handler sender envelope receipt).Brings transferId daemon →
        HandlerOver limits transferId program
  | .resumePass _ => PassOver limits transferId program
  | .chunkTimeout _ | .cancelAll _ | .watch _ _ => True

/-- When the last file of the transfer is removed, all sessions and handlers that were started
for the transfer, and all passes, are over with it; and the transfer is not asked for again
before the cancellation answers. -/
def QuitsInTime (config : DaemonConfig) (daemon : Daemon) (canceller : TaskId)
    (transferId : Uuid) (labels : List (Label SendSig TaskId DaemonEvent))
    (pool : Pool SendSig TaskId Daemon) : Prop :=
  ∀ early removal late middle, labels = early ++ removal :: late →
    cancelRemoves canceller transferId removal = true →
    (∀ label ∈ late, ¬cancelRemoves canceller transferId label = true) →
    (daemonWorld config).Run (fun _ _ => True) (idle daemon) (early ++ [removal]) middle →
    otherGone transferId middle.state removal = true ∧
      (∀ before event after earlier state task first program,
        early ++ [removal] = before ++ .event event :: after →
        (daemonWorld config).Run (fun _ _ => True) (idle daemon) before earlier →
        event.apply config earlier.state = some (state, some (task, first)) →
        middle.tasks task = some program →
        event.Quits config.limits middle.state.coordinator transferId earlier.state program) ∧
      (daemonWorld config).Run (Undisturbed transferId) middle late pool

theorem exists_last {α : Type} {p : α → Prop} {list : List α} (h : ∃ a ∈ list, p a) :
    ∃ before a after, list = before ++ a :: after ∧ p a ∧ ∀ b ∈ after, ¬p b := by
  induction list with
  | nil => simp at h
  | cons first list ih =>
      by_cases hrest : ∃ a ∈ list, p a
      · obtain ⟨before, a, after, rfl, ha, hlast⟩ := ih hrest
        exact ⟨first :: before, a, after, rfl, ha, hlast⟩
      · obtain ⟨a, hmem, ha⟩ := h
        rcases List.mem_cons.mp hmem with rfl | hmem
        · exact ⟨[], a, list, rfl, ha, fun b hb hp => hrest ⟨b, hb, hp⟩⟩
        · exact absurd ⟨a, hmem, ha⟩ hrest

theorem forgot_of_removes {canceller : TaskId} {removal : Label SendSig TaskId DaemonEvent}
    (hremoves : cancelRemoves canceller transferId removal = true)
    (hstep : (daemonWorld config).step pool removal = some pool')
    (hother : otherGone transferId pool'.state removal = true) : pool'.state.Forgot transferId := by
  cases removal with
  | event event => cases hremoves
  | call task request response =>
      obtain ⟨_, daemon, -, hperform, rfl⟩ := World.step_call hstep
      cases request with
      | removeSendState removed =>
          cases response with
          | error error => cases hremoves
          | ok _ =>
              obtain ⟨-, hid⟩ := Bool.and_eq_true_iff.mp hremoves
              obtain rfl := beq_iff_eq.mp hid
              obtain rfl := Option.some.inj hperform
              exact ⟨Option.isNone_iff_eq_none.mp hother, AList.lookup_erase _ _⟩
      | removeReceiveState removed =>
          cases response with
          | error error => cases hremoves
          | ok _ =>
              obtain ⟨-, hid⟩ := Bool.and_eq_true_iff.mp hremoves
              obtain rfl := beq_iff_eq.mp hid
              obtain rfl := Option.some.inj hperform
              refine ⟨?_, Option.isNone_iff_eq_none.mp hother⟩
              simp only [Daemon.removeReceive, Pool.put_state]
              split
              · exact AList.lookup_erase _ _
              · next hmem => exact AList.lookup_eq_none.mpr hmem
      | _ => cases hremoves

theorem removes_of_removed {canceller : TaskId}
    (h : RemovedSend transferId (trace canceller labels) ∨
      RemovedReceive transferId (trace canceller labels)) :
    ∃ label ∈ labels, cancelRemoves canceller transferId label = true := by
  have hlabel : ∀ exchange ∈ trace canceller labels,
      .call canceller exchange.request exchange.response ∈ labels := by
    intro exchange hmem
    obtain ⟨label, hlabel, heq⟩ := List.mem_filterMap.mp hmem
    cases label with
    | event event => cases heq
    | call task request response =>
        obtain ⟨rfl, hsome⟩ := Option.ite_none_right_eq_some.mp heq
        obtain rfl := Option.some.inj hsome
        exact hlabel
  rcases h with h | h
  · exact ⟨_, hlabel _ h, by simp [cancelRemoves]⟩
  · exact ⟨_, hlabel _ h, by simp [cancelRemoves]⟩

/-- Tasks that were started for other transfers spare this one; the others are over with it. -/
theorem spares_of_quits {daemon : Daemon} (horderly : daemon.Orderly)
    (hrun : (daemonWorld config).Run (fun _ _ => True) (idle daemon) labels pool)
    (hquits : ∀ before event after earlier state task first program,
      labels = before ++ .event event :: after →
      (daemonWorld config).Run (fun _ _ => True) (idle daemon) before earlier →
      event.apply config earlier.state = some (state, some (task, first)) →
      pool.tasks task = some program →
      event.Quits config.limits pool.state.coordinator transferId earlier.state program)
    {task : TaskId} {program : SendProg Unit} (htask : pool.tasks task = some program) :
    program.Within (SendRequest.Spares transferId) (Forgotten transferId) fun _ => True := by
  obtain ⟨before, event, after, earlier, state, first, hsplit, hearlier, -, hevent, hafter⟩ :=
    hrun.started_at rfl htask
  have hquit := hquits before event after earlier state task first program hsplit hearlier
    hevent htask
  -- what a task was told since it was started comes from files named after their transfers
  have hother : ¬event.Brings transferId earlier.state →
      (∀ resumed, event ≠ .resumePass resumed) →
      program.Within (SendRequest.Spares transferId) (Forgotten transferId) fun _ => True := by
    intro hnot hpass
    have hstate : earlier.state.Orderly :=
      hearlier.state_inv horderly (fun _ _ _ _ _ h hp => (h.perform hp).1)
        (fun _ _ _ _ h he => (h.event he).1)
    have hfirst := started_within hnot hpass hevent
    obtain ⟨program', hprogram', hwithin⟩ := (hafter.within (I := Daemon.Orderly)
      (hstate.event hevent).1 (fun _ _ _ _ _ h hp => ⟨(h.perform hp).1, h.named hp⟩)
      (fun _ _ _ _ h he => (h.event he).1) (Pool.put_tasks_self _ _ _ _) hfirst).1
    obtain rfl := Option.some.inj (htask.symm.trans hprogram')
    exact hwithin.restrict fun _ _ h => h.1
  cases event with
  | sendFiles session request turns =>
      by_cases hbrings : (DaemonEvent.sendFiles session request turns).Brings transferId
          earlier.state
      · exact (hquit hbrings).files.restrict fun _ _ h => h.2
      · exact hother hbrings nofun
  | receive handler sender envelope receipt =>
      by_cases hbrings : (DaemonEvent.receive handler sender envelope receipt).Brings transferId
          earlier.state
      · exact (hquit hbrings).files.restrict fun _ _ h => h.2
      · exact hother hbrings nofun
  | resumePass => exact hquit.files.restrict fun _ _ h => h.2
  | chunkTimeout | cancelAll | watch => exact hother id nofun

/-- A cancellation that has answered is final, when it comes in time: no state file of a
transfer that it listed is there or comes back before the transfer is asked for again, and no
session of it sends it or reports it complete. -/
theorem cancelled_for_good (config : DaemonConfig) (transferId : Uuid) {daemon : Daemon}
    (horderly : daemon.Orderly) {labels : List (Label SendSig TaskId DaemonEvent)}
    {pool answered : Pool SendSig TaskId Daemon} {canceller : TaskId} {sends receives : Nat}
    {shown : Bool} (hrun : (daemonWorld config).Run (fun _ _ => True) (idle daemon) labels pool)
    (hanswer : (daemonWorld config).step pool
      (.call canceller (.sendResponse (.cancelTransfers sends receives)) shown) = some answered)
    (hlisted : ListedSend transferId (trace canceller labels) ∨
      ListedReceive transferId (trace canceller labels))
    (hquits : QuitsInTime config daemon canceller transferId labels pool) :
    (∀ later final, (daemonWorld config).Run (Undisturbed transferId) answered later final →
        final.state.Forgot transferId) ∧
      ∀ later final, (daemonWorld config).Run (fun _ _ => True) answered later final →
        ∀ session request turns, .event (.sendFiles session request turns) ∈ labels →
          request.transferId = transferId →
          ∀ exchange ∈ trace session later, SendRequest.Silent transferId exchange.request := by
  have hidle : ∀ task, (idle daemon).tasks task = none := fun _ => rfl
  -- what was listed was removed, and the last removal is the one that counts
  obtain ⟨_, _, _, _, _, hevent, hensures⟩ := hrun.asked hidle hanswer
  have hconfirmed : ConfirmGuard (trace canceller labels)
      (.sendResponse (.cancelTransfers sends receives)) := hensures _ _ (started_confirms hevent)
  have hremoved := removes_of_removed
    (hlisted.imp (hconfirmed transferId).1 (hconfirmed transferId).2)
  obtain ⟨early, removal, late, rfl, hremoves, hlast⟩ := exists_last hremoved
  obtain ⟨before, middle, hbefore, -, hstep, -⟩ := hrun.split_inv
  have hmiddle : (daemonWorld config).Run (fun _ _ => True) (idle daemon)
      (early ++ [removal]) middle := .snoc hbefore trivial hstep
  obtain ⟨hother, hover, hlate⟩ := hquits early removal late middle rfl hremoves hlast hmiddle
  have hforgot := forgot_of_removes hremoves hstep hother
  have hstate : middle.state.Orderly :=
    hmiddle.state_inv horderly (fun _ _ _ _ _ h hp => (h.perform hp).1)
      (fun _ _ _ _ h he => (h.event he).1)
  have hanswered : (daemonWorld config).Run (Undisturbed transferId) middle
      (late ++ [.call canceller (.sendResponse (.cancelTransfers sends receives)) shown])
      answered := .snoc hlate trivial hanswer
  refine ⟨fun later final hlater => ?_, ?_⟩
  · exact forgot_run (hanswered.append hlater) hstate hforgot fun task program htask =>
      spares_of_quits horderly hmiddle hover htask
  · intro later final hlater session request turns hsession hid
    -- the session runs, and is over, when the file is removed
    have hstarted : ∃ program, middle.tasks session = some program ∧
        SessionOver middle.state.coordinator transferId program := by
      rcases List.mem_append.mp hsession with hmem | hmem
      · obtain ⟨first, rest, rfl⟩ := List.append_of_mem hmem
        obtain ⟨_, _, hearlier, -, hbegins, hrest⟩ := hbefore.split_inv
        obtain ⟨_, _, hbegun, hnew⟩ := World.step_event hbegins
        obtain ⟨rfl, rfl⟩ := Prod.mk.inj (Option.some.inj hbegun)
        obtain ⟨hnone, -⟩ | ⟨task, program, heq, -, rfl⟩ := hnew
        · cases hnone
        · obtain ⟨rfl, rfl⟩ := Prod.mk.inj (Option.some.inj heq)
          have halive : middle.tasks session ≠ none :=
            (World.Run.snoc hrest trivial hstep).alive (by simp)
          obtain ⟨program, hprogram⟩ := Option.ne_none_iff_exists'.mp halive
          have hquit := hover first (.sendFiles session request turns) (rest ++ [removal]) _ _
            session _ program (by simp) hearlier hbegun hprogram
          exact ⟨program, hprogram, hquit hid⟩
      · rcases List.mem_cons.mp hmem with rfl | hmem
        · cases hremoves
        · obtain ⟨first, rest, rfl⟩ := List.append_of_mem hmem
          obtain ⟨_, _, -, hcond, -, -⟩ := hlate.split_inv
          exact absurd hid hcond
    obtain ⟨program, hprogram, hsession⟩ := hstarted
    have hall := (hanswered.mono fun _ _ _ => trivial).append hlater
    intro exchange hmem
    refine silent_run hall hstate hprogram hsession.sends exchange ?_
    rw [trace_append]
    exact List.mem_append_right _ hmem

theorem quitsInTime_of_last {daemon : Daemon} {canceller : TaskId}
    {early late : List (Label SendSig TaskId DaemonEvent)}
    {removal : Label SendSig TaskId DaemonEvent} {middle : Pool SendSig TaskId Daemon}
    (hremoves : cancelRemoves canceller transferId removal = true)
    (hlast : ∀ label ∈ late, ¬cancelRemoves canceller transferId label = true)
    (hmiddle : (daemonWorld config).Run (fun _ _ => True) (idle daemon) (early ++ [removal]) middle)
    (hother : otherGone transferId middle.state removal = true)
    (hover : ∀ before event after earlier state task first program,
      early ++ [removal] = before ++ .event event :: after →
      (daemonWorld config).Run (fun _ _ => True) (idle daemon) before earlier →
      event.apply config earlier.state = some (state, some (task, first)) →
      middle.tasks task = some program →
      event.Quits config.limits middle.state.coordinator transferId earlier.state program)
    (hlate : (daemonWorld config).Run (Undisturbed transferId) middle late pool) :
    QuitsInTime config daemon canceller transferId (early ++ removal :: late) pool := by
  intro early' removal' late' middle' hsplit hremoves' hlast' hmiddle'
  have hbefore : ∀ between, early' ≠ early ++ removal :: between := by
    rintro between rfl
    have hrest : late = between ++ removal' :: late' := by simpa using hsplit
    exact hlast removal' (by simp [hrest]) hremoves'
  have hafter : ∀ between, early ≠ early' ++ removal' :: between := by
    rintro between rfl
    have hrest : late' = between ++ removal :: late := by simpa using hsplit.symm
    exact hlast' removal (by simp [hrest]) hremoves
  obtain ⟨rfl, rfl, rfl⟩ := eq_of_split hsplit hbefore hafter
  obtain rfl := hmiddle.unique hmiddle'
  exact ⟨hother, hover, hlate⟩

end Runs

/-- What a run on scripts comes to, script by script. -/
def phases : List (List (Move TaskId DaemonEvent)) → Pool SendSig TaskId Daemon →
    Option (List (List (Label SendSig TaskId DaemonEvent) × Pool SendSig TaskId Daemon))
  | [], _ => some []
  | script :: scripts, pool =>
      ((daemonWorld deskConfig).follow (fun _ _ => True) (fun _ => Daemon.oblige laptop)
          script pool).bind fun (labels, pool') =>
        (phases scripts pool').map fun rest => (labels, pool') :: rest

theorem phases_cons {script : List (Move TaskId DaemonEvent)}
    {scripts : List (List (Move TaskId DaemonEvent))} {pool : Pool SendSig TaskId Daemon}
    {result : List (List (Label SendSig TaskId DaemonEvent) × Pool SendSig TaskId Daemon)}
    (h : phases (script :: scripts) pool = some result) :
    ∃ labels pool' rest, result = (labels, pool') :: rest ∧
      (daemonWorld deskConfig).follow (fun _ _ => True) (fun _ => Daemon.oblige laptop)
        script pool = some (labels, pool') ∧
      phases scripts pool' = some rest := by
  simp only [phases, Option.bind_eq_some_iff, Option.map_eq_some_iff, Prod.exists] at h
  obtain ⟨labels, pool', hfollow, rest, hrest, rfl⟩ := h
  exact ⟨labels, pool', rest, rfl, hfollow, hrest⟩

def Label.isCall : Label SendSig TaskId DaemonEvent → Bool
  | .call _ _ _ => true
  | .event _ => false

theorem undisturbed_of_calls {config : DaemonConfig} {transferId : Uuid}
    {pool pool' : Pool SendSig TaskId Daemon} {labels : List (Label SendSig TaskId DaemonEvent)}
    (h : (daemonWorld config).Run (fun _ _ => True) pool labels pool')
    (hcalls : ∀ label ∈ labels, Label.isCall label = true) :
    (daemonWorld config).Run (Undisturbed transferId) pool labels pool' := by
  induction h with
  | nil => exact .nil
  | @snoc middle last labels label _ _ hstep ih =>
      refine .snoc (ih fun label hmem => hcalls label (List.mem_append_left _ hmem)) ?_ hstep
      have hcall := hcalls label (by simp)
      cases label with
      | call => trivial
      | event => cases hcall

/-- The step starts none but the two tasks of the script. -/
def startsKnown : Label SendSig TaskId DaemonEvent → Bool
  | .event (.sendFiles task _ _) => task == 1
  | .event (.cancelAll task) => task == 2
  | .event _ => false
  | .call _ _ _ => true

def listsSend (transferId : Uuid) : Exchange SendSig → Bool
  | ⟨.readSendState _, .ok state⟩ =>
      (SendTransferState.stage state != .complete) &&
        SendTransferState.transferId state == transferId
  | _ => false

theorem listedSend_of_listsSend {transferId : Uuid} {history : List (Exchange SendSig)}
    {exchange : Exchange SendSig} (hmem : exchange ∈ history)
    (h : listsSend transferId exchange = true) : ListedSend transferId history := by
  obtain ⟨request, response⟩ := exchange
  cases request with
  | readSendState filed =>
      cases response with
      | error error => cases h
      | ok state =>
          obtain ⟨hstage, hid⟩ := Bool.and_eq_true_iff.mp h
          exact ⟨filed, state, hmem, bne_iff_ne.mp hstage, beq_iff_eq.mp hid⟩
  | _ => cases h

/-- Where the client of a waiting session sends nothing more, and another cancels all. -/
def cancelWhileWaiting : List (List (Move TaskId DaemonEvent)) :=
  [.event (.sendFiles 1 photosRequest 3) :: List.replicate 24 (.tick 1) ++
      .event (.cancelAll 2) :: List.replicate 3 (.tick 2),
    [.tick 2], [.tick 2, .tick 2], [.tick 2]]

set_option maxRecDepth 20000 in
theorem waiting_when_cancelled :
    (phases cancelWhileWaiting (idle .empty)).bind (fun
      | [_, (_, middle), _, _] => middle.tasks 1
      | _ => none) = some (awaitOutcome [0] 0 7 3) := by
  rfl

def cancelledInTime : List (List (Label SendSig TaskId DaemonEvent) × Pool SendSig TaskId Daemon) →
    Bool
  | [(early, _), ([removal], middle), (late, _),
      ([.call 2 (.sendResponse (.cancelTransfers 1 0)) _], _)] =>
      (early ++ [removal]).all startsKnown && (trace 2 early).any (listsSend 7) &&
      cancelRemoves 2 7 removal && otherGone 7 middle.state removal &&
      late.all (fun label => Label.isCall label && !cancelRemoves 2 7 label) &&
      middle.state.coordinator.failed 0
  | _ => false

/-- A session that waits when all is cancelled is cancelled for good. -/
theorem cancelled_while_waiting :
    ∃ labels pool answered shown,
      (daemonWorld deskConfig).Run (fun _ _ => True) (idle .empty) labels pool ∧
      .event (.sendFiles 1 photosRequest 3) ∈ labels ∧
      (daemonWorld deskConfig).step pool
        (.call 2 (.sendResponse (.cancelTransfers 1 0)) shown) = some answered ∧
      (∀ later final, (daemonWorld deskConfig).Run (Undisturbed 7) answered later final →
        final.state.Forgot 7) ∧
      ∀ later final, (daemonWorld deskConfig).Run (fun _ _ => True) answered later final →
        ∀ exchange ∈ trace 1 later, SendRequest.Silent 7 exchange.request := by
  have hsome : (phases cancelWhileWaiting (idle .empty)).any cancelledInTime = true := by
    decide +kernel
  obtain ⟨result, hphases, hresult⟩ := (Option.any_eq_true _ _).mp hsome
  unfold cancelledInTime at hresult
  split at hresult
  · next early before removal middle late pool shown answered =>
      simp only [Bool.and_eq_true] at hresult
      obtain ⟨⟨⟨⟨⟨hstarts, hlists⟩, hremoves⟩, hother⟩, hlast⟩, hfailed⟩ := hresult
      have hwaiting := waiting_when_cancelled
      rw [hphases] at hwaiting
      obtain ⟨_, _, _, heq, hfollow₁, hphases⟩ := phases_cons hphases
      obtain ⟨⟨rfl, rfl⟩, rfl⟩ := (List.cons.inj heq).imp_left Prod.mk.inj
      obtain ⟨_, _, _, heq, hfollow₂, hphases⟩ := phases_cons hphases
      obtain ⟨⟨rfl, rfl⟩, rfl⟩ := (List.cons.inj heq).imp_left Prod.mk.inj
      obtain ⟨_, _, _, heq, hfollow₃, hphases⟩ := phases_cons hphases
      obtain ⟨⟨rfl, rfl⟩, rfl⟩ := (List.cons.inj heq).imp_left Prod.mk.inj
      obtain ⟨_, _, _, heq, hfollow₄, -⟩ := phases_cons hphases
      obtain ⟨⟨rfl, rfl⟩, -⟩ := (List.cons.inj heq).imp_left Prod.mk.inj
      have hmiddle := (World.run_of_follow hfollow₁).append (World.run_of_follow hfollow₂)
      have hlate := World.run_of_follow hfollow₃
      have hrun : (daemonWorld deskConfig).Run (fun _ _ => True) (idle .empty)
          (early ++ removal :: late) pool := by
        simpa using hmiddle.append hlate
      have hanswered : (daemonWorld deskConfig).Run (fun _ _ => True) pool
          ([] ++ [.call 2 (.sendResponse (.cancelTransfers 1 0)) shown]) answered :=
        World.run_of_follow hfollow₄
      obtain ⟨_, hnil, -, hanswer⟩ := hanswered.snoc_inv
      obtain rfl := hnil.nil_inv
      have hsession : .event (.sendFiles 1 photosRequest 3) ∈ early ++ removal :: late :=
        List.mem_append_left _ (World.event_of_follow hfollow₁ (by simp))
      have hlisted : ListedSend 7 (trace 2 (early ++ removal :: late)) := by
        obtain ⟨exchange, hmem, hlists⟩ := List.any_eq_true.mp hlists
        rw [trace_append]
        exact listedSend_of_listsSend (List.mem_append_left _ hmem) hlists
      have hover : ∀ before event after earlier state task first program,
          early ++ [removal] = before ++ .event event :: after →
          (daemonWorld deskConfig).Run (fun _ _ => True) (idle .empty) before earlier →
          event.apply deskConfig earlier.state = some (state, some (task, first)) →
          middle.tasks task = some program →
          event.Quits deskConfig.limits middle.state.coordinator 7 earlier.state program := by
        intro before event after earlier state task first program hsplit _ hevent hprogram
        rw [hsplit] at hstarts
        have hknown := List.all_eq_true.mp hstarts (.event event) (by simp)
        cases event with
        | sendFiles session request turns =>
            intro _
            obtain rfl : session = 1 := beq_iff_eq.mp hknown
            obtain ⟨-, hstarted⟩ := Prod.mk.inj (Option.some.inj hevent)
            obtain ⟨rfl, -⟩ := Prod.mk.inj (Option.some.inj hstarted)
            obtain rfl := Option.some.inj (hwaiting.symm.trans hprogram)
            exact .waiting hfailed
        | cancelAll canceller => trivial
        | _ => cases hknown
      have hcalls : ∀ label ∈ late,
          Label.isCall label = true ∧ ¬cancelRemoves 2 7 label = true := by
        intro label hmem
        simpa using List.all_eq_true.mp hlast label hmem
      have hfinal := cancelled_for_good deskConfig 7 orderly_empty hrun hanswer (.inl hlisted)
        (quitsInTime_of_last hremoves (fun label hmem => (hcalls label hmem).2) hmiddle hother
          hover (undisturbed_of_calls hlate fun label hmem => (hcalls label hmem).1))
      exact ⟨_, _, _, shown, hrun, hsession, hanswer, hfinal.1, fun later final hlater =>
        hfinal.2 later final hlater 1 photosRequest 3 hsession rfl⟩
  · cases hresult

/-- A session that is still importing its files when all is cancelled. -/
def cancelWhileImporting : List (List (Move TaskId DaemonEvent)) :=
  [.event (.sendFiles 1 photosRequest 3) :: List.replicate 13 (.tick 1) ++
      .event (.cancelAll 2) :: List.replicate 6 (.tick 2),
    [.tick 2], List.replicate 10 (.tick 1)]

def filedAgain : List (List (Label SendSig TaskId DaemonEvent) × Pool SendSig TaskId Daemon) → Bool
  | [(labels, _), ([.call 2 (.sendResponse (.cancelTransfers 1 0)) _], _), (later, final)] =>
      (trace 2 labels).any (listsSend 7) && later.all Label.isCall &&
      (final.state.sendFiles.lookup 7).isSome
  | _ => false

/-- It writes its state file again, and sends the transfer. -/
theorem importing_session_goes_on :
    ¬∀ config transferId daemon labels pool answered canceller sends receives shown,
      daemon.Orderly → (daemonWorld config).Run (fun _ _ => True) (idle daemon) labels pool →
      (daemonWorld config).step pool (.call canceller
        (.sendResponse (.cancelTransfers sends receives)) shown) = some answered →
      (ListedSend transferId (trace canceller labels) ∨
        ListedReceive transferId (trace canceller labels)) →
      (∀ later final, (daemonWorld config).Run (Undisturbed transferId) answered later final →
          final.state.Forgot transferId) ∧
        ∀ later final, (daemonWorld config).Run (fun _ _ => True) answered later final →
          ∀ session request turns, .event (.sendFiles session request turns) ∈ labels →
            request.transferId = transferId →
            ∀ exchange ∈ trace session later,
              SendRequest.Silent transferId exchange.request := by
  intro hall
  have hsome : (phases cancelWhileImporting (idle .empty)).any filedAgain = true := by
    decide +kernel
  obtain ⟨result, hphases, hresult⟩ := (Option.any_eq_true _ _).mp hsome
  unfold filedAgain at hresult
  split at hresult
  · next labels pool shown answered later final =>
      simp only [Bool.and_eq_true] at hresult
      obtain ⟨⟨hlists, hcalls⟩, hfiled⟩ := hresult
      obtain ⟨_, _, _, heq, hfollow₁, hphases⟩ := phases_cons hphases
      obtain ⟨⟨rfl, rfl⟩, rfl⟩ := (List.cons.inj heq).imp_left Prod.mk.inj
      obtain ⟨_, _, _, heq, hfollow₂, hphases⟩ := phases_cons hphases
      obtain ⟨⟨rfl, rfl⟩, rfl⟩ := (List.cons.inj heq).imp_left Prod.mk.inj
      obtain ⟨_, _, _, heq, hfollow₃, -⟩ := phases_cons hphases
      obtain ⟨⟨rfl, rfl⟩, -⟩ := (List.cons.inj heq).imp_left Prod.mk.inj
      have hanswered : (daemonWorld deskConfig).Run (fun _ _ => True) pool
          ([] ++ [.call 2 (.sendResponse (.cancelTransfers 1 0)) shown]) answered :=
        World.run_of_follow hfollow₂
      obtain ⟨_, hnil, -, hanswer⟩ := hanswered.snoc_inv
      obtain rfl := hnil.nil_inv
      obtain ⟨exchange, hmem, hlists⟩ := List.any_eq_true.mp hlists
      have hfinal := (hall deskConfig 7 .empty labels _ answered 2 1 0 shown orderly_empty
        (World.run_of_follow hfollow₁) hanswer (.inl (listedSend_of_listsSend hmem hlists))).1
      have hforgot := hfinal later final (undisturbed_of_calls (World.run_of_follow hfollow₃)
        (List.all_eq_true.mp hcalls))
      rw [hforgot.sends] at hfiled
      cases hfiled
  · cases hresult

end Failsafe.Send
