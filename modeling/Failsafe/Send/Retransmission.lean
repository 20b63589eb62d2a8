import Failsafe.Send.ReceiveOnce

/-!
Transfers that are handled one after another: what a retransmitted transfer does
after the first one was exported.
-/

namespace Failsafe.Send

open Failsafe.Core Failsafe.Clipboard Failsafe.Lib

/-- The receive of the transfer was completed: its state file says so, or is gone. -/
def ReceiveRecord.done (record : ReceiveRecord) : Bool :=
  record.removed || record.file.any fun state => state.stage == .complete

/-- Where the files of the transfer were exported to. -/
def Daemon.receiveDirs (daemon : Daemon) (transferId : Uuid) : List String :=
  (daemon.exports.filter fun call => call.transferId == transferId && call.ok).map
    ExportCall.destDir

theorem Daemon.receiveDirs_exported (daemon : Daemon) (transferId other : Uuid)
    (root destDir : String) (ok : Bool) :
    (daemon.exported other root destDir ok).receiveDirs transferId =
      daemon.receiveDirs transferId ++
        if other = transferId ∧ ok = true then [destDir] else [] := by
  by_cases heq : other = transferId <;> cases ok <;>
    simp [Daemon.receiveDirs, Daemon.exported, heq]

/-- The files of the transfer were exported, or its receive was completed. -/
def Daemon.touched (daemon : Daemon) (transferId : Uuid) : Bool :=
  !(daemon.receiveDirs transferId).isEmpty || (daemon.record transferId).done

/-- A handling that starts with its transfer exported finds the state complete. -/
def remembered (start _daemon : Daemon) : (request : SendRequest) → request.Response → Bool
  | .loadReceiveState transferId, .ok state =>
      !start.touched transferId || state.stage == .complete
  | .loadReceiveState transferId, .error _ => !start.touched transferId
  | _, _ => true

/-- One transfer, handled from its message to its end. -/
structure Handling where
  sender : DeviceId
  payload : SendPayload
  before : Daemon
  log : List (Exchange SendSig)
  result : Except FeatureError Unit
  after : Daemon

/-- Running alone, in steps that meet a condition. -/
def aloneAct (cond : Daemon → (request : SendRequest) → request.Response → Bool)
    (request : SendRequest) (response : request.Response) (daemon daemon' : Daemon) : Prop :=
  cond daemon request response = true ∧
    Daemon.perform 0 request response daemon = some daemon'

/-- Transfers handled one after another, where `cond` is about the daemon that a
handling starts with and each of its steps. -/
inductive HandlesAll (limits : ClipboardLimits)
    (cond : Daemon → Daemon → (request : SendRequest) → request.Response → Bool) :
    Daemon → List Handling → Daemon → Prop
  | nil {daemon : Daemon} : HandlesAll limits cond daemon [] daemon
  | snoc {daemon : Daemon} {handlings : List Handling} {handling : Handling} :
      HandlesAll limits cond daemon handlings handling.before →
      Prog.Exec (aloneAct (cond handling.before))
        (handleTransfer limits handling.sender handling.payload)
        handling.before handling.log handling.result handling.after →
      HandlesAll limits cond daemon (handlings ++ [handling]) handling.after

/-- The handling made no export and sent an acknowledgement of success. -/
def Handling.Answered (handling : Handling) : Prop :=
  handling.after.exports = handling.before.exports ∧
    ∃ sent, handling.after.outbox = handling.before.outbox ++ sent ∧
      ∃ message ∈ sent, message.to = handling.sender ∧
        message.envelope = .ack
          { transferId := handling.payload.transferId, ok := true, error := none }

/-- Requests that export nothing. -/
def SendRequest.Exportless : SendRequest → Prop
  | .exportCollection _ _ _ => False
  | _ => True

theorem SendRequest.Quiet.exportless {request : SendRequest} (h : request.Quiet) :
    request.Exportless := by
  cases request <;> first | exact h | trivial

section Exportless

theorem exportless_ask {request : SendRequest} (h : request.Exportless) :
    (ask request).All SendRequest.Exportless :=
  ⟨h, fun _ => trivial⟩

theorem exportless_quiet {α : Type} {p : SendProg α} (h : p.All SendRequest.Quiet) :
    p.All SendRequest.Exportless :=
  h.mono fun _ => SendRequest.Quiet.exportless

theorem exportless_downloadReceive (limits : ClipboardLimits)
    (state : ReceiveTransferState) :
    (downloadReceive limits state).run.All SendRequest.Exportless := by
  refine .tryBind (show (liftExcept _).run.All _ from trivial) fun _ => ?_
  refine .tryBind (exportless_ask trivial) fun _ => ?_
  refine .tryBind (.lift (exportless_quiet (quiet_emitProgress _ _))) fun _ => ?_
  refine .tryBind (.lift (exportless_ask trivial)) fun ⟨downloads, downloaded⟩ => ?_
  refine .tryBind (.lift (exportless_quiet (quiet_emitProgress _ _))) fun _ => ?_
  exact .tryBind (show (liftExcept _).run.All _ from trivial) fun _ => exportless_ask trivial

theorem exportless_acknowledgeAndRemove («from» : DeviceId) (transferId : Uuid)
    (receipt : String) :
    (acknowledgeAndRemove «from» transferId receipt).run.All SendRequest.Exportless := by
  refine .tryBind (exportless_quiet (quiet_sendAck _ _ _)) fun _ => ?_
  exact .tryBind (.lift (exportless_ask trivial)) fun _ => trivial

theorem exportless_reportReceiveFailure («from» : DeviceId) (transferId : Uuid)
    (message : String) :
    (reportReceiveFailure «from» transferId message).All SendRequest.Exportless := by
  have hack : ((sendAck «from» { transferId, ok := false, error := some message } none).run
      >>= fun _ => Prog.ret ()).All SendRequest.Exportless :=
    .bind (exportless_quiet (quiet_sendAck _ _ _)) fun _ => trivial
  refine .bind (exportless_ask trivial) fun result => ?_
  cases result with
  | error error => exact hack
  | ok state => exact .bind (exportless_ask trivial) fun _ => hack

end Exportless

/-- What happened since a handling started, as long as nothing was exported. -/
structure Since (start daemon : Daemon) : Prop where
  exports : daemon.exports = start.exports
  outbox : start.outbox <+: daemon.outbox

theorem Since.refl (daemon : Daemon) : Since daemon daemon :=
  ⟨rfl, List.prefix_refl _⟩

theorem Since.trans {first second third : Daemon} (h : Since first second)
    (h' : Since second third) : Since first third :=
  ⟨h'.exports.trans h.exports, h.outbox.trans h'.outbox⟩

theorem perform_exportless {request : SendRequest} {response : request.Response}
    {daemon daemon' : Daemon} (hexportless : request.Exportless)
    (h : Daemon.perform 0 request response daemon = some daemon') :
    Since daemon daemon' ∧ (daemon.Filed → daemon'.Filed) := by
  by_cases hquiet : request.Quiet
  · have hsame := Daemon.perform_quiet hquiet h
    refine ⟨⟨hsame.exports, hsame.outbox⟩, fun hfiled transferId state => ?_⟩
    rw [hsame.receiveFiles]
    exact hfiled transferId state
  · cases request with
    | exportCollection => exact hexportless.elim
    | saveReceiveState state =>
        obtain rfl := Option.some.inj h
        refine ⟨?_, fun hfiled => hfiled.saveReceive _ _⟩
        cases response <;> exact ⟨rfl, List.prefix_refl _⟩
    | removeReceiveState transferId =>
        obtain rfl := Option.some.inj h
        refine ⟨?_, fun hfiled => hfiled.removeReceive _ _⟩
        cases response with
        | error error => exact .refl _
        | ok _ =>
            simp only [Daemon.removeReceive]
            split <;> exact ⟨rfl, List.prefix_refl _⟩
    | lockEntry | lockAcquire =>
        obtain ⟨locks, -, rfl⟩ := Option.map_eq_some_iff.mp h
        exact ⟨⟨rfl, List.prefix_refl _⟩, id⟩
    | lockRelease | removeUnusedEntry | dropLock =>
        obtain rfl := Option.some.inj h
        exact ⟨⟨rfl, List.prefix_refl _⟩, id⟩
    | _ => exact absurd trivial hquiet

/-- State files are named after their transfers, and no transfer was exported twice. -/
structure RetransmitInv (daemon : Daemon) : Prop where
  filed : daemon.Filed
  once : ∀ transferId, (daemon.receiveDirs transferId).length ≤ 1

theorem RetransmitInv.since {daemon daemon' : Daemon} (h : RetransmitInv daemon)
    (hsince : Since daemon daemon') (hfiled : daemon'.Filed) : RetransmitInv daemon' :=
  ⟨hfiled, fun transferId => by
    rw [Daemon.receiveDirs, hsince.exports]
    exact h.once transferId⟩

def retransmitProtocol (start : Daemon) : Protocol SendSig Unit Daemon :=
  .alone RetransmitInv (aloneAct (remembered start))

/-- Requests about locks only. -/
def SendRequest.Locking : SendRequest → Prop
  | .lockEntry _ | .lockAcquire _ _ | .lockRelease _ | .removeUnusedEntry _ _
  | .dropLock _ => True
  | _ => False

theorem locking_ask {request : SendRequest} (h : request.Locking) :
    (ask request).All SendRequest.Locking :=
  ⟨h, fun _ => trivial⟩

theorem perform_locking {request : SendRequest} {response : request.Response}
    {daemon daemon' : Daemon} (hlocking : request.Locking)
    (h : Daemon.perform 0 request response daemon = some daemon') :
    ∃ locks, daemon' = { daemon with locks } := by
  cases request with
  | lockEntry | lockAcquire =>
      obtain ⟨locks, -, rfl⟩ := Option.map_eq_some_iff.mp h
      exact ⟨locks, rfl⟩
  | lockRelease | removeUnusedEntry | dropLock =>
      obtain rfl := Option.some.inj h
      exact ⟨_, rfl⟩
  | _ => exact hlocking.elim

section Keeps

variable {start daemon : Daemon}

theorem keeps_exportless {α : Type} {A : Daemon → Prop} {p : SendProg α}
    (hp : p.All SendRequest.Exportless)
    (hA : ∀ daemon daemon', Since daemon daemon' → A daemon → A daemon') (h : A daemon) :
    (retransmitProtocol start).Keeps () p (fun _ => A) daemon := by
  refine .of_all (Protocol.stable_alone A) ?_ hp h
  intro request hexportless daemon₁ response daemon₂ h₁ hinv hact
  obtain ⟨hsince, hfiled⟩ := perform_exportless hexportless hact.2
  exact ⟨Protocol.fair_alone (hinv.since hsince (hfiled hinv.filed)), hA _ _ hsince h₁⟩

theorem receiveDirs_kept (transferId : Uuid) (daemon daemon' : Daemon)
    (hsince : Since daemon daemon') (h : daemon.receiveDirs transferId = []) :
    daemon'.receiveDirs transferId = [] := by
  rw [Daemon.receiveDirs, hsince.exports]
  exact h

theorem keeps_exportReceive_first {state : ReceiveTransferState}
    (hinv : RetransmitInv daemon) (h : daemon.receiveDirs state.transferId = []) :
    (retransmitProtocol start).Keeps () (exportReceive state).run (fun _ _ => True) daemon := by
  have hrest : ∀ {α : Type} {p : SendProg α} (daemon' : Daemon),
      p.All SendRequest.Exportless →
      (retransmitProtocol start).Keeps () p (fun _ _ => True) daemon' :=
    fun _ hp => keeps_exportless hp (fun _ _ _ h => h) trivial
  refine .liftBind hinv (.mono (keeps_exportless
    (exportless_quiet (quiet_chooseReceiveDir _)) (receiveDirs_kept _) h) ?_)
  intro dir daemon₁ hinv₁ h₁
  cases dir with
  | none => exact hrest daemon₁ trivial
  | some dir =>
      refine .tryBind hinv₁ (.ret (Protocol.stable_alone fun daemon' : Daemon =>
        daemon'.receiveDirs state.transferId = []) h₁ fun daemon₂ h₂ hinv₂ => ?_)
      refine .liftBind hinv₂ (.call (Protocol.stable_alone fun daemon' : Daemon =>
        daemon'.receiveDirs state.transferId = []) h₂ ?_)
      rintro daemon₃ ⟨exports, exported⟩ daemon₄ h₃ hinv₃ hact
      obtain rfl := Option.some.inj hact.2
      have hinv₄ : RetransmitInv (daemon₃.exported state.transferId state.collectionHash dir
          exported.isOk) := by
        refine ⟨hinv₃.filed, fun transferId => ?_⟩
        rw [Daemon.receiveDirs_exported]
        split
        · rename_i heq
          simp [← heq.1, h₃]
        · simpa using hinv₃.once transferId
      refine ⟨Protocol.fair_alone hinv₄,
        .ret (Protocol.stable_alone fun _ => True) trivial fun daemon₅ _ _ => hrest daemon₅ ?_⟩
      refine .tryBind (.lift (exportless_quiet (quiet_emitProgress _ _))) fun _ => ?_
      refine .tryBind (show (liftExcept _).run.All _ from trivial) fun _ => ?_
      refine .tryBind (.lift (exportless_quiet (quiet_emitProgress _ _))) fun _ => ?_
      exact .tryBind (exportless_ask trivial) fun _ => .lift (exportless_ask trivial)

theorem keeps_runReceive_first (limits : ClipboardLimits) {state : ReceiveTransferState}
    (hinv : RetransmitInv daemon) (h : daemon.receiveDirs state.transferId = []) :
    (retransmitProtocol start).Keeps () (runReceive limits state).run (fun _ _ => True) daemon := by
  refine .tryBind hinv (.mono (keeps_exportless (exportless_downloadReceive limits state)
    (receiveDirs_kept state.transferId) h) ?_)
  intro result daemon₁ hinv₁ h₁
  cases result with
  | error error => exact fun _ _ _ => trivial
  | ok _ => exact keeps_exportReceive_first hinv₁ h₁

theorem keeps_handleTransferLocked_first (limits : ClipboardLimits) («from» : DeviceId)
    (payload : SendPayload) (hinv : RetransmitInv daemon)
    (h : daemon.receiveDirs payload.transferId = []) :
    (retransmitProtocol start).Keeps () (handleTransferLocked limits «from» payload).run
      (fun _ _ => True) daemon := by
  unfold handleTransferLocked
  split
  · exact fun _ _ _ => trivial
  · have hsaved : (retransmitProtocol start).Keeps () (savedOrFresh «from» payload)
        (fun state daemon' => state.transferId = payload.transferId ∧
          daemon'.receiveDirs payload.transferId = []) daemon := by
      refine .call (Protocol.stable_alone fun daemon' : Daemon =>
        daemon'.receiveDirs payload.transferId = []) h ?_
      intro daemon₁ response daemon₂ h₁ hinv₁ hact
      obtain ⟨hsince, hfiled⟩ := perform_exportless (by trivial) hact.2
      have h₂ := receiveDirs_kept payload.transferId _ _ hsince h₁
      refine ⟨Protocol.fair_alone (hinv₁.since hsince (hfiled hinv₁.filed)), ?_⟩
      cases response with
      | error error => exact .ret (Protocol.stable_alone _) h₂ fun _ h₃ _ => ⟨rfl, h₃⟩
      | ok saved =>
          have hread : daemon₁.receiveFiles.lookup payload.transferId = some saved ∧
              daemon₁ = daemon₂ := by
            simpa [Daemon.readFile, Daemon.perform] using hact.2
          exact .ret (Protocol.stable_alone _) h₂ fun _ h₃ _ =>
            ⟨hinv₁.filed _ _ hread.1, h₃⟩
    refine .liftBind hinv (.mono hsaved ?_)
    rintro state daemon₁ hinv₁ ⟨hid, h₁⟩
    have hrest : ∀ {α : Type} {p : SendProg α} (daemon' : Daemon),
        p.All SendRequest.Exportless →
        (retransmitProtocol start).Keeps () p (fun _ _ => True) daemon' :=
      fun _ hp => keeps_exportless hp (fun _ _ _ h => h) trivial
    split
    · exact hrest daemon₁ (exportless_acknowledgeAndRemove _ _ _)
    · refine .liftBind hinv₁ (.mono (keeps_runReceive_first limits hinv₁
        (show daemon₁.receiveDirs (state.refresh «from» payload).transferId = [] from
          hid ▸ h₁)) ?_)
      intro result daemon₂ hinv₂ _
      cases result with
      | ok _ => exact hrest daemon₂ (exportless_acknowledgeAndRemove _ _ _)
      | error message =>
          exact hrest daemon₂ (.tryBind (.lift (exportless_reportReceiveFailure _ _ _))
            fun _ => trivial)

/-- The handling has answered with an acknowledgement of success, and exported nothing. -/
structure AnsweredSince (start : Daemon) (sender : DeviceId) (transferId : Uuid)
    (daemon : Daemon) : Prop extends Since start daemon where
  answered : ∃ sent, daemon.outbox = start.outbox ++ sent ∧
    ∃ message ∈ sent, message.to = sender ∧
      message.envelope = .ack { transferId, ok := true, error := none }

theorem AnsweredSince.since {start first second : Daemon} {sender : DeviceId}
    {transferId : Uuid} (hsince : Since first second)
    (h : AnsweredSince start sender transferId first) :
    AnsweredSince start sender transferId second := by
  obtain ⟨sent, houtbox, message, hmessage, hack⟩ := h.answered
  obtain ⟨more, hmore⟩ := hsince.outbox
  refine ⟨h.toSince.trans hsince, sent ++ more, ?_, message,
    List.mem_append_left _ hmessage, hack⟩
  rw [← hmore, houtbox, List.append_assoc]

theorem keeps_acknowledgeAndRemove_since («from» : DeviceId)
    (transferId : Uuid) (receipt : String) (hinv : RetransmitInv daemon)
    (h : Since start daemon) :
    (retransmitProtocol start).Keeps () (acknowledgeAndRemove «from» transferId receipt).run
      (fun _ => AnsweredSince start «from» transferId) daemon := by
  have hsend : (retransmitProtocol start).Keeps ()
      (acknowledgeCompletedReceive «from» transferId receipt).run
      (fun _ => AnsweredSince start «from» transferId) daemon := by
    refine .call (Protocol.stable_alone (Since start)) h ?_
    intro daemon₁ response daemon₂ h₁ hinv₁ hact
    obtain ⟨hsince, hfiled⟩ := perform_exportless (by trivial) hact.2
    refine ⟨Protocol.fair_alone (hinv₁.since hsince (hfiled hinv₁.filed)),
      .ret (Protocol.stable_alone (AnsweredSince start «from» transferId)) ?_ fun _ h₃ _ => h₃⟩
    obtain rfl := Option.some.inj hact.2
    obtain ⟨sent, hsent⟩ := h₁.outbox
    let message : SentMessage :=
      { task := 0
        «to» := «from»
        envelope := .ack { transferId, ok := true, error := none }
        receipt := some receipt }
    refine { toSince := h₁.trans hsince, answered := ⟨sent ++ [message], ?_, message,
      List.mem_append_right _ (List.mem_singleton_self _), rfl, rfl⟩ }
    rw [← List.append_assoc, hsent]
    rfl
  refine .tryBind hinv (.mono hsend fun result daemon₁ hinv₁ h₁ => ?_)
  cases result with
  | error error => exact .ret (Protocol.stable_alone _) h₁ fun _ h₂ _ => h₂
  | ok _ =>
      exact keeps_exportless (.tryBind (.lift (exportless_ask trivial)) fun _ => trivial)
        (fun _ _ => AnsweredSince.since) h₁

theorem keeps_handleTransferLocked_again (limits : ClipboardLimits) («from» : DeviceId)
    {payload : SendPayload} (hversion : payload.version = SEND_PAYLOAD_VERSION)
    (htouched : start.touched payload.transferId = true)
    (hinv : RetransmitInv daemon) (h : Since start daemon) :
    (retransmitProtocol start).Keeps () (handleTransferLocked limits «from» payload).run
      (fun _ => AnsweredSince start «from» payload.transferId) daemon := by
  have hsaved : (retransmitProtocol start).Keeps () (savedOrFresh «from» payload)
      (fun state daemon' => state.stage = .complete ∧ Since start daemon') daemon := by
    refine .call (Protocol.stable_alone (Since start)) h ?_
    intro daemon₁ response daemon₂ h₁ hinv₁ hact
    obtain ⟨hsince, hfiled⟩ := perform_exportless (by trivial) hact.2
    refine ⟨Protocol.fair_alone (hinv₁.since hsince (hfiled hinv₁.filed)), ?_⟩
    have hremembered := hact.1
    cases response with
    | error error => simp [remembered, htouched] at hremembered
    | ok saved =>
        simp only [remembered, htouched, Bool.not_true, Bool.false_or, beq_iff_eq]
          at hremembered
        exact .ret (Protocol.stable_alone (Since start)) (h₁.trans hsince)
          fun _ h₃ _ => ⟨hremembered, h₃⟩
  unfold handleTransferLocked
  rw [if_neg (not_not.mpr hversion)]
  refine .liftBind hinv (.mono hsaved ?_)
  rintro state daemon₁ hinv₁ ⟨hstage, h₁⟩
  rw [if_pos hstage]
  exact keeps_acknowledgeAndRemove_since «from» _ _ hinv₁ h₁

theorem keeps_handleTransfer_of (start : Daemon) {A B : Daemon → Prop}
    (limits : ClipboardLimits) («from» : DeviceId) (payload : SendPayload)
    (hA : ∀ daemon locks, A daemon → A { daemon with locks })
    (hB : ∀ daemon locks, B daemon → B { daemon with locks })
    (hbody : ∀ daemon, RetransmitInv daemon → A daemon → (retransmitProtocol start).Keeps ()
      (handleTransferLocked limits «from» payload).run (fun _ => B) daemon)
    (hinv : RetransmitInv daemon) (h : A daemon) :
    (retransmitProtocol start).Keeps () (handleTransfer limits «from» payload)
      (fun _ => B) daemon := by
  have hlocking : ∀ {C : Daemon → Prop} {α : Type} {p : SendProg α} (daemon' : Daemon),
      p.All SendRequest.Locking → (∀ daemon locks, C daemon → C { daemon with locks }) →
      C daemon' → (retransmitProtocol start).Keeps () p (fun _ => C) daemon' := by
    intro C α p daemon' hp hC h'
    refine .of_all (Protocol.stable_alone C) ?_ hp h'
    intro request hlocking daemon₁ response daemon₂ h₁ hinv₁ hact
    obtain ⟨locks, rfl⟩ := perform_locking hlocking hact.2
    exact ⟨Protocol.fair_alone ⟨hinv₁.filed, hinv₁.once⟩, hC _ _ h₁⟩
  have hlocked : ∀ lock daemon', RetransmitInv daemon' → A daemon' →
      (retransmitProtocol start).Keeps ()
        (locked lock none (handleTransferLocked limits «from» payload).run)
        (fun _ => B) daemon' := by
    intro lock daemon' hinv' h'
    refine .bind hinv' (.mono (hlocking daemon' (locking_ask trivial) hA h') ?_)
    intro _ daemon₁ hinv₁ h₁
    refine .bind hinv₁ (.mono (hbody daemon₁ hinv₁ h₁) fun result daemon₂ _ h₂ => ?_)
    exact hlocking daemon₂ (.bind (locking_ask trivial) fun _ => trivial) hB h₂
  refine .bind hinv (.mono (hlocking daemon (locking_ask trivial) hA h) ?_)
  intro lock daemon₁ hinv₁ h₁
  refine .bind hinv₁ (.mono (hlocked lock daemon₁ hinv₁ h₁) fun result daemon₂ _ h₂ => ?_)
  exact hlocking daemon₂ (.bind (locking_ask trivial) fun _ =>
    .bind (locking_ask trivial) fun _ => trivial) hB h₂

end Keeps

theorem receiveDirs_of_not_touched {daemon : Daemon} {transferId : Uuid}
    (h : daemon.touched transferId = false) : daemon.receiveDirs transferId = [] := by
  simp only [Daemon.touched, Bool.or_eq_false_iff, Bool.not_eq_false',
    List.isEmpty_iff] at h
  exact h.1

theorem Daemon.touched_of_done {daemon : Daemon} {transferId : Uuid}
    (h : (daemon.record transferId).done = true) : daemon.touched transferId = true := by
  simp [Daemon.touched, h]

theorem AnsweredSince.answers {handling : Handling}
    (h : AnsweredSince handling.before handling.sender handling.payload.transferId
      handling.after) : handling.Answered :=
  ⟨h.exports, h.answered⟩

theorem handling_keeps {limits : ClipboardLimits} {handling : Handling}
    (hexec : Prog.Exec (aloneAct (remembered handling.before))
      (handleTransfer limits handling.sender handling.payload)
      handling.before handling.log handling.result handling.after)
    (hinv : RetransmitInv handling.before) :
    RetransmitInv handling.after ∧
      (handling.payload.version = SEND_PAYLOAD_VERSION →
        handling.before.touched handling.payload.transferId = true →
        handling.Answered) := by
  by_cases hagain : handling.before.touched handling.payload.transferId = true ∧
      handling.payload.version = SEND_PAYLOAD_VERSION
  · have hkeeps := keeps_handleTransfer_of handling.before limits handling.sender
      handling.payload (A := Since handling.before)
      (fun _ _ h => ⟨h.exports, h.outbox⟩) (fun _ _ h => ⟨⟨h.exports, h.outbox⟩, h.answered⟩)
      (fun _ hinv₁ => keeps_handleTransferLocked_again limits _ hagain.2 hagain.1 hinv₁)
      hinv (.refl _)
    obtain ⟨hinv', hanswered⟩ := hkeeps.exec hinv hexec
    exact ⟨hinv', fun _ _ => hanswered.answers⟩
  · have hkeeps := keeps_handleTransfer_of handling.before limits handling.sender
      handling.payload (B := fun _ => True)
      (A := fun daemon => daemon.receiveDirs handling.payload.transferId = [] ∨
        handling.payload.version ≠ SEND_PAYLOAD_VERSION)
      (fun _ _ h => h) (fun _ _ h => h) ?_ hinv ?_
    · exact ⟨(hkeeps.exec hinv hexec).1, fun hversion htouched =>
        (hagain ⟨htouched, hversion⟩).elim⟩
    · rintro daemon hinv₁ (hfirst | hversion)
      · exact keeps_handleTransferLocked_first limits _ _ hinv₁ hfirst
      · unfold handleTransferLocked
        rw [if_pos hversion]
        exact fun _ _ _ => trivial
    · by_cases htouched : handling.before.touched handling.payload.transferId = true
      · exact .inr fun hversion => hagain ⟨htouched, hversion⟩
      · exact .inl (receiveDirs_of_not_touched (Bool.eq_false_iff.mpr htouched))

/-- What a whole sequence of handlings does. -/
theorem HandlesAll.keeps {limits : ClipboardLimits} {start daemon : Daemon}
    {handlings : List Handling} (h : HandlesAll limits remembered start handlings daemon)
    (hinv : RetransmitInv start) :
    RetransmitInv daemon ∧ ∀ handling ∈ handlings,
      handling.payload.version = SEND_PAYLOAD_VERSION →
      handling.before.touched handling.payload.transferId = true → handling.Answered := by
  induction h with
  | nil => exact ⟨hinv, by simp⟩
  | snoc _ hexec ih =>
      obtain ⟨hbefore, hhandlings⟩ := ih
      obtain ⟨hafter, hlast⟩ := handling_keeps hexec hbefore
      refine ⟨hafter, fun handling hmem => ?_⟩
      rcases List.mem_append.mp hmem with hmem | hmem
      · exact hhandlings handling hmem
      · rw [List.mem_singleton.mp hmem]
        exact hlast

/-- As long as a transfer that was exported is found complete whenever it is handled
again, it is exported into one directory only, and every retransmission after its
receive is acknowledged without an export. -/
theorem retransmissions_deliver_once (limits : ClipboardLimits) {start daemon : Daemon}
    (hstarted : start.Started) {handlings : List Handling}
    (hrun : HandlesAll limits remembered start handlings daemon) :
    (∀ transferId, (daemon.receiveDirs transferId).length ≤ 1) ∧
      ∀ handling ∈ handlings, handling.payload.version = SEND_PAYLOAD_VERSION →
        (handling.before.record handling.payload.transferId).done = true →
        handling.Answered := by
  have hinv : RetransmitInv start :=
    ⟨hstarted.filed, fun transferId => by simp [Daemon.receiveDirs, hstarted.exports]⟩
  obtain ⟨hafter, hhandlings⟩ := hrun.keeps hinv
  exact ⟨hafter.once, fun handling hmem hversion hdone =>
    hhandlings handling hmem hversion (Daemon.touched_of_done hdone)⟩

section Scripts

variable (limits : ClipboardLimits)
  (cond : Daemon → Daemon → (request : SendRequest) → request.Response → Bool)
  (sender : DeviceId) (payload : SendPayload)

/-- Handle one transfer again and again, each time with the answers of an oracle. -/
def handleAgain : List (Daemon → (request : SendRequest) → Option request.Response) →
    List Handling → Daemon → Option (List Handling × Daemon)
  | [], handlings, daemon => some (handlings, daemon)
  | oracle :: oracles, handlings, daemon =>
      (Prog.drive (fun request response daemon' =>
          if cond daemon daemon' request response then
            Daemon.perform 0 request response daemon'
          else none) oracle (handleTransfer limits sender payload) daemon).bind
        fun (log, result, after) =>
          handleAgain oracles
            (handlings ++ [{ sender, payload, before := daemon, log, result, after }]) after

variable {limits cond sender payload}

theorem handlesAll_of_handleAgain {start daemon daemon' : Daemon}
    {oracles : List (Daemon → (request : SendRequest) → Option request.Response)}
    {handlings handlings' : List Handling}
    (hbefore : HandlesAll limits cond start handlings daemon)
    (h : handleAgain limits cond sender payload oracles handlings daemon =
      some (handlings', daemon')) :
    HandlesAll limits cond start handlings' daemon' := by
  induction oracles generalizing handlings daemon with
  | nil =>
      obtain ⟨rfl, rfl⟩ := Prod.mk.inj (Option.some.inj h)
      exact hbefore
  | cons oracle oracles ih =>
      obtain ⟨⟨log, result, after⟩, hdrive, hrest⟩ := Option.bind_eq_some_iff.mp h
      have hexec : Prog.Exec (aloneAct (cond daemon)) (handleTransfer limits sender payload)
          daemon log result after :=
        (Prog.exec_of_drive hdrive).mono fun request response daemon₁ daemon₂ hstep =>
          Option.ite_none_right_eq_some.mp hstep
      let handling : Handling :=
        { sender, payload, before := daemon, log, result, after }
      have hafter : HandlesAll limits cond start (handlings ++ [handling]) after :=
        .snoc hbefore hexec
      exact ih hafter hrest

end Scripts

/-- Surroundings in which no message is sent. -/
def Daemon.obligeOffline (surroundings : Surroundings) (daemon : Daemon) :
    (request : SendRequest) → Option request.Response
  | .send _ _ _ => some (.error .disconnected)
  | request => daemon.oblige surroundings request

/-- The first acknowledgement cannot be sent, and that of the retransmission is. -/
theorem retransmission_answered :
    ∃ handlings daemon, HandlesAll .default remembered .empty handlings daemon ∧
      handlings.length = 2 ∧ (daemon.receiveDirs 7).length = 1 ∧
      ∀ handling ∈ handlings, handling.payload.version = SEND_PAYLOAD_VERSION →
        (handling.before.record handling.payload.transferId).done = true →
        handling.Answered := by
  have hsome : (handleAgain .default remembered ⟨2⟩ emptyPayload
      [Daemon.obligeOffline laptop, Daemon.oblige laptop] [] .empty).any
        (fun result => result.1.length == 2 && (result.2.receiveDirs 7).length == 1) =
          true := by
    decide +kernel
  obtain ⟨⟨handlings, daemon⟩, hhandled, hresult⟩ := (Option.any_eq_true _ _).mp hsome
  simp only [Bool.and_eq_true, beq_iff_eq] at hresult
  have hrun := handlesAll_of_handleAgain .nil hhandled
  have hstarted : Daemon.empty.Started := ⟨rfl, rfl, rfl, fun _ _ h => by cases h⟩
  have honce := retransmissions_deliver_once .default hstarted hrun
  exact ⟨handlings, daemon, hrun, hresult.1, hresult.2, honce.2⟩

/-- The receiver acknowledges, forgets the transfer, and exports it once more, into
another directory, when the sender sends it again. -/
theorem retransmission_delivers_again :
    ∃ handlings daemon,
      HandlesAll .default (fun _ _ _ _ => true) .empty handlings daemon ∧
      handlings.all (fun handling => handling.payload == emptyPayload) = true ∧
      handlings.any (fun handling => (handling.before.record 7).done &&
        handling.before.exports != handling.after.exports) = true ∧
      daemon.receiveDirs 7 = ["downloads/laptop/20240101-000000-00000000",
        "downloads/laptop/20240101-000100-00000000"] := by
  have hsome : (handleAgain .default (fun _ _ _ _ => true) ⟨2⟩ emptyPayload
      [Daemon.oblige laptop, Daemon.oblige { laptop with clock := "20240101-000100" }]
      [] .empty).any (fun result =>
        (result.1.all fun handling => handling.payload == emptyPayload) &&
        (result.1.any fun handling => (handling.before.record 7).done &&
          handling.before.exports != handling.after.exports) &&
        result.2.receiveDirs 7 == ["downloads/laptop/20240101-000000-00000000",
          "downloads/laptop/20240101-000100-00000000"]) = true := by
    decide +kernel
  obtain ⟨⟨handlings, daemon⟩, hhandled, hresult⟩ := (Option.any_eq_true _ _).mp hsome
  simp only [Bool.and_eq_true, beq_iff_eq] at hresult
  exact ⟨handlings, daemon, handlesAll_of_handleAgain .nil hhandled, hresult.1.1,
    hresult.1.2, hresult.2⟩

end Failsafe.Send
