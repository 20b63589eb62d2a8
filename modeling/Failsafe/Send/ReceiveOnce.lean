import Failsafe.Send.ReceiveProtocol

/-!
Direct and resumed receives keep to the receiving protocol, so that a transfer
is delivered at most once.
-/

namespace Failsafe.Send

open Failsafe.Core Failsafe.Clipboard Failsafe.Lib

section Programs

variable {task : TaskId} {transferId : Uuid} {lock : LockId} {daemon : Daemon}

theorem keeps_quiet {α : Type} {A : Daemon → Prop} (hA : receiveProtocol.Stable task A)
    {p : SendProg α} (hp : p.All SendRequest.Quiet) (h : A daemon) :
    receiveProtocol.Keeps task p (fun _ => A) daemon := by
  refine .of_all hA (fun request hquiet daemon₁ response daemon₂ h₁ hinv hact => ?_) hp h
  have hsame := Daemon.perform_quiet hquiet hact.2
  exact ⟨hsame.fair hinv, hA _ _ h₁ hsame.rely⟩

theorem keeps_saveReceiveState {state : ReceiveTransferState}
    (hid : state.transferId = transferId) (hstage : state.stage ≠ .complete)
    (h : Inside task transferId lock ReceiveRecord.Pending daemon) :
    receiveProtocol.Keeps task (saveReceiveState state).run
      (fun _ => Inside task transferId lock ReceiveRecord.Pending) daemon := by
  subst hid
  refine Protocol.Keeps.ask stable_inside_pending (fun _ => stable_inside_pending) h ?_
  intro daemon₁ response daemon₂ h₁ hinv hact
  obtain rfl := Option.some.inj hact.2
  obtain ⟨hfair, howns, hpending⟩ := save_pending hinv h₁.owns h₁.record hstage
  exact ⟨hfair, howns, hpending⟩

theorem keeps_saveComplete {state : ReceiveTransferState}
    (hid : state.transferId = transferId) (hstage : state.stage = .complete)
    (h : Inside task transferId lock ReceiveRecord.Closing daemon) :
    receiveProtocol.Keeps task (saveReceiveState state).run
      (fun result daemon' => result = .ok () ∧
        Inside task transferId lock ReceiveRecord.Settled daemon') daemon := by
  subst hid
  refine Protocol.Keeps.ask stable_inside_closing
    (fun _ => (Protocol.Stable.const _).and stable_inside_settled) h ?_
  intro daemon₁ response daemon₂ h₁ hinv hact
  obtain ⟨hallowed, hperform⟩ := hact
  cases response with
  | error error =>
      have hallowed : state.stage ≠ .complete := by simpa [undisturbedCall] using hallowed
      exact absurd hstage hallowed
  | ok _ =>
      obtain rfl := Option.some.inj hperform
      obtain ⟨hfair, howns, hsettled⟩ := save_closing hinv h₁.owns h₁.record hstage
      exact ⟨hfair, rfl, howns, hsettled⟩

theorem keeps_exportCollection (root destDir : String)
    (h : Inside task transferId lock ReceiveRecord.Pending daemon) :
    receiveProtocol.Keeps task (exportCollection transferId root destDir)
      (fun result => Inside task transferId lock
        (if result.2.isOk then ReceiveRecord.Closing else ReceiveRecord.Pending))
      daemon := by
  refine Protocol.Keeps.ask stable_inside_pending (fun result => ?_) h ?_
  · split
    · exact stable_inside_closing
    · exact stable_inside_pending
  · intro daemon₁ response daemon₂ h₁ hinv hact
    obtain rfl := Option.some.inj hact.2
    obtain ⟨hfair, howns, hrecord⟩ :=
      export_pending root destDir response.2.isOk hinv h₁.owns h₁.record
    refine ⟨hfair, howns, ?_⟩
    split at hrecord <;> simpa [*] using hrecord

theorem keeps_loadReceiveState
    (h : Inside task transferId lock ReceiveRecord.AtRest daemon) :
    receiveProtocol.Keeps task (loadReceiveState transferId).run
      (fun result daemon' =>
        match result with
        | .ok state => state.transferId = transferId ∧
            Inside task transferId lock
              (if state.stage = .complete then ReceiveRecord.Settled
              else ReceiveRecord.Pending) daemon'
        | .error _ => Inside task transferId lock ReceiveRecord.Pending daemon') daemon := by
  refine Protocol.Keeps.ask stable_inside_atRest (fun result => ?_) h ?_
  · cases result with
    | error error => exact stable_inside_pending
    | ok state =>
        refine (Protocol.Stable.const _).and ?_
        split
        · exact stable_inside_settled
        · exact stable_inside_pending
  · intro daemon₁ response daemon₂ h₁ hinv hact
    obtain ⟨hallowed, hperform⟩ := hact
    have hsame := Daemon.perform_quiet (show (SendRequest.loadReceiveState _).Quiet from trivial)
      hperform
    simp only [Daemon.perform, Option.ite_none_right_eq_some, Option.some.injEq] at hperform
    obtain ⟨hread, rfl⟩ := hperform
    refine ⟨hsame.fair hinv, ?_⟩
    cases response with
    | error error =>
        refine ⟨h₁.owns, h₁.record.resolve_right ?_⟩
        exact (ReceiveRecord.isOpen_iff.mp hallowed).not_settled
    | ok state =>
        have hfile : (daemon₁.record transferId).file = some state := by
          simpa [Daemon.readFile, Daemon.record] using hread
        refine ⟨hinv.filed _ _ hfile, h₁.owns, ?_⟩
        split
        · rename_i hstage
          refine h₁.record.resolve_left fun hpending => ?_
          exact hpending.2.incomplete state hfile hstage
        · rename_i hstage
          refine h₁.record.resolve_right ?_
          rintro ⟨-, ⟨⟨state', hfile', hstage'⟩, -⟩ | ⟨hnone, -⟩⟩
          · rw [hfile, Option.some.injEq] at hfile'
            exact hstage (hfile' ▸ hstage')
          · simp [hfile] at hnone

theorem keeps_reloadReceiveState
    (h : Inside task transferId lock ReceiveRecord.Pending daemon) :
    receiveProtocol.Keeps task (loadReceiveState transferId).run
      (fun result daemon' => (∀ state, result = .ok state → state.transferId = transferId) ∧
        Inside task transferId lock ReceiveRecord.Pending daemon') daemon := by
  refine Protocol.Keeps.ask stable_inside_pending
    (fun _ => (Protocol.Stable.const _).and stable_inside_pending) h ?_
  intro daemon₁ response daemon₂ h₁ hinv hact
  have hsame := Daemon.perform_quiet
    (show (SendRequest.loadReceiveState _).Quiet from trivial) hact.2
  refine ⟨hsame.fair hinv, ?_, stable_inside_pending _ _ h₁ hsame.rely⟩
  rintro state rfl
  have hread : daemon₁.receiveFiles.lookup transferId = some state ∧ daemon₁ = daemon₂ := by
    simpa [Daemon.readFile, Daemon.perform] using hact.2
  exact hinv.filed transferId state hread.1

theorem keeps_removeReceiveState {B : Daemon → Prop} (hB : receiveProtocol.Stable task B)
    (hlocks : ∀ daemon daemon', daemon'.locks = daemon.locks → B daemon → B daemon')
    (hsettled : (daemon.record transferId).Settled) (h : B daemon) :
    receiveProtocol.Keeps task (removeReceiveState transferId).run
      (fun _ daemon' => (daemon'.record transferId).Settled ∧ B daemon') daemon := by
  refine Protocol.Keeps.ask (stable_settled.and hB) (fun _ => stable_settled.and hB)
    ⟨hsettled, h⟩ ?_
  intro daemon₁ response daemon₂ h₁ hinv hact
  obtain rfl := Option.some.inj hact.2
  obtain ⟨hfair, hsettled'⟩ := remove_settled hinv h₁.1
  exact ⟨hfair, hsettled', hlocks daemon₁ _ (daemon₁.locks_removeReceive _ _) h₁.2⟩

theorem keeps_downloadReceive (limits : ClipboardLimits) {state : ReceiveTransferState}
    (hinv : ReceiveInv daemon)
    (h : Inside task state.transferId lock ReceiveRecord.Pending daemon) :
    receiveProtocol.Keeps task (downloadReceive limits state).run
      (fun _ => Inside task state.transferId lock ReceiveRecord.Pending) daemon := by
  have hstop : ∀ (daemon' : Daemon) (error : String),
      Inside task state.transferId lock ReceiveRecord.Pending daemon' →
      receiveProtocol.Keeps task (.ret (.error error))
        (fun (_ : Except String Unit) =>
          Inside task state.transferId lock ReceiveRecord.Pending) daemon' :=
    fun daemon' error h' => .ret stable_inside_pending h' fun _ h'' _ => h''
  unfold downloadReceive
  cases limits.validateEntries (state.entries.map fun entry => (entry.name, entry.size)) with
  | error error => exact hstop daemon error h
  | ok _ =>
      refine .tryBind hinv (.ret stable_inside_pending h fun daemon₁ h₁ hinv₁ => ?_)
      refine .tryBind hinv₁ (.mono (keeps_saveReceiveState (by rfl) (by simp) h₁) ?_)
      intro saved daemon₂ hinv₂ h₂
      cases saved with
      | error error => exact hstop daemon₂ error h₂
      | ok _ =>
          refine .liftBind hinv₂
            (.mono (keeps_quiet stable_inside_pending (quiet_emitProgress _ _) h₂) ?_)
          intro _ daemon₃ hinv₃ h₃
          refine .liftBind hinv₃
            (.mono (keeps_quiet stable_inside_pending (quiet_ask trivial) h₃) ?_)
          rintro ⟨downloads, downloaded⟩ daemon₄ hinv₄ h₄
          refine .liftBind hinv₄
            (.mono (keeps_quiet stable_inside_pending (quiet_emitProgress _ _) h₄) ?_)
          intro _ daemon₅ hinv₅ h₅
          cases downloaded with
          | error error => exact hstop daemon₅ error h₅
          | ok _ =>
              refine .tryBind hinv₅ (.ret stable_inside_pending h₅ fun daemon₆ h₆ hinv₆ => ?_)
              exact keeps_saveReceiveState (by rfl) (by simp [ReceiveTransferState.downloaded])
                h₆

/-- Inside the lock: settled after a success, untouched after a failure. -/
def Concluded (task : TaskId) (transferId : Uuid) (lock : LockId)
    (result : Except String Unit) : Daemon → Prop :=
  Inside task transferId lock
    (if result.isOk then ReceiveRecord.Settled else ReceiveRecord.Pending)

theorem Concluded.atRest {result : Except String Unit}
    (h : Concluded task transferId lock result daemon) :
    Inside task transferId lock ReceiveRecord.AtRest daemon := by
  cases result with
  | ok _ => exact Inside.atRest_of_settled h
  | error error => exact Inside.atRest_of_pending h

theorem keeps_exportReceive {state : ReceiveTransferState}
    (hid : state.transferId = transferId) (hinv : ReceiveInv daemon)
    (h : Inside task transferId lock ReceiveRecord.Pending daemon) :
    receiveProtocol.Keeps task (exportReceive state).run
      (Concluded task transferId lock) daemon := by
  subst hid
  have hstop : ∀ (daemon' : Daemon) (error : String),
      Inside task state.transferId lock ReceiveRecord.Pending daemon' →
      receiveProtocol.Keeps task (.ret (.error error))
        (Concluded task state.transferId lock) daemon' :=
    fun daemon' error h' => .ret stable_inside_pending h' fun _ h'' _ => h''
  unfold exportReceive
  refine .liftBind hinv (.mono (keeps_quiet stable_inside_pending (quiet_chooseReceiveDir _) h) ?_)
  intro dir daemon₁ hinv₁ h₁
  cases dir with
  | none => exact hstop daemon₁ _ h₁
  | some dir =>
      refine .tryBind hinv₁ (.ret stable_inside_pending h₁ fun daemon₂ h₂ hinv₂ => ?_)
      refine .liftBind hinv₂ (.mono (keeps_exportCollection _ _ h₂) ?_)
      rintro ⟨exports, exported⟩ daemon₃ hinv₃ h₃
      cases exported with
      | error error =>
          refine .liftBind hinv₃
            (.mono (keeps_quiet stable_inside_pending (quiet_emitProgress _ _) h₃) ?_)
          exact fun _ daemon₄ _ h₄ => hstop daemon₄ error h₄
      | ok count =>
          refine .liftBind hinv₃
            (.mono (keeps_quiet stable_inside_closing (quiet_emitProgress _ _) h₃) ?_)
          intro _ daemon₄ hinv₄ h₄
          refine .tryBind hinv₄ (.ret stable_inside_closing h₄ fun daemon₅ h₅ hinv₅ => ?_)
          refine .liftBind hinv₅
            (.mono (keeps_quiet stable_inside_closing (quiet_emitProgress _ _) h₅) ?_)
          intro _ daemon₆ hinv₆ h₆
          refine .tryBind hinv₆ (.mono (keeps_saveComplete (by rfl) rfl h₆) ?_)
          rintro saved daemon₇ hinv₇ ⟨rfl, h₇⟩
          exact .lift hinv₇ (fun _ => stable_inside_settled)
            (keeps_quiet stable_inside_settled (quiet_ask trivial) h₇)

theorem keeps_runReceive (limits : ClipboardLimits) {state : ReceiveTransferState}
    (hid : state.transferId = transferId) (hinv : ReceiveInv daemon)
    (h : Inside task transferId lock ReceiveRecord.Pending daemon) :
    receiveProtocol.Keeps task (runReceive limits state).run
      (Concluded task transferId lock) daemon := by
  subst hid
  refine .tryBind hinv (.mono (keeps_downloadReceive limits hinv h) ?_)
  intro result daemon₁ hinv₁ h₁
  cases result with
  | error error => exact .ret stable_inside_pending h₁ fun _ h₂ _ => h₂
  | ok _ => exact keeps_exportReceive rfl hinv₁ h₁

theorem keeps_lockEntry :
    receiveProtocol.Keeps task (lockEntry transferId)
      (fun lock => Clones task transferId lock) daemon := by
  refine Protocol.Keeps.ask (Protocol.Stable.const True) (fun _ => stable_clones) trivial ?_
  intro daemon₁ lock daemon₂ _ hinv hact
  obtain ⟨locks, henter, rfl⟩ := Option.map_eq_some_iff.mp hact.2
  exact enter_fair hinv henter

/-- The lock as a bracket: the body runs inside, and leaves the transfer at rest. -/
theorem keeps_locked {α : Type} {resumed : Option ReceiveTransferState}
    {body : SendProg α} {post : α → Daemon → Prop}
    (hid : ∀ state, resumed = some state → state.transferId = transferId)
    (h : Clones task transferId lock daemon)
    (hpost : ∀ value daemon' locks, post value daemon' → post value { daemon' with locks })
    (hstable : ∀ value, receiveProtocol.Stable task (post value))
    (hbody : ∀ daemon', ReceiveInv daemon' →
      Inside task transferId lock
        (if resumed.isSome then ReceiveRecord.Pending else ReceiveRecord.AtRest) daemon' →
      receiveProtocol.Keeps task body (fun value daemon'' => post value daemon'' ∧
        Inside task transferId lock ReceiveRecord.AtRest daemon'') daemon') :
    receiveProtocol.Keeps task (locked lock resumed body)
      (fun value daemon' => (post value daemon' ∧ Clones task transferId lock daemon') ∧
        daemon'.locks.holder lock ≠ some task) daemon := by
  refine .call stable_clones h fun daemon₁ _ daemon₂ h₁ hinv₁ hact => ?_
  obtain ⟨hallowed, hperform⟩ := hact
  obtain ⟨locks, hacquire, rfl⟩ := Option.map_eq_some_iff.mp hperform
  obtain ⟨hfair, howns, hphase⟩ := acquire_fair hinv₁ h₁ hacquire
  refine ⟨hfair, ?_⟩
  change receiveProtocol.Keeps task
    (body >>= fun value => ask (.lockRelease lock) >>= fun _ => .ret value) _ _
  refine .bind hfair.inv (.mono (hbody _ hfair.inv ⟨howns, ?_⟩) ?_)
  · cases resumed with
    | none => exact hphase
    | some state =>
        obtain ⟨saved, hfile, hstage⟩ := (Option.any_eq_true _ _).mp hallowed
        rw [hid state rfl] at hfile
        have hstage : saved.stage ≠ .complete := by simpa using hstage
        refine hphase.resolve_right ?_
        rintro ⟨-, ⟨⟨state', hfile', hstage'⟩, -⟩ | ⟨hnone, -⟩⟩
        · exact hstage (Option.some.inj (hfile.symm.trans hfile') ▸ hstage')
        · exact absurd (hfile.symm.trans hnone) (by simp)
  · rintro value daemon₃ hinv₃ ⟨hvalue, hinside⟩
    refine .call ((hstable value).and stable_inside_atRest) ⟨hvalue, hinside⟩ ?_
    rintro daemon₄ _ daemon₅ ⟨hvalue₄, hinside₄⟩ hinv₄ hact
    obtain rfl := Option.some.inj hact.2
    obtain ⟨hfair₅, hclones, hreleased⟩ :=
      release_fair hinv₄ hinside₄.owns hinside₄.record.not_closing
    refine ⟨hfair₅, .ret (((hstable value).and stable_clones).and stable_released)
      ⟨⟨hpost _ _ _ hvalue₄, hclones⟩, hreleased⟩ fun _ h' _ => h'⟩

theorem keeps_dropLock {A : Daemon → Prop} (hA : receiveProtocol.Stable task A)
    (hlocks : ∀ daemon' locks, A daemon' → A { daemon' with locks }) (h : A daemon)
    (hreleased : daemon.locks.holder lock ≠ some task) :
    receiveProtocol.Keeps task (ask (.dropLock lock)) (fun _ => A) daemon := by
  refine Protocol.Keeps.ask (hA.and stable_released) (fun _ => hA) ⟨h, hreleased⟩ ?_
  rintro daemon₁ _ daemon₂ ⟨h₁, hreleased₁⟩ hinv hact
  obtain rfl := Option.some.inj hact.2
  exact ⟨drop_fair hinv hreleased₁, hlocks _ _ h₁⟩

theorem keeps_resumeReceive (limits : ClipboardLimits) (state : ReceiveTransferState)
    (hinv : ReceiveInv daemon) :
    receiveProtocol.Keeps task (resumeReceive limits state).run
      (fun result daemon' => result = .ok () →
        (daemon'.record state.transferId).Settled) daemon := by
  have hstable : ∀ result : Except String Unit, receiveProtocol.Stable task fun daemon' =>
      result = .ok () → (daemon'.record state.transferId).Settled :=
    fun result _ _ h hrely hresult => hrely.settled _ (h hresult)
  refine .bind hinv (.mono keeps_lockEntry fun lock daemon₁ hinv₁ h₁ => ?_)
  refine .bind hinv₁ (.mono (keeps_locked ?_ h₁ (fun _ _ _ h => h) hstable ?_) ?_)
  · rintro state' hstate'
    rw [Option.some.inj hstate']
  · intro daemon₂ hinv₂ h₂
    refine .mono (keeps_runReceive limits rfl hinv₂ h₂) fun result daemon₃ _ h₃ => ?_
    refine ⟨?_, h₃.atRest⟩
    rintro rfl
    exact h₃.record
  · rintro result daemon₂ hinv₂ ⟨⟨h₂, -⟩, hreleased⟩
    refine .bind hinv₂ (.mono (keeps_dropLock (hstable result) (fun _ _ h => h) h₂
      hreleased) fun _ daemon₃ _ h₃ => ?_)
    exact .ret (hstable result) h₃ fun _ h₄ _ => h₄

theorem keeps_acknowledgeAndRemove («from» : DeviceId) (receipt : String)
    (hinv : ReceiveInv daemon)
    (h : Inside task transferId lock ReceiveRecord.Settled daemon) :
    receiveProtocol.Keeps task (acknowledgeAndRemove «from» transferId receipt).run
      (fun _ => Inside task transferId lock ReceiveRecord.Settled) daemon := by
  refine .tryBind hinv (.mono (keeps_quiet stable_inside_settled (quiet_sendAck _ _ _) h) ?_)
  intro result daemon₁ hinv₁ h₁
  cases result with
  | error error => exact .ret stable_inside_settled h₁ fun _ h₂ _ => h₂
  | ok _ =>
      refine .liftBind hinv₁ (.mono (keeps_removeReceiveState stable_owns
        (fun _ _ hlocks howns => howns.of_locks hlocks) h₁.record h₁.owns) ?_)
      rintro _ daemon₂ hinv₂ ⟨hsettled, howns⟩
      exact .ret stable_inside_settled ⟨howns, hsettled⟩ fun _ h₃ _ => h₃

theorem keeps_savedOrFresh («from» : DeviceId) {payload : SendPayload}
    (hid : payload.transferId = transferId) (hinv : ReceiveInv daemon)
    (h : Inside task transferId lock ReceiveRecord.AtRest daemon) :
    receiveProtocol.Keeps task (savedOrFresh «from» payload)
      (fun state daemon' => state.transferId = transferId ∧
        Inside task transferId lock
          (if state.stage = .complete then ReceiveRecord.Settled else ReceiveRecord.Pending)
          daemon') daemon := by
  subst hid
  refine .bind hinv (.mono (keeps_loadReceiveState h) fun result daemon₁ _ h₁ => ?_)
  cases result with
  | error error =>
      exact .ret stable_inside_pending h₁ fun _ h₂ _ => ⟨rfl, h₂⟩
  | ok saved =>
      obtain ⟨hid, h₁⟩ := h₁
      by_cases hstage : saved.stage = .complete
      · rw [if_pos hstage] at h₁
        exact .ret stable_inside_settled h₁ fun _ h₂ _ => ⟨hid, by rwa [if_pos hstage]⟩
      · rw [if_neg hstage] at h₁
        exact .ret stable_inside_pending h₁ fun _ h₂ _ => ⟨hid, by rwa [if_neg hstage]⟩

theorem keeps_reportReceiveFailure («from» : DeviceId) (message : String)
    (hinv : ReceiveInv daemon)
    (h : Inside task transferId lock ReceiveRecord.Pending daemon) :
    receiveProtocol.Keeps task (reportReceiveFailure «from» transferId message)
      (fun _ => Inside task transferId lock ReceiveRecord.Pending) daemon := by
  have hack : ∀ daemon', ReceiveInv daemon' →
      Inside task transferId lock ReceiveRecord.Pending daemon' →
      receiveProtocol.Keeps task
        ((sendAck «from» { transferId, ok := false, error := some message } none).run >>=
          fun _ => .ret ())
        (fun _ => Inside task transferId lock ReceiveRecord.Pending) daemon' := by
    intro daemon' hinv' h'
    refine .bind hinv' (.mono (keeps_quiet stable_inside_pending (quiet_sendAck _ _ _) h') ?_)
    exact fun _ _ _ h'' => .ret stable_inside_pending h'' fun _ h''' _ => h'''
  refine .bind hinv (.mono (keeps_reloadReceiveState h) ?_)
  rintro result daemon₁ hinv₁ ⟨hid, h₁⟩
  cases result with
  | error error => exact hack daemon₁ hinv₁ h₁
  | ok state =>
      refine .bind hinv₁ (.mono (keeps_saveReceiveState (hid state rfl) (by simp) h₁) ?_)
      exact fun _ daemon₂ hinv₂ h₂ => hack daemon₂ hinv₂ h₂

theorem keeps_handleTransferLocked (limits : ClipboardLimits) («from» : DeviceId)
    {payload : SendPayload} (hid : payload.transferId = transferId)
    (hinv : ReceiveInv daemon)
    (h : Inside task transferId lock ReceiveRecord.AtRest daemon) :
    receiveProtocol.Keeps task (handleTransferLocked limits «from» payload).run
      (fun _ => Inside task transferId lock ReceiveRecord.AtRest) daemon := by
  have hsettled : ∀ (p : SendTry FeatureError Unit) (daemon' : Daemon),
      receiveProtocol.Keeps task p.run
        (fun _ => Inside task transferId lock ReceiveRecord.Settled) daemon' →
      receiveProtocol.Keeps task p.run
        (fun _ => Inside task transferId lock ReceiveRecord.AtRest) daemon' :=
    fun _ _ h' => h'.mono fun _ _ _ h'' => h''.atRest_of_settled
  unfold handleTransferLocked
  split
  · exact .ret stable_inside_atRest h fun _ h' _ => h'
  · refine .liftBind hinv (.mono (keeps_savedOrFresh «from» hid hinv h) ?_)
    rintro state daemon₁ hinv₁ ⟨hstate, h₁⟩
    by_cases hstage : state.stage = .complete
    · rw [if_pos hstage] at h₁
      rw [if_pos hstage, hid]
      exact hsettled _ _ (keeps_acknowledgeAndRemove «from» _ hinv₁ h₁)
    · rw [if_neg hstage] at h₁
      rw [if_neg hstage]
      refine .liftBind hinv₁ (.mono (keeps_runReceive limits hstate hinv₁ h₁) ?_)
      intro result daemon₂ hinv₂ h₂
      cases result with
      | ok _ =>
          rw [hid]
          exact hsettled _ _ (keeps_acknowledgeAndRemove «from» _ hinv₂ h₂)
      | error message =>
          rw [hid]
          refine .liftBind hinv₂ (.mono (keeps_reportReceiveFailure «from» message hinv₂ h₂) ?_)
          exact fun _ daemon₃ _ h₃ => .ret stable_inside_atRest h₃.atRest_of_pending
            fun _ h₄ _ => h₄

theorem keeps_removeUnusedEntry (h : Clones task transferId lock daemon)
    (hreleased : daemon.locks.holder lock ≠ some task) :
    receiveProtocol.Keeps task (ask (.removeUnusedEntry transferId lock))
      (fun _ daemon' => daemon'.locks.holder lock ≠ some task) daemon := by
  refine Protocol.Keeps.ask (stable_clones.and stable_released) (fun _ => stable_released)
    ⟨h, hreleased⟩ ?_
  rintro daemon₁ _ daemon₂ ⟨h₁, hreleased₁⟩ hinv hact
  obtain rfl := Option.some.inj hact.2
  refine ⟨removeUnused_fair hinv h₁ hreleased₁, ?_⟩
  unfold LockTable.removeUnused
  split <;> exact hreleased₁

theorem keeps_handleTransfer (limits : ClipboardLimits) («from» : DeviceId)
    (payload : SendPayload) (hinv : ReceiveInv daemon) :
    receiveProtocol.Keeps task (handleTransfer limits «from» payload)
      (fun _ _ => True) daemon := by
  have htrue : receiveProtocol.Stable task fun _ => True := .const True
  refine .bind hinv (.mono keeps_lockEntry fun lock daemon₁ hinv₁ h₁ => ?_)
  refine .bind hinv₁ (.mono (keeps_locked (by simp) h₁ (fun _ _ _ h => h)
    (fun _ => htrue) ?_) ?_)
  · intro daemon₂ hinv₂ h₂
    exact .mono (keeps_handleTransferLocked limits «from» rfl hinv₂ h₂)
      fun _ _ _ h₃ => ⟨trivial, h₃⟩
  · rintro result daemon₂ hinv₂ ⟨⟨-, h₂⟩, hreleased⟩
    refine .bind hinv₂ (.mono (keeps_removeUnusedEntry h₂ hreleased) ?_)
    intro _ daemon₃ hinv₃ hreleased₃
    refine .bind hinv₃ (.mono (keeps_dropLock htrue (fun _ _ h => h) trivial hreleased₃) ?_)
    exact fun _ _ _ _ => .ret htrue trivial fun _ _ _ => trivial

theorem keeps_resumeListed (limits : ClipboardLimits) (connected : List DeviceId)
    (state : ReceiveTransferState) (hinv : ReceiveInv daemon) :
    receiveProtocol.Keeps task (resumeListed limits connected state)
      (fun _ _ => True) daemon := by
  have hdone : ∀ daemon', receiveProtocol.Keeps task (.ret ())
      (fun (_ : Unit) _ => True) daemon' := fun _ _ _ _ => trivial
  unfold resumeListed
  split
  · refine .bind hinv (.mono (keeps_resumeReceive limits state hinv) ?_)
    intro result daemon₁ hinv₁ h₁
    cases result with
    | error error => exact hdone daemon₁
    | ok _ =>
        refine .bind hinv₁ (.mono (keeps_quiet stable_settled
          (quiet_sendAck _ _ _) (h₁ rfl)) ?_)
        intro acked daemon₂ hinv₂ h₂
        cases acked with
        | error error => exact hdone daemon₂
        | ok _ =>
            refine .bind hinv₂ (.mono (keeps_removeReceiveState (.const True)
              (fun _ _ _ h => h) h₂ trivial) ?_)
            exact fun _ daemon₃ _ _ => hdone daemon₃
  · exact hdone daemon

theorem keeps_resumeEach (limits : ClipboardLimits) (connected : List DeviceId)
    (states : List ReceiveTransferState) (hinv : ReceiveInv daemon) :
    receiveProtocol.Keeps task (resumeEach limits connected states)
      (fun _ _ => True) daemon := by
  induction states generalizing daemon with
  | nil => exact fun _ _ _ => trivial
  | cons state states ih =>
      refine .bind hinv (.mono (keeps_resumeListed limits connected state hinv) ?_)
      exact fun _ daemon₁ hinv₁ _ => ih hinv₁

theorem keeps_resumeIncompleteReceives (limits : ClipboardLimits)
    (hinv : ReceiveInv daemon) :
    receiveProtocol.Keeps task (resumeIncompleteReceives limits)
      (fun _ _ => True) daemon := by
  have htrue : receiveProtocol.Stable task fun _ => True := .const True
  refine .bind hinv (.mono (keeps_quiet htrue quiet_listIncompleteReceives trivial) fun result
    daemon₁ hinv₁ _ => ?_)
  split
  · exact fun _ _ _ => trivial
  · exact fun _ _ _ => trivial
  · refine .bind hinv₁ (.mono (keeps_quiet htrue (quiet_ask trivial) trivial) ?_)
    exact fun connected daemon₂ hinv₂ _ => keeps_resumeEach limits connected _ hinv₂

end Programs

/-- The steps of a daemon that only receives. -/
def receiverLabel : Label SendSig TaskId DaemonEvent → Bool
  | .event (.receive _ _ _ _) | .event (.chunkTimeout _) | .event (.resumePass _) => true
  | .event _ => false
  | .call _ _ _ => true

def undisturbed (daemon : Daemon) : Label SendSig TaskId DaemonEvent → Bool
  | .call _ request response => undisturbedCall daemon request response
  | .event _ => true

theorem Daemon.receive_cases (limits : ClipboardLimits) (daemon : Daemon)
    («from» : DeviceId) (envelope : SendEnvelope) (receipt : Option String) :
    SameReceiving daemon (daemon.receive limits «from» envelope receipt).1 ∧
      ∀ program, (daemon.receive limits «from» envelope receipt).2 = some program →
        ∃ sender payload,
          program = (handleTransfer limits sender payload >>= fun _ => .ret ()) := by
  unfold Daemon.receive
  dsimp only
  split
  · exact ⟨⟨rfl, rfl, rfl, rfl, List.prefix_refl _⟩, fun program h =>
      ⟨_, _, (Option.some.inj h).symm⟩⟩
  all_goals exact ⟨⟨rfl, rfl, rfl, rfl, List.prefix_refl _⟩, fun program h => by cases h⟩

theorem receive_admits (config : DaemonConfig) :
    receiveProtocol.Admits (daemonWorld config)
      (fun daemon label => receiverLabel label ∧ undisturbed daemon label) where
  act _ _ _ _ _ hcond hperform := ⟨hcond.2, hperform⟩
  event event daemon daemon' started hinv hcond hevent := by
    have hquiet : ∀ daemon'', SameReceiving daemon daemon'' →
        receiveProtocol.inv daemon'' ∧ ∀ task, receiveProtocol.rely task daemon daemon'' :=
      fun _ hsame => ⟨(SameReceiving.fair hsame hinv : receiveProtocol.Fair 0 _ _).inv,
        fun _ => hsame.rely⟩
    cases event with
    | receive task sender envelope receipt =>
        obtain ⟨hsame, hprogram⟩ :=
          daemon.receive_cases config.limits sender envelope receipt
        obtain ⟨rfl, rfl⟩ := Prod.mk.inj (Option.some.inj hevent)
        obtain ⟨hinv', hrely⟩ := hquiet _ hsame
        refine ⟨hinv', hrely, fun task' program hstarted => ?_⟩
        obtain ⟨program', hprogram', heq⟩ := Option.map_eq_some_iff.mp hstarted
        obtain ⟨rfl, rfl⟩ := Prod.mk.inj heq
        obtain ⟨sender', payload, rfl⟩ := hprogram program' hprogram'
        exact .bind hinv' (.mono (keeps_handleTransfer _ _ _ hinv')
          fun _ _ _ _ => fun _ _ _ => trivial)
    | chunkTimeout transferId =>
        simp only [daemonWorld, DaemonEvent.apply, Option.ite_none_right_eq_some,
          Option.some.injEq, Prod.mk.injEq] at hevent
        obtain ⟨-, rfl, rfl⟩ := hevent
        refine ⟨(hquiet _ ?_).1, (hquiet _ ?_).2, by simp⟩ <;>
          exact ⟨rfl, rfl, rfl, rfl, List.prefix_refl _⟩
    | resumePass task =>
        obtain ⟨rfl, rfl⟩ := Prod.mk.inj (Option.some.inj hevent)
        obtain ⟨hinv', hrely⟩ := hquiet _ ⟨rfl, rfl, rfl, rfl, List.prefix_refl _⟩
        refine ⟨hinv', hrely, fun task' program hstarted => ?_⟩
        obtain ⟨rfl, rfl⟩ := Prod.mk.inj (Option.some.inj hstarted)
        exact keeps_resumeIncompleteReceives _ hinv'
    | sendFiles | cancelAll | watch => exact absurd hcond.1 (by simp [receiverLabel])

/-- A daemon that has just started: only its state files are left from before. -/
structure Daemon.Started (daemon : Daemon) : Prop where
  locks : daemon.locks = .empty
  exports : daemon.exports = []
  removedReceives : daemon.removedReceives = []
  filed : daemon.Filed

theorem Daemon.Started.holds {daemon : Daemon} (h : daemon.Started) :
    receiveProtocol.Holds (idle daemon) := by
  refine Protocol.holds_idle ⟨?_, fun transferId => ?_, h.filed⟩ fun _ => rfl
  · change daemon.locks.Distinct
    rw [h.locks]
    constructor
    · intro transferId lock hentry
      cases hentry
    · intro transferId other lock hentry
      cases hentry
  · change ReceivePhase daemon transferId
    have hdeliveries : (daemon.record transferId).deliveries = 0 := by
      simp [Daemon.record, h.exports]
    have hremoved : (daemon.record transferId).removed = false := by
      simp [Daemon.record, h.removedReceives]
    by_cases hfile : ∃ state, (daemon.record transferId).file = some state ∧
        state.stage = .complete
    · exact .inr (.inr ⟨hdeliveries.le.trans (Nat.zero_le 1), .inl ⟨hfile, hremoved⟩⟩)
    · refine .inl ⟨hdeliveries, fun state hstate hstage => ?_, hremoved⟩
      exact hfile ⟨state, hstate, hstage⟩

/-- While every pass that gets a lock finds its transfer still incomplete, no load
misses a state that is or was complete, and every completed state is written, a
transfer is exported at most once, and its state file does not come back. -/
theorem receives_deliver_once (config : DaemonConfig) {daemon : Daemon}
    (hstarted : daemon.Started) {labels : List (Label SendSig TaskId DaemonEvent)}
    {pool : Pool SendSig TaskId Daemon}
    (hrun : (daemonWorld config).Run
      (fun daemon label => receiverLabel label ∧ undisturbed daemon label)
      (idle daemon) labels pool) (transferId : Uuid) :
    (pool.state.record transferId).deliveries ≤ 1 ∧
      ((pool.state.record transferId).removed = true →
        (pool.state.record transferId).file = none) := by
  have hphase := (hstarted.holds.run (receive_admits config) hrun).1.phase transferId
  rcases hphase with ⟨hzero, hopen⟩ | ⟨⟨hone, hopen⟩, -⟩ | ⟨hle, ⟨-, hkept⟩ | ⟨hgone, -⟩⟩
  · exact ⟨by omega, fun hremoved => by simp [hopen.kept] at hremoved⟩
  · exact ⟨hone.le, fun hremoved => by simp [hopen.kept] at hremoved⟩
  · exact ⟨hle, fun hremoved => by simp [hkept] at hremoved⟩
  · exact ⟨hle, fun _ => hgone⟩

/-- One transfer, and a pass that starts before it and ends after it. -/
theorem direct_receive_delivers_once :
    ∃ labels pool, (daemonWorld deskConfig).Run
        (fun daemon label => receiverLabel label ∧ undisturbed daemon label)
        (idle .empty) labels pool ∧
      (pool.state.record 7).removed = true ∧
      (pool.state.record 7).deliveries ≤ 1 ∧ (pool.state.record 7).file = none := by
  let script : List (Move TaskId DaemonEvent) :=
    .event (.resumePass 2) :: .event (.receive 1 ⟨2⟩ (.transfer emptyPayload) none) ::
      List.replicate 18 (.tick 1) ++ [.tick 2]
  have hsome : ((daemonWorld deskConfig).follow
      (fun daemon label => receiverLabel label ∧ undisturbed daemon label)
      (fun _ => Daemon.oblige laptop) script (idle .empty)).any
        (fun result => (result.2.state.record 7).removed) = true := by
    decide +kernel
  obtain ⟨⟨labels, pool⟩, hfollow, hremoved⟩ := (Option.any_eq_true _ _).mp hsome
  have hrun := World.run_of_follow hfollow
  have hstarted : Daemon.empty.Started := ⟨rfl, rfl, rfl, fun _ _ h => by cases h⟩
  have honce := receives_deliver_once deskConfig hstarted hrun 7
  exact ⟨labels, pool, hrun, hremoved, honce.1, honce.2 hremoved⟩

def Label.isTransfer : Label SendSig TaskId DaemonEvent → Bool
  | .event (.receive _ _ (.transfer _) _) => true
  | _ => false

/-- One transfer arrives, and one pass reads its state file just before the transfer
completes: the files are exported twice and the state file comes back. -/
theorem stale_pass_delivers_again :
    ∃ labels pool, (daemonWorld deskConfig).Run (fun _ label => receiverLabel label)
        (idle .empty) labels pool ∧
      labels.countP Label.isTransfer = 1 ∧
      (pool.state.record 7).deliveries = 2 ∧
      (pool.state.record 7).removed = true ∧ (pool.state.record 7).file.isSome := by
  let script : List (Move TaskId DaemonEvent) :=
    .event (.receive 1 ⟨2⟩ (.transfer emptyPayload) none) :: List.replicate 6 (.tick 1) ++
      .event (.resumePass 2) :: List.replicate 4 (.tick 2) ++
      List.replicate 12 (.tick 1) ++ List.replicate 8 (.tick 2)
  have hsome : ((daemonWorld deskConfig).follow (fun _ label => receiverLabel label)
      (fun _ => Daemon.oblige laptop) script (idle .empty)).any
        (fun result => result.1.countP Label.isTransfer == 1 &&
          (result.2.state.record 7).deliveries == 2 &&
          (result.2.state.record 7).removed &&
          (result.2.state.record 7).file.isSome) = true := by
    decide +kernel
  obtain ⟨⟨labels, pool⟩, hfollow, hresult⟩ := (Option.any_eq_true _ _).mp hsome
  simp only [Bool.and_eq_true, beq_iff_eq] at hresult
  exact ⟨labels, pool, World.run_of_follow hfollow, hresult.1.1.1, hresult.1.1.2,
    hresult.1.2, hresult.2⟩

end Failsafe.Send
