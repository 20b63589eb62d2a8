import Failsafe.Send.Link

/-!
What an acknowledgement of success says about the receiver, in every run of a link.
-/

namespace Failsafe.Send

open Failsafe.Core Failsafe.Clipboard Failsafe.Lib Failsafe.Transport

/-- Complete state files, acknowledgements on their way and acknowledgements that
have arrived all stand for a collection that was exported. -/
structure LinkInv (link : Link) : Prop where
  files : ∀ side transferId state,
    (link.daemons side).receiveFiles.lookup transferId = some state →
    state.stage = .complete → (link.daemons side).hasExported state.collectionHash
  inFlight : ∀ message ∈ link.inFlight, message.envelope.isOkAck = true →
    ∃ hash, message.receipt = some hash ∧ (link.daemons message.to.other).hasExported hash
  channels : ∀ side waiter receipt,
    (link.daemons side).coordinator.channels waiter = .sent (.ok ()) receipt →
    ∃ hash, receipt = some hash ∧ (link.daemons side.other).hasExported hash

def agreementProtocol (configs : Side → DaemonConfig) :
    Protocol SendSig (Side × TaskId) Link where
  inv := LinkInv
  rely _ := Link.Grows
  act task request response link link' :=
    Link.perform configs task request response link = some link'
  rely_refl _ _ _ := .refl _
  rely_trans _ _ _ _ h h' side := (h side).trans (h' side)

section Steps

variable {configs : Side → DaemonConfig} {link : Link} {side : Side} {daemon : Daemon}

/-- What a side must not do: complete a state, be acknowledged, or acknowledge without
an export. -/
theorem LinkInv.advance (hinv : LinkInv link) (hgrows : (link.daemons side).Grows daemon)
    (hfiles : ∀ transferId state, daemon.receiveFiles.lookup transferId = some state →
      state.stage = .complete → daemon.hasExported state.collectionHash)
    (hchannels : ∀ waiter receipt,
      daemon.coordinator.channels waiter = .sent (.ok ()) receipt →
      ∃ hash, receipt = some hash ∧ (link.daemons side.other).hasExported hash)
    (hsent : ∀ message ∈ daemon.outbox.drop (link.daemons side).outbox.length,
      message.envelope.isOkAck = true →
      ∃ hash, message.receipt = some hash ∧ daemon.hasExported hash) :
    LinkInv (link.advance configs side daemon) := by
  have hlink := Link.grows_advance configs hgrows
  constructor
  · intro other transferId state hlookup hstage
    by_cases heq : other = side
    · subst heq
      rw [Link.daemons_advance_self] at hlookup ⊢
      exact hfiles transferId state hlookup hstage
    · rw [Link.daemons_advance_of_ne heq] at hlookup ⊢
      exact hinv.files other transferId state hlookup hstage
  · intro message hmem hack
    rcases List.mem_append.mp hmem with hmem | hmem
    · obtain ⟨hash, hreceipt, hexported⟩ := hinv.inFlight message hmem hack
      exact ⟨hash, hreceipt, hexported.grow (hlink _)⟩
    · obtain ⟨sent, hsentMem, hposted⟩ := List.mem_filterMap.mp hmem
      simp only [SentMessage.posted, Option.ite_none_right_eq_some,
        Option.some.injEq] at hposted
      obtain ⟨-, rfl⟩ := hposted
      obtain ⟨hash, hreceipt, hexported⟩ := hsent sent hsentMem hack
      exact ⟨hash, hreceipt, by simpa using hexported⟩
  · intro other waiter receipt hchannel
    by_cases heq : other = side
    · subst heq
      rw [Link.daemons_advance_self] at hchannel
      obtain ⟨hash, hreceipt, hexported⟩ := hchannels waiter receipt hchannel
      exact ⟨hash, hreceipt, hexported.grow (hlink _)⟩
    · rw [Link.daemons_advance_of_ne heq] at hchannel
      obtain ⟨hash, hreceipt, hexported⟩ := hinv.channels other waiter receipt hchannel
      exact ⟨hash, hreceipt, hexported.grow (hlink _)⟩

theorem LinkInv.advance_calm (hinv : LinkInv link)
    (hcalm : (link.daemons side).Calm daemon) :
    LinkInv (link.advance configs side daemon) := by
  refine hinv.advance hcalm.toGrows ?_ ?_ ?_
  · intro transferId state hlookup hstage
    exact (hinv.files side transferId state (hcalm.files _ _ hlookup hstage) hstage).grow
      hcalm.toGrows
  · exact fun waiter receipt h => hinv.channels side waiter receipt (hcalm.channels _ _ h)
  · intro message hmem hack
    rw [hcalm.unacknowledged message hmem] at hack
    cases hack

end Steps

section Programs

variable {configs : Side → DaemonConfig} {link : Link} {side : Side} {task : TaskId}

/-- The side has exported the collection. -/
def exportedBy (side : Side) (hash : String) (link : Link) : Prop :=
  (link.daemons side).hasExported hash

theorem stable_exportedBy {task : Side × TaskId} {hash : String} :
    (agreementProtocol configs).Stable task (exportedBy side hash) :=
  fun _ _ h hrely => h.grow (hrely side)

theorem keeps_harmless {α : Type} {A : Link → Prop}
    (hA : (agreementProtocol configs).Stable (side, task) A) {p : SendProg α}
    (hp : p.All SendRequest.Harmless) (h : A link) :
    (agreementProtocol configs).Keeps (side, task) p (fun _ => A) link := by
  refine .of_all hA (fun request hharmless link₁ response link₂ h₁ hinv hact => ?_) hp h
  obtain ⟨daemon, hperform, rfl⟩ := Option.map_eq_some_iff.mp hact
  have hcalm := Daemon.perform_calm hharmless hperform
  have hgrows := Link.grows_advance configs hcalm.toGrows
  exact ⟨⟨hinv.advance_calm hcalm, fun _ _ => hgrows⟩, hA _ _ h₁ hgrows⟩

theorem harmless_emitProgress («to» : DeviceId) (reports : List SendProgress) :
    (emitProgress «to» reports).All SendRequest.Harmless := by
  induction reports with
  | nil => trivial
  | cons report reports ih => exact .bind (all_ask trivial) fun _ => ih

theorem harmless_chooseReceiveDir (state : ReceiveTransferState) :
    (chooseReceiveDir state).All SendRequest.Harmless := by
  unfold chooseReceiveDir
  split
  · trivial
  · refine .bind (all_ask trivial) fun base => ?_
    cases base with
    | none => trivial
    | some base => exact .bind (all_ask trivial) fun _ => trivial

theorem harmless_downloadReceive (limits : ClipboardLimits) (state : ReceiveTransferState) :
    (downloadReceive limits state).run.All SendRequest.Harmless := by
  have hsaves : ∀ saved : ReceiveTransferState, saved.stage ≠ .complete →
      (saveReceiveState saved).run.All SendRequest.Harmless := fun _ h => all_ask h
  refine .tryBind (all_liftExcept _) fun _ => .tryBind (hsaves _ (by simp)) fun _ => ?_
  refine .tryBind (.lift (harmless_emitProgress _ _)) fun _ => ?_
  refine .tryBind (.lift (all_ask trivial)) fun ⟨downloads, downloaded⟩ => ?_
  refine .tryBind (.lift (harmless_emitProgress _ _)) fun _ => ?_
  exact .tryBind (all_liftExcept _) fun _ =>
    hsaves _ (by simp [ReceiveTransferState.downloaded])

theorem keeps_anything {α : Type} {p : SendProg α} (hp : p.All SendRequest.Harmless) :
    (agreementProtocol configs).Keeps (side, task) p (fun _ _ => True) link :=
  keeps_harmless (.const True) hp trivial

theorem keeps_export (transferId : Uuid) (root destDir : String) :
    (agreementProtocol configs).Keeps (side, task) (exportCollection transferId root destDir)
      (fun result link' => result.2.isOk = true → exportedBy side root link') link := by
  refine Protocol.Keeps.ask (.const True) (fun _ => stable_exportedBy.imp) trivial ?_
  intro link₁ response link₂ _ hinv hact
  obtain ⟨daemon, hperform, rfl⟩ := Option.map_eq_some_iff.mp hact
  have hcalm := Daemon.perform_calm (by trivial) hperform
  refine ⟨⟨hinv.advance_calm hcalm, fun _ _ => Link.grows_advance configs hcalm.toGrows⟩, ?_⟩
  intro hok
  obtain rfl := Option.some.inj hperform
  refine ⟨{ transferId, root, destDir, ok := response.2.isOk }, ?_, rfl, hok⟩
  simp [Daemon.exported]

theorem keeps_saveExported {state : ReceiveTransferState}
    (h : exportedBy side state.collectionHash link) :
    (agreementProtocol configs).Keeps (side, task) (saveReceiveState state).run
      (fun _ => exportedBy side state.collectionHash) link := by
  refine Protocol.Keeps.ask stable_exportedBy (fun _ => stable_exportedBy) h ?_
  intro link₁ response link₂ h₁ hinv hact
  obtain ⟨daemon, hperform, rfl⟩ := Option.map_eq_some_iff.mp hact
  have hgrows := Daemon.perform_grows hperform
  have hlink := Link.grows_advance configs hgrows
  refine ⟨⟨hinv.advance hgrows ?_ ?_ ?_, fun _ _ => hlink⟩, h₁.grow (hlink side)⟩
  · obtain rfl := Option.some.inj hperform
    intro transferId saved hlookup hstage
    cases response with
    | error error => exact hinv.files side transferId saved hlookup hstage
    | ok _ =>
        by_cases heq : transferId = state.transferId
        · subst heq
          simp only [Daemon.saveReceive, AList.lookup_insert, Option.some.injEq] at hlookup
          rw [← hlookup]
          exact h₁
        · simp only [Daemon.saveReceive, AList.lookup_insert_ne heq] at hlookup
          exact hinv.files side transferId saved hlookup hstage
  · obtain rfl := Option.some.inj hperform
    intro waiter receipt hchannel
    cases response <;> exact hinv.channels side waiter receipt hchannel
  · obtain rfl := Option.some.inj hperform
    intro message hmem
    cases response <;> simp [Daemon.saveReceive] at hmem

theorem keeps_acknowledge (sender : DeviceId) (transferId : Uuid) {hash : String}
    (h : exportedBy side hash link) :
    (agreementProtocol configs).Keeps (side, task)
      (acknowledgeCompletedReceive sender transferId hash).run (fun _ _ => True) link := by
  refine .call stable_exportedBy h fun link₁ response link₂ h₁ hinv hact => ?_
  obtain ⟨daemon, hperform, rfl⟩ := Option.map_eq_some_iff.mp hact
  have hgrows := Daemon.perform_grows hperform
  have hlink := Link.grows_advance configs hgrows
  obtain rfl := Option.some.inj hperform
  refine ⟨⟨hinv.advance hgrows (hinv.files side) (hinv.channels side) ?_, fun _ _ => hlink⟩,
    fun _ _ _ => trivial⟩
  intro message hmem _
  rw [Daemon.sent, List.drop_left, List.mem_singleton] at hmem
  exact ⟨hash, by rw [hmem], h₁⟩

theorem keeps_acknowledgeAndRemove_exported («from» : DeviceId) (transferId : Uuid)
    {hash : String} (hinv : LinkInv link) (h : exportedBy side hash link) :
    (agreementProtocol configs).Keeps (side, task)
      (acknowledgeAndRemove «from» transferId hash).run (fun _ _ => True) link := by
  refine .tryBind hinv (.mono (keeps_acknowledge _ _ h) fun result link₁ hinv₁ _ => ?_)
  cases result with
  | error error => exact fun _ _ _ => trivial
  | ok _ =>
      exact keeps_anything (.tryBind (.lift (all_ask trivial)) fun _ => trivial)

theorem keeps_exportReceive_exported {state : ReceiveTransferState} (hinv : LinkInv link) :
    (agreementProtocol configs).Keeps (side, task) (exportReceive state).run
      (fun result link' => result.isOk = true → exportedBy side state.collectionHash link')
      link := by
  have hstop : ∀ (link' : Link) (error : String),
      (agreementProtocol configs).Keeps (side, task) (.ret (.error error))
        (fun (result : Except String Unit) link' =>
          result.isOk = true → exportedBy side state.collectionHash link') link' :=
    fun _ _ _ _ _ h => by cases h
  unfold exportReceive
  refine .liftBind hinv (.mono (keeps_anything (harmless_chooseReceiveDir _)) ?_)
  intro dir link₁ hinv₁ _
  cases dir with
  | none => exact hstop link₁ _
  | some dir =>
      refine .tryBind hinv₁ (.ret (.const True) trivial fun link₂ _ hinv₂ => ?_)
      refine .liftBind hinv₂ (.mono (keeps_export _ _ _) ?_)
      rintro ⟨exports, exported⟩ link₃ hinv₃ h₃
      cases exported with
      | error error =>
          refine .liftBind hinv₃ (.mono (keeps_anything (harmless_emitProgress _ _)) ?_)
          exact fun _ link₄ _ _ => hstop link₄ error
      | ok count =>
          have h₃ : exportedBy side state.collectionHash link₃ := h₃ rfl
          refine .liftBind hinv₃
            (.mono (keeps_harmless stable_exportedBy (harmless_emitProgress _ _) h₃) ?_)
          intro _ link₄ hinv₄ h₄
          refine .tryBind hinv₄ (.ret stable_exportedBy h₄ fun link₅ h₅ hinv₅ => ?_)
          refine .liftBind hinv₅
            (.mono (keeps_harmless stable_exportedBy (harmless_emitProgress _ _) h₅) ?_)
          intro _ link₆ hinv₆ h₆
          refine .tryBind hinv₆ (.mono (keeps_saveExported h₆) fun saved link₇ hinv₇ h₇ => ?_)
          cases saved with
          | error error => exact hstop link₇ error
          | ok _ =>
              exact .mono (keeps_harmless stable_exportedBy (.lift (all_ask trivial)) h₇)
                fun _ _ _ h _ => h

theorem keeps_runReceive_exported (limits : ClipboardLimits) {state : ReceiveTransferState}
    (hinv : LinkInv link) :
    (agreementProtocol configs).Keeps (side, task) (runReceive limits state).run
      (fun result link' => result.isOk = true → exportedBy side state.collectionHash link')
      link := by
  refine .tryBind hinv (.mono (keeps_anything (harmless_downloadReceive limits state)) ?_)
  intro result link₁ hinv₁ _
  cases result with
  | error error => exact fun _ _ _ h => by cases h
  | ok _ => exact keeps_exportReceive_exported hinv₁

theorem harmless_reportReceiveFailure («from» : DeviceId) (transferId : Uuid)
    (message : String) :
    (reportReceiveFailure «from» transferId message).All SendRequest.Harmless := by
  have hack : ((sendAck «from» { transferId, ok := false, error := some message } none).run
      >>= fun _ => Prog.ret ()).All SendRequest.Harmless :=
    .bind (.bind (all_ask (by rfl)) fun _ => trivial) fun _ => trivial
  refine .bind (all_ask trivial) fun result => ?_
  cases result with
  | error error => exact hack
  | ok state =>
      have hsave : (saveReceiveState { state with stage := .failed, error := some message }).run.All
          SendRequest.Harmless := all_ask (by simp [SendRequest.Harmless])
      exact .bind hsave fun _ => hack

theorem keeps_savedOrFresh_exported («from» : DeviceId) (payload : SendPayload) :
    (agreementProtocol configs).Keeps (side, task) (savedOrFresh «from» payload)
      (fun state link' => state.stage = .complete →
        exportedBy side state.collectionHash link') link := by
  refine .call (.const True) trivial fun link₁ response link₂ _ hinv hact => ?_
  obtain ⟨daemon, hperform, rfl⟩ := Option.map_eq_some_iff.mp hact
  have hcalm := Daemon.perform_calm (by trivial) hperform
  refine ⟨⟨hinv.advance_calm hcalm, fun _ _ => Link.grows_advance configs hcalm.toGrows⟩, ?_⟩
  cases response with
  | error error => exact fun _ _ _ h => by cases h
  | ok saved =>
      have hread : (link₁.daemons side).receiveFiles.lookup payload.transferId = some saved ∧
          link₁.daemons side = daemon := by
        simpa [Daemon.readFile, Daemon.perform] using hperform
      refine .ret stable_exportedBy.imp (fun hstage => ?_) fun _ h _ => h
      exact (hinv.files side _ _ hread.1 hstage).grow
        (Link.grows_advance configs hcalm.toGrows side)

theorem keeps_handleTransferLocked_agreed (limits : ClipboardLimits) («from» : DeviceId)
    (payload : SendPayload) (hinv : LinkInv link) :
    (agreementProtocol configs).Keeps (side, task)
      (handleTransferLocked limits «from» payload).run (fun _ _ => True) link := by
  unfold handleTransferLocked
  split
  · exact fun _ _ _ => trivial
  · refine .liftBind hinv (.mono (keeps_savedOrFresh_exported «from» payload) ?_)
    intro state link₁ hinv₁ h₁
    split
    · rename_i hstage
      exact keeps_acknowledgeAndRemove_exported _ _ hinv₁ (h₁ hstage)
    · refine .liftBind hinv₁ (.mono (keeps_runReceive_exported limits hinv₁) ?_)
      intro result link₂ hinv₂ h₂
      cases result with
      | ok _ => exact keeps_acknowledgeAndRemove_exported _ _ hinv₂ (h₂ rfl)
      | error message =>
          exact keeps_anything (.tryBind (.lift (harmless_reportReceiveFailure _ _ _))
            fun _ => trivial)

theorem keeps_locked_agreed {α : Type} {lock : LockId}
    {resumed : Option ReceiveTransferState} {body : SendProg α} {post : α → Link → Prop}
    (hinv : LinkInv link)
    (hpost : ∀ value, (agreementProtocol configs).Stable (side, task) (post value))
    (hbody : ∀ link', LinkInv link' →
      (agreementProtocol configs).Keeps (side, task) body post link') :
    (agreementProtocol configs).Keeps (side, task) (locked lock resumed body) post link := by
  refine .bind hinv (.mono (keeps_anything (all_ask trivial)) fun _ link₁ hinv₁ _ => ?_)
  refine .bind hinv₁ (.mono (hbody link₁ hinv₁) fun value link₂ hinv₂ h₂ => ?_)
  refine .bind hinv₂ (.mono (keeps_harmless (hpost value) (all_ask trivial) h₂) ?_)
  exact fun _ link₃ _ h₃ => .ret (hpost value) h₃ fun _ h _ => h

theorem keeps_handleTransfer_agreed (limits : ClipboardLimits) («from» : DeviceId)
    (payload : SendPayload) (hinv : LinkInv link) :
    (agreementProtocol configs).Keeps (side, task) (handleTransfer limits «from» payload)
      (fun _ _ => True) link := by
  refine .bind hinv (.mono (keeps_anything (all_ask trivial)) fun lock link₁ hinv₁ _ => ?_)
  refine .bind hinv₁ (.mono (keeps_locked_agreed hinv₁ (fun _ => .const True)
    fun link' hinv' => keeps_handleTransferLocked_agreed limits «from» payload hinv') ?_)
  exact fun result link₂ _ _ => keeps_anything (.bind (all_ask trivial) fun _ =>
    .bind (all_ask trivial) fun _ => trivial)

theorem keeps_resumeListed_agreed (limits : ClipboardLimits) (connected : List DeviceId)
    (state : ReceiveTransferState) (hinv : LinkInv link) :
    (agreementProtocol configs).Keeps (side, task) (resumeListed limits connected state)
      (fun _ _ => True) link := by
  have hresume : (agreementProtocol configs).Keeps (side, task)
      (resumeReceive limits state).run (fun result link' => result.isOk = true →
        exportedBy side state.collectionHash link') link := by
    refine .bind hinv (.mono (keeps_anything (all_ask trivial)) fun lock link₁ hinv₁ _ => ?_)
    refine .bind hinv₁ (.mono (keeps_locked_agreed hinv₁ (fun _ => stable_exportedBy.imp)
      fun link' hinv' => keeps_runReceive_exported limits hinv') ?_)
    intro result link₂ _ h₂
    have hdrop : (ask (.dropLock lock) >>= fun _ => .ret result).All SendRequest.Harmless :=
      .bind (all_ask trivial) fun _ => trivial
    exact keeps_harmless stable_exportedBy.imp hdrop h₂
  unfold resumeListed
  split
  · refine .bind hinv (.mono hresume fun result link₁ hinv₁ h₁ => ?_)
    cases result with
    | error error => exact fun _ _ _ => trivial
    | ok _ =>
        refine .bind hinv₁ (.mono (keeps_acknowledge _ _ (h₁ rfl)) fun acked link₂ _ _ => ?_)
        cases acked with
        | error error => exact fun _ _ _ => trivial
        | ok _ => exact keeps_anything (.bind (all_ask trivial) fun _ => trivial)
  · exact fun _ _ _ => trivial

theorem keeps_resumeIncompleteReceives_agreed (limits : ClipboardLimits)
    (hinv : LinkInv link) :
    (agreementProtocol configs).Keeps (side, task) (resumeIncompleteReceives limits)
      (fun _ _ => True) link := by
  have heach : ∀ connected states link', LinkInv link' →
      (agreementProtocol configs).Keeps (side, task) (resumeEach limits connected states)
        (fun _ _ => True) link' := by
    intro connected states
    induction states with
    | nil => exact fun _ _ _ _ _ => trivial
    | cons state states ih =>
        exact fun link' hinv' => .bind hinv' (.mono
          (keeps_resumeListed_agreed limits connected state hinv')
          fun _ link'' hinv'' _ => ih link'' hinv'')
  have hread : ∀ transferIds, (readIncomplete transferIds).run.All SendRequest.Harmless := by
    intro transferIds
    induction transferIds with
    | nil => trivial
    | cons transferId transferIds ih =>
        exact .tryBind (all_ask trivial) fun _ => .tryBind ih fun _ => trivial
  refine .bind hinv (.mono (keeps_anything (.tryBind (all_ask trivial) fun _ => hread _)) ?_)
  intro result link₁ hinv₁ _
  split
  · exact fun _ _ _ => trivial
  · exact fun _ _ _ => trivial
  · refine .bind hinv₁ (.mono (keeps_anything (all_ask trivial)) ?_)
    exact fun connected link₂ hinv₂ _ => heach connected _ link₂ hinv₂

theorem harmless_of_preparing {request : SendRequest} (h : request.Preparing) :
    request.Harmless := by
  cases request <;> first | exact h.elim | trivial

theorem harmless_of_marking {request : SendRequest} (h : request.Marking) :
    request.Harmless := by
  cases request <;> first | exact h.elim | trivial

theorem harmless_of_waiting {request : SendRequest} (h : request.Waiting) :
    request.Harmless := by
  cases request <;> first | exact h.elim | trivial

theorem harmless_of_watching {request : SendRequest} (h : request.Watching) :
    request.Harmless := by
  cases request <;> first | exact h.elim | trivial

theorem harmless_of_validating {request : SendRequest} (h : request.Validating) :
    request.Harmless := by
  cases request <;> first | exact h.elim | trivial

theorem harmless_of_cancelling {request : SendRequest} (h : request.Cancelling) :
    request.Harmless := by
  cases request with
  | completeWaiter transferId result => cases result <;> exact h
  | _ => first | exact h.elim | trivial

theorem harmless_sendEnvelopes (target : DeviceId) {envelopes : List SendEnvelope}
    (h : ∀ envelope ∈ envelopes, envelope.isOkAck = false) :
    (sendEnvelopes target envelopes).run.All SendRequest.Harmless := by
  induction envelopes with
  | nil => trivial
  | cons envelope envelopes ih =>
      have hsend : (transportSend target envelope none).run.All SendRequest.Harmless :=
        all_ask (h envelope List.mem_cons_self)
      exact .tryBind (.bind hsend fun _ => trivial) fun _ =>
        ih fun envelope' hmem => h envelope' (List.mem_cons_of_mem _ hmem)

theorem harmless_sendTransfer (config : SendConfig) (request : SendFilesRequest)
    (turns : Nat) (cancel : Token) (waiter : WaiterId) :
    (sendTransfer config request turns cancel waiter).run.All SendRequest.Harmless := by
  have hcheck : (checkCancelled cancel).run.All SendRequest.Harmless :=
    (preparing_checkCancelled _).mono fun _ => harmless_of_preparing
  refine .tryBind ((preparing_prepareSendPayload _ _ _ _ _ _ _).mono
    fun _ => harmless_of_preparing) fun payload => ?_
  refine .tryBind hcheck fun _ => .tryBind (.lift (all_ask trivial)) fun _ => ?_
  refine .tryBind hcheck fun _ => ?_
  refine .tryBind (harmless_sendEnvelopes _ fun envelope hmem =>
    planTransferEnvelopes_isOkAck hmem) fun _ => ?_
  exact .tryBind (.lift (all_ask trivial)) fun _ =>
    (waiting_waitForSendAck _ _ _).mono fun _ => harmless_of_waiting

theorem harmless_handleSendFiles (config : SendConfig) (request : SendFilesRequest)
    (turns : Nat) : (handleSendFiles config request turns).All SendRequest.Harmless := by
  have hreport : ∀ outcome,
      (reportOutcome request.transferId outcome).All SendRequest.Harmless := by
    intro outcome
    cases outcome with
    | ok _ =>
        exact .bind ((marking_markSendComplete _).mono fun _ => harmless_of_marking)
          fun _ => all_ask trivial
    | error message =>
        exact .bind ((marking_markSendFailed _ _).mono fun _ => harmless_of_marking)
          fun _ => all_ask trivial
  have hsettle : ∀ cancel result,
      (settle cancel request.transferId result).All SendRequest.Harmless := by
    intro cancel result
    refine .bind (all_ask trivial) fun answer => ?_
    split
    · exact .bind (all_ask trivial) fun _ => trivial
    · trivial
  refine .bind ((validating_validatePreconditions _).mono fun _ => harmless_of_validating)
    fun valid => ?_
  split
  · refine .bind (all_ask trivial) fun ready => ?_
    split
    · refine .bind (all_ask trivial) fun cancel => .bind (all_ask trivial) fun child => ?_
      refine .bind (all_ask trivial) fun _ => .bind (all_ask trivial) fun waiter => ?_
      refine .bind (harmless_sendTransfer _ _ _ _ _) fun result => ?_
      exact .bind (hsettle _ _) fun outcome => hreport outcome
    · trivial
  · trivial

theorem keeps_started {event : DaemonEvent} {daemon daemon' : Daemon}
    {program : SendProg Unit} (hinv : LinkInv link)
    (h : event.apply (configs side) daemon = some (daemon', some (task, program))) :
    (agreementProtocol configs).Keeps (side, task) program (fun _ _ => True) link := by
  rcases DaemonEvent.started_cases h with
    ⟨sender, payload, rfl⟩ | rfl | ⟨request, turns, rfl⟩ | rfl | ⟨child, -, turns, rfl⟩
  · exact .bind hinv (.mono (keeps_handleTransfer_agreed _ _ _ hinv)
      fun _ _ _ _ => fun _ _ _ => trivial)
  · exact keeps_resumeIncompleteReceives_agreed _ hinv
  · exact keeps_anything (harmless_handleSendFiles _ _ _)
  · exact keeps_anything (cancelling_handleCancelAll.mono fun _ => harmless_of_cancelling)
  · exact keeps_anything ((watching_disconnectWatcher _ _).mono fun _ => harmless_of_watching)

end Programs

theorem LinkInv.receive {configs : Side → DaemonConfig} {link : Link} (hinv : LinkInv link)
    {inFlight : List InFlight} (hsub : inFlight ⊆ link.inFlight) {message : InFlight}
    (hmem : message ∈ link.inFlight) :
    LinkInv ({ link with inFlight }.advance configs message.to
      ((link.daemons message.to).receive (configs message.to).limits message.from
        message.envelope message.receipt).1) := by
  have hinv' : LinkInv { link with inFlight } :=
    ⟨hinv.files, fun message' hmem' => hinv.inFlight message' (hsub hmem'), hinv.channels⟩
  obtain ⟨hfiles, hexports, houtbox⟩ := (link.daemons message.to).receive_same
    (configs message.to).limits message.from message.envelope message.receipt
  have hgrows : (link.daemons message.to).Grows ((link.daemons message.to).receive
      (configs message.to).limits message.from message.envelope message.receipt).1 :=
    ⟨by rw [hexports], by rw [houtbox]⟩
  refine hinv'.advance hgrows ?_ ?_ ?_
  · intro transferId state hlookup hstage
    rw [hfiles] at hlookup
    exact (hinv.files message.to transferId state hlookup hstage).grow hgrows
  · intro waiter receipt hchannel
    rcases Daemon.receive_channels hchannel with hchannel | ⟨hack, rfl⟩
    · exact hinv.channels message.to waiter receipt hchannel
    · exact hinv.inFlight message hmem hack
  · intro message' hmem'
    simp [houtbox] at hmem'

theorem agreement_admits (configs : Side → DaemonConfig)
    (cond : Link → Label SendSig (Side × TaskId) LinkEvent → Prop) :
    (agreementProtocol configs).Admits (linkWorld configs) cond where
  act _ _ _ _ _ _ hperform := hperform
  event event link link' started hinv _ hevent := by
    rcases LinkEvent.apply_cases hevent with
      ⟨index, rfl, rfl⟩ | ⟨inFlight, side, event, daemon, started, hsub, happly, rfl, rfl, hor⟩
    · refine ⟨⟨hinv.files, fun message hmem => ?_, hinv.channels⟩, fun _ _ => .refl _, by simp⟩
      exact hinv.inFlight message ((List.eraseIdx_sublist _ _).subset hmem)
    · have hinv' : LinkInv { link with inFlight } :=
        ⟨hinv.files, fun message hmem => hinv.inFlight message (hsub hmem), hinv.channels⟩
      have hlink : LinkInv ({ link with inFlight }.advance configs side daemon) := by
        rcases hor with hlocal | ⟨message, hmem, rfl, task, rfl⟩
        · exact hinv'.advance_calm (DaemonEvent.apply_calm hlocal happly)
        · rw [(DaemonEvent.apply_receive happly).1]
          exact hinv.receive hsub hmem
      refine ⟨hlink, fun _ => Link.grows_advance configs (DaemonEvent.apply_grows happly), ?_⟩
      intro task program hstarted
      obtain ⟨⟨task', program'⟩, rfl, heq⟩ := Option.map_eq_some_iff.mp hstarted
      obtain ⟨rfl, rfl⟩ := Prod.mk.inj heq
      exact keeps_started hlink happly

/-- The collections that a task has announced. -/
def Daemon.announcedBy (daemon : Daemon) (task : TaskId) : List String :=
  daemon.outbox.filterMap fun message =>
    if message.task = task then message.envelope.announced else none

theorem Daemon.Grows.announcedBy {daemon daemon' : Daemon} (h : daemon.Grows daemon')
    (task : TaskId) : daemon.announcedBy task ⊆ daemon'.announcedBy task :=
  (h.outbox.filterMap _).subset

/-- An acknowledgement of success that a session takes is one for the collection that
the session has announced. -/
def Daemon.takesOwnAck (daemon : Daemon) (task : TaskId) :
    (request : SendRequest) → request.Response → Bool
  | .awaitAck _ waiter, .acked (.ok ()) =>
      match daemon.coordinator.channels waiter with
      | .sent _ receipt => (daemon.announcedBy task).all fun hash => receipt == some hash
      | _ => true
  | _, _ => true

def acksMatch (link : Link) : Label SendSig (Side × TaskId) LinkEvent → Bool
  | .call (side, task) request response =>
      (link.daemons side).takesOwnAck task request response
  | .event _ => true

/-- Two daemons that have just started: only state files are left from before, and
what they hold as complete was exported. -/
structure Link.Started (link : Link) : Prop where
  inFlight : link.inFlight = []
  coordinator : ∀ side, (link.daemons side).coordinator = .empty
  files : ∀ side transferId state,
    (link.daemons side).receiveFiles.lookup transferId = some state →
    state.stage = .complete → (link.daemons side).hasExported state.collectionHash

theorem Link.Started.holds {configs : Side → DaemonConfig} {link : Link}
    (h : link.Started) : (agreementProtocol configs).Holds (idleLink link) := by
  refine Protocol.holds_idle ⟨h.files, ?_, ?_⟩ fun _ => rfl
  · intro message hmem
    change message ∈ link.inFlight at hmem
    simp [h.inFlight] at hmem
  · intro side waiter receipt hchannel
    change (link.daemons side).coordinator.channels waiter = _ at hchannel
    rw [h.coordinator] at hchannel
    cases hchannel

section Runs

variable {configs : Side → DaemonConfig} {link : Link}
  {cond : Link → Label SendSig (Side × TaskId) LinkEvent → Prop}
  {labels : List (Label SendSig (Side × TaskId) LinkEvent)}
  {pool : Pool SendSig (Side × TaskId) Link} {side : Side} {task : TaskId}

theorem announced_of_trace (hrun : (linkWorld configs).Run cond (idleLink link) labels pool)
    {exchange : Exchange SendSig} (hmem : exchange ∈ trace (side, task) labels)
    {hash : String} (hannounced : SendRequest.announced exchange.request = some hash) :
    hash ∈ (pool.state.daemons side).announcedBy task := by
  obtain ⟨before, after, hsplit⟩ := List.append_of_mem hmem
  obtain ⟨earlier, later, pool₁, pool₂, -, -, -, hstep, hlater⟩ := hrun.of_trace hsplit
  refine (linkWorld_run_grows hlater side).announcedBy task ?_
  obtain ⟨request, response⟩ := exchange
  obtain ⟨next, link', -, hanswer, rfl⟩ := World.step_call hstep
  obtain ⟨daemon, hperform, rfl⟩ := Option.map_eq_some_iff.mp hanswer
  cases request with
  | send target envelope receipt =>
      obtain rfl := Option.some.inj hperform
      have hannounced : envelope.announced = some hash := hannounced
      simp [Daemon.announcedBy, Daemon.sent, List.filterMap_append, hannounced]
  | _ => cases hannounced

theorem started_session {happened : LinkEvent} {link' : Link}
    {allowed : (request : SendSig.Request) → SendSig.Response request → Prop}
    {log : List (Exchange SendSig)} {first program : SendProg Unit} {event : ControlEvent}
    (h : happened.apply configs link = some (link', some ((side, task), first)))
    (hfollows : first.Follows allowed log program)
    (hwritten : ∃ exchange ∈ log, exchange.request = SendRequest.writeEvent event) :
    ∃ request turns, first = handleSendFiles (configs side).toSendConfig request turns := by
  rcases LinkEvent.apply_cases h with
    ⟨index, -, hstarted⟩ | ⟨inFlight, side', event', daemon, started, -, happly, -, heq, -⟩
  · cases hstarted
  · obtain ⟨⟨task', program'⟩, rfl, heq⟩ := Option.map_eq_some_iff.mp heq.symm
    cases heq
    exact session_of_request ⟨id, id, id⟩ happly hfollows hwritten

theorem exported_of_ack (hstarted : link.Started)
    (hrun : (linkWorld configs).Run (fun link label => acksMatch link label = true)
      (idleLink link) labels pool) {before after : List (Exchange SendSig)} {cancel : Token}
    {waiter : WaiterId}
    (htrace : trace (side, task) labels =
      before ++ ⟨.awaitAck cancel waiter, .acked (.ok ())⟩ :: after)
    {hash : String}
    (hannounced : ∃ exchange ∈ before, SendRequest.announced exchange.request = some hash) :
    (pool.state.daemons side.other).hasExported hash := by
  obtain ⟨earlier, later, pool₁, pool₂, rfl, hearlier, hmatch, hstep, hlater⟩ :=
    hrun.of_trace htrace
  have hgrows := fun side =>
    (linkWorld_step_grows hstep side).trans (linkWorld_run_grows hlater side)
  obtain ⟨exchange, hmem, hannounced⟩ := hannounced
  have hown := announced_of_trace hearlier hmem hannounced
  obtain ⟨next, link', -, hanswer, rfl⟩ := World.step_call hstep
  obtain ⟨daemon, hperform, -⟩ := Option.map_eq_some_iff.mp hanswer
  obtain ⟨coordinator, hawait, -⟩ := Option.map_eq_some_iff.mp hperform
  have hinv := (hstarted.holds.run (agreement_admits configs _) hearlier).1
  simp only [Coordinator.await] at hawait
  split at hawait
  · rename_i result receipt hchannel
    simp only [Option.ite_none_right_eq_some] at hawait
    rw [← hawait.1] at hchannel
    obtain ⟨hash', rfl, hexported⟩ := hinv.channels side waiter receipt hchannel
    have hmatch : ((pool₁.state.daemons side).announcedBy task).all
        (fun hash => some hash' == some hash) = true := by
      simpa [acksMatch, Daemon.takesOwnAck, hchannel] using hmatch
    have heq := List.all_eq_true.mp hmatch hash hown
    rw [beq_iff_eq, Option.some.injEq] at heq
    rw [← heq]
    exact hexported.grow (hgrows side.other)
  · cases hawait

/-- While sessions only take acknowledgements for the collection they announced, a
session that ends well has announced one collection, and the other side has exported
that collection. -/
theorem sendComplete_exported (configs : Side → DaemonConfig) {link : Link}
    (hstarted : link.Started) {labels : List (Label SendSig (Side × TaskId) LinkEvent)}
    {pool : Pool SendSig (Side × TaskId) Link} {side : Side} {task : TaskId}
    {transferId : Uuid}
    (hrun : (linkWorld configs).Run (fun link label => acksMatch link label = true)
      (idleLink link)
      (labels ++ [.call (side, task) (.writeEvent (.sendComplete transferId)) ()]) pool)
    (hends : pool.tasks (side, task) = some (.ret ())) :
    ∃ hash, (∃ exchange ∈ trace (side, task) labels,
        SendRequest.announced exchange.request = some hash) ∧
      (∀ exchange ∈ trace (side, task) labels, ∀ announced,
        SendRequest.announced exchange.request = some announced → announced = hash) ∧
      (pool.state.daemons side.other).hasExported hash := by
  obtain ⟨event, state, state', first, -, hevent, hfollows⟩ :=
    ((hstarted.holds.traced (agreement_admits configs _)
      (fun _ _ _ _ _ _ _ => (trivial : True)) hrun rfl).2 _ hends).follows
  rw [trace_append] at hfollows
  obtain ⟨request, turns, rfl⟩ := started_session hevent hfollows
    ⟨⟨.writeEvent (.sendComplete transferId), ()⟩, by simp [trace, Label.exchange], rfl⟩
  obtain ⟨opening, cancel, waiter, body, result, closing, hwhole, hopening, -, hbody,
    hclosing⟩ := handleSendFiles_trace hfollows.trace
      ⟨⟨.writeEvent (.sendComplete transferId), ()⟩, by simp [trace, Label.exchange], id⟩
  obtain ⟨answer, withdrawn, marks, rfl, -, hwithdrawn, hreport⟩ := settle_trace hclosing
  obtain ⟨marks, rfl, hmarks⟩ := reportOutcome_trace hreport
  have hlast : trace (side, task) labels ++
        [⟨.writeEvent (.sendComplete transferId), ()⟩] =
      (opening ++ (body ++ (⟨.isCancelled cancel, answer⟩ :: (withdrawn ++ marks)))) ++
        [⟨.writeEvent (outcomeEvent request.transferId
          (if answer then .error "transfer cancelled" else result)), ()⟩] := by
    simpa [trace, Label.exchange] using hwhole
  obtain ⟨htrace, hevents⟩ := List.append_inj' hlast rfl
  obtain ⟨rfl, rfl⟩ : answer = false ∧ result = .ok () := by
    cases answer <;> cases result <;> first | exact ⟨rfl, rfl⟩ | cases hevents
  rw [hwithdrawn rfl, List.nil_append] at htrace
  obtain ⟨hash, before, rfl, hannounced, honly⟩ := sendTransfer_trace hbody
  have hbefore : ∃ exchange ∈ opening ++ before,
      SendRequest.announced exchange.request = some hash := by
    obtain ⟨exchange, hmem, h⟩ := hannounced
    exact ⟨exchange, List.mem_append_right _ hmem, h⟩
  have htrace : trace (side, task) labels = (opening ++ before) ++
      ⟨.awaitAck cancel waiter, .acked (.ok ())⟩ :: ⟨.isCancelled cancel, false⟩ :: marks := by
    rw [htrace]
    simp
  obtain ⟨pool₁, hlabels, -, hstep⟩ := hrun.snoc_inv
  refine ⟨hash, ?_, ?_, ?_⟩
  · obtain ⟨exchange, hmem, h⟩ := hbefore
    exact ⟨exchange, htrace ▸ List.mem_append_left _ hmem, h⟩
  · intro exchange hmem announced h
    simp only [htrace, List.mem_append, List.mem_cons] at hmem
    rcases hmem with (hmem | hmem) | rfl | rfl | hmem
    · rw [announced_eq_none (.inr (.inr (.inr (.inl (hopening exchange hmem)))))] at h
      cases h
    · exact honly exchange hmem announced h
    · cases h
    · cases h
    · rw [announced_eq_none (.inr (.inr (.inr (.inr (hmarks exchange hmem)))))] at h
      cases h
  · exact (exported_of_ack hstarted hlabels htrace hbefore).grow
      (linkWorld_step_grows hstep side.other)

end Runs

section Scripts

/-- Two desks with one device each. -/
def twoDesks : Side → DaemonConfig
  | .sender => deskConfig
  | .receiver => { deskConfig with localId := ⟨2⟩ }

def freshLink : Link :=
  { daemons := fun _ => .empty, inFlight := [] }

theorem freshLink_started : freshLink.Started :=
  ⟨rfl, fun _ => rfl, fun _ _ _ h => by cases h⟩

/-- The surroundings of both sides, where a session imports the given collection. -/
def bothOblige (imported : Side × TaskId → String) (task : Side × TaskId) (link : Link) :
    (request : SendRequest) → Option request.Response :=
  (link.daemons task.1).oblige {
    peer := (twoDesks task.1.other).localId
    clock := "20240101-000000"
    imported := imported task
    sizeOf := fun _ => 5 }

/-- Session 1 imports `h1` and gives up waiting, since the acknowledgement of its
transfer cannot be sent; a later session imports `h2`. -/
def changedMind (task : Side × TaskId) (link : Link) :
    (request : SendRequest) → Option request.Response
  | .awaitAck cancel waiter =>
      if task = (.sender, 1) then some .deadline
      else bothOblige (fun _ => "h2") task link (.awaitAck cancel waiter)
  | .send target envelope receipt =>
      if task = (.receiver, 1) then some (.error .disconnected)
      else bothOblige (fun _ => "h2") task link (.send target envelope receipt)
  | request =>
      bothOblige (fun task => if task = (.sender, 1) then "h1" else "h2") task link request

/-- One transfer from end to end. -/
theorem transfer_exported :
    ∃ labels pool, (linkWorld twoDesks).Run (fun link label => acksMatch link label = true)
        (idleLink freshLink)
        (labels ++ [.call (.sender, 1) (.writeEvent (.sendComplete 7)) ()]) pool ∧
      ∃ hash, (∃ exchange ∈ trace (.sender, 1) labels,
          SendRequest.announced exchange.request = some hash) ∧
        (∀ exchange ∈ trace (.sender, 1) labels, ∀ announced,
          SendRequest.announced exchange.request = some announced → announced = hash) ∧
        (pool.state.daemons .receiver).hasExported hash := by
  let script : List (Move (Side × TaskId) LinkEvent) :=
    .event (.local .sender (.sendFiles 1 photosRequest 4)) ::
      List.replicate 24 (.tick (.sender, 1)) ++ .event (.deliver 0 1) ::
      List.replicate 18 (.tick (.receiver, 1)) ++ .event (.deliver 2 2) ::
      List.replicate 5 (.tick (.sender, 1))
  have hsome : (((linkWorld twoDesks).follow (fun link label => acksMatch link label = true)
      (bothOblige fun _ => "h1") script (idleLink freshLink)).bind fun (labels, pool) =>
        ((linkWorld twoDesks).step pool
          (.call (.sender, 1) (.writeEvent (.sendComplete 7)) ())).map fun pool' =>
            (labels, pool')).any (fun result => result.2.finished (.sender, 1)) = true := by
    decide +kernel
  obtain ⟨⟨labels, pool⟩, hscript, hends⟩ := (Option.any_eq_true _ _).mp hsome
  obtain ⟨⟨labels', pool'⟩, hfollow, hmap⟩ := Option.bind_eq_some_iff.mp hscript
  obtain ⟨pool'', hstep, heq⟩ := Option.map_eq_some_iff.mp hmap
  cases heq
  have hrun := (World.run_of_follow hfollow).snoc rfl hstep
  exact ⟨labels, pool, hrun, sendComplete_exported twoDesks freshLink_started hrun
    (Pool.finished_iff.mp hends)⟩

/-- A resumed session sends another collection than the session before it, is
acknowledged for the collection of that session, and completes, although its own
collection was never exported. -/
theorem changedMind_unexported :
    ∃ labels pool, (linkWorld twoDesks).Run (fun _ _ => True) (idleLink freshLink)
        labels pool ∧
      ((trace (.sender, 2) labels).map Exchange.request).contains
        (.writeEvent (.sendComplete 7)) = true ∧
      (trace (.sender, 2) labels).any
        (fun exchange => SendRequest.announced exchange.request == some "h2") = true ∧
      (pool.state.daemons .receiver).exports.all (fun call => call.root != "h2") = true := by
  let script : List (Move (Side × TaskId) LinkEvent) :=
    .event (.local .sender (.sendFiles 1 photosRequest 4)) ::
      List.replicate 29 (.tick (.sender, 1)) ++ .event (.deliver 0 1) ::
      List.replicate 17 (.tick (.receiver, 1)) ++ List.replicate 3 (.event (.lose 0)) ++
      .event (.local .sender (.sendFiles 2 { photosRequest with resume := true } 4)) ::
      List.replicate 25 (.tick (.sender, 2)) ++ .event (.deliver 0 2) ::
      List.replicate 8 (.tick (.receiver, 2)) ++ .event (.deliver 0 3) ::
      List.replicate 6 (.tick (.sender, 2))
  have hsome : ((linkWorld twoDesks).follow (fun _ _ => True) changedMind script
      (idleLink freshLink)).any (fun (labels, pool) =>
        ((trace (.sender, 2) labels).map Exchange.request).contains
            (.writeEvent (.sendComplete 7)) &&
          ((trace (.sender, 2) labels).any
              (fun exchange => SendRequest.announced exchange.request == some "h2") &&
            (pool.state.daemons .receiver).exports.all (fun call => call.root != "h2"))) =
        true := by
    decide +kernel
  obtain ⟨⟨labels, pool⟩, hfollow, hresult⟩ := (Option.any_eq_true _ _).mp hsome
  simp only [Bool.and_eq_true] at hresult
  exact ⟨labels, pool, World.run_of_follow hfollow, hresult.1, hresult.2.1, hresult.2.2⟩

end Scripts

end Failsafe.Send
