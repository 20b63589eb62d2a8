import Failsafe.Send.ReceiveOnce
import Failsafe.Send.Session

/-!
Sessions whose client hangs up: the watcher cancels a child of the token that the
session looks at.
-/

namespace Failsafe.Send

open Failsafe.Core Failsafe.Clipboard Failsafe.Lib Failsafe.Transport

/-- Requests that neither make nor cancel tokens. -/
def SendRequest.Tokenless : SendRequest → Prop
  | .newToken | .childToken _ | .cancelToken _ | .spawnDisconnectWatcher _ => False
  | _ => True

/-- Only tokens with a parent are cancelled, and only such tokens are watched. -/
structure TokenInv (daemon : Daemon) : Prop where
  cancelled : ∀ token ∈ daemon.tokens.cancelled, 2 ≤ token.length
  watchers : ∀ token ∈ daemon.watchers, 2 ≤ token.length

theorem TokenInv.of_eq {daemon daemon' : Daemon} (h : TokenInv daemon)
    (htokens : daemon'.tokens = daemon.tokens) (hwatchers : daemon'.watchers = daemon.watchers) :
    TokenInv daemon' := by
  constructor
  · rw [htokens]; exact h.cancelled
  · rw [hwatchers]; exact h.watchers

theorem TokenInv.isCancelled {daemon : Daemon} (h : TokenInv daemon) {token : Token}
    (hroot : token.length = 1) : daemon.tokens.isCancelled token = false := by
  rw [Bool.eq_false_iff]
  intro hcancelled
  obtain ⟨ancestor, hmem, hsuffix⟩ := Tokens.isCancelled_iff.mp hcancelled
  have := h.cancelled ancestor hmem
  have := hsuffix.length_le
  omega

theorem Daemon.perform_tokenless {task : TaskId} {request : SendRequest}
    {response : request.Response} {daemon daemon' : Daemon} (htokenless : request.Tokenless)
    (h : Daemon.perform task request response daemon = some daemon') :
    daemon'.tokens = daemon.tokens ∧ daemon'.watchers = daemon.watchers := by
  cases request with
  | newToken | childToken | cancelToken | spawnDisconnectWatcher => exact htokenless.elim
  | hang => nomatch response
  | lockEntry | lockAcquire | awaitAck =>
      obtain ⟨_, -, rfl⟩ := Option.map_eq_some_iff.mp h
      exact ⟨rfl, rfl⟩
  | listReceiveStates | readReceiveState | loadReceiveState | listSendStates
  | readSendState | pendingWaiters =>
      simp only [Daemon.perform, Option.ite_none_right_eq_some, Option.some.injEq] at h
      obtain ⟨-, rfl⟩ := h
      exact ⟨rfl, rfl⟩
  | isCancelled =>
      simp only [Daemon.perform, Daemon.seesCancelled, Option.ite_none_right_eq_some,
        Option.some.injEq] at h
      obtain ⟨-, rfl⟩ := h
      exact ⟨rfl, rfl⟩
  | registerWaiter =>
      simp only [Daemon.perform, Daemon.registerWaiter, Option.ite_none_right_eq_some,
        Option.some.injEq] at h
      obtain ⟨-, rfl⟩ := h
      exact ⟨rfl, rfl⟩
  | importSources sources cancel =>
      obtain ⟨reports, outcome⟩ := response
      cases outcome with
      | cancelled =>
          simp only [Daemon.perform, Option.ite_none_right_eq_some, Option.some.injEq] at h
          obtain ⟨-, rfl⟩ := h
          exact ⟨rfl, rfl⟩
      | finished result =>
          obtain rfl := Option.some.inj h
          exact ⟨rfl, rfl⟩
  | removeReceiveState transferId =>
      obtain rfl := Option.some.inj h
      cases response with
      | error error => exact ⟨rfl, rfl⟩
      | ok _ =>
          simp only [Daemon.removeReceive]
          split <;> exact ⟨rfl, rfl⟩
  | saveReceiveState | saveSendState | removeSendState =>
      obtain rfl := Option.some.inj h
      cases response <;> exact ⟨rfl, rfl⟩
  | _ =>
      obtain rfl := Option.some.inj h
      exact ⟨rfl, rfl⟩

def tokenProtocol : Protocol SendSig TaskId Daemon where
  inv := TokenInv
  rely _ _ _ := True
  act task request response daemon daemon' :=
    Daemon.perform task request response daemon = some daemon'
  rely_refl _ _ := trivial
  rely_trans _ _ _ _ _ _ := trivial

section Programs

variable {task : TaskId} {daemon : Daemon} {α : Type}

theorem tokenless_fair {request : SendRequest} {response : request.Response}
    {daemon' : Daemon} (htokenless : request.Tokenless) (hinv : TokenInv daemon)
    (h : Daemon.perform task request response daemon = some daemon') :
    tokenProtocol.Fair task daemon daemon' := by
  obtain ⟨htokens, hwatchers⟩ := Daemon.perform_tokenless htokenless h
  exact ⟨hinv.of_eq htokens hwatchers, fun _ _ => trivial⟩

theorem keeps_tokenless {p : SendProg α} (hp : p.All SendRequest.Tokenless) :
    tokenProtocol.Keeps task p (fun _ _ => True) daemon :=
  .of_all (.const True)
    (fun _ htokenless _ _ _ _ hinv hact => ⟨tokenless_fair htokenless hinv hact, trivial⟩)
    hp trivial

theorem tokenless_sendTransfer (config : SendConfig) (request : SendFilesRequest)
    (turns : Nat) (cancel : Token) (waiter : WaiterId) :
    (sendTransfer config request turns cancel waiter).run.All SendRequest.Tokenless := by
  refine (all_sendTransfer _ _ _ _ _).mono fun request h => ?_
  rcases h with h | h | h | h <;> cases request <;> trivial

theorem tokenless_report (cancel : Token) (transferId : Uuid)
    (result : Except String Unit) :
    (settle cancel transferId result >>= reportOutcome transferId).All
      SendRequest.Tokenless := by
  have hmark : ∀ request, SendRequest.Marking request → SendRequest.Tokenless request := by
    intro request h
    cases request <;> trivial
  refine .bind (.bind (all_ask trivial) fun answer => ?_) fun outcome => ?_
  · split
    · exact .bind (all_ask trivial) fun _ => trivial
    · trivial
  · cases outcome with
    | ok _ => exact .bind ((marking_markSendComplete _).mono hmark) fun _ => all_ask trivial
    | error message =>
        exact .bind ((marking_markSendFailed _ _).mono hmark) fun _ => all_ask trivial

theorem Daemon.handOut_eq {daemon' : Daemon} {made : Token × Tokens} {token : Token}
    (h : daemon.handOut made token = some daemon') :
    token = made.1 ∧ daemon' = { daemon with tokens := made.2 } := by
  simp only [Daemon.handOut, Option.ite_none_right_eq_some, Option.some.injEq] at h
  exact ⟨h.1, h.2.symm⟩

theorem keeps_runSession (config : SendConfig) (request : SendFilesRequest) (turns : Nat) :
    tokenProtocol.Keeps task (runSession config request turns) (fun _ _ => True) daemon := by
  refine .call (.const True) trivial fun daemon₁ cancel daemon₂ _ hinv hact => ?_
  obtain ⟨rfl, rfl⟩ := Daemon.handOut_eq hact
  refine ⟨⟨⟨hinv.cancelled, hinv.watchers⟩, fun _ _ => trivial⟩, ?_⟩
  refine .call (.const True) trivial fun daemon₃ child daemon₄ _ hinv hact => ?_
  obtain ⟨rfl, rfl⟩ := Daemon.handOut_eq hact
  refine ⟨⟨⟨hinv.cancelled, hinv.watchers⟩, fun _ _ => trivial⟩, ?_⟩
  refine .call (.const True) trivial fun daemon₅ _ daemon₆ _ hinv hact => ?_
  obtain rfl := Option.some.inj hact
  refine ⟨⟨⟨hinv.cancelled, fun token hmem => ?_⟩, fun _ _ => trivial⟩, ?_⟩
  · rcases List.mem_append.mp hmem with hmem | hmem
    · exact hinv.watchers token hmem
    · rw [List.mem_singleton.mp hmem]
      simp [Tokens.child, Tokens.new]
  · have hrest : ∀ cancel, (registerWaiter request.transferId >>= fun waiter =>
        (sendTransfer config request turns cancel waiter).run >>= fun result =>
          settle cancel request.transferId result >>=
            reportOutcome request.transferId).All SendRequest.Tokenless := fun _ =>
      .bind (all_ask trivial) fun _ =>
        .bind (tokenless_sendTransfer _ _ _ _ _) fun _ => tokenless_report _ _ _
    exact keeps_tokenless (hrest _)

theorem keeps_handleSendFiles (config : SendConfig) (request : SendFilesRequest)
    (turns : Nat) (hinv : TokenInv daemon) :
    tokenProtocol.Keeps task (handleSendFiles config request turns) (fun _ _ => True)
      daemon := by
  refine .bind hinv (.mono (keeps_tokenless ((validating_validatePreconditions _).mono
    fun request h => by cases request <;> trivial)) fun valid daemon₁ hinv₁ _ => ?_)
  split
  · refine .bind hinv₁ (.mono (keeps_tokenless (all_ask trivial)) fun ready daemon₂ _ _ => ?_)
    split
    · exact keeps_runSession config request turns
    · exact fun _ _ _ => trivial
  · exact fun _ _ _ => trivial

theorem keeps_disconnectWatcher {child : Token} (hchild : 2 ≤ child.length) (turns : Nat) :
    tokenProtocol.Keeps task (disconnectWatcher child turns) (fun _ _ => True) daemon := by
  induction turns generalizing daemon with
  | zero => exact keeps_tokenless ⟨trivial, fun response => nomatch response⟩
  | succ turns ih =>
      refine .call (.const True) trivial fun daemon₁ more daemon₂ _ hinv hact => ?_
      refine ⟨tokenless_fair (by trivial) hinv hact, ?_⟩
      cases more with
      | true => exact ih
      | false =>
          refine .call (.const True) trivial fun daemon₃ _ daemon₄ _ hinv hact => ?_
          obtain rfl := Option.some.inj hact
          refine ⟨⟨⟨fun token hmem => ?_, hinv.watchers⟩, fun _ _ => trivial⟩,
            fun _ _ _ => trivial⟩
          rcases List.mem_cons.mp hmem with rfl | hmem
          · exact hchild
          · exact hinv.cancelled token hmem

end Programs

theorem Daemon.receive_tokenless (limits : ClipboardLimits) (daemon : Daemon)
    («from» : DeviceId) (envelope : SendEnvelope) (receipt : Option String) :
    (daemon.receive limits «from» envelope receipt).1.tokens = daemon.tokens ∧
      (daemon.receive limits «from» envelope receipt).1.watchers = daemon.watchers := by
  unfold Daemon.receive
  dsimp only
  split <;> exact ⟨rfl, rfl⟩

theorem token_admits (config : DaemonConfig) :
    tokenProtocol.Admits (daemonWorld config) (fun _ _ => True) where
  act _ _ _ _ _ _ hperform := hperform
  event event daemon daemon' started hinv _ hevent := by
    have hreceiving : ∀ {α : Type} {p : SendProg α}, p.All SendRequest.Receiving →
        p.All SendRequest.Tokenless := fun hp =>
      hp.mono fun request h => by cases request <;> trivial
    cases event with
    | receive task sender envelope receipt =>
        obtain ⟨htokens, hwatchers⟩ :=
          daemon.receive_tokenless config.limits sender envelope receipt
        obtain ⟨rfl, rfl⟩ := Prod.mk.inj (Option.some.inj hevent)
        refine ⟨hinv.of_eq htokens hwatchers, fun _ => trivial, fun task' program hstarted => ?_⟩
        obtain ⟨program', hprogram', heq⟩ := Option.map_eq_some_iff.mp hstarted
        obtain ⟨rfl, rfl⟩ := Prod.mk.inj heq
        obtain ⟨sender', payload, rfl⟩ := Daemon.receive_started hprogram'
        exact keeps_tokenless (hreceiving (.bind (receiving_handleTransfer _ _ _)
          fun _ => trivial))
    | chunkTimeout transferId =>
        simp only [daemonWorld, DaemonEvent.apply, Option.ite_none_right_eq_some,
          Option.some.injEq, Prod.mk.injEq] at hevent
        obtain ⟨-, rfl, rfl⟩ := hevent
        exact ⟨⟨hinv.cancelled, hinv.watchers⟩, fun _ => trivial, by simp⟩
    | resumePass task =>
        obtain ⟨rfl, rfl⟩ := Prod.mk.inj (Option.some.inj hevent)
        refine ⟨hinv, fun _ => trivial, fun task' program hstarted => ?_⟩
        obtain ⟨rfl, rfl⟩ := Prod.mk.inj (Option.some.inj hstarted)
        exact keeps_tokenless (hreceiving (receiving_resumeIncompleteReceives _))
    | sendFiles task request turns =>
        obtain ⟨rfl, rfl⟩ := Prod.mk.inj (Option.some.inj hevent)
        refine ⟨hinv, fun _ => trivial, fun task' program hstarted => ?_⟩
        obtain ⟨rfl, rfl⟩ := Prod.mk.inj (Option.some.inj hstarted)
        exact keeps_handleSendFiles _ _ _ hinv
    | cancelAll task =>
        obtain ⟨rfl, rfl⟩ := Prod.mk.inj (Option.some.inj hevent)
        refine ⟨hinv, fun _ => trivial, fun task' program hstarted => ?_⟩
        obtain ⟨rfl, rfl⟩ := Prod.mk.inj (Option.some.inj hstarted)
        exact keeps_tokenless (cancelling_handleCancelAll.mono
          fun request h => by cases request <;> trivial)
    | watch task turns =>
        simp only [daemonWorld, DaemonEvent.apply] at hevent
        split at hevent
        · cases hevent
        · rename_i token watchers hwatchers
          obtain ⟨rfl, rfl⟩ := Prod.mk.inj (Option.some.inj hevent)
          have hwatched := hinv.watchers
          rw [hwatchers] at hwatched
          refine ⟨⟨hinv.cancelled, fun token' hmem =>
            hwatched token' (List.mem_cons_of_mem _ hmem)⟩, fun _ => trivial, ?_⟩
          intro task' program hstarted
          obtain ⟨rfl, rfl⟩ := Prod.mk.inj (Option.some.inj hstarted)
          exact keeps_disconnectWatcher (hwatched token List.mem_cons_self) turns

/-- Answers to a task whose own token, one without a parent, is not cancelled. -/
def uncancelled : (request : SendSig.Request) → SendSig.Response request → Prop
  | .newToken, token => token.length = 1
  | .isCancelled token, answer => token.length = 1 → answer = false
  | .importSources _ token, (_, outcome) => token.length = 1 → outcome ≠ .cancelled
  | .awaitAck token _, event => token.length = 1 → event ≠ .cancelled
  | _, _ => True

theorem uncancelled_of_perform {task : TaskId} {request : SendRequest}
    {response : request.Response} {daemon daemon' : Daemon} (hinv : TokenInv daemon)
    (h : Daemon.perform task request response daemon = some daemon') :
    uncancelled request response := by
  cases request with
  | newToken =>
      obtain ⟨rfl, -⟩ := Daemon.handOut_eq h
      rfl
  | isCancelled token =>
      intro hroot
      simp only [Daemon.perform, Daemon.seesCancelled, Option.ite_none_right_eq_some] at h
      rw [h.1, hinv.isCancelled hroot]
  | importSources sources token =>
      obtain ⟨reports, outcome⟩ := response
      rintro hroot rfl
      simp [Daemon.perform, hinv.isCancelled hroot] at h
  | awaitAck token waiter =>
      rintro hroot rfl
      simp [Daemon.perform, Coordinator.await, hinv.isCancelled hroot] at h
  | _ => trivial

/-- A failure of the disk or the blob store that ends a session's preparation. -/
def SendRequest.failure : (request : SendRequest) → request.Response → Option String
  | .readSendState _, .error message | .saveSendState _, .error message
  | .collectFilePreview _, .error message | .collectImportSources _, .error message
  | .importSources _ _, (_, .finished (.error message)) => some message
  | _, _ => none

/-- A failure that ends the wait for the receiver. -/
def SendRequest.refusal : (request : SendRequest) → request.Response → Option String
  | .awaitAck _ _, .acked (.error message) => some message
  | _, _ => none

/-- The answer is itself the failure "transfer cancelled". -/
def failsCancelled (exchange : Exchange SendSig) : Prop :=
  SendRequest.failure exchange.request exchange.response = some "transfer cancelled" ∨
    SendRequest.refusal exchange.request exchange.response = some "transfer cancelled"

/-- The program fails as cancelled only when it is told so. -/
abbrev RelaysCancelled {α : Type} (p : SendTry String α) : Prop :=
  Prog.Relays uncancelled failsCancelled "transfer cancelled" p

section Relays

theorem append_ne_of_not_prefix {start rest whole : String}
    (h : ¬start.toList <+: whole.toList) : start ++ rest ≠ whole := by
  rintro rfl
  exact h (by simp)

theorem validateEntries_ne (limits : ClipboardLimits) (entries : List (String × UInt64)) :
    limits.validateEntries entries ≠ .error "transfer cancelled" := by
  have htotal : ∀ total, limits.validateTotal total entries ≠ .error "transfer cancelled" := by
    induction entries with
    | nil =>
        intro total h
        simp only [ClipboardLimits.validateTotal] at h
        split at h
        · have htext := Except.error.inj h
          simp only [String.append_assoc] at htext
          exact append_ne_of_not_prefix (by decide) htext
        · cases h
    | cons entry entries ih =>
        intro total h
        simp only [ClipboardLimits.validateTotal] at h
        split at h
        · have htext := Except.error.inj h
          simp only [String.append_assoc] at htext
          exact append_ne_of_not_prefix (by decide) htext
        · exact ih _ h
  exact htotal 0

theorem toText_peerNotFound (device : DeviceId) :
    (TransportError.peerNotFound device).toText =
      "peer `" ++ (Uuid.toText device.uuid ++ "` not found") := by
  rw [← String.append_assoc]
  rfl

theorem toText_codec (message : String) :
    (TransportError.codec message).toText = "transport codec error: " ++ message :=
  rfl

theorem transportError_ne (error : TransportError) : error.toText ≠ "transfer cancelled" := by
  rcases error with device | _ | message
  · rw [toText_peerNotFound]
    exact append_ne_of_not_prefix (by decide)
  · decide
  · rw [toText_codec]
    exact append_ne_of_not_prefix (by decide)

theorem relays_checkCancelled {cancel : Token} (hroot : cancel.length = 1) :
    RelaysCancelled (checkCancelled cancel) := by
  intro log result h
  obtain ⟨answer, rfl, hallowed, rfl⟩ := checkCancelled_trace h
  rw [hallowed hroot]
  simp [failsCancelled, SendRequest.failure, SendRequest.refusal]

theorem relays_quiet {α : Type} {p : SendProg α} {kind : SendRequest → Prop}
    (hkind : ∀ request, kind request → ∀ response : request.Response,
      request.failure response = none ∧ request.refusal response = none)
    (hp : p.All kind) : RelaysCancelled (liftM p : SendTry String α) := by
  refine .lift (fun exchange hexchange => ?_) hp
  obtain ⟨hfailure, hrefusal⟩ := hkind exchange.request hexchange exchange.response
  simp [failsCancelled, hfailure, hrefusal]

/-- Progress reports and the questions that only choose what to do next. -/
def SendRequest.Incidental : SendRequest → Prop
  | .tryEmit _ _ _ _ | .emit _ _ _ _ | .collectionStatus _ _ => True
  | _ => False

theorem incidental_none (request : SendRequest) (h : request.Incidental)
    (response : request.Response) :
    request.failure response = none ∧ request.refusal response = none := by
  cases request <;> first | exact h.elim | exact ⟨rfl, rfl⟩

theorem incidental_emitImportProgress (reports : List BlobProgress) :
    (emitImportProgress reports).All SendRequest.Incidental := by
  induction reports with
  | nil => trivial
  | cons report reports ih => exact .bind (all_ask trivial) fun _ => ih

theorem relays_tryEmit (phase : SendPhase) (bytesDone bytesTotal : UInt64)
    (currentFile : Option String) :
    RelaysCancelled (liftM (tryEmit phase bytesDone bytesTotal currentFile)) :=
  relays_quiet incidental_none (all_ask trivial)

theorem relays_emit (phase : SendPhase) (bytesDone bytesTotal : UInt64)
    (currentFile : Option String) :
    RelaysCancelled (liftM (emit phase bytesDone bytesTotal currentFile)) :=
  relays_quiet incidental_none (all_ask trivial)

theorem relays_pure {α : Type} (value : α) : RelaysCancelled (pure value) :=
  .mk_ret (by simp)

theorem relays_throw {α : Type} {message : String} (h : message ≠ "transfer cancelled") :
    RelaysCancelled (throw message : SendTry String α) :=
  .mk_ret (by simpa using h)

/-- The message of a result that is an error. -/
def errorOf {α : Type} : Except String α → Option String
  | .ok _ => none
  | .error message => some message

theorem relays_fallible {α : Type} {p : SendTry String α} (request : SendRequest)
    (convert : request.Response → Except String α)
    (hp : p.run = .call request fun response => .ret (convert response))
    (hfailure : ∀ response, request.failure response = errorOf (convert response))
    (hrefusal : ∀ response, request.refusal response = none) : RelaysCancelled p := by
  refine .call request convert hp fun response _ => ?_
  have hfailed := hfailure response
  have hrefused := hrefusal response
  simp only [failsCancelled, hfailed, hrefused]
  cases convert response <;> simp [errorOf]

theorem relays_loadSendState (transferId : Uuid) :
    RelaysCancelled (loadSendState transferId) :=
  relays_fallible (.readSendState transferId) (fun response => response) rfl
    (fun response => by cases response <;> rfl) fun response => by cases response <;> rfl

theorem relays_saveSendState (state : SendTransferState) :
    RelaysCancelled (saveSendState state) :=
  relays_fallible (.saveSendState state) (fun response => response) rfl
    (fun response => by cases response <;> rfl) fun response => by cases response <;> rfl

theorem relays_collectFilePreview (paths : List SendPathSpec) :
    RelaysCancelled (collectFilePreview paths) :=
  relays_fallible (.collectFilePreview paths) (fun response => response) rfl
    (fun response => by cases response <;> rfl) fun response => by cases response <;> rfl

theorem relays_collectImportSources (paths : List SendPathSpec) :
    RelaysCancelled (collectImportSources paths) :=
  relays_fallible (.collectImportSources paths) (fun response => response) rfl
    (fun response => by cases response <;> rfl) fun response => by cases response <;> rfl

theorem relays_runCollectionImport {cancel : Token} (hroot : cancel.length = 1)
    (sources : List (String × String)) :
    RelaysCancelled (runCollectionImport sources cancel) := by
  intro log result h
  obtain ⟨⟨reports, outcome⟩, rest, rfl, hallowed, hrest⟩ := Prog.Trace.liftAsk_inv h
  obtain ⟨emits, rest, _, rfl, hemits, houtcome⟩ := Prog.Trace.liftBind_inv hrest
  have hnone : ¬∃ exchange ∈ emits, failsCancelled exchange := by
    rintro ⟨exchange, hmem, hfails⟩
    obtain ⟨hfailure, hrefusal⟩ := incidental_none exchange.request
      (Prog.Trace.all hemits (incidental_emitImportProgress reports) exchange hmem)
      exchange.response
    simp [failsCancelled, hfailure, hrefusal] at hfails
  cases outcome with
  | cancelled => exact absurd rfl (hallowed hroot)
  | finished imported =>
      cases houtcome
      rw [List.append_nil, List.exists_mem_cons_iff, or_iff_left hnone]
      cases result <;> simp [failsCancelled, SendRequest.failure, SendRequest.refusal]

theorem relays_loadOrInitSendState (paths : List SendPathSpec) (target : DeviceId)
    (transferId : Uuid) (resume : Bool) :
    RelaysCancelled (loadOrInitSendState paths target transferId resume) := by
  unfold loadOrInitSendState
  split
  · refine .tryBind (relays_loadSendState _) fun saved => ?_
    split
    · exact relays_throw (by decide)
    · exact relays_pure _
  · exact .tryBind (relays_collectFilePreview _) fun _ => relays_pure _

theorem relays_ensureImported {cancel : Token} (hroot : cancel.length = 1)
    (paths : List SendPathSpec) (state : SendTransferState) :
    RelaysCancelled (ensureImported paths state cancel) := by
  have hneeded : (collectionImportNeeded state.collectionHash state.bytesTotal).All
      SendRequest.Incidental := by
    unfold collectionImportNeeded
    split
    · trivial
    · exact .bind (all_ask trivial) fun status => by cases status <;> trivial
  refine .tryBind (relays_quiet incidental_none hneeded) fun importNeeded => ?_
  cases importNeeded with
  | true =>
      refine .tryBind (relays_saveSendState _) fun _ => ?_
      refine .tryBind (relays_tryEmit _ _ _ _) fun _ => ?_
      refine .tryBind (relays_collectImportSources _) fun sources => ?_
      refine .tryBind (relays_runCollectionImport hroot sources) fun _ => ?_
      refine .tryBind (relays_saveSendState _) fun _ => ?_
      exact .tryBind (relays_tryEmit _ _ _ _) fun _ => relays_pure _
  | false =>
      have hprepared : (emitPreparedProgress state.bytesTotal).All SendRequest.Incidental :=
        .bind (all_ask trivial) fun _ => all_ask trivial
      exact .tryBind (relays_quiet incidental_none hprepared) fun _ => relays_pure _

theorem relays_prepareSendPayload (limits : ClipboardLimits) (senderName : String)
    (paths : List SendPathSpec) (target : DeviceId) (transferId : Uuid) (resume : Bool)
    {cancel : Token} (hroot : cancel.length = 1) :
    RelaysCancelled
      (prepareSendPayload limits senderName paths target transferId resume cancel) := by
  refine .tryBind (relays_checkCancelled hroot) fun _ => ?_
  refine .tryBind (relays_loadOrInitSendState _ _ _ _) fun ⟨sendPaths, state⟩ => ?_
  refine .tryBind (.mk_ret (validateEntries_ne _ _)) fun _ => ?_
  refine .tryBind (relays_saveSendState _) fun _ => ?_
  refine .tryBind (relays_ensureImported hroot _ _) fun state => ?_
  refine .tryBind (relays_checkCancelled hroot) fun _ => ?_
  refine .tryBind (relays_saveSendState _) fun _ => ?_
  cases state.collectionHash with
  | none => exact relays_throw (by decide)
  | some hash => exact relays_pure _

theorem relays_sendEnvelopes (target : DeviceId) (envelopes : List SendEnvelope) :
    RelaysCancelled (sendEnvelopes target envelopes) := by
  induction envelopes with
  | nil => exact relays_pure _
  | cons envelope envelopes ih =>
      refine .tryBind (.call (.send target envelope none)
        (fun response => Except.mapError TransportError.toText response) rfl
        fun response _ => ?_) fun _ => ih
      cases response with
      | ok _ => simp [failsCancelled, SendRequest.failure, SendRequest.refusal, Except.mapError]
      | error error =>
          simp [failsCancelled, SendRequest.failure, SendRequest.refusal, Except.mapError,
            transportError_ne]

theorem relays_waitForSendAck {cancel : Token} (hroot : cancel.length = 1)
    (waiter : WaiterId) (turns : Nat) :
    RelaysCancelled (waitForSendAck cancel waiter turns) := by
  induction turns with
  | zero =>
      intro log result h
      cases h with
      | @call _ _ response => exact nomatch response
  | succ turns ih =>
      intro log result h
      obtain ⟨event, rest, rfl, hallowed, hrest⟩ := Prog.Trace.liftAsk_inv h
      rw [List.exists_mem_cons_iff]
      cases event with
      | cancelled => exact absurd rfl (hallowed hroot)
      | progress report =>
          obtain ⟨_, rest, rfl, -, hnext⟩ := Prog.Trace.liftAsk_inv hrest
          rw [ih rest result hnext, List.exists_mem_cons_iff]
          simp [failsCancelled, SendRequest.failure, SendRequest.refusal]
      | acked answer =>
          cases hrest
          cases result <;> simp [failsCancelled, SendRequest.failure, SendRequest.refusal]
      | deadline | closed =>
          cases hrest
          simp [failsCancelled, SendRequest.failure, SendRequest.refusal]

theorem relays_sendTransfer (config : SendConfig) (request : SendFilesRequest) (turns : Nat)
    {cancel : Token} (hroot : cancel.length = 1) (waiter : WaiterId) :
    RelaysCancelled (sendTransfer config request turns cancel waiter) := by
  refine .tryBind (relays_prepareSendPayload _ _ _ _ _ _ hroot) fun payload => ?_
  refine .tryBind (relays_checkCancelled hroot) fun _ => ?_
  refine .tryBind (relays_emit _ _ _ _) fun _ => ?_
  refine .tryBind (relays_checkCancelled hroot) fun _ => ?_
  refine .tryBind (relays_sendEnvelopes _ _) fun _ => ?_
  exact .tryBind (relays_emit _ _ _ _) fun _ => relays_waitForSendAck hroot waiter turns

end Relays

def SendRequest.isSend : SendRequest → Bool
  | .send _ _ _ => true
  | _ => false

/-- The last envelope of a transfer is sent. -/
def SendRequest.isLastSend : SendRequest → Bool
  | .send _ envelope _ => envelope.isLast
  | _ => false

theorem SendRequest.isSend_of_isLastSend {request : SendRequest}
    (h : request.isLastSend = true) : request.isSend = true := by
  cases request <;> first | rfl | cases h

/-- From some point on a session sends nothing more, and it fails as cancelled. -/
structure CancelledAfter (after whole : List (Exchange SendSig)) : Prop where
  silent : ∀ exchange ∈ after, SendRequest.isSend exchange.request = false
  failed : ∃ exchange ∈ whole,
    exchange.request = SendRequest.writeEvent (.sendFailed "transfer cancelled")
  incomplete : ∀ exchange ∈ whole, ∀ transferId,
    exchange.request ≠ SendRequest.writeEvent (.sendComplete transferId)

/-- Something else tells the session, before its last look at its token, that the
transfer is cancelled: the disk or the blob store while the payload is prepared, or
the acknowledgement when the last envelope was sent before the disconnect. -/
def CancelledOtherwise (before whole : List (Exchange SendSig)) : Prop :=
  ∃ checked token answer rest exchange,
    whole = checked ++ ⟨.isCancelled token, answer⟩ :: rest ∧ exchange ∈ checked ∧
      (SendRequest.failure exchange.request exchange.response = some "transfer cancelled" ∨
        SendRequest.refusal exchange.request exchange.response =
            some "transfer cancelled" ∧
          ∃ sent ∈ before, SendRequest.isLastSend sent.request = true)

section Sessions

variable {config : SendConfig} {request : SendFilesRequest} {turns : Nat} {cancel : Token}
  {waiter : WaiterId} {body : List (Exchange SendSig)} {result : Except String Unit}

theorem isSend_of_preparing {request : SendRequest} (h : request.Preparing) :
    request.isSend = false := by
  cases request <;> first | rfl | cases h

theorem isSend_of_opening {request : SendRequest} (h : request.Opening) :
    request.isSend = false := by
  cases request <;> first | rfl | cases h

theorem isSend_of_marking {request : SendRequest} (h : request.Marking) :
    request.isSend = false := by
  cases request <;> first | rfl | cases h

theorem failure_of_delivering {request : SendRequest} (h : request.Delivering)
    (response : request.Response) : request.failure response = none := by
  rcases h with h | h | h <;> cases request <;> first | rfl | cases h

theorem sendTransfer_silent (hroot : cancel.length = 1)
    (h : Prog.Trace uncancelled (sendTransfer config request turns cancel waiter).run
      body result)
    {exchange : Exchange SendSig} (hmem : exchange ∈ body)
    (hfailure : SendRequest.failure exchange.request exchange.response =
      some "transfer cancelled") :
    ∀ sent ∈ body, SendRequest.isSend sent.request = false := by
  rcases Prog.Trace.tryBind_inv h with
    ⟨_, hprepare, -⟩ | ⟨prep, rest, payload, rfl, hprepare, hdeliver⟩
  · exact fun sent hsent => isSend_of_preparing
      (Prog.Trace.all hprepare (preparing_prepareSendPayload _ _ _ _ _ _ _) sent hsent)
  · rcases List.mem_append.mp hmem with hmem | hmem
    · have hfails := (relays_prepareSendPayload _ _ _ _ _ _ hroot prep _ hprepare).mpr
        ⟨exchange, hmem, .inl hfailure⟩
      cases hfails
    · have hdelivering := Prog.Trace.all hdeliver (delivering_deliverPayload _ _ _ _ _ _)
        exchange hmem
      have hnone := failure_of_delivering hdelivering exchange.response
      exact absurd (hnone.symm.trans hfailure) (by simp)

/-- Once a session waits for its receiver, its last envelope is sent and none follows. -/
theorem sendTransfer_waited
    {allowed : (request : SendSig.Request) → SendSig.Response request → Prop}
    (h : Prog.Trace allowed (sendTransfer config request turns cancel waiter).run body result)
    {exchange : Exchange SendSig} (hmem : exchange ∈ body) {token : Token} {waiter' : WaiterId}
    (hwaits : exchange.request = SendRequest.awaitAck token waiter') :
    ∃ before last after, body = before ++ last :: after ∧
      SendRequest.isLastSend last.request = true ∧
      (∀ sent ∈ before, SendRequest.isLastSend sent.request = false) ∧
      ∀ sent ∈ after, SendRequest.isSend sent.request = false := by
  rcases Prog.Trace.tryBind_inv h with
    ⟨_, hprepare, -⟩ | ⟨prep, rest, payload, rfl, hprepare, hdeliver⟩
  · have hpreparing := Prog.Trace.all hprepare (preparing_prepareSendPayload _ _ _ _ _ _ _)
      exchange hmem
    rw [hwaits] at hpreparing
    exact hpreparing.elim
  have hprep : ∀ sent ∈ prep, SendRequest.Preparing sent.request :=
    Prog.Trace.all hprepare (preparing_prepareSendPayload _ _ _ _ _ _ _)
  rcases deliverPayload_trace hdeliver with
    ⟨-, hnone⟩ | ⟨polls, reported, wait, rfl, hpolls, hwait⟩
  · rcases List.mem_append.mp hmem with hmem | hmem
    · have hpreparing := hprep exchange hmem
      rw [hwaits] at hpreparing
      exact hpreparing.elim
    · exact (hnone exchange hmem _ _ hwaits).elim
  obtain ⟨before, last, hplan, hlast, hbefore⟩ :=
    planTransferEnvelopes_last config.serde config.localId request.target payload
  rw [hplan, List.map_append, List.map_singleton]
  refine ⟨prep ++ (polls ++ before.map fun envelope =>
      ⟨.send request.target envelope none, .ok ()⟩),
    ⟨.send request.target last none, .ok ()⟩,
    ⟨.emit .waitingForAck 0 (bytesTotal payload.entries) none, reported⟩ :: wait, by simp,
    hlast, ?_, ?_⟩
  · intro sent hsent
    simp only [List.mem_append, List.mem_map] at hsent
    rcases hsent with hsent | hsent | ⟨envelope, henvelope, rfl⟩
    · have hpreparing := hprep sent hsent
      cases hrequest : (sent.request : SendRequest) <;> rw [hrequest] at hpreparing <;>
        first | rfl | cases hpreparing
    · have hpolling := hpolls sent hsent
      cases hrequest : (sent.request : SendRequest) <;> rw [hrequest] at hpolling <;>
        first | rfl | cases hpolling
    · exact hbefore envelope henvelope
  · intro sent hsent
    rcases List.mem_cons.mp hsent with rfl | hsent
    · rfl
    · have hwaiting := Prog.Trace.all hwait (waiting_waitForSendAck _ _ _) sent hsent
      cases hrequest : (sent.request : SendRequest) <;> rw [hrequest] at hwaiting <;>
        first | rfl | cases hwaiting

theorem suffix_of_marked {α : Type} (marked : α → Prop) {first second before after : List α}
    {place : α} (h : first ++ second = before ++ place :: after)
    (hbefore : ∀ value ∈ before, ¬marked value) (hfirst : ∃ value ∈ first, marked value) :
    ∀ value ∈ second, value ∈ after := by
  obtain ⟨value, hmem, hmarked⟩ := hfirst
  rcases List.append_eq_append_iff.mp h with ⟨rest, hfront, -⟩ | ⟨rest, hfront, hsuffix⟩
  · rw [hfront] at hbefore
    exact (hbefore value (List.mem_append_left _ hmem) hmarked).elim
  · cases rest with
    | nil =>
        rw [hfront, List.append_nil] at hmem
        exact (hbefore value hmem hmarked).elim
    | cons head rest =>
        obtain ⟨-, rfl⟩ := List.cons.inj hsuffix
        exact fun value' hmem' => List.mem_append_right _ hmem'

theorem awaitAck_of_refusal {exchange : Exchange SendSig} {message : String}
    (h : SendRequest.refusal exchange.request exchange.response = some message) :
    ∃ token waiter, exchange.request = SendRequest.awaitAck token waiter := by
  obtain ⟨request, response⟩ := exchange
  cases request <;> first | exact ⟨_, _, rfl⟩ | cases h

theorem opening_none {request : SendRequest} (h : request.Opening)
    (response : request.Response) :
    request.failure response = none ∧ request.refusal response = none := by
  cases request <;> first | exact h.elim | exact ⟨rfl, rfl⟩

theorem mem_of_checked {checked rest started marks : List (Exchange SendSig)}
    {token token' : Token} {answer answer' : Bool} {event : ControlEvent} {written : Unit}
    (hmarks : ∀ exchange ∈ marks, SendRequest.Marking exchange.request)
    (h : started ++ ⟨.isCancelled token, answer⟩ :: (marks ++ [⟨.writeEvent event, written⟩]) =
      checked ++ ⟨.isCancelled token', answer'⟩ :: rest)
    {exchange : Exchange SendSig} (hmem : exchange ∈ checked) : exchange ∈ started := by
  rcases List.append_eq_append_iff.mp h with ⟨extra, hchecked, hextra⟩ | ⟨extra, hstarted, -⟩
  · cases extra with
    | nil => simpa [hchecked] using hmem
    | cons head extra =>
        obtain ⟨-, htail⟩ := List.cons.inj hextra
        have hcheck : (⟨.isCancelled token', answer'⟩ : Exchange SendSig) ∈
            marks ++ [⟨.writeEvent event, written⟩] := by
          rw [htail]
          simp
        rcases List.mem_append.mp hcheck with hcheck | hcheck
        · exact (hmarks _ hcheck).elim
        · cases List.mem_singleton.mp hcheck
  · rw [hstarted]
    exact List.mem_append_left _ hmem

theorem session_cancelledAfter_iff {before after opening marks : List (Exchange SendSig)}
    {written : Unit} (hroot : cancel.length = 1)
    (hopening : ∀ exchange ∈ opening, SendRequest.Opening exchange.request)
    (hbody : Prog.Trace uncancelled (sendTransfer config request turns cancel waiter).run
      body result)
    (hmarks : ∀ exchange ∈ marks, SendRequest.Marking exchange.request)
    (hwhole : before ++ after = opening ++ (body ++ (⟨.isCancelled cancel, false⟩ ::
      (marks ++ [⟨.writeEvent (outcomeEvent request.transferId result), written⟩])))) :
    CancelledAfter after (before ++ after) ↔ CancelledOtherwise before (before ++ after) := by
  have hkinds := Prog.Trace.all hbody (all_sendTransfer config request turns cancel waiter)
  have hrelays := relays_sendTransfer config request turns hroot waiter body result hbody
  have hwritten : ∀ event, (∃ exchange ∈ before ++ after,
      exchange.request = SendRequest.writeEvent event) →
      event = outcomeEvent request.transferId result := by
    intro event h
    rw [hwhole] at h
    exact writeEvent_cases hopening hkinds hmarks h
  have hfailed : (∃ exchange ∈ before ++ after,
      exchange.request = SendRequest.writeEvent (.sendFailed "transfer cancelled")) ↔
      result = .error "transfer cancelled" := by
    constructor
    · intro h
      have hevent := hwritten _ h
      cases result with
      | ok _ => cases hevent
      | error message => rw [ControlEvent.sendFailed.inj hevent]
    · rintro rfl
      refine ⟨⟨.writeEvent (.sendFailed "transfer cancelled"), written⟩, ?_, rfl⟩
      rw [hwhole]
      simp [outcomeEvent]
  constructor
  · rintro ⟨hsilent, hfail, -⟩
    obtain ⟨exchange, hmem, hfails⟩ := hrelays.mp (hfailed.mp hfail)
    refine ⟨opening ++ body, cancel, false, _, exchange, by rw [hwhole, List.append_assoc],
      List.mem_append_right _ hmem, ?_⟩
    rcases hfails with hfailure | hrefusal
    · exact .inl hfailure
    · obtain ⟨token, waiter', hwaits⟩ := awaitAck_of_refusal hrefusal
      obtain ⟨sends, last, rest, hsplit, hlast, -, -⟩ := sendTransfer_waited hbody hmem hwaits
      have hsent : last ∈ before ++ after := by
        rw [hwhole, hsplit]
        simp
      refine .inr ⟨hrefusal, last, (List.mem_append.mp hsent).resolve_right fun h => ?_, hlast⟩
      have hsend := SendRequest.isSend_of_isLastSend hlast
      rw [hsilent last h] at hsend
      cases hsend
  · rintro ⟨checked, token, answer, rest, exchange, hsplit, hmem, hor⟩
    rw [hwhole, ← List.append_assoc] at hsplit
    have hmem := mem_of_checked hmarks hsplit hmem
    have hfails : failsCancelled exchange := hor.imp_right fun h => h.1
    have hmem : exchange ∈ body := by
      refine (List.mem_append.mp hmem).resolve_left fun hopen => ?_
      obtain ⟨hfailure, hrefusal⟩ := opening_none (hopening exchange hopen) exchange.response
      rcases hfails with hfails | hfails
      · exact absurd (hfailure.symm.trans hfails) (by simp)
      · exact absurd (hrefusal.symm.trans hfails) (by simp)
    have hresult := hrelays.mpr ⟨exchange, hmem, hfails⟩
    refine ⟨?_, hfailed.mpr hresult, fun exchange' hmem' transferId heq => ?_⟩
    · have hends : ∀ exchange ∈ opening, SendRequest.isSend exchange.request = false :=
        fun exchange h => isSend_of_opening (hopening exchange h)
      have hreport : ∀ exchange ∈ (⟨.isCancelled cancel, false⟩ :: (marks ++
          [⟨.writeEvent (outcomeEvent request.transferId result), written⟩]) :
            List (Exchange SendSig)), SendRequest.isSend exchange.request = false := by
        intro exchange h
        simp only [List.mem_cons, List.mem_append, List.not_mem_nil, or_false] at h
        rcases h with rfl | h | rfl
        · rfl
        · exact isSend_of_marking (hmarks exchange h)
        · rfl
      rcases hor with hfailure | ⟨hrefusal, sent, hsent, hlast⟩
      · have hbodySilent := sendTransfer_silent hroot hbody hmem hfailure
        intro exchange' hmem'
        have hmem' : exchange' ∈ before ++ after := List.mem_append_right _ hmem'
        rw [hwhole] at hmem'
        rcases List.mem_append.mp hmem' with h | h
        · exact hends exchange' h
        · exact (List.mem_append.mp h).elim (hbodySilent exchange') (hreport exchange')
      · obtain ⟨_, _, hwaits⟩ := awaitAck_of_refusal hrefusal
        obtain ⟨sends, last, waits, rfl, -, hsends, hwaits⟩ :=
          sendTransfer_waited hbody hmem hwaits
        have hplace : before ++ after = (opening ++ sends) ++ last :: (waits ++
            (⟨.isCancelled cancel, false⟩ :: (marks ++
              [⟨.writeEvent (outcomeEvent request.transferId result), written⟩]))) := by
          rw [hwhole]
          simp
        have hlater := suffix_of_marked
          (fun exchange => SendRequest.isLastSend exchange.request = true) hplace
          (fun exchange' h => ?_) ⟨sent, hsent, hlast⟩
        · intro exchange' hmem'
          exact (List.mem_append.mp (hlater exchange' hmem')).elim (hwaits exchange')
            (hreport exchange')
        · rw [Bool.not_eq_true]
          rcases List.mem_append.mp h with h | h
          · rw [← Bool.not_eq_true]
            intro hlast'
            have hsend := SendRequest.isSend_of_isLastSend hlast'
            rw [hends exchange' h] at hsend
            cases hsend
          · exact hsends exchange' h
    · have hevent := hwritten _ ⟨exchange', hmem', heq⟩
      rw [hresult] at hevent
      cases hevent

end Sessions

/-- In a run where the watcher of a session has cancelled its token, the session
stops sending and fails as cancelled just when something else tells it to. -/
theorem disconnect_cancels_iff (config : DaemonConfig) {daemon : Daemon}
    (htokens : daemon.tokens = .empty) (hwatchers : daemon.watchers = [])
    {before after : List (Label SendSig TaskId DaemonEvent)}
    {pool : Pool SendSig TaskId Daemon} {session watcher : TaskId} {child : Token}
    (hrun : (daemonWorld config).Run (fun _ _ => True) (idle daemon)
      (before ++ .call watcher (.cancelToken child) () :: after) pool)
    (hspawned : ⟨.spawnDisconnectWatcher child, ()⟩ ∈ trace session before)
    (hfinished : pool.tasks session = some (.ret ())) :
    CancelledAfter (trace session (.call watcher (.cancelToken child) () :: after))
        (trace session (before ++ .call watcher (.cancelToken child) () :: after)) ↔
      CancelledOtherwise (trace session before)
        (trace session (before ++ .call watcher (.cancelToken child) () :: after)) := by
  have hinv : TokenInv daemon :=
    ⟨by simp [htokens, Tokens.empty], by simp [hwatchers]⟩
  have hholds : tokenProtocol.Holds (idle daemon) :=
    Protocol.holds_idle hinv fun _ => rfl
  obtain ⟨event, state, state', first, -, hevent, hfollows⟩ :=
    ((hholds.traced (token_admits config)
      (fun _ _ _ _ _ hinv hact => uncancelled_of_perform hinv hact) hrun rfl).2 _
        hfinished).follows
  have hspawned' : ∃ exchange ∈ trace session
      (before ++ .call watcher (.cancelToken child) () :: after),
      exchange.request = .spawnDisconnectWatcher child :=
    ⟨_, by rw [trace_append]; exact List.mem_append_left _ hspawned, rfl⟩
  obtain ⟨request, turns, rfl⟩ := session_of_request ⟨id, id, id⟩ hevent hfollows hspawned'
  obtain ⟨opening, cancel, waiter, body, result, closing, hwhole, hopening, hroot, hbody,
    hclosing⟩ := handleSendFiles_trace hfollows.trace
      (hspawned'.imp fun exchange h => ⟨h.1, by rw [h.2]; exact id⟩)
  obtain ⟨answer, withdrawn, marks, rfl, hanswer, hwithdrawn, hreport⟩ := settle_trace hclosing
  obtain rfl : answer = false := hanswer hroot
  obtain ⟨marks, rfl, hmarks⟩ := reportOutcome_trace hreport
  rw [hwithdrawn rfl, List.nil_append] at hwhole
  rw [trace_append] at hwhole ⊢
  exact session_cancelledAfter_iff hroot hopening hbody hmarks hwhole

section Scripts

/-- A run in two parts, with the watcher's cancellation in between. -/
def disconnectRun (config : DaemonConfig) (surroundings : Surroundings) (watcher : TaskId)
    (child : Token) (first second : List (Move TaskId DaemonEvent)) :
    Option (List (Label SendSig TaskId DaemonEvent) × List (Label SendSig TaskId DaemonEvent) ×
      Pool SendSig TaskId Daemon) :=
  let follow := (daemonWorld config).follow (fun _ _ => True)
    fun _ => Daemon.oblige surroundings
  (follow first (idle .empty)).bind fun (before, pool) =>
    ((daemonWorld config).step pool (.call watcher (.cancelToken child) ())).bind fun pool =>
      (follow second pool).map fun (after, pool) => (before, after, pool)

theorem run_of_disconnectRun {config : DaemonConfig} {surroundings : Surroundings}
    {watcher : TaskId} {child : Token} {first second : List (Move TaskId DaemonEvent)}
    {before after : List (Label SendSig TaskId DaemonEvent)} {pool : Pool SendSig TaskId Daemon}
    (h : disconnectRun config surroundings watcher child first second =
      some (before, after, pool)) :
    (daemonWorld config).Run (fun _ _ => True) (idle .empty)
      (before ++ .call watcher (.cancelToken child) () :: after) pool := by
  obtain ⟨⟨before', pool₁⟩, hfirst, hrest⟩ := Option.bind_eq_some_iff.mp h
  obtain ⟨pool₂, hstep, hrest⟩ := Option.bind_eq_some_iff.mp hrest
  obtain ⟨⟨after', pool₃⟩, hsecond, heq⟩ := Option.map_eq_some_iff.mp hrest
  obtain ⟨rfl, rest⟩ := Prod.mk.inj heq
  obtain ⟨rfl, rfl⟩ := Prod.mk.inj rest
  have hcancel : (daemonWorld config).Run (fun _ _ => True) pool₁
      [.call watcher (.cancelToken child) ()] pool₂ := .snoc .nil trivial hstep
  exact (World.run_of_follow hfirst).append (hcancel.append (World.run_of_follow hsecond))

/-- The requests that a session made. -/
def requestsOf (session : TaskId) (labels : List (Label SendSig TaskId DaemonEvent)) :
    List SendRequest :=
  (trace session labels).map Exchange.request

theorem mem_trace_of_requestsOf {session : TaskId}
    {labels : List (Label SendSig TaskId DaemonEvent)} {child : Token}
    (h : (requestsOf session labels).contains (.spawnDisconnectWatcher child) = true) :
    (⟨.spawnDisconnectWatcher child, ()⟩ : Exchange SendSig) ∈ trace session labels := by
  obtain ⟨⟨request, response⟩, hmem, rfl⟩ := List.mem_map.mp (List.contains_iff_mem.mp h)
  exact hmem

/-- The client of session 1 hangs up before the payload is prepared. -/
def hangUp : List (Move TaskId DaemonEvent) :=
  .event (.sendFiles 1 photosRequest 4) :: List.replicate 8 (.tick 1) ++
    [.event (.watch 2 1), .tick 2]

/-- A session that goes on after the disconnect until all transfers are cancelled. -/
theorem disconnected_session_cancelled :
    ∃ before after pool, (daemonWorld deskConfig).Run (fun _ _ => True) (idle .empty)
        (before ++ .call 2 (.cancelToken [1, 0]) () :: after) pool ∧
      pool.finished 1 = true ∧
      (CancelledAfter (trace 1 (.call 2 (.cancelToken [1, 0]) () :: after))
          (trace 1 (before ++ .call 2 (.cancelToken [1, 0]) () :: after)) ↔
        CancelledOtherwise (trace 1 before)
          (trace 1 (before ++ .call 2 (.cancelToken [1, 0]) () :: after))) := by
  have hsome : (disconnectRun deskConfig laptop 2 [1, 0] hangUp
      (List.replicate 16 (.tick 1) ++ .event (.cancelAll 3) :: List.replicate 7 (.tick 3) ++
        List.replicate 4 (.tick 1))).any (fun (before, _, pool) =>
          (requestsOf 1 before).contains (.spawnDisconnectWatcher [1, 0]) &&
            pool.finished 1) = true := by
    decide +kernel
  obtain ⟨⟨before, after, pool⟩, hfollow, hresult⟩ := (Option.any_eq_true _ _).mp hsome
  obtain ⟨hspawned, hfinished⟩ := Bool.and_eq_true_iff.mp hresult
  have hrun := run_of_disconnectRun hfollow
  exact ⟨before, after, pool, hrun, hfinished, disconnect_cancels_iff deskConfig rfl rfl hrun
    (mem_trace_of_requestsOf hspawned) (Pool.finished_iff.mp hfinished)⟩

/-- The client hangs up before anything is sent, and the session still sends its
transfer, takes the acknowledgement and completes. -/
theorem disconnected_session_completes :
    ∃ before after pool, (daemonWorld deskConfig).Run (fun _ _ => True) (idle .empty)
        (before ++ .call 2 (.cancelToken [1, 0]) () :: after) pool ∧
      (⟨.spawnDisconnectWatcher [1, 0], ()⟩ : Exchange SendSig) ∈ trace 1 before ∧
      pool.finished 1 = true ∧
      (requestsOf 1 before).any SendRequest.isSend = false ∧
      (requestsOf 1 after).any SendRequest.isSend = true ∧
      (requestsOf 1 after).contains (.writeEvent (.sendComplete 7)) = true := by
  have hsome : (disconnectRun deskConfig laptop 2 [1, 0] hangUp
      (List.replicate 16 (.tick 1) ++
        .event (.receive 3 ⟨2⟩ (.ack { transferId := 7, ok := true, error := none }) none) ::
        List.replicate 6 (.tick 1))).any (fun (before, after, pool) =>
          (requestsOf 1 before).contains (.spawnDisconnectWatcher [1, 0]) &&
            (pool.finished 1 && (!(requestsOf 1 before).any SendRequest.isSend &&
              ((requestsOf 1 after).any SendRequest.isSend &&
                (requestsOf 1 after).contains (.writeEvent (.sendComplete 7)))))) = true := by
    decide +kernel
  obtain ⟨⟨before, after, pool⟩, hfollow, hresult⟩ := (Option.any_eq_true _ _).mp hsome
  simp only [Bool.and_eq_true, Bool.not_eq_true'] at hresult
  obtain ⟨hspawned, hfinished, hbefore, hafter, hcomplete⟩ := hresult
  exact ⟨before, after, pool, run_of_disconnectRun hfollow, mem_trace_of_requestsOf hspawned,
    hfinished, hbefore, hafter, hcomplete⟩

end Scripts

end Failsafe.Send
