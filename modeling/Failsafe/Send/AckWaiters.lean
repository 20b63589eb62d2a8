import Failsafe.Send.CancelAll
import Failsafe.Send.Disconnect
import Failsafe.Send.Isolation
import Failsafe.Lib.Staged

/-!
Who takes an acknowledgement waiter out of the map of the coordinator again
(`failsafe-send/src/coordinator.rs`, `control.rs`).
-/

namespace Failsafe.Send

open Failsafe.Core Failsafe.Clipboard Failsafe.Lib

/-- A step after which the map has another waiter for the transfer, or none. -/
def TakesWaiter (transferId : Uuid) : Label SendSig TaskId DaemonEvent → Prop
  | .event (.receive _ _ (.ack ack) _) => ack.transferId = transferId
  | .call _ (.registerWaiter registered) _ => registered = transferId
  | .call _ (.completeWaiter completed _) _ => completed = transferId
  | _ => False

/-- The waiter was handed out, and no transfer has it. -/
structure Coordinator.Released (coordinator : Coordinator) (waiter : WaiterId) : Prop where
  absent : ∀ transferId, coordinator.pending.lookup transferId ≠ some waiter
  old : waiter < coordinator.next

/-- What a step does to the map. -/
inductive WaiterChange (transferId : Uuid) (taken : Prop) (before after : Coordinator) : Prop
  | completed (completed : Uuid) (result : Except String Unit) (receipt : Option String)
      (hpending : after.pending = (before.complete completed result receipt).pending)
      (hnext : after.next = before.next) (htaken : taken ↔ completed = transferId)
  | registered (registered : Uuid)
      (hpending : after.pending = (before.register registered).pending)
      (hnext : after.next = before.next + 1) (htaken : taken ↔ registered = transferId)
  | same (hpending : after.pending = before.pending) (hnext : after.next = before.next)
      (htaken : ¬taken)

namespace WaiterChange

variable {transferId : Uuid} {taken : Prop} {before after : Coordinator} {waiter : WaiterId}

theorem kept (h : WaiterChange transferId taken before after) (hfree : ¬taken) :
    after.pending.lookup transferId = before.pending.lookup transferId := by
  cases h with
  | completed completed result receipt hpending hnext htaken =>
      rw [hpending, Coordinator.complete_lookup, if_neg fun hsame => hfree (htaken.mpr hsame.symm)]
  | registered registered hpending hnext htaken =>
      rw [hpending, Coordinator.register_lookup, if_neg fun hsame => hfree (htaken.mpr hsame.symm)]
  | same hpending hnext htaken => rw [hpending]

theorem released (h : WaiterChange transferId taken before after)
    (hreleased : before.Released waiter) : after.Released waiter := by
  obtain ⟨habsent, hold⟩ := hreleased
  cases h with
  | completed completed result receipt hpending hnext htaken =>
      refine ⟨fun other hother => ?_, hnext ▸ hold⟩
      rw [hpending, Coordinator.complete_lookup] at hother
      split at hother
      · cases hother
      · exact habsent other hother
  | registered registered hpending hnext htaken =>
      refine ⟨fun other hother => ?_, hnext ▸ Nat.lt_succ_of_lt hold⟩
      rw [hpending, Coordinator.register_lookup] at hother
      split at hother
      · exact hold.ne (Option.some.inj hother).symm
      · exact habsent other hother
  | same hpending hnext htaken => exact ⟨fun other => hpending ▸ habsent other, hnext ▸ hold⟩

theorem takes (h : WaiterChange transferId taken before after) (htakes : taken)
    (hsound : before.Sound) (hwaiter : before.pending.lookup transferId = some waiter) :
    after.Released waiter := by
  have hold := hsound.bounded _ _ hwaiter
  cases h with
  | completed completed result receipt hpending hnext htaken =>
      obtain rfl := htaken.mp htakes
      refine ⟨fun other hother => ?_, hnext ▸ hold⟩
      rw [hpending, Coordinator.complete_lookup] at hother
      split at hother
      · cases hother
      · next hne => exact hne (hsound.injective _ _ _ hother hwaiter)
  | registered registered hpending hnext htaken =>
      obtain rfl := htaken.mp htakes
      refine ⟨fun other hother => ?_, hnext ▸ Nat.lt_succ_of_lt hold⟩
      rw [hpending, Coordinator.register_lookup] at hother
      split at hother
      · exact hold.ne (Option.some.inj hother).symm
      · next hne => exact hne (hsound.injective _ _ _ hother hwaiter)
  | same hpending hnext htaken => exact absurd htakes htaken

end WaiterChange

section Steps

variable {config : DaemonConfig} {daemon daemon' : Daemon} {transferId : Uuid}

theorem waiter_perform {task : TaskId} {request : SendRequest} {response : request.Response}
    (h : Daemon.perform task request response daemon = some daemon') :
    WaiterChange transferId (TakesWaiter transferId (.call task request response))
      daemon.coordinator daemon'.coordinator := by
  have hsame : daemon'.coordinator = daemon.coordinator →
      ¬TakesWaiter transferId (.call task request response) →
      WaiterChange transferId (TakesWaiter transferId (.call task request response))
        daemon.coordinator daemon'.coordinator := fun hcoordinator htakes =>
    .same (hcoordinator ▸ rfl) (hcoordinator ▸ rfl) htakes
  cases request with
  | registerWaiter registered =>
      obtain ⟨-, hsome⟩ := Option.ite_none_right_eq_some.mp h
      obtain rfl := Option.some.inj hsome
      exact .registered registered rfl (Coordinator.register_next _ _) Iff.rfl
  | completeWaiter completed result =>
      obtain rfl := Option.some.inj h
      exact .completed completed result none rfl (Coordinator.complete_next _ _ _ _) Iff.rfl
  | awaitAck cancel waiter =>
      obtain ⟨coordinator, hawait, rfl⟩ := Option.map_eq_some_iff.mp h
      obtain ⟨hpending, -, hnext⟩ := Coordinator.await_same hawait
      exact .same hpending hnext id
  | saveReceiveState | saveSendState | removeSendState =>
      obtain rfl := Option.some.inj h
      refine hsame ?_ id
      cases response <;> rfl
  | removeReceiveState removed =>
      obtain rfl := Option.some.inj h
      refine hsame ?_ id
      cases response with
      | error error => rfl
      | ok _ =>
          simp only [Daemon.removeReceive]
          split <;> rfl
  | _ =>
      refine hsame (perform_aside ?_ h).coordinator id
      trivial

theorem Daemon.receive_waiterless (limits : ClipboardLimits) («from» : DeviceId)
    {envelope : SendEnvelope} (receipt : Option String) (hack : ∀ ack, envelope ≠ .ack ack)
    (hprogress : ∀ report, envelope ≠ .progress report) :
    (daemon.receive limits «from» envelope receipt).1.coordinator = daemon.coordinator := by
  simp only [Daemon.receive, handleEnvelope_eq_own, List.nil_append]
  rcases handleOwn_waiterless «from» (daemon.pendingChunkedTransfers envelope.transferId) hack
    hprogress with h | ⟨sender, payload, h⟩ | ⟨sender, other, h⟩
  all_goals rw [h]

theorem Daemon.receive_waiter (limits : ClipboardLimits) (task : TaskId) («from» : DeviceId)
    (envelope : SendEnvelope) (receipt : Option String) :
    WaiterChange transferId
      (TakesWaiter transferId (.event (.receive task «from» envelope receipt)))
      daemon.coordinator (daemon.receive limits «from» envelope receipt).1.coordinator := by
  have hsame : (∀ ack, envelope ≠ .ack ack) → (∀ report, envelope ≠ .progress report) →
      (daemon.receive limits «from» envelope receipt).1.coordinator = daemon.coordinator :=
    Daemon.receive_waiterless limits «from» receipt
  cases envelope with
  | ack ack =>
      exact .completed ack.transferId _ receipt rfl (Coordinator.complete_next _ _ _ _) Iff.rfl
  | progress report =>
      obtain ⟨hpending, -, hnext⟩ := daemon.coordinator.reportProgress_same report
      exact .same hpending hnext id
  | _ =>
      have hcoordinator := hsame nofun nofun
      exact .same (hcoordinator ▸ rfl) (hcoordinator ▸ rfl) id

theorem waiter_event {event : DaemonEvent} {started : Option (TaskId × SendProg Unit)}
    (h : event.apply config daemon = some (daemon', started)) :
    WaiterChange transferId (TakesWaiter transferId (.event event)) daemon.coordinator
      daemon'.coordinator := by
  cases event with
  | receive task sender envelope receipt =>
      obtain ⟨rfl, -⟩ := Prod.mk.inj (Option.some.inj h)
      exact Daemon.receive_waiter config.limits task sender envelope receipt
  | chunkTimeout timed =>
      obtain ⟨-, h⟩ := Option.ite_none_right_eq_some.mp h
      obtain ⟨rfl, -⟩ := Prod.mk.inj (Option.some.inj h)
      exact .same rfl rfl id
  | resumePass | sendFiles | cancelAll =>
      obtain ⟨rfl, -⟩ := Prod.mk.inj (Option.some.inj h)
      exact .same rfl rfl id
  | watch task turns =>
      simp only [DaemonEvent.apply] at h
      split at h
      · cases h
      · obtain ⟨rfl, -⟩ := Prod.mk.inj (Option.some.inj h)
        exact .same rfl rfl id

theorem waiter_step {pool pool' : Pool SendSig TaskId Daemon}
    {label : Label SendSig TaskId DaemonEvent}
    (h : (daemonWorld config).step pool label = some pool') :
    WaiterChange transferId (TakesWaiter transferId label) pool.state.coordinator
      pool'.state.coordinator := by
  cases label with
  | call task request response =>
      obtain ⟨_, _, -, hperform, rfl⟩ := World.step_call h
      exact waiter_perform hperform
  | event event =>
      obtain ⟨_, _, hevent, ⟨-, rfl⟩ | ⟨_, _, -, -, rfl⟩⟩ := World.step_event h
      · exact waiter_event hevent
      · exact waiter_event hevent

/-- A waiter stays under its transfer until a step takes it, and then never comes back. -/
theorem waiter_run {pool pool' : Pool SendSig TaskId Daemon}
    {labels : List (Label SendSig TaskId DaemonEvent)} {waiter : WaiterId}
    (hrun : (daemonWorld config).Run (fun _ _ => True) pool labels pool')
    (horderly : pool.state.Orderly)
    (hwaiter : pool.state.coordinator.pending.lookup transferId = some waiter) :
    (∀ other, pool'.state.coordinator.pending.lookup other ≠ some waiter) ↔
      ∃ label ∈ labels, TakesWaiter transferId label := by
  have hended : pool'.state.Orderly ∧
      ((∃ label ∈ labels, TakesWaiter transferId label) ∧
          pool'.state.coordinator.Released waiter ∨
        (¬∃ label ∈ labels, TakesWaiter transferId label) ∧
          pool'.state.coordinator.pending.lookup transferId = some waiter) := by
    induction hrun with
    | nil => exact ⟨horderly, .inr ⟨by simp, hwaiter⟩⟩
    | @snoc middle last labels label _ _ hstep ih =>
        obtain ⟨hmiddle, hcases⟩ := ih
        have hchange := @waiter_step _ transferId _ _ _ hstep
        have hlast : last.state.Orderly := by
          have hone : (daemonWorld config).Run (fun _ _ => True) middle ([] ++ [label]) last :=
            .snoc .nil trivial hstep
          exact hone.state_inv hmiddle (fun _ _ _ _ _ h hp => (h.perform hp).1)
            (fun _ _ _ _ h he => (h.event he).1)
        refine ⟨hlast, ?_⟩
        rcases hcases with ⟨⟨taker, hmem, htakes⟩, hreleased⟩ | ⟨hnone, hkept⟩
        · exact .inl ⟨⟨taker, List.mem_append_left _ hmem, htakes⟩, hchange.released hreleased⟩
        · by_cases htakes : TakesWaiter transferId label
          · exact .inl ⟨⟨label, by simp, htakes⟩, hchange.takes htakes hmiddle.waiters hkept⟩
          · refine .inr ⟨?_, (hchange.kept htakes).trans hkept⟩
            rintro ⟨taker, hmem, htaker⟩
            rcases List.mem_append.mp hmem with hmem | hmem
            · exact hnone ⟨taker, hmem, htaker⟩
            · exact htakes (List.mem_singleton.mp hmem ▸ htaker)
  rcases hended.2 with ⟨htaken, hreleased⟩ | ⟨hnone, hkept⟩
  · exact ⟨fun _ => htaken, fun _ => hreleased.absent⟩
  · exact ⟨fun habsent => absurd hkept (habsent transferId), fun htaken => absurd htaken hnone⟩

end Steps

/-- How far a session is with its waiter. -/
inductive WaiterStage where
  | opening
  | owns (cancel : Token)
  | registered (cancel : Token)
  | cancelled

def WaiterStage.note : WaiterStage → Exchange SendSig → WaiterStage
  | .opening, ⟨.newToken, (token : Token)⟩ => .owns token
  | .owns cancel, ⟨.registerWaiter _, _⟩ => .registered cancel
  | .registered cancel, ⟨.isCancelled token, (true : Bool)⟩ =>
      if token = cancel then .cancelled else .registered cancel
  | stage, _ => stage

/-- A session that has its waiter leaves the map alone until it sees that it is cancelled. -/
def WaiterStage.Permits : WaiterStage → SendRequest → Prop
  | .opening, .registerWaiter _ | .registered _, .registerWaiter _
  | .registered _, .completeWaiter _ _ => False
  | _, _ => True

section Session

variable {cancel : Token} {transferId : Uuid}

/-- The session has its waiter, or has seen that it is cancelled. -/
def WaiterStage.Past (cancel : Token) (stage : WaiterStage) : Prop :=
  stage = .registered cancel ∨ stage = .cancelled

theorem past_note {stage : WaiterStage} (h : stage.Past cancel) (exchange : Exchange SendSig) :
    (stage.note exchange).Past cancel := by
  rcases h with rfl | rfl
  · obtain ⟨request, response⟩ := exchange
    cases request with
    | isCancelled token =>
        cases response with
        | false => exact .inl rfl
        | true =>
            change WaiterStage.Past cancel (if token = cancel then .cancelled else _)
            split
            · exact .inr rfl
            · exact .inl rfl
    | _ => exact .inl rfl
  · exact .inr rfl

theorem staged_past {α : Type} {p : SendProg α} {kind : SendRequest → Prop} (hp : p.All kind)
    (hkind : ∀ request, kind request → (WaiterStage.registered cancel).Permits request)
    {stage : WaiterStage} (h : stage.Past cancel) :
    p.Staged WaiterStage.Permits WaiterStage.note (fun _ stage => stage.Past cancel) stage := by
  refine Prog.Ensures.of_all (I := WaiterStage.Past cancel) hp ?_ ?_ (fun _ _ h => h) h
  · rintro stage request (rfl | rfl) hrequest
    · exact hkind request hrequest
    · trivial
  · rintro request response stage _ - hpast rfl
    exact past_note hpast _

theorem staged_cancelled {α : Type} (p : SendProg α) :
    p.Staged WaiterStage.Permits WaiterStage.note (fun _ _ => True) .cancelled := by
  refine (Prog.Staged.of_all (Prog.all_any p) ?_ ?_).mono fun _ _ _ => trivial
  · exact fun _ _ => trivial
  · exact fun _ _ _ => rfl

/-- Requests of `mark_send_complete`, `mark_send_failed` and of the last event. -/
def SendRequest.Reporting (request : SendRequest) : Prop :=
  request.Marking ∨ ∃ event, request = .writeEvent event

theorem reporting_reportOutcome (transferId : Uuid) (result : Except String Unit) :
    (reportOutcome transferId result).All SendRequest.Reporting := by
  cases result with
  | ok _ =>
      exact .bind ((marking_markSendComplete _).mono fun _ h => .inl h) fun _ =>
        all_ask (.inr ⟨_, rfl⟩)
  | error message =>
      exact .bind ((marking_markSendFailed _ _).mono fun _ h => .inl h) fun _ =>
        all_ask (.inr ⟨_, rfl⟩)

theorem staged_reportOutcome (transferId : Uuid) (result : Except String Unit) :
    (reportOutcome transferId result).Staged WaiterStage.Permits WaiterStage.note
      (fun _ _ => True) (.registered cancel) := by
  refine (staged_past (reporting_reportOutcome transferId result) ?_ (.inl rfl)).mono
    fun _ _ _ => trivial
  rintro request (h | ⟨event, rfl⟩)
  · cases request <;> trivial
  · trivial

theorem staged_runSession (config : SendConfig) (request : SendFilesRequest) (turns : Nat) :
    (runSession config request turns).Staged WaiterStage.Permits WaiterStage.note
      (fun _ _ => True) .opening := by
  refine Prog.staged_ask.mpr ⟨trivial, fun cancel => ?_⟩
  refine Prog.staged_ask.mpr ⟨trivial, fun child => ?_⟩
  refine Prog.staged_ask.mpr ⟨trivial, fun _ => ?_⟩
  refine Prog.staged_ask.mpr ⟨trivial, fun waiter => ?_⟩
  have hsend := @staged_past cancel _ _ _ (all_sendTransfer config request turns cancel waiter)
    (fun asked h => by rcases h with h | h | h | h <;> cases asked <;> trivial) _ (.inl rfl)
  refine Prog.staged_bind.mpr (hsend.mono fun result stage hpast => ?_)
  rcases hpast with rfl | rfl
  · refine Prog.staged_bind.mpr (Prog.staged_ask.mpr ⟨trivial, fun answer => ?_⟩)
    cases answer with
    | false => exact staged_reportOutcome request.transferId result
    | true =>
        have hseen : (WaiterStage.registered cancel).note ⟨.isCancelled cancel, (true : Bool)⟩ =
            .cancelled := if_pos rfl
        rw [hseen]
        exact Prog.staged_bind.mp (staged_cancelled _)
  · exact staged_cancelled _

theorem staged_handleSendFiles (config : SendConfig) (request : SendFilesRequest) (turns : Nat) :
    (handleSendFiles config request turns).Staged WaiterStage.Permits WaiterStage.note
      (fun _ _ => True) .opening := by
  have hchecks : (validatePreconditions request.target).Staged WaiterStage.Permits
      WaiterStage.note (fun _ stage => stage = .opening) .opening := by
    refine .of_all (validating_validatePreconditions request.target) ?_ ?_
    · intro asked h
      cases asked <;> trivial
    · intro asked response h
      cases asked <;> first | rfl | cases h
  refine Prog.staged_bind.mpr (hchecks.mono ?_)
  rintro valid _ rfl
  cases valid with
  | false => trivial
  | true =>
      refine Prog.staged_ask.mpr ⟨trivial, fun shown => ?_⟩
      cases shown with
      | false => trivial
      | true => exact staged_runSession config request turns

/-- The token of the session has no parent, and the session has not seen it cancelled. -/
def WaiterStage.Rooted : WaiterStage → Prop
  | .opening => True
  | .owns cancel | .registered cancel => cancel.length = 1
  | .cancelled => False

theorem rooted_note {stage : WaiterStage} (h : stage.Rooted) {exchange : Exchange SendSig}
    (htold : uncancelled exchange.request exchange.response) : (stage.note exchange).Rooted := by
  obtain ⟨request, response⟩ := exchange
  cases stage with
  | cancelled => exact h.elim
  | opening => cases request <;> first | exact htold | trivial
  | owns cancel => cases request <;> exact h
  | registered cancel =>
      cases request with
      | isCancelled token =>
          cases response with
          | false => exact h
          | true =>
              change WaiterStage.Rooted (if token = cancel then .cancelled else _)
              split
              · next hsame => exact absurd (htold (hsame ▸ h)) (by simp)
              · exact h
      | _ => exact h

theorem rooted_log {stage : WaiterStage} (h : stage.Rooted) {log : List (Exchange SendSig)}
    (htold : ∀ exchange ∈ log, uncancelled exchange.request exchange.response) :
    (stageAfter WaiterStage.note stage log).Rooted := by
  induction log generalizing stage with
  | nil => exact h
  | cons first log ih =>
      exact ih (rooted_note h (htold first List.mem_cons_self)) fun exchange hmem =>
        htold exchange (List.mem_cons_of_mem _ hmem)

theorem past_log {stage : WaiterStage} (h : stage.Past cancel) (log : List (Exchange SendSig)) :
    (stageAfter WaiterStage.note stage log).Past cancel := by
  induction log generalizing stage with
  | nil => exact h
  | cons first log ih => exact ih (past_note h first)

theorem session_leaves_waiter {config : SendConfig} {request : SendFilesRequest} {turns : Nat}
    {program : SendProg Unit} {before middle after : List (Exchange SendSig)}
    {waiter : WaiterId} {exchange : Exchange SendSig}
    (hfollows : (handleSendFiles config request turns).Follows uncancelled
      (before ++ ⟨.registerWaiter transferId, waiter⟩ :: (middle ++ exchange :: after)) program) :
    ∃ cancel, (WaiterStage.registered cancel).Permits exchange.request := by
  have hstaged := staged_handleSendFiles config request turns
  have hregister := hstaged.permitted hfollows rfl
  have hasked := @Prog.Staged.permitted _ _ _ _ _ _ _ _ _ _ _
    (before ++ ⟨.registerWaiter transferId, waiter⟩ :: middle) after exchange hstaged hfollows
    (by simp)
  have hbefore : (stageAfter WaiterStage.note .opening before).Rooted := by
    refine @rooted_log .opening trivial before fun told hmem => ?_
    exact hfollows.told told (List.mem_append_left _ hmem)
  cases hstage : stageAfter WaiterStage.note .opening before with
  | opening =>
      rw [hstage] at hregister
      exact hregister.elim
  | registered own =>
      rw [hstage] at hregister
      exact hregister.elim
  | cancelled =>
      rw [hstage] at hbefore
      exact hbefore.elim
  | owns own =>
      rw [hstage] at hbefore
      have hlater : stageAfter WaiterStage.note .opening
          (before ++ ⟨.registerWaiter transferId, waiter⟩ :: middle) =
            stageAfter WaiterStage.note (.registered own) middle := by
        rw [stageAfter_append, hstage]
        rfl
      have hrooted : (stageAfter WaiterStage.note (.registered own) middle).Rooted := by
        refine @rooted_log (.registered own) hbefore middle fun told hmem => ?_
        exact hfollows.told told (by simp [hmem])
      rw [hlater] at hasked
      rcases past_log (.inl rfl) middle with hpast | hpast
      · rw [hpast] at hasked
        exact ⟨own, hasked⟩
      · rw [hpast] at hrooted
        exact hrooted.elim

end Session

/-- The map keeps no entry that the task registered. -/
def LeavesNoWaiter (task : TaskId) (labels : List (Label SendSig TaskId DaemonEvent))
    (coordinator : Coordinator) : Prop :=
  ∀ transferId waiter, .call task (.registerWaiter transferId) waiter ∈ labels →
    ∀ other, coordinator.pending.lookup other ≠ some waiter

/-- After the task has registered a waiter, someone else takes it out of the map: an
acknowledgement arrives for the transfer, it is cancelled, or registered for once more. -/
def WaiterTaken (task : TaskId) (labels : List (Label SendSig TaskId DaemonEvent)) : Prop :=
  ∀ before transferId waiter after,
    labels = before ++ .call task (.registerWaiter transferId) waiter :: after →
    ∃ label ∈ after, label.exchange task = none ∧ TakesWaiter transferId label

theorem leaves_waiter_own {config : DaemonConfig} {daemon : Daemon} {transferId : Uuid}
    (hinv : TokenInv daemon) {before after : List (Label SendSig TaskId DaemonEvent)}
    {pool : Pool SendSig TaskId Daemon} {task : TaskId} {waiter : WaiterId}
    {request : SendRequest} {response : request.Response}
    (hrun : (daemonWorld config).Run (fun _ _ => True) (idle daemon)
      (before ++ .call task (.registerWaiter transferId) waiter :: after) pool)
    (hmem : .call task request response ∈ after) :
    ¬TakesWaiter transferId (.call task request response) := by
  have hholds : tokenProtocol.Holds (idle daemon) := Protocol.holds_idle hinv fun _ => rfl
  have htraced := hholds.traced (token_admits config)
    (fun _ _ _ _ _ hstate hact => uncancelled_of_perform hstate hact) hrun
    (show (idle daemon).tasks task = none from rfl)
  obtain ⟨middle, later, rfl⟩ := List.append_of_mem hmem
  have htrace : trace task (before ++ .call task (.registerWaiter transferId) waiter ::
      (middle ++ .call task request response :: later)) =
        trace task before ++ ⟨.registerWaiter transferId, waiter⟩ ::
          (trace task middle ++ ⟨request, response⟩ :: trace task later) := by
    simp [trace, Label.exchange]
  obtain ⟨hnone, hsome⟩ := htraced
  rw [htrace] at hnone
  cases hprogram : pool.tasks task with
  | none =>
      exact absurd (hnone hprogram)
        (List.append_ne_nil_of_right_ne_nil _ (List.cons_ne_nil _ _))
  | some program =>
      obtain ⟨event, state, state', first, -, hevent, hfollows⟩ := (hsome program hprogram).follows
      rw [htrace] at hfollows
      have hasked : ∃ exchange ∈ trace task before ++
          (⟨.registerWaiter transferId, waiter⟩ : Exchange SendSig) ::
            (trace task middle ++ ⟨request, response⟩ :: trace task later),
          exchange.request = .registerWaiter transferId :=
        ⟨_, List.mem_append_right _ List.mem_cons_self, rfl⟩
      obtain ⟨asked, turns, rfl⟩ := session_of_request ⟨id, id, id⟩ hevent hfollows hasked
      obtain ⟨cancel, hpermits⟩ := session_leaves_waiter hfollows
      cases request <;> first | exact id | exact fun _ => hpermits

/-- Only `handle_send_files` registers waiters, and whatever it returns with, it leaves its waiter
in the map unless someone else has taken it. -/
theorem leaves_no_waiter_iff (config : DaemonConfig) {daemon : Daemon} (horderly : daemon.Orderly)
    (htokens : daemon.tokens = .empty) (hwatchers : daemon.watchers = [])
    {labels : List (Label SendSig TaskId DaemonEvent)} {pool : Pool SendSig TaskId Daemon}
    (hrun : (daemonWorld config).Run (fun _ _ => True) (idle daemon) labels pool)
    (session : TaskId) :
    LeavesNoWaiter session labels pool.state.coordinator ↔ WaiterTaken session labels := by
  have hinv : TokenInv daemon :=
    ⟨by simp [htokens, Tokens.empty], by simp [hwatchers]⟩
  have htaken : ∀ before transferId waiter after,
      labels = before ++ .call session (.registerWaiter transferId) waiter :: after →
      ((∀ other, pool.state.coordinator.pending.lookup other ≠ some waiter) ↔
        ∃ label ∈ after, label.exchange session = none ∧ TakesWaiter transferId label) := by
    rintro before transferId waiter after rfl
    obtain ⟨pool₁, pool₂, hbefore, -, hregister, hafter⟩ := hrun.split_inv
    have horderly₁ : pool₁.state.Orderly :=
      hbefore.state_inv horderly (fun _ _ _ _ _ h hp => (h.perform hp).1)
        (fun _ _ _ _ h he => (h.event he).1)
    obtain ⟨_, _, -, hperform, rfl⟩ := World.step_call hregister
    obtain ⟨rfl, hsome⟩ := Option.ite_none_right_eq_some.mp hperform
    obtain rfl := Option.some.inj hsome
    have hwaiter : (pool₁.state.coordinator.register transferId).pending.lookup transferId =
        some pool₁.state.coordinator.next := by
      rw [Coordinator.register_lookup, if_pos rfl]
    have horderly₂ := (@Daemon.Orderly.perform _ _ session (.registerWaiter transferId) _
      horderly₁ hperform).1
    rw [waiter_run hafter horderly₂ hwaiter]
    refine exists_congr fun label => and_congr_right fun hmem => ?_
    refine ⟨fun htakes => ⟨?_, htakes⟩, fun htakes => htakes.2⟩
    cases label with
    | event event => rfl
    | call task request response =>
        refine if_neg ?_
        rintro rfl
        exact leaves_waiter_own hinv hrun hmem htakes
  constructor
  · intro hleaves before transferId waiter after hsplit
    exact (htaken _ _ _ _ hsplit).mp (hleaves transferId waiter (by simp [hsplit]))
  · intro htakes transferId waiter hmem
    obtain ⟨before, after, hsplit⟩ := List.append_of_mem hmem
    exact (htaken _ _ _ _ hsplit).mpr (htakes _ _ _ _ hsplit)

section Scripts

/-- Surroundings in which the files of a send are there, or not. -/
def finding (found : Bool) (_ : TaskId) (daemon : Daemon) :
    (request : SendRequest) → Option request.Response
  | .collectFilePreview paths =>
      if found then daemon.oblige laptop (.collectFilePreview paths)
      else some (.error "path does not exist: /home/photos/sea.jpg")
  | request => daemon.oblige laptop request

/-- A session whose transfer is acknowledged. -/
def acknowledgedSend : List (Move TaskId DaemonEvent) :=
  .event (.sendFiles 1 photosRequest 3) :: List.replicate 24 (.tick 1) ++
    .event (.receive 3 ⟨2⟩ (.ack { transferId := 7, ok := true, error := none }) none) ::
      List.replicate 6 (.tick 1)

theorem acknowledged_send_leaves_nothing :
    ∃ labels pool, (daemonWorld deskConfig).Run (fun _ _ => True) (idle .empty) labels pool ∧
      pool.finished 1 = true ∧ LeavesNoWaiter 1 labels pool.state.coordinator ∧
      WaiterTaken 1 labels := by
  have hsome : ((daemonWorld deskConfig).follow (fun _ _ => True) (finding true)
      acknowledgedSend (idle .empty)).any (fun result => result.2.finished 1 &&
        result.2.state.coordinator.pending.keys.isEmpty) = true := by
    decide +kernel
  obtain ⟨⟨labels, pool⟩, hfollow, hended⟩ := (Option.any_eq_true _ _).mp hsome
  obtain ⟨hfinished, hempty⟩ := Bool.and_eq_true_iff.mp hended
  have hrun := World.run_of_follow hfollow
  have hleaves : LeavesNoWaiter 1 labels pool.state.coordinator := by
    intro transferId waiter _ other hother
    have hmem : other ∈ pool.state.coordinator.pending.keys :=
      AList.mem_keys.mp (AList.lookup_isSome.mp (by simp [hother]))
    rw [List.isEmpty_iff.mp hempty] at hmem
    cases hmem
  exact ⟨labels, pool, hrun, hfinished, hleaves,
    (leaves_no_waiter_iff deskConfig orderly_empty rfl rfl hrun 1).mp hleaves⟩

def waiterKept (coordinator : Coordinator) : Label SendSig TaskId DaemonEvent → Bool
  | .call 1 (.registerWaiter 7) waiter => coordinator.pending.lookup 7 == some (waiter : WaiterId)
  | _ => false

/-- The files are not found: the session reports that it has failed, and its waiter stays. -/
theorem failed_send_leaves_waiter :
    ∃ labels pool waiter,
      (daemonWorld deskConfig).Run (fun _ _ => True) (idle .empty) labels pool ∧
      pool.finished 1 = true ∧ .call 1 (.registerWaiter 7) waiter ∈ labels ∧
      pool.state.coordinator.pending.lookup 7 = some waiter ∧
      ¬LeavesNoWaiter 1 labels pool.state.coordinator := by
  have hsome : ((daemonWorld deskConfig).follow (fun _ _ => True) (finding false)
      (.event (.sendFiles 1 photosRequest 3) :: List.replicate 13 (.tick 1))
      (idle .empty)).any (fun result => result.2.finished 1 &&
        result.1.any (waiterKept result.2.state.coordinator)) = true := by
    decide +kernel
  obtain ⟨⟨labels, pool⟩, hfollow, hended⟩ := (Option.any_eq_true _ _).mp hsome
  obtain ⟨hfinished, hany⟩ := Bool.and_eq_true_iff.mp hended
  obtain ⟨label, hmem, hlabel⟩ := List.any_eq_true.mp hany
  unfold waiterKept at hlabel
  split at hlabel
  · next waiter =>
      have hkept := beq_iff_eq.mp hlabel
      exact ⟨labels, pool, waiter, World.run_of_follow hfollow, hfinished, hmem, hkept,
        fun hleaves => hleaves 7 waiter hmem 7 hkept⟩
  · cases hlabel

end Scripts

end Failsafe.Send
