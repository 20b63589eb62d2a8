import Failsafe.Lib.Staged
import Failsafe.Send.ReceiveOnce
import Failsafe.Send.Session

/-!
The locks of the transfers that are received: who waits for one, who is inside
(`handle_transfer` and `resume_receive` of `failsafe-send/src/feature.rs`).
-/

namespace Failsafe.Send

open Failsafe.Core Failsafe.Clipboard Failsafe.Lib

/-- How far a task is with the lock of a transfer.  Inside, `working` is the transfer of the
state that it works on: the one read from the disk, or else the one that the lock is for. -/
inductive LockStage where
  | outside
  | waiting (transferId : Uuid) (lock : LockId)
  | inside (transferId : Uuid) (lock : LockId) (working : Uuid)
  | leaving (transferId : Uuid) (lock : LockId)
  | gone (transferId : Uuid)
deriving DecidableEq

namespace LockStage

def note (stage : LockStage) : Exchange SendSig → LockStage
  | ⟨.lockEntry transferId, lock⟩ => .waiting transferId lock
  | ⟨.lockAcquire _ _, _⟩ =>
      match stage with
      | .waiting transferId lock => .inside transferId lock transferId
      | _ => stage
  | ⟨.loadReceiveState _, .ok state⟩ =>
      match stage with
      | .inside transferId lock _ => .inside transferId lock state.transferId
      | _ => stage
  | ⟨.lockRelease _, _⟩ =>
      match stage with
      | .inside transferId lock _ => .leaving transferId lock
      | _ => stage
  | ⟨.dropLock _, _⟩ =>
      match stage with
      | .leaving transferId _ => .gone transferId
      | _ => stage
  | _ => stage

/-- A lock is entered, taken, left and dropped in this order, by a resumption with the id of
the state that it goes on from; what `handle_transfer_locked` and `run_receive` do is done
inside, and for the transfer of the lock.  A resumption answers the sender after it has left,
and a cancellation removes states from outside. -/
def permits (stage : LockStage) : SendRequest → Prop
  | .lockEntry _ => stage = .outside ∨ ∃ transferId, stage = .gone transferId
  | .lockAcquire lock resumed => ∃ transferId, stage = .waiting transferId lock ∧
      ∀ state ∈ resumed, state.transferId = transferId
  | .lockRelease lock => ∃ transferId working, stage = .inside transferId lock working
  | .removeUnusedEntry transferId lock => stage = .leaving transferId lock
  | .dropLock lock => ∃ transferId, stage = .leaving transferId lock
  | .loadReceiveState transferId => ∃ lock working, stage = .inside transferId lock working
  | .saveReceiveState state =>
      ∃ transferId lock, stage = .inside transferId lock state.transferId
  | .exportCollection exported _ _ => ∃ transferId lock, stage = .inside transferId lock exported
  | .downloadCollection _ _ _ =>
      ∃ transferId lock working, stage = .inside transferId lock working
  | .send _ (.ack ack) _ =>
      (∃ lock working, stage = .inside ack.transferId lock working) ∨ stage = .gone ack.transferId
  | .removeReceiveState removed =>
      (∃ lock working, stage = .inside removed lock working) ∨ stage = .gone removed ∨
        stage = .outside
  | _ => True

/-- Inside the lock of a transfer. -/
def IsInside (stage : LockStage) (transferId : Uuid) (lock : LockId) : Prop :=
  ∃ working, stage = .inside transferId lock working

/-- Waiting for the lock or inside it. -/
def Needs (stage : LockStage) (transferId : Uuid) (lock : LockId) : Prop :=
  stage = .waiting transferId lock ∨ stage.IsInside transferId lock

/-- A clone of the lock is in hand. -/
def Has (stage : LockStage) (transferId : Uuid) (lock : LockId) : Prop :=
  stage.Needs transferId lock ∨ stage = .leaving transferId lock

end LockStage

/-- The stages of the tasks of a daemon, after some steps. -/
def lockStages (labels : List (Label SendSig TaskId DaemonEvent)) : TaskId → LockStage :=
  stages LockStage.note .outside labels

section Programs

/-- Requests that need no lock. -/
def SendRequest.Lockless : SendRequest → Prop
  | .lockEntry _ | .lockAcquire _ _ | .lockRelease _ | .removeUnusedEntry _ _ | .dropLock _
  | .loadReceiveState _ | .saveReceiveState _ | .removeReceiveState _
  | .downloadCollection _ _ _ | .exportCollection _ _ _ | .send _ (.ack _) _ => False
  | _ => True

variable {α : Type} {stage : LockStage}

theorem permits_of_lockless {request : SendRequest} (h : request.Lockless) :
    stage.permits request := by
  cases request with
  | send «to» envelope receipt => cases envelope <;> first | exact h.elim | trivial
  | _ => first | exact h.elim | trivial

theorem note_of_lockless {request : SendRequest} (h : request.Lockless)
    (response : request.Response) : stage.note ⟨request, response⟩ = stage := by
  cases request <;> first | exact h.elim | rfl

theorem lockless_staged {p : SendProg α} (hp : p.All SendRequest.Lockless) :
    p.Staged LockStage.permits LockStage.note (fun _ stage' => stage' = stage) stage :=
  .of_all hp (fun _ h => permits_of_lockless h) fun _ response h => note_of_lockless h response

theorem working_staged {working : Uuid} {p : SendProg α}
    (hp : p.All (SendRequest.Working working)) (transferId : Uuid) (lock : LockId) :
    p.Staged LockStage.permits LockStage.note
      (fun _ stage' => stage' = .inside transferId lock working)
      (.inside transferId lock working) := by
  refine .of_all hp ?_ ?_
  · intro request hrequest
    cases request with
    | saveReceiveState state => exact hrequest ▸ ⟨_, _, rfl⟩
    | exportCollection exported root dir => exact hrequest ▸ ⟨_, _, rfl⟩
    | downloadCollection peer root total => exact ⟨_, _, _, rfl⟩
    | _ => first | exact hrequest.elim | trivial
  · intro request response hrequest
    cases request <;> first | exact hrequest.elim | rfl

theorem settling_staged {transferId : Uuid} {p : SendProg α}
    (hp : p.All (SendRequest.Settling transferId))
    (hstage : (∃ lock working, stage = .inside transferId lock working) ∨
      stage = .gone transferId) :
    p.Staged LockStage.permits LockStage.note (fun _ stage' => stage' = stage) stage := by
  refine .of_all hp ?_ ?_
  · intro request hrequest
    cases request with
    | send «to» envelope receipt =>
        cases envelope with
        | ack ack =>
            obtain rfl : ack.transferId = transferId := hrequest
            exact hstage
        | _ => exact hrequest.elim
    | removeReceiveState removed =>
        have hremoved : removed = transferId := hrequest
        exact hremoved ▸ hstage.imp_right .inl
    | _ => exact hrequest.elim
  · intro request response hrequest
    cases request <;> first | exact hrequest.elim | rfl

theorem savedOrFresh_inside («from» : DeviceId) (payload : SendPayload) (lock : LockId)
    (working : Uuid) :
    (savedOrFresh «from» payload).Staged LockStage.permits LockStage.note
      (fun state stage' => stage' = .inside payload.transferId lock state.transferId ∨
        state.transferId = payload.transferId ∧
          stage' = .inside payload.transferId lock working)
      (.inside payload.transferId lock working) := by
  refine Prog.staged_ask.mpr ⟨⟨_, _, rfl⟩, fun result => ?_⟩
  cases result with
  | error error => exact .inr ⟨rfl, rfl⟩
  | ok saved => exact .inl rfl

theorem reportReceiveFailure_inside («from» : DeviceId) (transferId : Uuid) (message : String)
    (lock : LockId) (working : Uuid) :
    (reportReceiveFailure «from» transferId message).Staged LockStage.permits LockStage.note
      (fun _ stage' => stage'.IsInside transferId lock) (.inside transferId lock working) := by
  have hack : ∀ working, (do
        let _ ← (sendAck «from» { transferId, ok := false, error := some message } none).run
        : SendProg Unit).Staged LockStage.permits LockStage.note
        (fun _ stage' => stage'.IsInside transferId lock) (.inside transferId lock working) := by
    intro working
    have hsend := settling_staged (settling_sendAck «from»
      { transferId, ok := false, error := some message } none) (.inl ⟨lock, working, rfl⟩)
    refine Prog.staged_bind.mpr (hsend.mono ?_)
    rintro _ _ rfl
    exact ⟨working, rfl⟩
  refine Prog.staged_ask.mpr ⟨⟨_, _, rfl⟩, fun result => ?_⟩
  cases result with
  | error error => exact hack working
  | ok saved => exact Prog.staged_ask.mpr ⟨⟨_, _, rfl⟩, fun _ => hack _⟩

theorem handleTransferLocked_inside (limits : ClipboardLimits) («from» : DeviceId)
    (payload : SendPayload) (lock : LockId) :
    (handleTransferLocked limits «from» payload).run.Staged LockStage.permits LockStage.note
      (fun _ stage' => stage'.IsInside payload.transferId lock)
      (.inside payload.transferId lock payload.transferId) := by
  have hsettle : ∀ receipt working,
      (acknowledgeAndRemove «from» payload.transferId receipt).run.Staged
        LockStage.permits LockStage.note
        (fun _ stage' => stage'.IsInside payload.transferId lock)
        (.inside payload.transferId lock working) := by
    intro receipt working
    have hsettling := settling_acknowledgeAndRemove «from» payload.transferId receipt
    refine (settling_staged hsettling (.inl ⟨lock, working, rfl⟩)).mono ?_
    rintro _ _ rfl
    exact ⟨working, rfl⟩
  unfold handleTransferLocked
  split
  · exact ⟨_, rfl⟩
  · refine Prog.staged_tryBind.mpr (Prog.staged_lift.mpr
      ((savedOrFresh_inside «from» payload lock payload.transferId).mono ?_))
    intro state stage' hstage
    -- the saved state is worked on under whatever id it carries
    obtain rfl : stage' = .inside payload.transferId lock state.transferId := by
      rcases hstage with rfl | ⟨hid, rfl⟩
      · rfl
      · rw [hid]
    dsimp only
    split
    · exact hsettle _ _
    · have hworking := working_runReceive limits (state.refresh «from» payload)
      refine Prog.staged_tryBind.mpr (Prog.staged_lift.mpr
        ((working_staged hworking payload.transferId lock).mono ?_))
      rintro result _ rfl
      cases result with
      | ok _ => exact hsettle _ _
      | error message =>
          refine Prog.staged_tryBind.mpr (Prog.staged_lift.mpr
            ((reportReceiveFailure_inside «from» payload.transferId message lock _).mono ?_))
          exact fun _ _ hinside => hinside

theorem locked_staged {body : SendProg α} {transferId : Uuid} {lock : LockId}
    {resumed : Option ReceiveTransferState}
    (hresumed : ∀ state ∈ resumed, state.transferId = transferId)
    (hbody : body.Staged LockStage.permits LockStage.note
      (fun _ stage' => stage'.IsInside transferId lock) (.inside transferId lock transferId)) :
    (locked lock resumed body).Staged LockStage.permits LockStage.note
      (fun _ stage' => stage' = .leaving transferId lock) (.waiting transferId lock) := by
  refine Prog.staged_ask.mpr ⟨⟨transferId, rfl, hresumed⟩, fun _ => ?_⟩
  refine Prog.staged_bind.mpr (hbody.mono ?_)
  rintro value _ ⟨working, rfl⟩
  exact Prog.staged_ask.mpr ⟨⟨transferId, working, rfl⟩, fun _ => rfl⟩

theorem handleTransfer_staged (limits : ClipboardLimits) («from» : DeviceId)
    (payload : SendPayload) :
    (handleTransfer limits «from» payload).Staged LockStage.permits LockStage.note
      (fun _ stage' => stage' = .gone payload.transferId) .outside := by
  refine Prog.staged_ask.mpr ⟨.inl rfl, fun lock => ?_⟩
  have hlocked := handleTransferLocked_inside limits «from» payload lock
  refine Prog.staged_bind.mpr ((locked_staged (by simp) hlocked).mono ?_)
  rintro result _ rfl
  refine Prog.staged_ask.mpr ⟨rfl, fun _ => ?_⟩
  exact Prog.staged_ask.mpr ⟨⟨payload.transferId, rfl⟩, fun _ => rfl⟩

/-- Neither waiting for a lock nor inside one. -/
def LockStage.IsFree (stage : LockStage) : Prop :=
  stage = .outside ∨ ∃ transferId, stage = .gone transferId

theorem resumeReceive_staged (limits : ClipboardLimits) (state : ReceiveTransferState)
    (hfree : stage.IsFree) :
    (resumeReceive limits state).run.Staged LockStage.permits LockStage.note
      (fun _ stage' => stage' = .gone state.transferId) stage := by
  refine Prog.staged_ask.mpr ⟨hfree, fun lock => ?_⟩
  have hworking := working_runReceive limits state
  have hbody : (runReceive limits state).run.Staged LockStage.permits LockStage.note
      (fun _ stage' => stage'.IsInside state.transferId lock)
      (.inside state.transferId lock state.transferId) :=
    (working_staged hworking state.transferId lock).mono fun _ _ hstage => ⟨_, hstage⟩
  refine Prog.staged_bind.mpr ((locked_staged (by simp) hbody).mono ?_)
  rintro result _ rfl
  exact Prog.staged_ask.mpr ⟨⟨state.transferId, rfl⟩, fun _ => rfl⟩

theorem resumeListed_staged (limits : ClipboardLimits) (connected : List DeviceId)
    (state : ReceiveTransferState) (hfree : stage.IsFree) :
    (resumeListed limits connected state).Staged LockStage.permits LockStage.note
      (fun _ stage' => stage'.IsFree) stage := by
  unfold resumeListed
  split
  · refine Prog.staged_bind.mpr ((resumeReceive_staged limits state hfree).mono ?_)
    rintro result _ rfl
    have hgone : (LockStage.gone state.transferId).IsFree := .inr ⟨_, rfl⟩
    cases result with
    | error error => exact hgone
    | ok _ =>
        refine Prog.staged_ask.mpr ⟨.inr rfl, fun sent => ?_⟩
        cases sent with
        | error error => exact hgone
        | ok _ => exact Prog.staged_ask.mpr ⟨.inr (.inl rfl), fun _ => hgone⟩
  · exact hfree

theorem resumeEach_staged (limits : ClipboardLimits) (connected : List DeviceId)
    (states : List ReceiveTransferState) (hfree : stage.IsFree) :
    (resumeEach limits connected states).Staged LockStage.permits LockStage.note
      (fun _ stage' => stage'.IsFree) stage := by
  induction states generalizing stage with
  | nil => exact hfree
  | cons state states ih =>
      refine Prog.staged_bind.mpr ((resumeListed_staged limits connected state hfree).mono ?_)
      exact fun _ _ hfree' => ih hfree'

theorem lockless_listIncompleteReceives :
    listIncompleteReceives.run.All SendRequest.Lockless := by
  have hread : ∀ transferIds, (readIncomplete transferIds).run.All SendRequest.Lockless := by
    intro transferIds
    induction transferIds with
    | nil => trivial
    | cons transferId transferIds ih =>
        exact .tryBind (all_ask trivial) fun _ => .tryBind ih fun _ => trivial
  exact .tryBind (all_ask trivial) fun _ => hread _

theorem resumeIncompleteReceives_staged (limits : ClipboardLimits) :
    (resumeIncompleteReceives limits).Staged LockStage.permits LockStage.note
      (fun _ stage' => stage'.IsFree) .outside := by
  refine Prog.staged_bind.mpr ((lockless_staged lockless_listIncompleteReceives).mono ?_)
  rintro result _ rfl
  have hfree : LockStage.outside.IsFree := .inl rfl
  split
  · exact hfree
  · exact hfree
  · exact Prog.staged_ask.mpr ⟨trivial, fun _ => resumeEach_staged _ _ _ hfree⟩

theorem cancelling_staged {p : SendProg α} (hp : p.All SendRequest.Cancelling) :
    p.Staged LockStage.permits LockStage.note (fun _ stage' => stage' = .outside) .outside := by
  refine .of_all hp ?_ ?_
  · intro request hrequest
    cases request <;> first | exact hrequest.elim | trivial | exact .inr (.inr rfl)
  · intro request response hrequest
    cases request <;> first | exact hrequest.elim | rfl

theorem started_staged {config : DaemonConfig} {event : DaemonEvent} {daemon daemon' : Daemon}
    {task : TaskId} {program : SendProg Unit}
    (h : event.apply config daemon = some (daemon', some (task, program))) :
    program.Staged LockStage.permits LockStage.note (fun _ _ => True) .outside := by
  have hlockless : program.All SendRequest.Lockless →
      program.Staged LockStage.permits LockStage.note (fun _ _ => True) .outside :=
    fun hall => (lockless_staged hall).mono fun _ _ _ => trivial
  rcases DaemonEvent.started_cases h with
    ⟨sender, payload, rfl⟩ | rfl | ⟨request, turns, rfl⟩ | rfl | ⟨child, -, turns, rfl⟩
  · refine Prog.staged_bind.mpr ((handleTransfer_staged _ sender payload).mono ?_)
    exact fun _ _ _ => trivial
  · exact (resumeIncompleteReceives_staged _).mono fun _ _ _ => trivial
  · refine hlockless ((inSession_handleSendFiles _ _ _).mono fun request hrequest => ?_)
    cases request with
    | send «to» envelope receipt => cases envelope <;> first | exact hrequest.elim | trivial
    | _ => first | exact hrequest.elim | trivial
  · exact (cancelling_staged cancelling_handleCancelAll).mono fun _ _ _ => trivial
  · refine hlockless ((watching_disconnectWatcher _ turns).mono fun request hrequest => ?_)
    cases request <;> first | exact hrequest.elim | trivial

end Programs

/-- A lock that a task still needs is the one in the map, and only one task is inside. -/
structure LockInv (locks : LockTable) (at_ : TaskId → LockStage) : Prop where
  distinct : locks.Distinct
  entry : ∀ task transferId lock, (at_ task).Needs transferId lock →
    locks.entries transferId = some lock
  clone : ∀ task transferId lock, (at_ task).Has transferId lock → task ∈ locks.cloners lock
  holds : ∀ task transferId lock, (at_ task).IsInside transferId lock →
    locks.holder lock = some task

namespace LockInv

variable {locks locks' : LockTable} {at_ : TaskId → LockStage} {task : TaskId}
  {transferId : Uuid} {lock : LockId} {working : Uuid}

theorem empty : LockInv .empty fun _ => .outside where
  distinct := ⟨by rintro _ _ ⟨⟩, by rintro _ _ _ ⟨⟩⟩
  entry := by rintro _ _ _ (h | ⟨_, h⟩) <;> cases h
  clone := by rintro _ _ _ ((h | ⟨_, h⟩) | h) <;> cases h
  holds := by rintro _ _ _ ⟨_, h⟩; cases h

/-- One task moves on: the others keep what they have, and it has what its stage says. -/
theorem move {stage : LockStage} (h : LockInv locks at_) (hdistinct : locks'.Distinct)
    (hentry : ∀ other, other ≠ task → ∀ transferId lock, (at_ other).Needs transferId lock →
      locks'.entries transferId = some lock)
    (hclone : ∀ other, other ≠ task → ∀ lock, other ∈ locks.cloners lock →
      other ∈ locks'.cloners lock)
    (hholder : ∀ other, other ≠ task → ∀ lock, locks.holder lock = some other →
      locks'.holder lock = some other)
    (hself : ∀ transferId lock,
      (stage.Needs transferId lock → locks'.entries transferId = some lock) ∧
      (stage.Has transferId lock → task ∈ locks'.cloners lock) ∧
      (stage.IsInside transferId lock → locks'.holder lock = some task)) :
    LockInv locks' (Function.update at_ task stage) := by
  refine ⟨hdistinct, ?_, ?_, ?_⟩ <;> intro other transferId lock hstage <;>
    rcases eq_or_ne other task with rfl | hne
  · rw [Function.update_self] at hstage
    exact (hself transferId lock).1 hstage
  · rw [Function.update_of_ne hne] at hstage
    exact hentry other hne transferId lock hstage
  · rw [Function.update_self] at hstage
    exact (hself transferId lock).2.1 hstage
  · rw [Function.update_of_ne hne] at hstage
    exact hclone other hne lock (h.clone _ _ _ hstage)
  · rw [Function.update_self] at hstage
    exact (hself transferId lock).2.2 hstage
  · rw [Function.update_of_ne hne] at hstage
    exact hholder other hne lock (h.holds _ _ _ hstage)

theorem enter (h : LockInv locks at_) (henter : locks.enter task transferId lock = some locks') :
    LockInv locks' (Function.update at_ task (.waiting transferId lock)) := by
  have hentered := h.distinct.enter henter
  refine h.move hentered.distinct (fun other _ found lock' hneeds => ?_)
    (fun other _ lock' => hentered.clones other lock')
    (fun other _ lock' hheld => by rwa [hentered.holder]) fun found lock' => ⟨?_, ?_, ?_⟩
  · exact hentered.kept _ _ (h.entry _ _ _ hneeds)
  · rintro (heq | ⟨_, heq⟩) <;> cases heq
    exact hentered.entry
  · rintro ((heq | ⟨_, heq⟩) | heq) <;> cases heq
    exact hentered.clone
  · rintro ⟨_, heq⟩
    cases heq

theorem acquire (h : LockInv locks at_) (hstage : at_ task = .waiting transferId lock)
    (hacquire : locks.acquire task lock = some locks') :
    LockInv locks' (Function.update at_ task (.inside transferId lock working)) := by
  obtain ⟨hfree, hlocks⟩ := Option.ite_none_right_eq_some.mp hacquire
  obtain rfl := Option.some.inj hlocks
  refine h.move ⟨h.distinct.bounded, h.distinct.injective⟩ (fun other _ => h.entry other)
    (fun _ _ _ hmem => hmem) (fun other _ lock' hheld => ?_) fun found lock' => ⟨?_, ?_, ?_⟩
  · have hne : lock' ≠ lock := by
      rintro rfl
      rw [hfree] at hheld
      cases hheld
    simpa [hne] using hheld
  · rintro (heq | ⟨_, heq⟩) <;> cases heq
    exact h.entry _ _ _ (.inl hstage)
  · rintro ((heq | ⟨_, heq⟩) | heq) <;> cases heq
    exact h.clone _ _ _ (.inl (.inl hstage))
  · rintro ⟨_, heq⟩
    cases heq
    exact Function.update_self ..

theorem work (h : LockInv locks at_) (hstage : (at_ task).IsInside transferId lock) :
    LockInv locks (Function.update at_ task (.inside transferId lock working)) := by
  refine h.move h.distinct (fun other _ => h.entry other) (fun _ _ _ hmem => hmem)
    (fun _ _ _ hheld => hheld) fun found lock' => ⟨?_, ?_, ?_⟩
  · rintro (heq | ⟨_, heq⟩) <;> cases heq
    exact h.entry _ _ _ (.inr hstage)
  · rintro ((heq | ⟨_, heq⟩) | heq) <;> cases heq
    exact h.clone _ _ _ (.inl (.inr hstage))
  · rintro ⟨_, heq⟩
    cases heq
    exact h.holds _ _ _ hstage

theorem release (h : LockInv locks at_) (hstage : (at_ task).IsInside transferId lock) :
    LockInv (locks.release lock) (Function.update at_ task (.leaving transferId lock)) := by
  have hheld := h.holds _ _ _ hstage
  refine h.move ⟨h.distinct.bounded, h.distinct.injective⟩ (fun other _ => h.entry other)
    (fun _ _ _ hmem => hmem) (fun other hne lock' hother => ?_) fun found lock' => ⟨?_, ?_, ?_⟩
  · have hne' : lock' ≠ lock := by
      rintro rfl
      exact hne (Option.some.inj (hother.symm.trans hheld))
    simpa [LockTable.release, hne'] using hother
  · rintro (heq | ⟨_, heq⟩) <;> cases heq
  · rintro ((heq | ⟨_, heq⟩) | heq) <;> cases heq
    exact h.clone _ _ _ (.inl (.inr hstage))
  · rintro ⟨_, heq⟩
    cases heq

theorem removeUnused (h : LockInv locks at_) (hstage : at_ task = .leaving transferId lock) :
    LockInv (locks.removeUnused transferId lock) at_ := by
  have hclone := h.clone _ _ _ (.inr hstage)
  rcases @LockTable.removeUnused_cases task transferId lock _ hclone with
    hsame | ⟨hentry, halone, hremoved⟩
  · rwa [hsame]
  · rw [hremoved]
    refine ⟨h.distinct.remove transferId, fun other found lock' hneeds => ?_, h.clone, h.holds⟩
    have hfound := h.entry _ _ _ hneeds
    -- whoever still needs the lock has a clone of it
    have hne : found ≠ transferId := by
      rintro rfl
      obtain rfl := Option.some.inj (hfound.symm.trans hentry)
      have hmem := h.clone _ _ _ (.inl hneeds)
      rw [halone, List.mem_singleton] at hmem
      rw [hmem, hstage] at hneeds
      rcases hneeds with heq | ⟨_, heq⟩ <;> cases heq
    simpa [hne] using hfound

theorem drop (h : LockInv locks at_) : LockInv (locks.drop task lock)
    (Function.update at_ task (.gone transferId)) := by
  refine h.move ⟨h.distinct.bounded, h.distinct.injective⟩ (fun other _ => h.entry other)
    (fun other hne lock' hmem => ?_) (fun _ _ _ hheld => hheld) fun found lock' => ⟨?_, ?_, ?_⟩
  · by_cases heq : lock' = lock
    · subst heq
      simpa [LockTable.drop, List.mem_erase_of_ne hne] using hmem
    · simpa [LockTable.drop, heq] using hmem
  · rintro (heq | ⟨_, heq⟩) <;> cases heq
  · rintro ((heq | ⟨_, heq⟩) | heq) <;> cases heq
  · rintro ⟨_, heq⟩
    cases heq

theorem unique (h : LockInv locks at_) {other : TaskId} {lock' : LockId}
    (hinside : (at_ task).IsInside transferId lock)
    (hother : (at_ other).IsInside transferId lock') : task = other := by
  have hentry := h.entry _ _ _ (.inr hinside)
  obtain rfl := Option.some.inj (hentry.symm.trans (h.entry _ _ _ (.inr hother)))
  exact Option.some.inj ((h.holds _ _ _ hinside).symm.trans (h.holds _ _ _ hother))

end LockInv

theorem perform_locks {daemon daemon' : Daemon} {task : TaskId} {request : SendRequest}
    {response : request.Response}
    (h : Daemon.perform task request response daemon = some daemon')
    (hquiet : request.Quiet ∨ (∃ state, request = .saveReceiveState state) ∨
      (∃ transferId, request = .removeReceiveState transferId) ∨
      ∃ transferId root dir, request = .exportCollection transferId root dir) :
    daemon'.locks = daemon.locks := by
  rcases hquiet with hquiet | ⟨state, rfl⟩ | ⟨transferId, rfl⟩ | ⟨transferId, root, dir, rfl⟩
  · exact (Daemon.perform_quiet hquiet h).locks
  · obtain rfl := Option.some.inj h
    cases response <;> rfl
  · obtain rfl := Option.some.inj h
    exact Daemon.locks_removeReceive _ _ _
  · obtain ⟨reports, result⟩ := response
    obtain rfl := Option.some.inj h
    rfl

theorem LockInv.perform {daemon daemon' : Daemon} {at_ : TaskId → LockStage} {task : TaskId}
    {request : SendRequest} {response : request.Response} (hinv : LockInv daemon.locks at_)
    (hpermits : (at_ task).permits request)
    (h : Daemon.perform task request response daemon = some daemon') :
    LockInv daemon'.locks
      (Function.update at_ task ((at_ task).note ⟨request, response⟩)) := by
  have hsame : daemon'.locks = daemon.locks →
      (at_ task).note ⟨request, response⟩ = at_ task →
      LockInv daemon'.locks
        (Function.update at_ task ((at_ task).note ⟨request, response⟩)) := by
    intro hlocks hstage
    rwa [hlocks, hstage, Function.update_eq_self]
  cases request with
  | lockEntry transferId =>
      obtain ⟨locks, henter, rfl⟩ := Option.map_eq_some_iff.mp h
      exact hinv.enter henter
  | lockAcquire lock resumed =>
      obtain ⟨transferId, hstage, -⟩ := hpermits
      obtain ⟨locks, hacquire, rfl⟩ := Option.map_eq_some_iff.mp h
      rw [hstage]
      exact hinv.acquire hstage hacquire
  | lockRelease lock =>
      obtain ⟨transferId, working, hstage⟩ := hpermits
      obtain rfl := Option.some.inj h
      rw [hstage]
      exact hinv.release ⟨working, hstage⟩
  | removeUnusedEntry transferId lock =>
      obtain rfl := Option.some.inj h
      have hnote : (at_ task).note ⟨.removeUnusedEntry transferId lock, response⟩ = at_ task := rfl
      rw [hnote, Function.update_eq_self]
      exact hinv.removeUnused hpermits
  | dropLock lock =>
      obtain ⟨transferId, hstage⟩ := hpermits
      obtain rfl := Option.some.inj h
      rw [hstage]
      exact hinv.drop
  | loadReceiveState transferId =>
      obtain ⟨lock, working, hstage⟩ := hpermits
      have hlocks := perform_locks h (.inl trivial)
      cases response with
      | error error => exact hsame hlocks rfl
      | ok state =>
          rw [hlocks, hstage]
          exact hinv.work ⟨working, hstage⟩
  | saveReceiveState state => exact hsame (perform_locks h (.inr (.inl ⟨_, rfl⟩))) rfl
  | removeReceiveState transferId =>
      exact hsame (perform_locks h (.inr (.inr (.inl ⟨_, rfl⟩)))) rfl
  | exportCollection transferId root destDir =>
      exact hsame (perform_locks h (.inr (.inr (.inr ⟨_, _, _, rfl⟩)))) rfl
  | hang => nomatch response
  | _ => exact hsame (perform_locks h (.inl trivial)) rfl

/-- Every saved state is filed under its own id, and whoever is inside works on the transfer
that the lock is for. -/
structure OwnWork (daemon : Daemon) (at_ : TaskId → LockStage) : Prop where
  filed : daemon.Filed
  own : ∀ task transferId lock working, at_ task = .inside transferId lock working →
    working = transferId

namespace OwnWork

variable {daemon daemon' : Daemon} {at_ : TaskId → LockStage} {task : TaskId}

theorem move {stage : LockStage} (h : OwnWork daemon at_) (hfiled : daemon'.Filed)
    (hself : ∀ transferId lock working, stage = .inside transferId lock working →
      working = transferId) :
    OwnWork daemon' (Function.update at_ task stage) := by
  refine ⟨hfiled, fun other transferId lock working hstage => ?_⟩
  rcases eq_or_ne other task with rfl | hne
  · rw [Function.update_self] at hstage
    exact hself transferId lock working hstage
  · rw [Function.update_of_ne hne] at hstage
    exact h.own other transferId lock working hstage

theorem perform {request : SendRequest} {response : request.Response}
    (hwork : OwnWork daemon at_) (hpermits : (at_ task).permits request)
    (h : Daemon.perform task request response daemon = some daemon') :
    OwnWork daemon' (Function.update at_ task ((at_ task).note ⟨request, response⟩)) := by
  have hquiet : request.Quiet → daemon'.Filed := by
    intro hquiet other state hstate
    rw [(Daemon.perform_quiet hquiet h).receiveFiles] at hstate
    exact hwork.filed other state hstate
  cases request with
  | lockEntry transferId =>
      obtain ⟨locks, -, rfl⟩ := Option.map_eq_some_iff.mp h
      exact hwork.move hwork.filed fun _ _ _ heq => nomatch heq
  | lockAcquire lock resumed =>
      obtain ⟨transferId, hstage, -⟩ := hpermits
      obtain ⟨locks, -, rfl⟩ := Option.map_eq_some_iff.mp h
      refine hwork.move hwork.filed fun _ _ _ heq => ?_
      rw [hstage] at heq
      cases heq
      rfl
  | lockRelease lock =>
      obtain ⟨transferId, working, hstage⟩ := hpermits
      obtain rfl := Option.some.inj h
      refine hwork.move hwork.filed fun _ _ _ heq => ?_
      rw [hstage] at heq
      cases heq
  | dropLock lock =>
      obtain ⟨transferId, hstage⟩ := hpermits
      obtain rfl := Option.some.inj h
      refine hwork.move hwork.filed fun _ _ _ heq => ?_
      rw [hstage] at heq
      cases heq
  | removeUnusedEntry transferId lock =>
      obtain rfl := Option.some.inj h
      exact hwork.move hwork.filed (hwork.own task)
  | loadReceiveState transferId =>
      obtain ⟨lock, working, hstage⟩ := hpermits
      refine hwork.move (hquiet trivial) ?_
      cases response with
      | error error => exact hwork.own task
      | ok state =>
          have hread := (Option.ite_none_right_eq_some.mp h).1
          have hlookup : daemon.receiveFiles.lookup transferId = some state :=
            of_decide_eq_true hread
          rintro _ _ _ heq
          rw [hstage] at heq
          cases heq
          exact hwork.filed transferId state hlookup
  | saveReceiveState state =>
      obtain rfl := Option.some.inj h
      exact hwork.move (hwork.filed.saveReceive state response) (hwork.own task)
  | removeReceiveState transferId =>
      obtain rfl := Option.some.inj h
      exact hwork.move (hwork.filed.removeReceive transferId response) (hwork.own task)
  | exportCollection transferId root destDir =>
      obtain ⟨reports, result⟩ := response
      obtain rfl := Option.some.inj h
      exact hwork.move hwork.filed (hwork.own task)
  | hang => nomatch response
  | _ => exact hwork.move (hquiet trivial) (hwork.own task)

end OwnWork

theorem event_receiveFiles {config : DaemonConfig} {event : DaemonEvent}
    {daemon daemon' : Daemon} {started : Option (TaskId × SendProg Unit)}
    (h : event.apply config daemon = some (daemon', started)) :
    daemon'.locks = daemon.locks ∧ daemon'.receiveFiles = daemon.receiveFiles := by
  cases event with
  | receive task sender envelope receipt =>
      obtain ⟨rfl, -⟩ := Prod.mk.inj (Option.some.inj h)
      have hsame := (daemon.receive_cases config.limits sender envelope receipt).1
      exact ⟨hsame.locks, hsame.receiveFiles⟩
  | chunkTimeout transferId =>
      obtain ⟨-, h⟩ := Option.ite_none_right_eq_some.mp h
      obtain ⟨rfl, -⟩ := Prod.mk.inj (Option.some.inj h)
      exact ⟨rfl, rfl⟩
  | resumePass | sendFiles | cancelAll =>
      obtain ⟨rfl, -⟩ := Prod.mk.inj (Option.some.inj h)
      exact ⟨rfl, rfl⟩
  | watch task turns =>
      simp only [DaemonEvent.apply] at h
      split at h
      · cases h
      · obtain ⟨rfl, -⟩ := Prod.mk.inj (Option.some.inj h)
        exact ⟨rfl, rfl⟩

/-- The locks and the stages fit together throughout every run, and each task keeps to the
order of the stages; states that are filed under their own ids stay so. -/
theorem LockInv.run (config : DaemonConfig) {daemon : Daemon}
    {cond : Daemon → Label SendSig TaskId DaemonEvent → Prop}
    {labels : List (Label SendSig TaskId DaemonEvent)} {pool : Pool SendSig TaskId Daemon}
    (h : (daemonWorld config).Run cond (idle { daemon with locks := .empty }) labels pool) :
    (LockInv pool.state.locks (lockStages labels) ∧
      (daemon.Filed → OwnWork pool.state (lockStages labels))) ∧
      ∀ task program, pool.tasks task = some program →
        program.Staged LockStage.permits LockStage.note (fun _ _ => True)
          (lockStages labels task) := by
  have hfirst : daemon.Filed → OwnWork { daemon with locks := .empty } fun _ => .outside :=
    fun hfiled => ⟨hfiled, fun _ _ _ _ heq => nomatch heq⟩
  have hcall : ∀ (task : TaskId) (request : SendSig.Request) (response : SendSig.Response request)
      (state state' : Daemon) (at_ : TaskId → LockStage),
      LockInv state.locks at_ ∧ (daemon.Filed → OwnWork state at_) →
      (at_ task).permits request → Daemon.perform task request response state = some state' →
        LockInv state'.locks
            (Function.update at_ task ((at_ task).note ⟨request, response⟩)) ∧
          (daemon.Filed → OwnWork state'
            (Function.update at_ task ((at_ task).note ⟨request, response⟩))) :=
    fun task request response state state' at_ hinv hpermits hperform =>
      ⟨hinv.1.perform hpermits hperform, fun hfiled =>
        (hinv.2 hfiled).perform hpermits hperform⟩
  have hstaged := h.staged (fun _ => rfl)
    (I := fun state at_ => LockInv state.locks at_ ∧ (daemon.Filed → OwnWork state at_))
    ⟨LockInv.empty, hfirst⟩ hcall ?_
  · exact ⟨hstaged.1, hstaged.2.2⟩
  · intro event state state' started at_ hinv hevent
    obtain ⟨hlocks, hfiles⟩ := event_receiveFiles hevent
    refine ⟨⟨hlocks ▸ hinv.1, fun hfiled => ⟨?_, (hinv.2 hfiled).own⟩⟩, ?_⟩
    · intro transferId saved hlookup
      rw [hfiles] at hlookup
      exact (hinv.2 hfiled).filed transferId saved hlookup
    · rintro task program rfl
      exact started_staged hevent

/-- In every run of a daemon at most one task is inside the lock of a transfer, and a task that
waits for a lock waits for the one in the map.  What `handle_transfer_locked` and `run_receive`
do is done inside, for the transfer of the lock: the saved states and the exports are of the
transfer that the task works on, and this is the one of the lock unless a file holds the state
of another transfer. -/
theorem one_receiver_each (config : DaemonConfig) {daemon : Daemon}
    {labels : List (Label SendSig TaskId DaemonEvent)} {pool : Pool SendSig TaskId Daemon}
    (h : (daemonWorld config).Run (fun _ _ => True) (idle { daemon with locks := .empty })
      labels pool) :
    (∀ task other transferId lock lock',
        (lockStages labels task).IsInside transferId lock →
        (lockStages labels other).IsInside transferId lock' → task = other) ∧
      (∀ task transferId lock, lockStages labels task = .waiting transferId lock →
        pool.state.locks.entries transferId = some lock ∧
          ∀ other lock', (lockStages labels other).IsInside transferId lock' → lock' = lock) ∧
      (∀ before after task request response,
        labels = before ++ .call task request response :: after →
          (lockStages before task).permits request) ∧
      (daemon.Filed → ∀ task transferId lock working,
        lockStages labels task = .inside transferId lock working → working = transferId) := by
  obtain ⟨⟨hinv, hwork⟩, -⟩ := LockInv.run config h
  refine ⟨fun task other transferId lock lock' => hinv.unique, ?_, ?_,
    fun hfiled => (hwork hfiled).own⟩
  · intro task transferId lock hwaiting
    have hentry := hinv.entry _ _ _ (.inl hwaiting)
    refine ⟨hentry, fun other lock' hinside => ?_⟩
    exact Option.some.inj ((hinv.entry _ _ _ (.inr hinside)).symm.trans hentry)
  · rintro before after task request response rfl
    obtain ⟨middle, last, hbefore, -, hstep, -⟩ := h.split_inv
    obtain ⟨next, state, hpending, -, -⟩ := World.step_call hstep
    exact (Prog.staged_call.mp ((LockInv.run config hbefore).2 task _ hpending)).1

/-- A daemon that has started again over a transfer of which a part is stored. -/
def restartedDesk : Daemon :=
  { Daemon.empty with
    receiveFiles := AList.insert 7 (receiveStateFromPayload ⟨2⟩ emptyPayload) ∅ }

/-- The same transfer arrives twice and is resumed as well: one task is inside, the others wait
for the same lock. -/
theorem second_receiver_waits :
    ∃ labels pool, (daemonWorld deskConfig).Run (fun _ _ => True)
        (idle { restartedDesk with locks := .empty }) labels pool ∧
      lockStages labels 1 = .inside 7 0 7 ∧ lockStages labels 2 = .waiting 7 0 ∧
      lockStages labels 3 = .waiting 7 0 ∧ pool.state.locks.entries 7 = some 0 := by
  let script : List (Move TaskId DaemonEvent) :=
    [.event (.receive 1 ⟨2⟩ (.transfer emptyPayload) none),
      .event (.receive 2 ⟨2⟩ (.transfer emptyPayload) none), .event (.resumePass 3),
      .tick 1, .tick 2, .tick 1, .tick 3, .tick 3, .tick 3, .tick 3]
  have hsome : ((daemonWorld deskConfig).follow (fun _ _ => True)
      (fun _ => Daemon.oblige laptop) script
      (idle { restartedDesk with locks := .empty })).any
        (fun result => lockStages result.1 1 = .inside 7 0 7 ∧
          lockStages result.1 2 = .waiting 7 0 ∧
          lockStages result.1 3 = .waiting 7 0) = true := by
    decide +kernel
  obtain ⟨⟨labels, pool⟩, hfollow, hstages⟩ := (Option.any_eq_true _ _).mp hsome
  obtain ⟨hinside, hwaiting, hresumed⟩ := of_decide_eq_true hstages
  have hrun := World.run_of_follow hfollow
  have hkept := one_receiver_each deskConfig hrun
  exact ⟨labels, pool, hrun, hinside, hwaiting, hresumed, (hkept.2.1 2 7 0 hwaiting).1⟩

end Failsafe.Send
