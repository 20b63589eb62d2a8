import Failsafe.Send.Daemon

/-!
What the tasks of a receiving daemon keep to: who may touch the state file of a
transfer, and when its files are exported.
-/

namespace Failsafe.Send

open Failsafe.Core Failsafe.Clipboard Failsafe.Lib

/-- What the receiving side knows of one transfer. -/
structure ReceiveRecord where
  file : Option ReceiveTransferState
  deliveries : Nat
  removed : Bool

def Daemon.record (daemon : Daemon) (transferId : Uuid) : ReceiveRecord :=
  { file := daemon.receiveFiles.lookup transferId
    deliveries := daemon.exports.countP fun call => call.transferId == transferId && call.ok
    removed := daemon.removedReceives.contains transferId }

namespace ReceiveRecord

/-- The state file, if there is one, is not complete, and none was removed. -/
structure Open (record : ReceiveRecord) : Prop where
  incomplete : ∀ state, record.file = some state → state.stage ≠ .complete
  kept : record.removed = false

def isOpen (record : ReceiveRecord) : Bool :=
  record.file.all (fun state => state.stage != .complete) && !record.removed

theorem isOpen_iff {record : ReceiveRecord} : record.isOpen = true ↔ record.Open := by
  obtain ⟨file, deliveries, removed⟩ := record
  constructor
  · intro h
    simp only [isOpen, Bool.and_eq_true, Bool.not_eq_true', Option.all_eq_true] at h
    exact ⟨fun state hstate => by simpa using h.1 state hstate, h.2⟩
  · rintro ⟨hincomplete, hkept⟩
    simp only [isOpen, Bool.and_eq_true, Bool.not_eq_true', Option.all_eq_true]
    exact ⟨fun state hstate => by simpa using hincomplete state hstate, hkept⟩

/-- Nothing was exported yet. -/
def Pending (record : ReceiveRecord) : Prop :=
  record.deliveries = 0 ∧ record.Open

/-- The files were exported, but the state file does not say so yet. -/
def Closing (record : ReceiveRecord) : Prop :=
  record.deliveries = 1 ∧ record.Open

/-- The state file is complete, or it was and is gone. -/
def Settled (record : ReceiveRecord) : Prop :=
  record.deliveries ≤ 1 ∧
    ((∃ state, record.file = some state ∧ state.stage = .complete) ∧
        record.removed = false ∨
      record.file = none ∧ record.removed = true)

variable {record : ReceiveRecord}

theorem Open.not_settled (h : record.Open) : ¬record.Settled := by
  rintro ⟨-, ⟨⟨state, hfile, hstage⟩, -⟩ | ⟨-, hremoved⟩⟩
  · exact h.incomplete state hfile hstage
  · simp [h.kept] at hremoved

end ReceiveRecord

/-- The task has the lock of the transfer in hand. -/
structure Clones (task : TaskId) (transferId : Uuid) (lock : LockId) (daemon : Daemon) :
    Prop where
  entry : daemon.locks.entries transferId = some lock
  clone : task ∈ daemon.locks.cloners lock

/-- The task is inside the lock of the transfer. -/
structure Owns (task : TaskId) (transferId : Uuid) (lock : LockId) (daemon : Daemon) :
    Prop extends Clones task transferId lock daemon where
  holds : daemon.locks.holder lock = some task

theorem Owns.unique {task task' : TaskId} {transferId : Uuid} {lock lock' : LockId}
    {daemon : Daemon} (h : Owns task transferId lock daemon)
    (h' : Owns task' transferId lock' daemon) : task = task' := by
  have hlock : lock = lock' := Option.some.inj (h.entry.symm.trans h'.entry)
  subst hlock
  exact Option.some.inj (h.holds.symm.trans h'.holds)

/-- Where a transfer can be between the steps of the tasks. -/
def ReceivePhase (daemon : Daemon) (transferId : Uuid) : Prop :=
  (daemon.record transferId).Pending ∨
    ((daemon.record transferId).Closing ∧ ∃ task lock, Owns task transferId lock daemon) ∨
    (daemon.record transferId).Settled

/-- Every state file is named after the transfer it is about. -/
def Daemon.Filed (daemon : Daemon) : Prop :=
  ∀ transferId state, daemon.receiveFiles.lookup transferId = some state →
    state.transferId = transferId

/-- Every lock in the map is a lock of its own. -/
structure LockTable.Distinct (locks : LockTable) : Prop where
  bounded : ∀ transferId lock, locks.entries transferId = some lock → lock < locks.next
  injective : ∀ transferId other lock, locks.entries transferId = some lock →
    locks.entries other = some lock → transferId = other

structure ReceiveInv (daemon : Daemon) : Prop where
  locks : daemon.locks.Distinct
  phase : ∀ transferId, ReceivePhase daemon transferId
  filed : daemon.Filed

/-- What a task may count on while the others run: its clones and its locks are
its own, a settled transfer stays settled, and a transfer that is not settled is
not touched while the task is inside its lock. -/
structure ReceiveRely (task : TaskId) (daemon daemon' : Daemon) : Prop where
  clones : ∀ transferId lock,
    Clones task transferId lock daemon → Clones task transferId lock daemon'
  holder : ∀ lock, daemon'.locks.holder lock = some task ↔
    daemon.locks.holder lock = some task
  settled : ∀ transferId, (daemon.record transferId).Settled →
    (daemon'.record transferId).Settled
  record : ∀ transferId lock, Owns task transferId lock daemon →
    ¬(daemon.record transferId).Settled →
    daemon'.record transferId = daemon.record transferId

theorem ReceiveRely.owns {task : TaskId} {daemon daemon' : Daemon}
    (h : ReceiveRely task daemon daemon') {transferId : Uuid} {lock : LockId}
    (howns : Owns task transferId lock daemon) : Owns task transferId lock daemon' :=
  { toClones := h.clones _ _ howns.toClones, holds := (h.holder _).mpr howns.holds }

theorem ReceiveRely.of_eq {task : TaskId} {daemon daemon' : Daemon}
    (hlocks : daemon'.locks = daemon.locks)
    (hrecord : ∀ transferId, daemon'.record transferId = daemon.record transferId) :
    ReceiveRely task daemon daemon' where
  clones transferId lock h := by
    constructor
    · rw [hlocks]; exact h.entry
    · rw [hlocks]; exact h.clone
  holder lock := by rw [hlocks]
  settled transferId h := by rw [hrecord]; exact h
  record transferId lock _ _ := hrecord transferId

theorem ReceiveRely.trans {task : TaskId} {first second third : Daemon}
    (h : ReceiveRely task first second) (h' : ReceiveRely task second third) :
    ReceiveRely task first third where
  clones transferId lock hclones := h'.clones _ _ (h.clones _ _ hclones)
  holder lock := (h'.holder lock).trans (h.holder lock)
  settled transferId hsettled := h'.settled _ (h.settled _ hsettled)
  record transferId lock howns hopen := by
    have heq := h.record _ _ howns hopen
    rw [← heq]
    refine h'.record _ _ (h.owns howns) ?_
    rw [heq]
    exact hopen

/-- The surroundings do as the receiver expects: a pass that gets the lock finds
the transfer still incomplete, a load misses no state that is or was complete,
and the completed state can be written. -/
def undisturbedCall (daemon : Daemon) :
    (request : SendRequest) → request.Response → Bool
  | .lockAcquire _ (some resumed), _ =>
      (daemon.receiveFiles.lookup resumed.transferId).any fun state =>
        state.stage != .complete
  | .loadReceiveState transferId, .error _ => (daemon.record transferId).isOpen
  | .saveReceiveState state, .error _ => state.stage != .complete
  | _, _ => true

def receiveProtocol : Protocol SendSig TaskId Daemon where
  inv := ReceiveInv
  rely := ReceiveRely
  act task request response daemon daemon' :=
    undisturbedCall daemon request response = true ∧
      Daemon.perform task request response daemon = some daemon'
  rely_refl _ _ := .of_eq rfl fun _ => rfl
  rely_trans _ _ _ _ := .trans

/-- The receiving side of the daemon is the same, and nothing that was sent is lost. -/
structure SameReceiving (daemon daemon' : Daemon) : Prop where
  locks : daemon'.locks = daemon.locks
  receiveFiles : daemon'.receiveFiles = daemon.receiveFiles
  exports : daemon'.exports = daemon.exports
  removedReceives : daemon'.removedReceives = daemon.removedReceives
  outbox : daemon.outbox <+: daemon'.outbox

/-- Requests that leave the receiving side alone. -/
def SendRequest.Quiet : SendRequest → Prop
  | .lockEntry _ | .lockAcquire _ _ | .lockRelease _ | .removeUnusedEntry _ _
  | .dropLock _ | .saveReceiveState _ | .removeReceiveState _
  | .exportCollection _ _ _ => False
  | _ => True

theorem Daemon.perform_quiet {task : TaskId} {request : SendRequest}
    {response : request.Response} {daemon daemon' : Daemon} (hquiet : request.Quiet)
    (h : Daemon.perform task request response daemon = some daemon') :
    SameReceiving daemon daemon' := by
  have hself : SameReceiving daemon daemon := ⟨rfl, rfl, rfl, rfl, List.prefix_refl _⟩
  cases request with
  | lockEntry | lockAcquire | lockRelease | removeUnusedEntry | dropLock
  | saveReceiveState | removeReceiveState | exportCollection => exact hquiet.elim
  | hang => nomatch response
  | saveSendState state =>
      obtain rfl := Option.some.inj h
      cases response <;> exact ⟨rfl, rfl, rfl, rfl, List.prefix_refl _⟩
  | removeSendState transferId =>
      obtain rfl := Option.some.inj h
      cases response <;> exact ⟨rfl, rfl, rfl, rfl, List.prefix_refl _⟩
  | send | forwardProgress =>
      obtain rfl := Option.some.inj h
      exact ⟨rfl, rfl, rfl, rfl, List.prefix_append _ _⟩
  | completeWaiter | cancelToken | spawnDisconnectWatcher | writeEvent =>
      obtain rfl := Option.some.inj h
      exact ⟨rfl, rfl, rfl, rfl, List.prefix_refl _⟩
  | downloadCollection | collectionStatus | collectFilePreview | collectImportSources
  | downloadsBaseDir | localTimestamp | notifyFilesReceived | connectedPeers
  | isLocalFeatureEnabled | isPeerFeatureEnabled | sendResponse | readControl
  | tryEmit | emit =>
      obtain rfl := Option.some.inj h
      exact hself
  | listReceiveStates | readReceiveState | loadReceiveState | listSendStates
  | readSendState | pendingWaiters =>
      simp only [Daemon.perform, Option.ite_none_right_eq_some, Option.some.injEq] at h
      obtain ⟨-, rfl⟩ := h
      exact hself
  | isCancelled =>
      simp only [Daemon.perform, Daemon.seesCancelled, Option.ite_none_right_eq_some,
        Option.some.injEq] at h
      obtain ⟨-, rfl⟩ := h
      exact hself
  | registerWaiter =>
      simp only [Daemon.perform, Daemon.registerWaiter, Option.ite_none_right_eq_some,
        Option.some.injEq] at h
      obtain ⟨-, rfl⟩ := h
      exact ⟨rfl, rfl, rfl, rfl, List.prefix_refl _⟩
  | newToken | childToken =>
      simp only [Daemon.perform, Daemon.handOut, Option.ite_none_right_eq_some,
        Option.some.injEq] at h
      obtain ⟨-, rfl⟩ := h
      exact ⟨rfl, rfl, rfl, rfl, List.prefix_refl _⟩
  | awaitAck =>
      obtain ⟨coordinator, -, rfl⟩ := Option.map_eq_some_iff.mp h
      exact ⟨rfl, rfl, rfl, rfl, List.prefix_refl _⟩
  | importSources sources cancel =>
      obtain ⟨reports, outcome⟩ := response
      cases outcome with
      | cancelled =>
          simp only [Daemon.perform, Option.ite_none_right_eq_some, Option.some.injEq] at h
          obtain ⟨-, rfl⟩ := h
          exact hself
      | finished result =>
          obtain rfl := Option.some.inj h
          exact hself

section Quiet

theorem quiet_ask {request : SendRequest} (hquiet : request.Quiet) :
    (ask request).All SendRequest.Quiet :=
  ⟨hquiet, fun _ => trivial⟩

theorem quiet_emitProgress («to» : DeviceId) (reports : List SendProgress) :
    (emitProgress «to» reports).All SendRequest.Quiet := by
  induction reports with
  | nil => trivial
  | cons report reports ih => exact .bind (quiet_ask trivial) fun _ => ih

theorem quiet_receiveDir (senderName : String) (transferId : Uuid) :
    (receiveDir senderName transferId).All SendRequest.Quiet := by
  refine .bind (quiet_ask trivial) fun base => ?_
  cases base with
  | none => trivial
  | some base => exact .bind (quiet_ask trivial) fun _ => trivial

theorem quiet_chooseReceiveDir (state : ReceiveTransferState) :
    (chooseReceiveDir state).All SendRequest.Quiet := by
  unfold chooseReceiveDir
  split
  · trivial
  · exact quiet_receiveDir _ _

theorem quiet_sendAck («to» : DeviceId) (ack : SendAck) (receipt : Option String) :
    (sendAck «to» ack receipt).run.All SendRequest.Quiet :=
  .bind (quiet_ask trivial) fun _ => trivial

theorem quiet_readIncomplete (transferIds : List Uuid) :
    (readIncomplete transferIds).run.All SendRequest.Quiet := by
  induction transferIds with
  | nil => trivial
  | cons transferId transferIds ih =>
      exact .tryBind (quiet_ask trivial) fun _ => .tryBind ih fun _ => trivial

theorem quiet_listIncompleteReceives :
    listIncompleteReceives.run.All SendRequest.Quiet :=
  .tryBind (quiet_ask trivial) fun _ => quiet_readIncomplete _

end Quiet

section Records

variable (daemon : Daemon) {transferId : Uuid}

@[simp] theorem Daemon.record_saveReceive_self (state : ReceiveTransferState) :
    (daemon.saveReceive state (.ok ())).record state.transferId =
      { daemon.record state.transferId with file := some state } := by
  simp [Daemon.record, Daemon.saveReceive]

theorem Daemon.record_saveReceive_of_ne {state : ReceiveTransferState}
    (h : transferId ≠ state.transferId) :
    (daemon.saveReceive state (.ok ())).record transferId = daemon.record transferId := by
  simp [Daemon.record, Daemon.saveReceive, AList.lookup_insert_ne h]

@[simp] theorem Daemon.record_exported_self (root destDir : String) (ok : Bool) :
    (daemon.exported transferId root destDir ok).record transferId =
      { daemon.record transferId with
        deliveries := (daemon.record transferId).deliveries + if ok then 1 else 0 } := by
  cases ok <;> simp [Daemon.record, Daemon.exported]

theorem Daemon.record_exported_of_ne {other : Uuid} (h : transferId ≠ other)
    (root destDir : String) (ok : Bool) :
    (daemon.exported other root destDir ok).record transferId = daemon.record transferId := by
  simp [Daemon.record, Daemon.exported, Ne.symm h]

@[simp] theorem Daemon.locks_removeReceive (other : Uuid) (response : Except String Unit) :
    (daemon.removeReceive other response).locks = daemon.locks := by
  cases response with
  | error error => rfl
  | ok _ =>
      by_cases hfile : other ∈ daemon.receiveFiles <;> simp [Daemon.removeReceive, hfile]

theorem Daemon.Filed.saveReceive {daemon : Daemon} (h : daemon.Filed)
    (state : ReceiveTransferState) (response : Except String Unit) :
    (daemon.saveReceive state response).Filed := by
  cases response with
  | error error => exact h
  | ok _ =>
      intro other saved hsaved
      by_cases heq : other = state.transferId
      · subst heq
        simp only [Daemon.saveReceive, AList.lookup_insert, Option.some.injEq] at hsaved
        rw [← hsaved]
      · simp only [Daemon.saveReceive, AList.lookup_insert_ne heq] at hsaved
        exact h other saved hsaved

theorem Daemon.Filed.removeReceive {daemon : Daemon} (h : daemon.Filed)
    (other : Uuid) (response : Except String Unit) :
    (daemon.removeReceive other response).Filed := by
  cases response with
  | error error => exact h
  | ok _ =>
      by_cases hfile : other ∈ daemon.receiveFiles
      · intro found state hstate
        have hlookup : (daemon.receiveFiles.erase other).lookup found = some state := by
          simpa [Daemon.removeReceive, hfile] using hstate
        by_cases heq : found = other
        · subst heq
          rw [AList.lookup_erase] at hlookup
          cases hlookup
        · rw [AList.lookup_erase_ne heq] at hlookup
          exact h found state hlookup
      · simpa [Daemon.removeReceive, hfile] using h

theorem Daemon.record_removeReceive_self (hfile : transferId ∈ daemon.receiveFiles) :
    (daemon.removeReceive transferId (.ok ())).record transferId =
      { daemon.record transferId with file := none, removed := true } := by
  simp [Daemon.record, Daemon.removeReceive, hfile]

theorem Daemon.record_removeReceive_of_ne {other : Uuid} (h : transferId ≠ other)
    (response : Except String Unit) :
    (daemon.removeReceive other response).record transferId = daemon.record transferId := by
  cases response with
  | error error => rfl
  | ok _ =>
      by_cases hfile : other ∈ daemon.receiveFiles
      · simp [Daemon.record, Daemon.removeReceive, hfile, AList.lookup_erase_ne h, h]
      · simp [Daemon.removeReceive, hfile]

end Records

section Steps

variable {task : TaskId} {transferId : Uuid} {lock : LockId} {daemon daemon' : Daemon}

theorem Owns.of_locks (hlocks : daemon'.locks = daemon.locks)
    (h : Owns task transferId lock daemon) : Owns task transferId lock daemon' :=
  { entry := hlocks ▸ h.entry, clone := hlocks ▸ h.clone, holds := hlocks ▸ h.holds }

theorem ReceivePhase.of_eq (hlocks : daemon'.locks = daemon.locks)
    (hrecord : daemon'.record transferId = daemon.record transferId)
    (h : ReceivePhase daemon transferId) : ReceivePhase daemon' transferId := by
  unfold ReceivePhase
  rw [hrecord]
  refine h.imp_right (Or.imp_left (And.imp_right ?_))
  rintro ⟨task, lock, howns⟩
  exact ⟨task, lock, howns.of_locks hlocks⟩

theorem fair_of_record (hinv : ReceiveInv daemon) (hlocks : daemon'.locks = daemon.locks)
    (hother : ∀ other, other ≠ transferId → daemon'.record other = daemon.record other)
    (hphase : ReceivePhase daemon' transferId)
    (hfiled : daemon'.Filed)
    (hsettled : (daemon.record transferId).Settled → (daemon'.record transferId).Settled)
    (hmine : (∃ lock, Owns task transferId lock daemon) ∨
      (daemon.record transferId).Settled) :
    receiveProtocol.Fair task daemon daemon' where
  inv := by
    refine ⟨hlocks ▸ hinv.locks, fun other => ?_, hfiled⟩
    by_cases heq : other = transferId
    · exact heq ▸ hphase
    · exact (hinv.phase other).of_eq hlocks (hother other heq)
  rely other hne := by
    refine
      { clones := fun _ _ h => ⟨hlocks ▸ h.entry, hlocks ▸ h.clone⟩
        holder := fun _ => by rw [hlocks]
        settled := fun other' h => ?_
        record := fun other' lock' howns hopen => ?_ }
    · by_cases heq : other' = transferId
      · subst heq
        exact hsettled h
      · rw [hother other' heq]
        exact h
    · by_cases heq : other' = transferId
      · subst heq
        rcases hmine with ⟨lock, hmine⟩ | hmine
        · exact absurd (howns.unique hmine) hne
        · exact absurd hmine hopen
      · exact hother other' heq

theorem SameReceiving.record (h : SameReceiving daemon daemon') (transferId : Uuid) :
    daemon'.record transferId = daemon.record transferId := by
  simp [Daemon.record, h.receiveFiles, h.exports, h.removedReceives]

theorem SameReceiving.fair (h : SameReceiving daemon daemon') (hinv : ReceiveInv daemon) :
    receiveProtocol.Fair task daemon daemon' where
  inv :=
    ⟨h.locks ▸ hinv.locks,
      fun transferId => (hinv.phase transferId).of_eq h.locks (h.record transferId),
      fun transferId state => h.receiveFiles ▸ hinv.filed transferId state⟩
  rely _ _ := .of_eq h.locks h.record

theorem SameReceiving.rely (h : SameReceiving daemon daemon') :
    receiveProtocol.rely task daemon daemon' :=
  ReceiveRely.of_eq h.locks h.record

theorem save_pending {state : ReceiveTransferState} {response : Except String Unit}
    (hinv : ReceiveInv daemon) (howns : Owns task state.transferId lock daemon)
    (hpending : (daemon.record state.transferId).Pending)
    (hstage : state.stage ≠ .complete) :
    receiveProtocol.Fair task daemon (daemon.saveReceive state response) ∧
      Owns task state.transferId lock (daemon.saveReceive state response) ∧
      ((daemon.saveReceive state response).record state.transferId).Pending := by
  cases response with
  | error error =>
      exact ⟨SameReceiving.fair ⟨rfl, rfl, rfl, rfl, List.prefix_refl _⟩ hinv, howns, hpending⟩
  | ok _ =>
      have hnew : ((daemon.saveReceive state (.ok ())).record state.transferId).Pending := by
        rw [Daemon.record_saveReceive_self]
        refine ⟨hpending.1, fun saved hsaved => ?_, hpending.2.kept⟩
        rw [← Option.some.inj hsaved]
        exact hstage
      refine ⟨fair_of_record hinv rfl ?_ (.inl hnew) (hinv.filed.saveReceive _ _) ?_
        (.inl ⟨lock, howns⟩), howns.of_locks (by rfl), hnew⟩
      · exact fun other hne => daemon.record_saveReceive_of_ne hne
      · exact fun hsettled => absurd hsettled hpending.2.not_settled

theorem save_closing {state : ReceiveTransferState}
    (hinv : ReceiveInv daemon) (howns : Owns task state.transferId lock daemon)
    (hclosing : (daemon.record state.transferId).Closing)
    (hstage : state.stage = .complete) :
    receiveProtocol.Fair task daemon (daemon.saveReceive state (.ok ())) ∧
      Owns task state.transferId lock (daemon.saveReceive state (.ok ())) ∧
      ((daemon.saveReceive state (.ok ())).record state.transferId).Settled := by
  have hnew : ((daemon.saveReceive state (.ok ())).record state.transferId).Settled := by
    rw [Daemon.record_saveReceive_self]
    exact ⟨hclosing.1.le, .inl ⟨⟨state, rfl, hstage⟩, hclosing.2.kept⟩⟩
  refine ⟨fair_of_record hinv rfl ?_ (.inr (.inr hnew)) (hinv.filed.saveReceive _ _) ?_
    (.inl ⟨lock, howns⟩), howns.of_locks (by rfl), hnew⟩
  · exact fun other hne => daemon.record_saveReceive_of_ne hne
  · exact fun _ => hnew

theorem export_pending (root destDir : String) (ok : Bool) (hinv : ReceiveInv daemon)
    (howns : Owns task transferId lock daemon)
    (hpending : (daemon.record transferId).Pending) :
    receiveProtocol.Fair task daemon (daemon.exported transferId root destDir ok) ∧
      Owns task transferId lock (daemon.exported transferId root destDir ok) ∧
      if ok then ((daemon.exported transferId root destDir ok).record transferId).Closing
      else ((daemon.exported transferId root destDir ok).record transferId).Pending := by
  have hnew : if ok then
      ((daemon.exported transferId root destDir ok).record transferId).Closing
      else ((daemon.exported transferId root destDir ok).record transferId).Pending := by
    rw [Daemon.record_exported_self]
    cases ok with
    | true => exact ⟨by simp [hpending.1], hpending.2.incomplete, hpending.2.kept⟩
    | false => exact ⟨by simp [hpending.1], hpending.2.incomplete, hpending.2.kept⟩
  refine ⟨fair_of_record hinv rfl ?_ ?_ hinv.filed ?_ (.inl ⟨lock, howns⟩),
    howns.of_locks (by rfl), hnew⟩
  · exact fun other hne => daemon.record_exported_of_ne hne root destDir ok
  · cases ok with
    | true => exact .inr (.inl ⟨hnew, task, lock, howns.of_locks (by rfl)⟩)
    | false => exact .inl hnew
  · exact fun hsettled => absurd hsettled hpending.2.not_settled

theorem remove_settled {response : Except String Unit} (hinv : ReceiveInv daemon)
    (hsettled : (daemon.record transferId).Settled) :
    receiveProtocol.Fair task daemon (daemon.removeReceive transferId response) ∧
      ((daemon.removeReceive transferId response).record transferId).Settled := by
  cases response with
  | error error =>
      exact ⟨SameReceiving.fair ⟨rfl, rfl, rfl, rfl, List.prefix_refl _⟩ hinv, hsettled⟩
  | ok _ =>
      by_cases hfile : transferId ∈ daemon.receiveFiles
      · have hnew : ((daemon.removeReceive transferId (.ok ())).record transferId).Settled := by
          rw [daemon.record_removeReceive_self hfile]
          exact ⟨hsettled.1, .inr ⟨rfl, rfl⟩⟩
        refine ⟨fair_of_record hinv (daemon.locks_removeReceive _ _) ?_ (.inr (.inr hnew))
          (hinv.filed.removeReceive _ _) (fun _ => hnew) (.inr hsettled), hnew⟩
        exact fun other hne => daemon.record_removeReceive_of_ne hne _
      · have hsame : daemon.removeReceive transferId (.ok ()) = daemon := by
          simp [Daemon.removeReceive, hfile]
        rw [hsame]
        exact ⟨SameReceiving.fair ⟨rfl, rfl, rfl, rfl, List.prefix_refl _⟩ hinv, hsettled⟩

theorem fair_of_locks {locks : LockTable} (hinv : ReceiveInv daemon)
    (hdistinct : locks.Distinct)
    (hclones : ∀ other, other ≠ task → ∀ transferId lock,
      Clones other transferId lock daemon →
      Clones other transferId lock { daemon with locks })
    (hholder : ∀ other, other ≠ task → ∀ lock, locks.holder lock = some other ↔
      daemon.locks.holder lock = some other)
    (howns : ∀ transferId lock, Owns task transferId lock daemon →
      ¬(daemon.record transferId).Closing ∨
        Owns task transferId lock { daemon with locks }) :
    receiveProtocol.Fair task daemon { daemon with locks } where
  inv := by
    refine ⟨hdistinct, fun transferId => ?_, hinv.filed⟩
    rcases hinv.phase transferId with hpending | ⟨hclosing, owner, lock, howner⟩ | hsettled
    · exact .inl hpending
    · refine .inr (.inl ⟨hclosing, owner, lock, ?_⟩)
      by_cases howner' : owner = task
      · subst howner'
        exact (howns transferId lock howner).resolve_left fun h => h hclosing
      · exact
          { toClones := hclones owner howner' _ _ howner.toClones
            holds := (hholder owner howner' _).mpr howner.holds }
    · exact .inr (.inr hsettled)
  rely other hne :=
    { clones := hclones other hne
      holder := hholder other hne
      settled := fun _ h => h
      record := fun _ _ _ _ => rfl }

theorem LockTable.enter_cases {locks locks' : LockTable}
    (h : locks.enter task transferId lock = some locks') :
    locks.entries transferId = some lock ∧ locks' = locks.clone task lock ∨
      locks.entries transferId = none ∧ lock = locks.next ∧
        locks' = { locks with
          entries := Function.update locks.entries transferId (some lock)
          next := lock + 1 }.clone task lock := by
  unfold LockTable.enter at h
  cases hentry : locks.entries transferId with
  | some existing =>
      simp only [hentry, Option.ite_none_right_eq_some, Option.some.injEq] at h
      obtain ⟨rfl, rfl⟩ := h
      exact .inl ⟨rfl, rfl⟩
  | none =>
      simp only [hentry, Option.ite_none_right_eq_some, Option.some.injEq] at h
      obtain ⟨hfresh, rfl⟩ := h
      exact .inr ⟨rfl, hfresh, rfl⟩

theorem LockTable.mem_cloners_clone {locks : LockTable} {other : TaskId} {found : LockId}
    (h : other ∈ locks.cloners found) : other ∈ (locks.clone task lock).cloners found := by
  by_cases heq : found = lock
  · subst heq
    simpa [LockTable.clone] using Or.inr h
  · simpa [LockTable.clone, heq] using h

/-- What entering the map changes: the lock is in it, and the task has a clone. -/
structure LockTable.Entered (locks locks' : LockTable) (task : TaskId) (transferId : Uuid)
    (lock : LockId) : Prop where
  distinct : locks'.Distinct
  kept : ∀ other found, locks.entries other = some found → locks'.entries other = some found
  entry : locks'.entries transferId = some lock
  clones : ∀ other found, other ∈ locks.cloners found → other ∈ locks'.cloners found
  clone : task ∈ locks'.cloners lock
  holder : locks'.holder = locks.holder

theorem LockTable.Distinct.enter {locks locks' : LockTable} (h : locks.Distinct)
    (henter : locks.enter task transferId lock = some locks') :
    locks.Entered locks' task transferId lock := by
  rcases LockTable.enter_cases henter with ⟨hentry, rfl⟩ | ⟨hnone, rfl, rfl⟩
  · exact ⟨⟨h.bounded, h.injective⟩, fun _ _ => id, hentry,
      fun _ _ => LockTable.mem_cloners_clone, by simp [LockTable.clone], rfl⟩
  · refine ⟨⟨?_, ?_⟩, ?_, by simp [LockTable.clone], fun _ _ => LockTable.mem_cloners_clone,
      by simp [LockTable.clone], rfl⟩
    · intro other found hfound
      by_cases heq : other = transferId
      · subst heq
        simp only [LockTable.clone, Function.update_self, Option.some.injEq] at hfound
        simp [LockTable.clone, ← hfound]
      · simp only [LockTable.clone, Function.update_of_ne heq] at hfound
        exact (h.bounded _ _ hfound).trans (Nat.lt_succ_self _)
    · intro left right found hleft hright
      simp only [LockTable.clone, Function.update_apply] at hleft hright
      split at hleft <;> split at hright
      · rename_i hl hr
        exact hl.trans hr.symm
      · rw [← Option.some.inj hleft] at hright
        exact absurd (h.bounded _ _ hright) (Nat.lt_irrefl _)
      · rw [← Option.some.inj hright] at hleft
        exact absurd (h.bounded _ _ hleft) (Nat.lt_irrefl _)
      · exact h.injective _ _ _ hleft hright
    · intro other found hfound
      have hne : other ≠ transferId := by
        rintro rfl
        simp [hnone] at hfound
      simpa [LockTable.clone, hne] using hfound

theorem enter_fair {locks : LockTable} (hinv : ReceiveInv daemon)
    (henter : daemon.locks.enter task transferId lock = some locks) :
    receiveProtocol.Fair task daemon { daemon with locks } ∧
      Clones task transferId lock { daemon with locks } := by
  have hentered := hinv.locks.enter henter
  have hkept : ∀ other found lock', Clones other found lock' daemon →
      Clones other found lock' { daemon with locks } :=
    fun other found lock' h => ⟨hentered.kept _ _ h.entry, hentered.clones _ _ h.clone⟩
  have hholder : ∀ other lock', locks.holder lock' = some other ↔
      daemon.locks.holder lock' = some other :=
    fun other lock' => by rw [hentered.holder]
  refine ⟨fair_of_locks hinv hentered.distinct (fun other _ => hkept other)
    (fun other _ => hholder other) (fun found lock' h => .inr ?_),
    hentered.entry, hentered.clone⟩
  exact { toClones := hkept _ _ _ h.toClones, holds := (hholder _ _).mpr h.holds }

theorem acquire_fair {locks : LockTable} (hinv : ReceiveInv daemon)
    (hclones : Clones task transferId lock daemon)
    (hacquire : daemon.locks.acquire task lock = some locks) :
    receiveProtocol.Fair task daemon { daemon with locks } ∧
      Owns task transferId lock { daemon with locks } ∧
      ((daemon.record transferId).Pending ∨ (daemon.record transferId).Settled) := by
  obtain ⟨hfree, hlocks⟩ : daemon.locks.holder lock = none ∧
      { daemon.locks with holder := Function.update daemon.locks.holder lock (some task) } =
        locks := by
    simpa [LockTable.acquire] using hacquire
  subst hlocks
  have hholder : ∀ other lock', daemon.locks.holder lock' = some other →
      Function.update daemon.locks.holder lock (some task) lock' = some other := by
    intro other lock' h
    have hne : lock' ≠ lock := by
      rintro rfl
      simp [hfree] at h
    simpa [hne] using h
  have hothers : ∀ other, other ≠ task → ∀ lock',
      Function.update daemon.locks.holder lock (some task) lock' = some other ↔
        daemon.locks.holder lock' = some other := by
    intro other hne lock'
    refine ⟨fun h => ?_, hholder other lock'⟩
    by_cases heq : lock' = lock
    · subst heq
      simp only [Function.update_self, Option.some.injEq] at h
      exact absurd h.symm hne
    · simpa [heq] using h
  refine ⟨fair_of_locks hinv ⟨hinv.locks.bounded, hinv.locks.injective⟩
    (fun _ _ _ _ h => ⟨h.entry, h.clone⟩) hothers ?_,
    ⟨⟨hclones.entry, hclones.clone⟩, by simp⟩, ?_⟩
  · exact fun _ _ h => .inr ⟨⟨h.entry, h.clone⟩, hholder _ _ h.holds⟩
  · rcases hinv.phase transferId with hpending | ⟨-, owner, lock', howner⟩ | hsettled
    · exact .inl hpending
    · have hlock : lock = lock' := Option.some.inj (hclones.entry.symm.trans howner.entry)
      rw [← hlock] at howner
      exact absurd howner.holds (by simp [hfree])
    · exact .inr hsettled

theorem release_fair (hinv : ReceiveInv daemon) (howns : Owns task transferId lock daemon)
    (hphase : ¬(daemon.record transferId).Closing) :
    receiveProtocol.Fair task daemon { daemon with locks := daemon.locks.release lock } ∧
      Clones task transferId lock { daemon with locks := daemon.locks.release lock } ∧
      (daemon.locks.release lock).holder lock ≠ some task := by
  refine ⟨fair_of_locks hinv ⟨hinv.locks.bounded, hinv.locks.injective⟩
    (fun _ _ _ _ h => ⟨h.entry, h.clone⟩) ?_ ?_, ⟨howns.entry, howns.clone⟩,
    by simp [LockTable.release]⟩
  · intro other hne lock'
    by_cases hlock : lock' = lock
    · subst hlock
      simp [LockTable.release, howns.holds, Ne.symm hne]
    · simp [LockTable.release, hlock]
  · intro other lock' h
    by_cases hlock : lock' = lock
    · subst hlock
      rw [hinv.locks.injective _ _ _ h.entry howns.entry]
      exact .inl hphase
    · exact .inr ⟨⟨h.entry, h.clone⟩, by simpa [LockTable.release, hlock] using h.holds⟩

theorem LockTable.removeUnused_cases {locks : LockTable} (hclone : task ∈ locks.cloners lock) :
    locks.removeUnused transferId lock = locks ∨
      locks.entries transferId = some lock ∧ locks.cloners lock = [task] ∧
        locks.removeUnused transferId lock =
          { locks with entries := Function.update locks.entries transferId none } := by
  rw [LockTable.removeUnused]
  split
  · rename_i hunused
    right
    obtain ⟨hentry, hcount⟩ := hunused
    rw [LockTable.strongCount] at hcount
    have hone : (locks.cloners lock).length = 1 := by omega
    obtain ⟨owner, howner⟩ := List.length_eq_one_iff.mp hone
    rw [howner, List.mem_singleton] at hclone
    exact ⟨hentry, by rw [howner, hclone], rfl⟩
  · exact .inl rfl

theorem LockTable.Distinct.remove {locks : LockTable} (h : locks.Distinct) (transferId : Uuid) :
    LockTable.Distinct
      { locks with entries := Function.update locks.entries transferId none } := by
  have hold : ∀ other found, Function.update locks.entries transferId none other = some found →
      locks.entries other = some found := by
    intro other found hfound
    by_cases heq : other = transferId
    · simp [heq] at hfound
    · simpa [heq] using hfound
  exact ⟨fun other found hfound => h.bounded _ _ (hold _ _ hfound),
    fun left right found hleft hright => h.injective _ _ _ (hold _ _ hleft) (hold _ _ hright)⟩

theorem removeUnused_fair (hinv : ReceiveInv daemon)
    (hclones : Clones task transferId lock daemon)
    (hreleased : daemon.locks.holder lock ≠ some task) :
    receiveProtocol.Fair task daemon
      { daemon with locks := daemon.locks.removeUnused transferId lock } := by
  rcases @LockTable.removeUnused_cases task transferId lock _ hclones.clone with
    hsame | ⟨hentry, halone, hremoved⟩
  · rw [hsame]
    exact SameReceiving.fair ⟨rfl, rfl, rfl, rfl, List.prefix_refl _⟩ hinv
  · rw [hremoved]
    have hentries : ∀ other found lock', Clones other found lock' daemon →
        found = transferId → other = task := by
      rintro other found lock' h rfl
      have hlock : lock' = lock := Option.some.inj (h.entry.symm.trans hentry)
      have hmem := h.clone
      rw [hlock, halone, List.mem_singleton] at hmem
      exact hmem
    refine fair_of_locks hinv (hinv.locks.remove transferId)
      (fun other hne found lock' h => ?_)
      (fun _ _ _ => Iff.rfl) (fun found lock' h => .inr ?_)
    · have hfound : found ≠ transferId := fun heq => hne (hentries _ _ _ h heq)
      exact ⟨by simpa [hfound] using h.entry, h.clone⟩
    · have hfound : found ≠ transferId := by
        rintro rfl
        have hlock : lock' = lock := Option.some.inj (h.entry.symm.trans hentry)
        exact hreleased (hlock ▸ h.holds)
      exact ⟨⟨by simpa [hfound] using h.entry, h.clone⟩, h.holds⟩

theorem drop_fair (hinv : ReceiveInv daemon)
    (hreleased : daemon.locks.holder lock ≠ some task) :
    receiveProtocol.Fair task daemon
      { daemon with locks := daemon.locks.drop task lock } := by
  refine fair_of_locks hinv ⟨hinv.locks.bounded, hinv.locks.injective⟩
    (fun other hne found lock' h => ?_) (fun _ _ _ => Iff.rfl) (fun found lock' h => .inr ?_)
  · refine ⟨h.entry, ?_⟩
    by_cases heq : lock' = lock
    · subst heq
      simpa [LockTable.drop, List.mem_erase_of_ne hne] using h.clone
    · simpa [LockTable.drop, heq] using h.clone
  · have hlock : lock' ≠ lock := by
      rintro rfl
      exact hreleased h.holds
    exact ⟨⟨h.entry, by simpa [LockTable.drop, hlock] using h.clone⟩, h.holds⟩

end Steps

section Assertions

variable {task : TaskId} {transferId : Uuid} {lock : LockId}

/-- Inside the lock of a transfer whose record is known. -/
structure Inside (task : TaskId) (transferId : Uuid) (lock : LockId)
    (at_ : ReceiveRecord → Prop) (daemon : Daemon) : Prop where
  owns : Owns task transferId lock daemon
  record : at_ (daemon.record transferId)

theorem stable_settled :
    receiveProtocol.Stable task fun daemon => (daemon.record transferId).Settled :=
  fun _ _ h hrely => hrely.settled transferId h

theorem stable_clones : receiveProtocol.Stable task (Clones task transferId lock) :=
  fun _ _ h hrely => hrely.clones transferId lock h

theorem stable_owns : receiveProtocol.Stable task (Owns task transferId lock) :=
  fun _ _ h hrely => hrely.owns h

theorem stable_released :
    receiveProtocol.Stable task fun daemon => daemon.locks.holder lock ≠ some task :=
  fun _ _ h hrely => mt (hrely.holder lock).mp h

theorem stable_inside_open {at_ : ReceiveRecord → Prop}
    (hopen : ∀ record, at_ record → record.Open) :
    receiveProtocol.Stable task (Inside task transferId lock at_) := by
  intro daemon daemon' h hrely
  refine ⟨hrely.owns h.owns, ?_⟩
  rw [hrely.record transferId lock h.owns (hopen _ h.record).not_settled]
  exact h.record

theorem stable_inside_settled :
    receiveProtocol.Stable task (Inside task transferId lock ReceiveRecord.Settled) :=
  fun _ _ h hrely => ⟨hrely.owns h.owns, hrely.settled transferId h.record⟩

theorem stable_inside_pending :
    receiveProtocol.Stable task (Inside task transferId lock ReceiveRecord.Pending) :=
  stable_inside_open fun _ h => h.2

theorem stable_inside_closing :
    receiveProtocol.Stable task (Inside task transferId lock ReceiveRecord.Closing) :=
  stable_inside_open fun _ h => h.2

/-- Between two receives: untouched or settled. -/
def ReceiveRecord.AtRest (record : ReceiveRecord) : Prop :=
  record.Pending ∨ record.Settled

theorem ReceiveRecord.AtRest.not_closing {record : ReceiveRecord} (h : record.AtRest) :
    ¬record.Closing := by
  rintro ⟨hone, hopen⟩
  rcases h with ⟨hzero, -⟩ | hsettled
  · omega
  · exact hopen.not_settled hsettled

theorem Inside.atRest_of_pending {daemon : Daemon}
    (h : Inside task transferId lock ReceiveRecord.Pending daemon) :
    Inside task transferId lock ReceiveRecord.AtRest daemon :=
  ⟨h.owns, .inl h.record⟩

theorem Inside.atRest_of_settled {daemon : Daemon}
    (h : Inside task transferId lock ReceiveRecord.Settled daemon) :
    Inside task transferId lock ReceiveRecord.AtRest daemon :=
  ⟨h.owns, .inr h.record⟩

theorem stable_inside_atRest :
    receiveProtocol.Stable task (Inside task transferId lock ReceiveRecord.AtRest) := by
  rintro daemon daemon' ⟨howns, hpending | hsettled⟩ hrely
  · exact (stable_inside_pending _ _ ⟨howns, hpending⟩ hrely).atRest_of_pending
  · exact (stable_inside_settled _ _ ⟨howns, hsettled⟩ hrely).atRest_of_settled

end Assertions

end Failsafe.Send
