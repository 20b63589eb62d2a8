import Failsafe.Send.Control
import Failsafe.Send.Dispatch
import Mathlib.Data.List.Sort

/-!
One running daemon: what its tasks share, what each request does to it, and what
may happen to it from outside.
-/

namespace Failsafe.Send

open Failsafe.Core Failsafe.Clipboard Failsafe.Lib Failsafe.Transport

abbrev TaskId := Nat

/-- `receive_in_progress`: the map, the clones that tasks hold of its `Arc`s, and
which task is inside which mutex. -/
structure LockTable where
  entries : Uuid → Option LockId
  cloners : LockId → List TaskId
  holder : LockId → Option TaskId
  next : LockId

namespace LockTable

def empty : LockTable :=
  { entries := fun _ => none, cloners := fun _ => [], holder := fun _ => none, next := 0 }

def clone (locks : LockTable) (task : TaskId) (lock : LockId) : LockTable :=
  { locks with cloners := Function.update locks.cloners lock (task :: locks.cloners lock) }

/-- `entry(..).or_insert_with(..).clone()`. -/
def enter (locks : LockTable) (task : TaskId) (transferId : Uuid) (lock : LockId) :
    Option LockTable :=
  match locks.entries transferId with
  | some existing => if lock = existing then some (locks.clone task lock) else none
  | none =>
      if lock = locks.next then
        some ({ locks with
          entries := Function.update locks.entries transferId (some lock)
          next := lock + 1 }.clone task lock)
      else none

def acquire (locks : LockTable) (task : TaskId) (lock : LockId) : Option LockTable :=
  if locks.holder lock = none then
    some { locks with holder := Function.update locks.holder lock (some task) }
  else none

def release (locks : LockTable) (lock : LockId) : LockTable :=
  { locks with holder := Function.update locks.holder lock none }

/-- `Arc::strong_count` of a lock that the map still holds. -/
def strongCount (locks : LockTable) (lock : LockId) : Nat :=
  1 + (locks.cloners lock).length

def removeUnused (locks : LockTable) (transferId : Uuid) (lock : LockId) : LockTable :=
  if locks.entries transferId = some lock ∧ locks.strongCount lock = 2 then
    { locks with entries := Function.update locks.entries transferId none }
  else locks

def drop (locks : LockTable) (task : TaskId) (lock : LockId) : LockTable :=
  { locks with
    cloners := Function.update locks.cloners lock ((locks.cloners lock).erase task) }

end LockTable

/-- A one-shot channel; `receipt` is that of the acknowledgement that filled it. -/
inductive AckChannel where
  | empty
  | sent (result : Except String Unit) (receipt : Option String)
  | closed

/-- `SendCoordinator`, with the channels whose senders it keeps. -/
structure Coordinator where
  pending : AList fun _ : Uuid => WaiterId
  channels : WaiterId → AckChannel
  progress : WaiterId → List SendProgress
  next : WaiterId

namespace Coordinator

def empty : Coordinator :=
  { pending := ∅, channels := fun _ => .empty, progress := fun _ => [], next := 0 }

/-- Dropping the sender closes a channel that was not used. -/
def close (coordinator : Coordinator) (waiter : WaiterId) : Coordinator :=
  match coordinator.channels waiter with
  | .empty =>
      { coordinator with channels := Function.update coordinator.channels waiter .closed }
  | _ => coordinator

def register (coordinator : Coordinator) (transferId : Uuid) : Coordinator :=
  let replaced := match coordinator.pending.lookup transferId with
    | none => coordinator
    | some waiter => coordinator.close waiter
  { replaced with
    pending := replaced.pending.insert transferId replaced.next
    next := replaced.next + 1 }

def complete (coordinator : Coordinator) (transferId : Uuid) (result : Except String Unit)
    (receipt : Option String) : Coordinator :=
  match coordinator.pending.lookup transferId with
  | none => coordinator
  | some waiter =>
      { coordinator with
        pending := coordinator.pending.erase transferId
        channels := Function.update coordinator.channels waiter (.sent result receipt) }

def reportProgress (coordinator : Coordinator) (report : SendProgress) : Coordinator :=
  match coordinator.pending.lookup report.transferId with
  | none => coordinator
  | some waiter =>
      { coordinator with
        progress := Function.update coordinator.progress waiter
          (coordinator.progress waiter ++ [report]) }

/-- The event that `select!` may take next, and what is left after it.  Several
branches may be ready at once. -/
def await (coordinator : Coordinator) (tokens : Tokens) (cancel : Token)
    (waiter : WaiterId) : AckEvent → Option Coordinator
  | .cancelled => if tokens.isCancelled cancel then some coordinator else none
  | .deadline => some coordinator
  | .acked result =>
      match coordinator.channels waiter with
      | .sent sent _ => if result = sent then some coordinator else none
      | _ => none
  | .closed =>
      match coordinator.channels waiter with
      | .closed => some coordinator
      | _ => none
  | .progress report =>
      match coordinator.progress waiter with
      | first :: rest =>
          if report = first then
            some { coordinator with
              progress := Function.update coordinator.progress waiter rest }
          else none
      | [] => none

end Coordinator

structure ExportCall where
  transferId : Uuid
  root : String
  destDir : String
  ok : Bool
deriving DecidableEq, Repr

structure SentMessage where
  task : TaskId
  «to» : DeviceId
  envelope : SendEnvelope
  receipt : Option String

/-- The file-send part of a daemon.  `exports`, `removedReceives`, `outbox` and
`controlEvents` are what it has done so far, oldest first. -/
structure Daemon where
  receiveFiles : AList fun _ : Uuid => ReceiveTransferState
  sendFiles : AList fun _ : Uuid => SendTransferState
  locks : LockTable
  coordinator : Coordinator
  tokens : Tokens
  pendingChunkedTransfers : Uuid → Option ChunkedTransfer
  chunkTimers : List Uuid
  watchers : List Token
  exports : List ExportCall
  removedReceives : List Uuid
  outbox : List SentMessage
  controlEvents : List (TaskId × ControlEvent)

namespace Daemon

def empty : Daemon :=
  { receiveFiles := ∅
    sendFiles := ∅
    locks := .empty
    coordinator := .empty
    tokens := .empty
    pendingChunkedTransfers := fun _ => none
    chunkTimers := []
    watchers := []
    exports := []
    removedReceives := []
    outbox := []
    controlEvents := [] }

/-- A stored file can be read as it was written; any read may also fail. -/
def readFile {β : Type} [DecidableEq β] (files : AList fun _ : Uuid => β)
    (transferId : Uuid) : Except String β → Bool
  | .error _ => true
  | .ok state => files.lookup transferId = some state

def listFiles {β : Type} (files : AList fun _ : Uuid => β) : Except String (List Uuid) → Bool
  | .error _ => true
  | .ok transferIds => transferIds.isPerm files.keys

def saveReceive (daemon : Daemon) (state : ReceiveTransferState) : Except String Unit → Daemon
  | .ok () =>
      { daemon with receiveFiles := daemon.receiveFiles.insert state.transferId state }
  | .error _ => daemon

def removeReceive (daemon : Daemon) (transferId : Uuid) : Except String Unit → Daemon
  | .ok () =>
      if transferId ∈ daemon.receiveFiles then
        { daemon with
          receiveFiles := daemon.receiveFiles.erase transferId
          removedReceives := daemon.removedReceives ++ [transferId] }
      else daemon
  | .error _ => daemon

def saveSend (daemon : Daemon) (state : SendTransferState) : Except String Unit → Daemon
  | .ok () => { daemon with sendFiles := daemon.sendFiles.insert state.transferId state }
  | .error _ => daemon

def removeSend (daemon : Daemon) (transferId : Uuid) : Except String Unit → Daemon
  | .ok () => { daemon with sendFiles := daemon.sendFiles.erase transferId }
  | .error _ => daemon

def exported (daemon : Daemon) (transferId : Uuid) (root destDir : String) (ok : Bool) :
    Daemon :=
  { daemon with exports := daemon.exports ++ [{ transferId, root, destDir, ok }] }

def sent (daemon : Daemon) (message : SentMessage) : Daemon :=
  { daemon with outbox := daemon.outbox ++ [message] }

def registerWaiter (daemon : Daemon) (transferId : Uuid) (waiter : WaiterId) :
    Option Daemon :=
  if waiter = daemon.coordinator.next then
    some { daemon with coordinator := daemon.coordinator.register transferId }
  else none

def handOut (daemon : Daemon) (made : Token × Tokens) (token : Token) : Option Daemon :=
  if token = made.1 then some { daemon with tokens := made.2 } else none

def seesCancelled (daemon : Daemon) (token : Token) (answer : Bool) : Option Daemon :=
  if answer = daemon.tokens.isCancelled token then some daemon else none

/-- What a request does when it is answered so; `none` when it cannot be. -/
def perform (task : TaskId) :
    (request : SendRequest) → request.Response → Daemon → Option Daemon
  | .lockEntry transferId, lock, daemon =>
      (daemon.locks.enter task transferId lock).map fun locks => { daemon with locks }
  | .lockAcquire lock _, _, daemon =>
      (daemon.locks.acquire task lock).map fun locks => { daemon with locks }
  | .lockRelease lock, _, daemon => some { daemon with locks := daemon.locks.release lock }
  | .removeUnusedEntry transferId lock, _, daemon =>
      some { daemon with locks := daemon.locks.removeUnused transferId lock }
  | .dropLock lock, _, daemon => some { daemon with locks := daemon.locks.drop task lock }
  | .listReceiveStates, response, daemon =>
      if listFiles daemon.receiveFiles response then some daemon else none
  | .readReceiveState transferId, response, daemon =>
      if readFile daemon.receiveFiles transferId response then some daemon else none
  | .loadReceiveState transferId, response, daemon =>
      if readFile daemon.receiveFiles transferId response then some daemon else none
  | .saveReceiveState state, response, daemon => some (daemon.saveReceive state response)
  | .removeReceiveState transferId, response, daemon =>
      some (daemon.removeReceive transferId response)
  | .listSendStates, response, daemon =>
      if listFiles daemon.sendFiles response then some daemon else none
  | .readSendState transferId, response, daemon =>
      if readFile daemon.sendFiles transferId response then some daemon else none
  | .saveSendState state, response, daemon => some (daemon.saveSend state response)
  | .removeSendState transferId, response, daemon =>
      some (daemon.removeSend transferId response)
  | .exportCollection transferId root destDir, (_, result), daemon =>
      some (daemon.exported transferId root destDir result.isOk)
  | .importSources _ cancel, (_, outcome), daemon =>
      match outcome with
      | .cancelled => if daemon.tokens.isCancelled cancel then some daemon else none
      | .finished _ => some daemon
  -- A send that fails may still have reached the peer.
  | .send «to» envelope receipt, _, daemon =>
      some (daemon.sent { task, «to», envelope, receipt })
  | .forwardProgress «to» progress, _, daemon =>
      some (daemon.sent { task, «to», envelope := .progress progress, receipt := none })
  | .registerWaiter transferId, waiter, daemon => daemon.registerWaiter transferId waiter
  | .completeWaiter transferId result, _, daemon =>
      some { daemon with coordinator := daemon.coordinator.complete transferId result none }
  | .pendingWaiters, transferIds, daemon =>
      if transferIds.isPerm daemon.coordinator.pending.keys then some daemon else none
  | .awaitAck cancel waiter, event, daemon =>
      (daemon.coordinator.await daemon.tokens cancel waiter event).map fun coordinator =>
        { daemon with coordinator }
  | .newToken, token, daemon => daemon.handOut daemon.tokens.new token
  | .childToken parent, token, daemon => daemon.handOut (daemon.tokens.child parent) token
  | .cancelToken token, _, daemon =>
      some { daemon with tokens := daemon.tokens.cancel token }
  | .isCancelled token, answer, daemon => daemon.seesCancelled token answer
  | .spawnDisconnectWatcher token, _, daemon =>
      some { daemon with watchers := daemon.watchers ++ [token] }
  | .writeEvent event, _, daemon =>
      some { daemon with controlEvents := daemon.controlEvents ++ [(task, event)] }
  -- oracles: the disk, the clock, the network, the blob store and the client
  | .downloadCollection _ _ _, _, daemon | .collectionStatus _ _, _, daemon
  | .collectFilePreview _, _, daemon | .collectImportSources _, _, daemon
  | .downloadsBaseDir, _, daemon | .localTimestamp, _, daemon
  | .notifyFilesReceived _ _ _, _, daemon | .connectedPeers, _, daemon
  | .isLocalFeatureEnabled, _, daemon | .isPeerFeatureEnabled _, _, daemon
  | .sendResponse _, _, daemon | .readControl, _, daemon
  | .tryEmit _ _ _ _, _, daemon | .emit _ _ _ _, _, daemon => some daemon
  | .hang, response, _ => nomatch response

/-- `handle_message` on the shared state, and the transfer handler it spawns. -/
def receive (limits : ClipboardLimits) (daemon : Daemon) («from» : DeviceId)
    (envelope : SendEnvelope) (receipt : Option String) :
    Daemon × Option (SendProg Unit) :=
  let inbound : Inbound :=
    { pendingChunkedTransfers := daemon.pendingChunkedTransfers, effects := [] }
  let inbound := (inbound.handleEnvelope «from» envelope).2
  let daemon :=
    { daemon with pendingChunkedTransfers := inbound.pendingChunkedTransfers }
  match inbound.effects with
  | .spawnTransferHandler «from» payload :: _ =>
      (daemon, some do let _ ← handleTransfer limits «from» payload)
  | .complete transferId result :: _ =>
      ({ daemon with coordinator := daemon.coordinator.complete transferId result receipt },
        none)
  | .reportProgress progress :: _ =>
      ({ daemon with coordinator := daemon.coordinator.reportProgress progress }, none)
  | .spawnIncompleteChunkTimeout _ transferId :: _ =>
      ({ daemon with chunkTimers := daemon.chunkTimers ++ [transferId] }, none)
  | [] => (daemon, none)

end Daemon

/-- What happens to a daemon from outside.  A task that starts gets a new name. -/
inductive DaemonEvent where
  | receive (task : TaskId) («from» : DeviceId) (envelope : SendEnvelope)
      (receipt : Option String)
  | chunkTimeout (transferId : Uuid)
  | resumePass (task : TaskId)
  | sendFiles (task : TaskId) (request : SendFilesRequest) (turns : Nat)
  | cancelAll (task : TaskId)
  | watch (task : TaskId) (turns : Nat)

structure DaemonConfig extends SendConfig where
  limits : ClipboardLimits

def DaemonEvent.apply (config : DaemonConfig) (event : DaemonEvent) (daemon : Daemon) :
    Option (Daemon × Option (TaskId × SendProg Unit)) :=
  match event with
  | .receive task «from» envelope receipt =>
      let (daemon, handler) := daemon.receive config.limits «from» envelope receipt
      some (daemon, handler.map fun program => (task, program))
  | .chunkTimeout transferId =>
      if transferId ∈ daemon.chunkTimers then
        some ({ daemon with
          chunkTimers := daemon.chunkTimers.erase transferId
          pendingChunkedTransfers :=
            Function.update daemon.pendingChunkedTransfers transferId none }, none)
      else none
  | .resumePass task => some (daemon, some (task, resumeIncompleteReceives config.limits))
  | .sendFiles task request turns =>
      some (daemon, some (task, handleSendFiles config.toSendConfig request turns))
  | .cancelAll task => some (daemon, some (task, handleCancelAll))
  | .watch task turns =>
      match daemon.watchers with
      | [] => none
      | token :: watchers =>
          some ({ daemon with watchers }, some (task, disconnectWatcher token turns))

def daemonWorld (config : DaemonConfig) : World SendSig TaskId DaemonEvent Daemon where
  perform := Daemon.perform
  event := DaemonEvent.apply config

/-- A daemon without tasks. -/
def idle (daemon : Daemon) : Pool SendSig TaskId Daemon :=
  { state := daemon, tasks := fun _ => none }

/-- What surroundings in which nothing fails still have to choose. -/
structure Surroundings where
  peer : DeviceId
  clock : String
  imported : String
  -- the length of a file
  sizeOf : String → UInt64

/-- `collect_import_sources` where every path is a file and has a label. -/
def labelledSources (paths : List SendPathSpec) : Except String (List (String × String)) :=
  if paths = [] then .error "no files to send"
  else
    .ok ((paths.map fun path => (path.label, path.local)).insertionSort
      fun left right => left.1 ≤ right.1)

/-- The entries of a collection of files. -/
def Surroundings.entries (surroundings : Surroundings) (sources : List (String × String)) :
    List FileEntry :=
  sources.map fun (name, file) => { name, size := surroundings.sizeOf file }

/-- The answers of surroundings in which nothing fails. -/
def Daemon.oblige (surroundings : Surroundings) (daemon : Daemon) :
    (request : SendRequest) → Option request.Response
  | .lockEntry transferId =>
      some ((daemon.locks.entries transferId).getD daemon.locks.next)
  | .lockAcquire _ _ | .lockRelease _ | .removeUnusedEntry _ _ | .dropLock _ => some ()
  | .listReceiveStates => some (.ok daemon.receiveFiles.keys)
  | .listSendStates => some (.ok daemon.sendFiles.keys)
  | .readReceiveState transferId | .loadReceiveState transferId =>
      some ((daemon.receiveFiles.lookup transferId).elim (.error "no state found") .ok)
  | .readSendState transferId =>
      some ((daemon.sendFiles.lookup transferId).elim (.error "no state found") .ok)
  | .saveReceiveState _ | .removeReceiveState _ => some (.ok ())
  | .saveSendState _ | .removeSendState _ => some (.ok ())
  | .downloadCollection _ _ _ => some ([], .ok ())
  | .exportCollection _ _ _ => some ([], .ok 1)
  | .collectionStatus _ _ => some (.error "unknown collection")
  | .importSources sources _ =>
      some ([], .finished (.ok (surroundings.imported, surroundings.entries sources)))
  | .collectFilePreview paths => some ((labelledSources paths).map surroundings.entries)
  | .collectImportSources paths => some (labelledSources paths)
  | .downloadsBaseDir => some (some "downloads")
  | .localTimestamp => some surroundings.clock
  | .notifyFilesReceived _ _ _ => some ()
  | .connectedPeers => some [surroundings.peer]
  | .send _ _ _ => some (.ok ())
  | .forwardProgress _ _ => some ()
  | .registerWaiter _ => some daemon.coordinator.next
  | .completeWaiter _ _ => some ()
  | .pendingWaiters => some daemon.coordinator.pending.keys
  | .awaitAck _ waiter =>
      match daemon.coordinator.channels waiter with
      | .sent result _ => some (.acked result)
      | _ => none
  | .newToken => some daemon.tokens.new.1
  | .childToken parent => some (daemon.tokens.child parent).1
  | .cancelToken _ => some ()
  | .isCancelled token => some (daemon.tokens.isCancelled token)
  | .isLocalFeatureEnabled | .isPeerFeatureEnabled _ => some true
  | .sendResponse _ => some true
  | .spawnDisconnectWatcher _ => some ()
  | .readControl => some false
  | .tryEmit _ _ _ _ | .emit _ _ _ _ | .writeEvent _ => some ()
  | .hang => none

/-- A payload without files. -/
def emptyPayload : SendPayload :=
  { version := SEND_PAYLOAD_VERSION
    transferId := 7
    senderName := "laptop"
    collectionHash := "h1"
    entries := [] }

def deskConfig : DaemonConfig :=
  { serde := compactSerde
    localId := ⟨1⟩
    deviceName := "desk"
    sendLimits := .default
    limits := .default }

def laptop : Surroundings :=
  { peer := ⟨2⟩, clock := "20240101-000000", imported := "h1", sizeOf := fun _ => 5 }

/-- A client that asks for a transfer of one file. -/
def photosRequest : SendFilesRequest :=
  { target := ⟨2⟩, paths := [⟨"/home/photos/sea.jpg", "photos/sea.jpg"⟩], transferId := 7,
    resume := false }

end Failsafe.Send
