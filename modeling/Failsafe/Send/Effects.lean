import Failsafe.Lib.CancelToken
import Failsafe.Lib.Pool
import Failsafe.Send.TransferState
import Failsafe.Transport.Codec

/-!
What the file-send feature asks of its surroundings: locks, state files, the
blob store, the transport, the acknowledgement waiters, cancellation tokens and
the control stream of the command-line client.
-/

namespace Failsafe.Send

open Failsafe.Core Failsafe.Lib Failsafe.Transport

abbrev LockId := Nat

abbrev WaiterId := Nat

structure BlobProgress where
  bytesDone : UInt64
  bytesTotal : UInt64
  currentFile : Option String
deriving DecidableEq, Repr

/-- A running `import_sources` is dropped when its token is cancelled first. -/
inductive ImportOutcome where
  | cancelled
  | finished (result : Except String (String × List FileEntry))

/-- The branch that `select!` takes in `wait_for_send_ack`. -/
inductive AckEvent where
  | cancelled
  | deadline
  | acked (result : Except String Unit)
  | closed
  | progress (progress : SendProgress)

inductive SendRequest where
  -- the per-transfer locks of `receive_in_progress`; `resumed` is the listed state
  -- that the caller goes on from with the lock, which the lock does not see
  | lockEntry (transferId : Uuid)
  | lockAcquire (lock : LockId) (resumed : Option ReceiveTransferState)
  | lockRelease (lock : LockId)
  | removeUnusedEntry (transferId : Uuid) (lock : LockId)
  | dropLock (lock : LockId)
  -- state files
  | listReceiveStates
  | readReceiveState (transferId : Uuid)
  | loadReceiveState (transferId : Uuid)
  | saveReceiveState (state : ReceiveTransferState)
  | removeReceiveState (transferId : Uuid)
  | listSendStates
  | readSendState (transferId : Uuid)
  | saveSendState (state : SendTransferState)
  | removeSendState (transferId : Uuid)
  -- the blob store; `transferId` only tells whose export it is
  | downloadCollection (peer : DeviceId) (root : String) (totalBytes : UInt64)
  | exportCollection (transferId : Uuid) (root destDir : String)
  | collectionStatus (root : String) (totalBytes : UInt64)
  | importSources (sources : List (String × String)) (cancel : Token)
  -- the file system and the desktop
  | collectFilePreview (paths : List SendPathSpec)
  | collectImportSources (paths : List SendPathSpec)
  | downloadsBaseDir
  | localTimestamp
  | notifyFilesReceived (senderName : String) (count : Nat) (dir : String)
  -- the transport; `receipt` is the collection hash of the receive state that an
  -- acknowledgement stands for, which is not part of the message
  | connectedPeers
  | send («to» : DeviceId) (envelope : SendEnvelope) (receipt : Option String)
  | forwardProgress («to» : DeviceId) (progress : SendProgress)
  -- the coordinator of acknowledgement waiters
  | registerWaiter (transferId : Uuid)
  | completeWaiter (transferId : Uuid) (result : Except String Unit)
  | pendingWaiters
  | awaitAck (cancel : Token) (waiter : WaiterId)
  -- cancellation
  | newToken
  | childToken (parent : Token)
  | cancelToken (token : Token)
  | isCancelled (token : Token)
  -- the control stream
  | isLocalFeatureEnabled
  | isPeerFeatureEnabled (peer : DeviceId)
  | sendResponse (response : ControlResponse)
  | spawnDisconnectWatcher (token : Token)
  | readControl
  | tryEmit (phase : SendPhase) (bytesDone bytesTotal : UInt64) (currentFile : Option String)
  | emit (phase : SendPhase) (bytesDone bytesTotal : UInt64) (currentFile : Option String)
  | writeEvent (event : ControlEvent)
  -- never answered
  | hang
deriving DecidableEq

def SendRequest.Response : SendRequest → Type
  | .lockEntry _ => LockId
  | .lockAcquire _ _ | .lockRelease _ | .removeUnusedEntry _ _ | .dropLock _ => Unit
  | .listReceiveStates | .listSendStates => Except String (List Uuid)
  | .readReceiveState _ | .loadReceiveState _ => Except String ReceiveTransferState
  | .readSendState _ => Except String SendTransferState
  | .saveReceiveState _ | .removeReceiveState _ => Except String Unit
  | .saveSendState _ | .removeSendState _ => Except String Unit
  -- the progress calls made on the way, and the result
  | .downloadCollection _ _ _ => List BlobProgress × Except String Unit
  | .exportCollection _ _ _ => List BlobProgress × Except String Nat
  | .collectionStatus _ _ => Except String (UInt64 × UInt64 × Bool)
  | .importSources _ _ => List BlobProgress × ImportOutcome
  | .collectFilePreview _ => Except String (List FileEntry)
  | .collectImportSources _ => Except String (List (String × String))
  | .downloadsBaseDir => Option String
  | .localTimestamp => String
  | .notifyFilesReceived _ _ _ => Unit
  | .connectedPeers => List DeviceId
  | .send _ _ _ => Except TransportError Unit
  | .forwardProgress _ _ => Unit
  | .registerWaiter _ => WaiterId
  | .completeWaiter _ _ => Unit
  | .pendingWaiters => List Uuid
  | .awaitAck _ _ => AckEvent
  | .newToken | .childToken _ => Token
  | .cancelToken _ => Unit
  | .isCancelled _ => Bool
  | .isLocalFeatureEnabled | .isPeerFeatureEnabled _ => Bool
  | .sendResponse _ => Bool
  | .spawnDisconnectWatcher _ => Unit
  -- `true` while the client sends data, `false` at its end or an error
  | .readControl => Bool
  | .tryEmit _ _ _ _ | .emit _ _ _ _ | .writeEvent _ => Unit
  | .hang => Empty

def SendSig : Signature where
  Request := SendRequest
  Response := SendRequest.Response

instance : DecidableEq SendSig.Request := inferInstanceAs (DecidableEq SendRequest)

abbrev SendProg := Prog SendSig

/-- An asynchronous function that returns a `Result`. -/
abbrev SendTry (ε α : Type) := ExceptT ε SendProg α

def ask (request : SendRequest) : SendProg (request.Response) :=
  .call request .ret

end Failsafe.Send
