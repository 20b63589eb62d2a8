import Failsafe.Core.Message

/-!
What the daemon and its command-line client say to each other
(`failsafe-core/src/control/mod.rs`).
-/

namespace Failsafe.Core

/-- A local file or directory to send, with the archive path the receiver sees. -/
structure SendPathSpec where
  «local» : String
  label : String
deriving DecidableEq, Repr

inductive SendPhase where
  | preparing
  | storing
  | sending
  | waitingForAck
deriving DecidableEq, Repr

inductive ControlEvent where
  | sendProgress (sequence : UInt64) (phase : SendPhase) (bytesDone bytesTotal : UInt64)
      (currentFile : Option String)
  | sendComplete (transferId : Uuid)
  | sendFailed (message : String)
deriving DecidableEq, Repr

inductive ControlResponse where
  | ready
  | error (message : String)
  | cancelTransfers (sends receives : Nat)
deriving DecidableEq, Repr

end Failsafe.Core
