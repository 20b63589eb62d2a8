import Failsafe.Core.ControlFrame
import Failsafe.Daemon.ServerClient
import Failsafe.Lib.Interp
import Failsafe.Send.Control
import Failsafe.Transport.Router
import Failsafe.Transport.Stream

/-!
The control server of the daemon and the handlers of its connections
(`failsafe/src/control_server.rs`, and `control.rs` of `failsafe-shell`, `failsafe-port` and
`failsafe-send`), over what the tasks of a daemon ask of their surroundings.
-/

namespace Failsafe.Core

def ControlError.toText : ControlError → String
  | .config message => s!"configuration error: {message}"
  | .io message => s!"io error: {message}"

end Failsafe.Core

namespace Failsafe.Daemon

open Failsafe.Core Failsafe.Lib Failsafe.Transport Failsafe.Send

def SHELL_FEATURE_ID : FeatureId :=
  ⟨"shell"⟩

def PORT_FEATURE_ID : FeatureId :=
  ⟨"port_forward"⟩

structure OpenShellRequest where
  target : DeviceId
  rows : UInt16
  cols : UInt16
deriving DecidableEq, Repr

structure OpenPortForwardRequest where
  target : DeviceId
  localPort : UInt16
  remotePort : UInt16
  protocol : PortProtocol
deriving DecidableEq, Repr

inductive SendControlBody where
  | sendFiles (request : SendFilesRequest)
  | cancelAll
deriving DecidableEq, Repr

/-- What a task that is spawned has to do. -/
inductive Job where
  | connection
  | forward (target : DeviceId) (remotePort : UInt16)
deriving DecidableEq, Repr

/-- The branch that `select!` takes in the loop of a port forward. -/
inductive PortTurn where
  | accepted
  | acceptFailed
  | read (count : Nat)
  | readFailed
deriving DecidableEq, Repr

/-- The branch that `select!` takes in the loop of the daemon. -/
inductive DaemonTurn where
  | received (message : FeatureMessage (List UInt8))
  | readerStopped (error : TransportError)
  | accepted
  | acceptFailed
  | tick
  | ctrlC (result : Except String Unit)

/-- A `DaemonError`, with the cases that only `run` returns. -/
inductive RunError where
  | daemon (error : DaemonError)
  | control (error : ControlError)
  | transport (error : TransportError)
deriving DecidableEq, Repr

/-- What the tasks of a daemon ask for. -/
inductive DaemonRequest (κ : Type) where
  -- the directory of peers and the transport
  | peers (request : PeerRequest)
  -- the client of the server
  | client (request : ClientRequest κ)
  -- the file-send feature
  | send (request : SendRequest)
  -- what the daemon does to its own variables, its features and its control socket
  | readSelf
  | applySelf (devices : List DeviceInfo) (startNewFeatures : Bool)
  | shareFeatures
  | startEnabled
  | dispatch (message : FeatureMessage (List UInt8))
  | enabledFeatures
  | disable (feature : FeatureId)
  | bindControl
  | select
  | spawn (job : Job)
  | returned (result : Except RunError Unit)
  -- a connection of the control socket
  | recvEnvelope
  | sendResponse (response : ControlResponse)
  | readSharedFeatures
  | shutdownStream
  -- the sessions with other devices
  | openShellStream (target : DeviceId) (rows cols : UInt16)
  | openPortStream (target : DeviceId) (remotePort : UInt16) (protocol : PortProtocol)
  | relay
  | bindPort (localPort : UInt16)
  | portTurn
  -- never answered
  | hang
deriving DecidableEq

/-- `β` is `serde_json::Value`. -/
abbrev DaemonRequest.Response (β : Type) {κ : Type} : DaemonRequest κ → Type
  | .peers request => request.Response
  | .client request => request.Response
  | .send request => request.Response
  -- the name of the device and its features, as they are listed
  | .readSelf => String × List FeatureId
  -- the features of the device after the call
  | .applySelf _ _ => Except DaemonError (Finset FeatureId)
  -- the features that are shared
  | .shareFeatures => Finset FeatureId
  -- the order in which the features are started
  | .startEnabled => List FeatureId × Except FeatureError Unit
  | .dispatch _ => Except FeatureError Unit
  | .enabledFeatures => List FeatureId
  | .bindControl => Except ControlError Unit
  | .select => DaemonTurn
  | .recvEnvelope => Except ControlError (ControlEnvelope β)
  | .sendResponse _ => Except ControlError Unit
  | .readSharedFeatures => Finset FeatureId
  | .openShellStream _ _ _ | .openPortStream _ _ _ | .relay => Except TransportError Unit
  | .bindPort _ => Except String Unit
  | .portTurn => PortTurn
  | .hang => Empty
  | .disable _ | .spawn _ | .returned _ | .shutdownStream => Unit

abbrev DaemonSig (β κ : Type) : Signature where
  Request := DaemonRequest κ
  Response := DaemonRequest.Response β

abbrev DaemonProg (β κ : Type) := Prog (DaemonSig β κ)

variable {β κ : Type}

def demand (request : DaemonRequest κ) : DaemonProg β κ (request.Response β) :=
  .call request .ret

/-- `serde_json::from_value` for the bodies of the requests. -/
structure Bodies (β : Type) where
  shell : β → Except String OpenShellRequest
  port : β → Except String OpenPortForwardRequest
  send : β → Except String SendControlBody

/-- What the control server is made with, and how long its loops are followed. -/
structure ControlConfig (β : Type) where
  token : String
  bodies : Bodies β
  send : SendConfig
  turns : Nat

/-- `send_response(..).await?`, and then `Ok(())`. -/
def reject (message : String) : DaemonProg β κ (Except ControlError Unit) :=
  demand (.sendResponse (.error message))

/-- `PeerDirectory::is_feature_enabled`, whose second lock is only taken for a peer. -/
def isFeatureEnabled (peer : DeviceId) (feature : FeatureId) : DaemonProg β κ Bool := do
  let peers ← demand (.peers .readPeers)
  if peer ∈ peers then
    let disabled ← demand (.peers .readDisabled)
    return (peer, feature) ∉ disabled
  else return false

/-- `ShellFeatureControl::handle_control` -/
def handleShellControl (bodies : Bodies β) (localFeatures : Finset FeatureId) (body : β) :
    DaemonProg β κ (Except ControlError Unit) :=
  match bodies.shell body with
  | .error error => return .error (.config s!"invalid shell control request: {error}")
  | .ok request => do
      if SHELL_FEATURE_ID ∉ localFeatures then
        reject "shell is not enabled on this device; enable it in the web UI or with `failsafe devices features`, then wait for the daemon to sync"
      else if ← isFeatureEnabled request.target SHELL_FEATURE_ID then
        if request.target ∈ (← demand (.peers .connectedPeers)) then
          match ← demand (.openShellStream request.target request.rows request.cols) with
          | .error error => reject s!"failed to open shell: {error.toText}"
          | .ok () =>
              match ← demand (.sendResponse .ready) with
              | .error _ => return .ok ()
              | .ok () => do
                  let _ ← demand .relay
                  demand .shutdownStream
                  return .ok ()
        else reject s!"device {Uuid.toText request.target.uuid} is offline or unreachable"
      else
        reject s!"shell is not enabled on device {Uuid.toText request.target.uuid}; enable it on both devices"

/-- An error is the text of a `PortError`. -/
def prepareOutgoingPortForward (localFeatures : Finset FeatureId)
    (request : OpenPortForwardRequest) : DaemonProg β κ (Except String Unit) := do
  if PORT_FEATURE_ID ∉ localFeatures then
    return .error "port_forward is not enabled on this device; enable it in the web UI or with `failsafe devices features`, then wait for the daemon to sync"
  else if ← isFeatureEnabled request.target PORT_FEATURE_ID then
    if request.target ∈ (← demand (.peers .connectedPeers)) then
      if request.protocol ≠ .tcp then
        return .error "only tcp port forwarding is supported"
      else
        match ← demand (.bindPort request.localPort) with
        | .error error =>
            return .error s!"failed to bind local port {request.localPort.toNat}: {error}"
        | .ok () => return .ok ()
    else
      return .error s!"device {Uuid.toText request.target.uuid} is offline or unreachable"
  else
    return .error s!"port_forward is not enabled on device {Uuid.toText request.target.uuid}; enable it on both devices"

/-- The loop of `run_outgoing_port_forward`, for its first `turns` turns. -/
def runOutgoingPortForward (target : DeviceId) (remotePort : UInt16) :
    Nat → DaemonProg β κ Unit
  | 0 => .call .hang fun (response : Empty) => nomatch response
  | turns + 1 => do
      match ← demand .portTurn with
      | .accepted => do
          demand (.spawn (.forward target remotePort))
          runOutgoingPortForward target remotePort turns
      | .read (_ + 1) => runOutgoingPortForward target remotePort turns
      | .acceptFailed | .read 0 | .readFailed => return ()

/-- The task that is spawned for an accepted connection. -/
def forwardConnection (target : DeviceId) (remotePort : UInt16) : DaemonProg β κ Unit := do
  match ← demand (.openPortStream target remotePort .tcp) with
  | .error _ => return ()
  | .ok () => do
      let _ ← demand .relay

/-- `PortFeatureControl::handle_control` -/
def handlePortControl (bodies : Bodies β) (turns : Nat) (localFeatures : Finset FeatureId)
    (body : β) : DaemonProg β κ (Except ControlError Unit) :=
  match bodies.port body with
  | .error error => return .error (.config s!"invalid port forward control request: {error}")
  | .ok request => do
      match ← prepareOutgoingPortForward localFeatures request with
      | .error message => reject message
      | .ok () =>
          match ← demand (.sendResponse .ready) with
          | .error _ => return .ok ()
          | .ok () => do
              runOutgoingPortForward request.target request.remotePort turns
              return .ok ()

/-- What the file-send feature asks for, in a connection that has read the features of the
device. -/
def sendRequest (localFeatures : Finset FeatureId) :
    (request : SendRequest) → DaemonProg β κ request.Response
  | .isLocalFeatureEnabled => return decide (SEND_FEATURE_ID ∈ localFeatures)
  | .isPeerFeatureEnabled peer => isFeatureEnabled peer SEND_FEATURE_ID
  | .connectedPeers => demand (.peers .connectedPeers)
  | .sendResponse response => do
      match ← demand (.sendResponse response) with
      | .error _ => return false
      | .ok () => return true
  | request => demand (.send request)

/-- A program of the file-send feature, in a connection. -/
def inConnection {α : Type} (localFeatures : Finset FeatureId) (program : SendProg α) :
    DaemonProg β κ α :=
  program.interp (sendRequest localFeatures)

/-- `SendFeatureControl::handle_control`.  An error of the last response is dropped. -/
def handleSendControl (config : ControlConfig β) (localFeatures : Finset FeatureId) (body : β) :
    DaemonProg β κ (Except ControlError Unit) :=
  match config.bodies.send body with
  | .error error => return .error (.config s!"invalid file send control request: {error}")
  | .ok (.sendFiles request) => do
      inConnection localFeatures (handleSendFiles config.send request config.turns)
      return .ok ()
  | .ok .cancelAll => do
      inConnection localFeatures handleCancelAll
      return .ok ()

structure FeatureControl (β κ : Type) where
  controlId : FeatureId
  handleControl : Finset FeatureId → β → DaemonProg β κ (Except ControlError Unit)

def buildControlHandlers (config : ControlConfig β) : List (FeatureControl β κ) :=
  [{ controlId := SHELL_FEATURE_ID, handleControl := handleShellControl config.bodies },
   { controlId := PORT_FEATURE_ID
     handleControl := handlePortControl config.bodies config.turns },
   { controlId := SEND_FEATURE_ID, handleControl := handleSendControl config }]

/-- The loop of `dispatch_request`.  An error of a handler is only a warning. -/
def dispatchTo (localFeatures : Finset FeatureId) (request : ControlRequest β) :
    List (FeatureControl β κ) → DaemonProg β κ Unit
  | [] => do
      let _ ← demand (.sendResponse (.error s!"unknown feature `{request.feature.id}`"))
  | handler :: handlers => do
      if handler.controlId ≠ request.feature then dispatchTo localFeatures request handlers
      else
        let _ ← handler.handleControl localFeatures request.body

def dispatchRequest (config : ControlConfig β) (request : ControlRequest β) :
    DaemonProg β κ Unit := do
  let localFeatures ← demand .readSharedFeatures
  dispatchTo localFeatures request (buildControlHandlers config)

def handleConnection (config : ControlConfig β) : DaemonProg β κ Unit := do
  match ← demand .recvEnvelope with
  | .ok envelope =>
      if envelope.token = config.token then dispatchRequest config envelope.request
      else do
        let _ ← demand (.sendResponse (.error "unauthorized"))
  | .error error => do
      let _ ← demand (.sendResponse (.error error.toText))

/-- What a spawned task runs. -/
def Job.run (config : ControlConfig β) : Job → DaemonProg β κ Unit
  | .connection => handleConnection config
  | .forward target remotePort => forwardConnection target remotePort

end Failsafe.Daemon
