import Failsafe.Daemon.ControlServer
import Failsafe.Daemon.PeerPolicy

/-!
The process of a daemon: its main loop (`failsafe/src/daemon.rs`), which keeps the features and
the directory in line with the server, beside the control connections that it accepts and the
connections that are forwarded.
-/

namespace Failsafe.Daemon

open Failsafe.Core Failsafe.Lib Failsafe.Transport Failsafe.Send

section Client

variable {κ : Type}

def upsertDevice (request : DeviceUpsertRequest) : ClientTry κ DaemonError Unit := do
  let response ← ExceptT.adapt (fun error => .config ("device upsert failed: " ++ error))
    (sendAuthenticated (.upsertDevice request.deviceId.uuid request))
  ExceptT.mk (.ret (mapDeviceMutationResponse response "device upsert"))

end Client

/-- What a daemon is built with. -/
structure DaemonConfig where
  selfId : DeviceId
  irohPublicKey : Option String
  -- `server_client` is there
  registered : Bool

section Programs

variable {β κ : Type}

abbrev DaemonTry (β κ ε α : Type) := ExceptT ε (DaemonProg β κ) α

/-- What the client of the server asks for, in the daemon. -/
def clientRequest (selfId : DeviceId) :
    (request : ClientRequest κ) → DaemonProg β κ request.Response
  | .applyDevices devices startNewFeatures => do
      match ← demand (.applySelf devices startNewFeatures) with
      | .error error => return .error error
      | .ok localFeatures => do
          (applyServerDevices selfId localFeatures devices).interp
            fun request => demand (.peers request)
          return .ok ()
  | .shareFeatures => do
      let _ ← demand .shareFeatures
  | request => demand (.client request)

/-- A call of the client. -/
def fromClient {α : Type} (selfId : DeviceId) (call : ClientTry κ DaemonError α) :
    DaemonTry β κ RunError α :=
  ExceptT.mk (call.run.interp (clientRequest selfId) >>= fun result =>
    .ret (result.mapError .daemon))

def registerTransportWithServer (config : DaemonConfig) : DaemonTry β κ RunError Unit := do
  match config.irohPublicKey with
  | none => throw (.daemon (.config "iroh public key is required"))
  | some irohPublicKey => do
      let (name, enabledFeatures) ← (demand .readSelf : DaemonProg β κ _)
      fromClient config.selfId
        (upsertDevice { deviceId := config.selfId, name, irohPublicKey, enabledFeatures })

def disableAll : List FeatureId → DaemonProg β κ Unit
  | [] => return ()
  | feature :: features => do
      demand (.disable feature)
      disableAll features

def shutdown : DaemonProg β κ Unit := do
  let enabled ← demand .enabledFeatures
  disableAll enabled

/-- The loop of `run`, for its first `turns` turns. -/
def daemonLoop (selfId : DeviceId) : Nat → DaemonProg β κ (Except RunError Unit)
  | 0 => .call .hang fun (response : Empty) => nomatch response
  | turns + 1 => do
      match ← demand .select with
      | .received message => do
          let _ ← demand (.dispatch message)
          daemonLoop selfId turns
      | .readerStopped error => return .error (.transport error)
      | .accepted => do
          demand (.spawn .connection)
          daemonLoop selfId turns
      | .acceptFailed => daemonLoop selfId turns
      | .tick => do
          match ← (fromClient selfId (handleSyncTick selfId)).run with
          | .error error => return .error error
          | .ok () => daemonLoop selfId turns
      | .ctrlC (.error error) => return .error (.daemon (.io error))
      | .ctrlC (.ok ()) => do
          shutdown
          return .ok ()

/-- What `run` does before its loop. -/
def startDaemon (config : DaemonConfig) : DaemonTry β κ RunError Unit := do
  if !config.registered then
    throw (.daemon (.config "server_url and credentials are required; run `failsafe register`, `failsafe login`, or `failsafe pair --code`"))
  fromClient config.selfId (syncFromServer false)
  registerTransportWithServer config
  fromClient config.selfId (syncFromServer false)
  let (_, started) ← (demand .startEnabled : DaemonProg β κ _)
  ExceptT.mk (.ret (started.mapError fun error => .daemon (.feature error)))
  let _ ← (demand .shareFeatures : DaemonProg β κ _)
  let bound ← (demand .bindControl : DaemonProg β κ _)
  ExceptT.mk (.ret (bound.mapError .control))

/-- `Daemon::run`, for a daemon with an `IrohTransport`. -/
def runDaemon (config : DaemonConfig) (turns : Nat) : DaemonProg β κ Unit := do
  match ← (startDaemon config).run with
  | .error error => demand (.returned (.error error))
  | .ok () => do
      let result ← daemonLoop config.selfId turns
      demand (.returned result)

end Programs

/-- What the tasks of a daemon share, with the daemon's own variables. -/
structure Process where
  policy : PolicyState
  -- what the fallible steps of the next call come to
  faults : Faults
  shared : Finset FeatureId
  directory : PeerDirectory
  connected : Finset DeviceId
  booted : Bool
  -- the tasks that were spawned and have not started
  jobs : List Job
  result : Option (Except RunError Unit)

inductive ProcessEvent where
  | boot
  | start (job : Job) (task : Nat)
  | connect (connected : Finset DeviceId)
  | fail (faults : Faults)

/-- The loop of `start_enabled`. -/
def startAll (start : FeatureId → Except FeatureError Unit) :
    List FeatureId → FeatureRegistry → Except FeatureError Unit × FeatureRegistry
  | [], registry => (.ok (), registry)
  | id :: ids, registry =>
      match start id with
      | .error error => (.error error, registry)
      | .ok () => startAll start ids { registry with started := insert id registry.started }

/-- An answer lists a set in the order of its iteration. -/
def Listed {α : Type} [DecidableEq α] (order : List α) (set : Finset α) : Prop :=
  order.Nodup ∧ order.toFinset = set

instance {α : Type} [DecidableEq α] (order : List α) (set : Finset α) :
    Decidable (Listed order set) :=
  inferInstanceAs (Decidable (_ ∧ _))

namespace Process

variable {β κ : Type} (selfId : DeviceId)

def performPeers : (request : PeerRequest) → request.Response → Process → Option Process
  | .setFeatureEnabled peer feature enabled, _, process =>
      some { process with
        directory := process.directory.setFeatureEnabled peer feature enabled }
  | .replacePeers peers, _, process =>
      some { process with directory := process.directory.replacePeers peers }
  | .readPeers, (peers : List DeviceId), process =>
      if Listed peers process.directory.peers then some process else none
  | .readDisabled, (disabled : Finset (DeviceId × FeatureId)), process =>
      if disabled = process.directory.disabled then some process else none
  | .connectedPeers, (connected : List DeviceId), process =>
      if Listed connected process.connected then some process else none
  | _, _, process => some process

/-- What a request does.  What the server, the streams and the file-send feature answer is left
open. -/
def perform : (request : DaemonRequest κ) → request.Response β → Process → Option Process
  | .peers request, response, process => performPeers request response process
  | .readSelf, (self : String × List FeatureId), process =>
      if self.1 = process.policy.deviceName ∧ Listed self.2 process.policy.localFeatures then
        some process
      else none
  | .applySelf devices startNewFeatures, (result : Except DaemonError (Finset FeatureId)),
      process =>
      let applied :=
        applySelfFromServer process.faults selfId devices startNewFeatures process.policy
      if result = applied.1.map fun _ => applied.2.localFeatures then
        some { process with policy := applied.2 }
      else none
  | .shareFeatures, (features : Finset FeatureId), process =>
      if features = process.policy.localFeatures then some { process with shared := features }
      else none
  | .readSharedFeatures, (features : Finset FeatureId), process =>
      if features = process.shared then some process else none
  | .startEnabled, (started : List FeatureId × Except FeatureError Unit), process =>
      let registry := startAll process.faults.start started.1 process.policy.registry
      if Listed started.1 process.policy.registry.enabled ∧ started.2 = registry.1 then
        some { process with policy := { process.policy with registry := registry.2 } }
      else none
  | .dispatch message, (result : Except FeatureError Unit), process =>
      match process.policy.registry.dispatch message with
      | .ok _ => some process
      | .error error => if result = .error error then some process else none
  | .enabledFeatures, (enabled : List FeatureId), process =>
      if Listed enabled process.policy.registry.enabled then some process else none
  | .disable feature, _, process =>
      some { process with policy := { process.policy with
        registry := process.policy.registry.disable feature } }
  | .spawn job, _, process => some { process with jobs := process.jobs ++ [job] }
  | .returned result, _, process => some { process with result := some result }
  | _, _, process => some process

/-- The name of the task that runs the main loop. -/
def MAIN : Nat := 0

def event (config : DaemonConfig) (control : ControlConfig β) (turns : Nat) :
    ProcessEvent → Process → Option (Process × Option (Nat × DaemonProg β κ Unit))
  | .boot, process =>
      if process.booted then none
      else some ({ process with booted := true }, some (MAIN, runDaemon config turns))
  | .start job task, process =>
      if job ∈ process.jobs ∧ task ≠ MAIN then
        some ({ process with jobs := process.jobs.erase job }, some (task, job.run control))
      else none
  | .connect connected, process => some ({ process with connected }, none)
  | .fail faults, process => some ({ process with faults }, none)

end Process

/-- A daemon, with everyone who connects to it. -/
def daemonProcess {β κ : Type} (config : DaemonConfig) (control : ControlConfig β)
    (turns : Nat) : World (DaemonSig β κ) Nat ProcessEvent Process where
  perform _ := Process.perform config.selfId
  event := Process.event config control turns

end Failsafe.Daemon
