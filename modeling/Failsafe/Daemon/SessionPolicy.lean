import Failsafe.Daemon.Ledger
import Failsafe.Send.Wire

/-!
A daemon opens a session with another device only for a client that knows the token of the
control server, and only where the device lists of the server, at the time that the daemon took
them over, had the feature for both devices.
-/

namespace Failsafe.Daemon

open Failsafe.Core Failsafe.Lib Failsafe.Transport Failsafe.Send

section Runs

variable {β κ : Type} [DecidableEq κ] {config : DaemonConfig} {control : ControlConfig β}
  {turns : Nat} {cond : Process → ProcessLabel β κ → Prop}
  {start pool pool' : ProcessPool β κ} {labels later : List (ProcessLabel β κ)} {task : Nat}
  {request : DaemonRequest κ} {response : request.Response β} {feature : FeatureId}
  {target : DeviceId}

/-- The daemon took this list over, which the server had sent.  The features of this device are
those of its own entry; a list without one leaves them as they were. -/
def Served (selfId : DeviceId) (reached : List (ProcessLabel β κ) → ProcessPool β κ → Prop)
    (labels : List (ProcessLabel β κ)) (source : Source) : Prop :=
  ∃ before startNewFeatures after earlier,
    labels = before ++ .call Process.MAIN (.applySelf source.devices startNewFeatures)
      (.ok source.localFeatures) :: after ∧
        Fetched source.devices (trace Process.MAIN before) ∧ reached before earlier ∧
          source.localFeatures = (findSelfDevice selfId source.devices).elim
            earlier.state.policy.localFeatures fun device => device.enabledFeatures.toFinset

omit [DecidableEq κ] in
theorem features_of_applied {process process' : Process} {source : Source} {selfId : DeviceId}
    {startNewFeatures : Bool}
    (h : Effect (κ := κ) (β := β) selfId process (.applySelf source.devices startNewFeatures)
      (.ok source.localFeatures) process') :
    source.localFeatures = (findSelfDevice selfId source.devices).elim process.policy.localFeatures
      fun device => device.enabledFeatures.toFinset := by
  generalize hresult : (Except.ok source.localFeatures : Except DaemonError _) = result at h
  cases h with
  | aside hrequest => cases hrequest
  | applied happlied =>
      rename_i result policy
      cases result with
      | error error => cases hresult
      | ok changed =>
          rw [Except.ok.inj hresult]
          have hcall : (SyncCall.mk process.faults source.devices startNewFeatures).run selfId
              process.policy = (.ok changed, policy) := happlied
          cases hself : findSelfDevice selfId source.devices with
          | none =>
              simp only [applySelfFromServer, hself] at happlied
              obtain ⟨-, rfl⟩ := Prod.mk.inj happlied
              rfl
          | some device => exact (run_ok hself hcall).features

theorem run_applied (h : (daemonProcess config control turns).Run cond start labels pool)
    {source : Source} (hsource : (ledgerAfter labels).Holds source) :
    ∃ before startNewFeatures after, labels = before ++ .call Process.MAIN
      (.applySelf source.devices startNewFeatures) (.ok source.localFeatures) :: after := by
  induction h with
  | nil => exact (Ledger.holds_empty hsource).elim
  | snoc hrun hcond hstep ih =>
      rename_i middle last labels label
      have hearlier (hold : (ledgerAfter labels).Holds source) :
          ∃ before startNewFeatures after, labels ++ [label] = before ++ .call Process.MAIN
            (.applySelf source.devices startNewFeatures) (.ok source.localFeatures) :: after := by
        obtain ⟨before, startNewFeatures, after, rfl⟩ := ih hold
        exact ⟨before, startNewFeatures, after ++ [label], by simp⟩
      cases label with
      | event event =>
          rw [ledgerAfter_event] at hsource
          exact hearlier hsource
      | call task request response =>
          by_cases htask : task = Process.MAIN
          · subst htask
            rw [ledgerAfter_main] at hsource
            rcases Ledger.holds_note hsource with hold | ⟨startNewFeatures, hexchange⟩
            · exact hearlier hold
            · cases hexchange
              exact ⟨labels, startNewFeatures, [], rfl⟩
          · rw [ledgerAfter, trace_snoc_of_ne htask] at hsource
            exact hearlier hsource

theorem run_served (h : (daemonProcess config control turns).Run cond start labels pool)
    (hidle : ∀ task, start.tasks task = none) {source : Source}
    (hsource : (ledgerAfter labels).Holds source) :
    Served config.selfId ((daemonProcess config control turns).Run cond start) labels source := by
  obtain ⟨before, startNewFeatures, after, rfl⟩ := run_applied h hsource
  obtain ⟨earlier, later, hrun, -, hstep, -⟩ := h.split_inv
  obtain ⟨next, state, -, hperform, -⟩ := World.step_call hstep
  have hfetched := ((step_entitled hrun hidle hstep).of_policy rfl).2
  exact ⟨before, startNewFeatures, after, earlier, rfl, hfetched, hrun,
    features_of_applied (perform_effect (κ := κ) (β := β) hperform)⟩

omit [DecidableEq κ] in
theorem event_jobs {event : ProcessEvent} {process process' : Process}
    {started : Option (Nat × DaemonProg β κ Unit)}
    (h : Process.event config control turns event process = some (process', started)) :
    process'.jobs ⊆ process.jobs ∧ ∀ job task, event = .start job task → job ∈ process.jobs := by
  cases event with
  | boot =>
      obtain ⟨-, h⟩ := Option.ite_none_left_eq_some.mp h
      obtain ⟨rfl, -⟩ := Prod.mk.inj (Option.some.inj h)
      refine ⟨List.Subset.refl _, fun job task heq => ?_⟩
      cases heq
  | start job task =>
      obtain ⟨⟨hmem, -⟩, h⟩ := Option.ite_none_right_eq_some.mp h
      obtain ⟨rfl, -⟩ := Prod.mk.inj (Option.some.inj h)
      refine ⟨List.erase_subset, fun job' task' heq => ?_⟩
      obtain ⟨rfl, -⟩ := ProcessEvent.start.inj heq
      exact hmem
  | connect connected =>
      obtain ⟨rfl, -⟩ := Prod.mk.inj (Option.some.inj h)
      refine ⟨List.Subset.refl _, fun job task heq => ?_⟩
      cases heq
  | fail faults =>
      obtain ⟨rfl, -⟩ := Prod.mk.inj (Option.some.inj h)
      refine ⟨List.Subset.refl _, fun job task heq => ?_⟩
      cases heq

theorem run_jobs (h : (daemonProcess config control turns).Run cond start labels pool)
    (hfresh : Fresh start) :
    (∀ job ∈ pool.state.jobs, ∃ task, .call task (.spawn job) () ∈ labels) ∧
      ∀ job task, .event (.start job task) ∈ labels →
        ∃ spawner, .call spawner (.spawn job) () ∈ labels := by
  induction h with
  | nil =>
      refine ⟨?_, ?_⟩
      · rw [hfresh.jobs]
        intro job hmem
        cases hmem
      · intro job task hmem
        cases hmem
  | snoc hrun hcond hstep ih =>
      rename_i middle last labels label
      obtain ⟨hjobs, hstarts⟩ := ih
      have hspawned : ∀ job, (∃ task, .call task (.spawn job) () ∈ labels) →
          ∃ task, .call task (.spawn job) () ∈ labels ++ [label] := by
        rintro job ⟨task, hmem⟩
        exact ⟨task, List.mem_append_left _ hmem⟩
      cases label with
      | call task request response =>
          obtain ⟨next, state, -, hperform, rfl⟩ := World.step_call hstep
          refine ⟨fun job hjob => ?_, fun job started hmem => ?_⟩
          · rcases (perform_effect hperform).jobs job hjob with hold | rfl
            · exact hspawned job (hjobs job hold)
            · exact ⟨task, List.mem_append_right _ (List.mem_singleton_self _)⟩
          · rcases List.mem_append.mp hmem with hold | hlast
            · exact hspawned job (hstarts job started hold)
            · cases List.mem_singleton.mp hlast
      | event event =>
          obtain ⟨state, started, hevent, hstarted⟩ := World.step_event hstep
          obtain ⟨hkept, hstart⟩ := event_jobs hevent
          have hstate : last.state = state := by
            rcases hstarted with ⟨-, rfl⟩ | ⟨task, program, -, -, rfl⟩
            · rfl
            · rfl
          refine ⟨fun job hjob => ?_, fun job task hmem => ?_⟩
          · rw [hstate] at hjob
            exact hspawned job (hjobs job (hkept hjob))
          · rcases List.mem_append.mp hmem with hold | hlast
            · exact hspawned job (hstarts job task hold)
            · obtain rfl := Label.event.inj (List.mem_singleton.mp hlast)
              exact hspawned job (hjobs job (hstart job task rfl))

end Runs

section Sample

/-- The server lists this device and another one, both with the shell. -/
def shellDevices : List DeviceInfo :=
  [{ deviceId := ⟨1⟩, name := "desk", irohPublicKey := "k1", enabledFeatures := [SHELL_FEATURE_ID],
     lastSeen := none, online := true },
   { deviceId := ⟨2⟩, name := "laptop", irohPublicKey := "k2",
     enabledFeatures := [SHELL_FEATURE_ID], lastSeen := none, online := true }]

def shellRequest : OpenShellRequest :=
  { target := ⟨2⟩, rows := 24, cols := 80 }

def deskDaemon : DaemonConfig :=
  { selfId := ⟨1⟩, irohPublicKey := some "k1", registered := true }

def deskControl : ControlConfig OpenShellRequest :=
  { token := "secret"
    bodies :=
      { shell := .ok, port := fun _ => .error "not a port", send := fun _ => .error "not files" }
    send := { serde := compactSerde, localId := ⟨1⟩, deviceName := "desk", sendLimits := .default }
    turns := 1 }

/-- The answers of the server, of a client that asks for a shell, and of the process itself. -/
def deskOracle (_ : Nat) (process : Process) :
    (request : DaemonRequest Unit) → Option (request.Response OpenShellRequest)
  | .peers .readPeers => some ([⟨2⟩].filter (· ∈ process.directory.peers))
  | .peers .readDisabled => some process.directory.disabled
  | .peers .connectedPeers => some ([⟨2⟩].filter (· ∈ process.connected))
  | .peers (.setFeatureEnabled _ _ _) | .peers (.replacePeers _)
  | .peers (.updatePeerAddresses _) => some ()
  | .client .authToken => some "token"
  | .client (.send _) => some (.ok ())
  | .client (.receive _) =>
      some (.ok { status := .ok, body := .deviceList { devices := shellDevices } })
  | .readSelf =>
      some (process.policy.deviceName, allIds.filter (· ∈ process.policy.localFeatures))
  | .applySelf _ _ => some (.ok {SHELL_FEATURE_ID})
  | .shareFeatures => some process.policy.localFeatures
  | .startEnabled => some (allIds.filter (· ∈ process.policy.registry.enabled), .ok ())
  | .bindControl => some (.ok ())
  | .select => some .accepted
  | .spawn _ => some ()
  | .recvEnvelope =>
      some (.ok
        { token := "secret", request := { feature := SHELL_FEATURE_ID, body := shellRequest } })
  | .readSharedFeatures => some process.shared
  | .openShellStream _ _ _ | .relay => some (.ok ())
  | .sendResponse _ => some (.ok ())
  | .shutdownStream => some ()
  | _ => none

def deskPool : ProcessPool OpenShellRequest Unit where
  state :=
    { policy := sampleState
      faults := ⟨fun _ => .ok (), .saved⟩
      shared := ∅
      directory := .new
      connected := {⟨2⟩}
      booted := false
      jobs := []
      result := none }
  tasks _ := none

/-- The daemon starts and accepts a connection, which asks for a shell and uses it. -/
def deskScript : List (Move Nat ProcessEvent) :=
  .event .boot :: List.replicate 29 (.tick Process.MAIN) ++
    .event (.start .connection 1) :: List.replicate 9 (.tick 1)

end Sample

end Failsafe.Daemon
