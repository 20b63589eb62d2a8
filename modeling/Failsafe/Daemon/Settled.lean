import Failsafe.Daemon.SessionPolicy

/-!
What a daemon has while its main loop waits: its key is with the server, and what it shares and
whom it permits are those of the device list that it took over last, whatever has failed since.
-/

namespace Failsafe.Daemon

open Failsafe.Core Failsafe.Lib

variable {β κ : Type} [DecidableEq κ] {config : DaemonConfig} {control : ControlConfig β}
  {turns : Nat} {cond : Process → ProcessLabel β κ → Prop}
  {start pool : ProcessPool β κ} {labels : List (ProcessLabel β κ)}

theorem main_pending {request : DaemonRequest κ} {next : request.Response β → DaemonProg β κ Unit}
    (h : (daemonProcess config control turns).Run cond start labels pool)
    (hidle : ∀ task, start.tasks task = none)
    (hwaits : pool.tasks Process.MAIN = some (.call request next)) :
    MainGuard config (trace Process.MAIN labels) request := by
  obtain ⟨event, state, state', first, hmem, hevent, hfollows⟩ :=
    ((h.started hidle Process.MAIN).2 _ hwaits).follows
  cases event with
  | boot =>
      obtain ⟨-, hevent⟩ := Option.ite_none_left_eq_some.mp hevent
      obtain ⟨-, hstarted⟩ := Prod.mk.inj (Option.some.inj hevent)
      obtain ⟨-, rfl⟩ := Prod.mk.inj (Option.some.inj hstarted)
      exact ((runDaemon_guarded config turns).follows hfollows).1
  | start job task =>
      obtain ⟨⟨-, hother⟩, hevent⟩ := Option.ite_none_right_eq_some.mp hevent
      obtain ⟨-, hstarted⟩ := Prod.mk.inj (Option.some.inj hevent)
      exact (hother (Prod.mk.inj (Option.some.inj hstarted)).1).elim
  | connect connected => cases (Prod.mk.inj (Option.some.inj hevent)).2
  | fail faults => cases (Prod.mk.inj (Option.some.inj hevent)).2

/-- What the daemon has is what this list says. -/
structure InLine (selfId : DeviceId) (list : Source) (process : Process) : Prop where
  shared : process.shared = list.localFeatures
  peers : process.directory.peers = (otherIds selfId list.devices).toFinset
  enabled : (list.devices.map DeviceInfo.deviceId).Nodup → ∀ peer, ∀ feature ∈ allIds,
    process.directory.isFeatureEnabled peer feature = true ↔
      Permits selfId list.localFeatures list.devices feature peer

omit [DecidableEq κ] in
theorem Settled.inLine {list : Source} {process : Process}
    (h : Settled config.selfId (ledgerAfter labels) list) (hagrees : Agrees labels process) :
    InLine config.selfId list process := by
  obtain ⟨old, hdirectory⟩ := h.directory
  refine ⟨?_, ?_, fun hdistinct peer feature hfeature => ?_⟩
  · rw [hagrees.shared, h.shared, Option.elim_some]
  · rw [hagrees.directory, hdirectory]
    simp [peerUpdates, applied, List.foldl_append, updated]
  · rw [PeerDirectory.isFeatureEnabled_iff, hagrees.directory, hdirectory]
    exact permitted_iff_view hdistinct hfeature

/-- The device is registered with its key, and the daemon is in line with the list of the server
that it took over last. -/
structure InService (config : DaemonConfig)
    (reached : List (ProcessLabel β κ) → ProcessPool β κ → Prop)
    (labels : List (ProcessLabel β κ)) (process : Process) : Prop where
  registered : Registered config (trace Process.MAIN labels)
  list : ∃ list, (ledgerAfter labels).taken = some list ∧
    Served config.selfId reached labels list ∧ InLine config.selfId list process

theorem serving_inService (h : (daemonProcess config control turns).Run cond start labels pool)
    (hfresh : Fresh start) (hserving : Serving config (trace Process.MAIN labels)) :
    InService config ((daemonProcess config control turns).Run cond start) labels pool.state := by
  obtain ⟨hregistered, list, hsettled⟩ := hserving
  refine ⟨hregistered, list, hsettled.taken, ?_, hsettled.inLine (run_agrees h hfresh)⟩
  exact run_served h hfresh.idle (.inr (.inl hsettled.taken))

/-- While the main loop waits for its next turn, the daemon is in service. -/
theorem waiting_inLine (h : (daemonProcess config control turns).Run cond start labels pool)
    (hfresh : Fresh start) {next : DaemonTurn → DaemonProg β κ Unit}
    (hwaits : pool.tasks Process.MAIN = some (.call .select next)) :
    InService config ((daemonProcess config control turns).Run cond start) labels pool.state :=
  serving_inService h hfresh (main_pending h hfresh.idle hwaits)

def waitsForTurn (pool : ProcessPool β κ) : Bool :=
  match pool.tasks Process.MAIN with
  | some (.call .select _) => true
  | _ => false

omit [DecidableEq κ] in
theorem exists_next (h : waitsForTurn pool = true) :
    ∃ next : DaemonTurn → DaemonProg β κ Unit,
      pool.tasks Process.MAIN = some (.call .select next) := by
  unfold waitsForTurn at h
  split at h
  · rename_i next htask
    exact ⟨next, htask⟩
  · cases h

/-- The daemon waits for its first turn. -/
theorem desk_inLine : ∃ labels pool next,
    (daemonProcess deskDaemon deskControl 1).Run (fun _ _ => True) deskPool labels pool ∧
      pool.tasks Process.MAIN = some (.call .select next) ∧
        InService deskDaemon
          ((daemonProcess deskDaemon deskControl 1).Run (fun _ _ => True) deskPool) labels
          pool.state := by
  have hsome : ((daemonProcess deskDaemon deskControl 1).follow (fun _ _ => True) deskOracle
      (deskScript.take 28) deskPool).any (fun result => waitsForTurn result.2) = true := by
    decide +kernel
  obtain ⟨⟨labels, pool⟩, hfollow, hend⟩ := (Option.any_eq_true _ _).mp hsome
  obtain ⟨next, hnext⟩ := exists_next hend
  have hrun := World.run_of_follow hfollow
  exact ⟨labels, pool, next, hrun, hnext,
    waiting_inLine hrun ⟨fun _ => rfl, rfl, rfl, rfl⟩ hnext⟩

end Failsafe.Daemon
