import Failsafe.Daemon.Settled

/-!
What a client of the control server is told: one response at most, and that it can start only
where it may.
-/

namespace Failsafe.Daemon

open Failsafe.Core Failsafe.Lib

section Replies

variable {β κ : Type} {log : List (Exchange (DaemonSig β κ))}

theorem replies_snoc_silent {exchange : Exchange (DaemonSig β κ)}
    (h : exchange.request.isReply = false) : replies (log ++ [exchange]) = replies log := by
  have hsilent : replies [exchange] = [] := List.filter_cons_of_neg (by simp [h])
  rw [replies, List.filter_append]
  change replies log ++ replies [exchange] = _
  rw [hsilent, List.append_nil]

theorem replies_once (h : ∀ before exchange after, log = before ++ exchange :: after →
    exchange.request.isReply = true → Unanswered before) : (replies log).length ≤ 1 := by
  induction log using List.reverseRecOn with
  | nil => exact Nat.zero_le 1
  | append_singleton log exchange ih =>
      cases hreply : exchange.request.isReply with
      | true =>
          rw [(h log exchange [] rfl hreply).replies_snoc hreply]
          exact Nat.le_refl 1
      | false =>
          rw [replies_snoc_silent hreply]
          refine ih fun before earlier after hlog => h before earlier (after ++ [exchange]) ?_
          rw [hlog, List.append_assoc, List.cons_append]

end Replies

section Runs

variable {β κ : Type} [DecidableEq κ] {config : DaemonConfig} {control : ControlConfig β}
  {turns : Nat} {cond : Process → ProcessLabel β κ → Prop}
  {start pool : ProcessPool β κ} {labels later : List (ProcessLabel β κ)} {task : Nat}
  {request : DaemonRequest κ} {response : request.Response β}

/-- The task that an event starts. -/
def ProcessEvent.starts : ProcessEvent → Option Nat
  | .boot => some Process.MAIN
  | .start _ task => some task
  | .connect _ | .fail _ => none

omit [DecidableEq κ] in
theorem event_starts {event : ProcessEvent} {process process' : Process}
    {started : Option (Nat × DaemonProg β κ Unit)}
    (h : (daemonProcess config control turns).event event process = some (process', started)) :
    started.map Prod.fst = event.starts := by
  cases event with
  | boot =>
      obtain ⟨-, h⟩ := Option.ite_none_left_eq_some.mp h
      obtain ⟨-, rfl⟩ := Prod.mk.inj (Option.some.inj h)
      rfl
  | start job task =>
      obtain ⟨-, h⟩ := Option.ite_none_right_eq_some.mp h
      obtain ⟨-, rfl⟩ := Prod.mk.inj (Option.some.inj h)
      rfl
  | connect connected =>
      obtain ⟨-, rfl⟩ := Prod.mk.inj (Option.some.inj h)
      rfl
  | fail faults =>
      obtain ⟨-, rfl⟩ := Prod.mk.inj (Option.some.inj h)
      rfl

theorem start_unique (h : (daemonProcess config control turns).Run cond start labels pool)
    {event event' : ProcessEvent} (hevent : .event event ∈ labels)
    (hevent' : .event event' ∈ labels) (htask : event.starts = some task)
    (htask' : event'.starts = some task) : event = event' :=
  h.event_unique (fun _ _ _ _ => event_starts) hevent hevent' htask htask'

theorem started_ne_main (h : (daemonProcess config control turns).Run cond start labels pool)
    {job : Job} (hmem : .event (.start job task) ∈ labels) : task ≠ Process.MAIN := by
  obtain ⟨before, after, rfl⟩ := List.append_of_mem hmem
  obtain ⟨_, _, -, -, hstep, -⟩ := h.split_inv
  obtain ⟨_, _, hevent, -⟩ := World.step_event hstep
  exact (Option.ite_none_right_eq_some.mp hevent).1.2

theorem connection_gate (h : (daemonProcess config control turns).Run cond start
      (labels ++ .call task request response :: later) pool)
    (hidle : ∀ task, start.tasks task = none)
    (hmem : .event (.start .connection task) ∈ labels ++ .call task request response :: later) :
    Gate control (trace task labels) request := by
  obtain ⟨before, after, hrun, -, hstep, -⟩ := h.split_inv
  cases step_entitled hrun hidle hstep with
  | loop hguard => exact (started_ne_main h hmem rfl).elim
  | connection hstart hother hgate => exact hgate
  | forward hstart hother hguard =>
      cases start_unique h hmem (List.mem_append_left _ hstart) rfl rfl

theorem accepted_inService (h : (daemonProcess config control turns).Run cond start
      (labels ++ .event (.start .connection task) :: later) pool) (hfresh : Fresh start) :
    ∃ earlier middle serving, labels = earlier ++ .call Process.MAIN (.spawn .connection) () ::
        middle ∧
      (daemonProcess config control turns).Run cond start earlier serving ∧
        InService config ((daemonProcess config control turns).Run cond start) earlier
          serving.state := by
  obtain ⟨before, after, hrun, -, hstep, -⟩ := h.split_inv
  obtain ⟨state, started, hevent, -⟩ := World.step_event hstep
  have hjob := (Option.ite_none_right_eq_some.mp hevent).1.1
  obtain ⟨spawner, hspawned⟩ := (run_jobs hrun hfresh).1 _ hjob
  obtain ⟨earlier, middle, rfl⟩ := List.append_of_mem hspawned
  obtain ⟨serving, _, hearlier, -, hspawn, -⟩ := hrun.split_inv
  cases step_entitled hearlier hfresh.idle hspawn with
  | loop hguard =>
      exact ⟨earlier, middle, serving, rfl, hearlier, serving_inService hearlier hfresh hguard⟩
  | connection _ _ hgate => exact absurd hgate.served Bool.false_ne_true
  | forward _ _ hguard => exact hguard.elim

/-- What a connection has said to its client. -/
structure Conversation (config : DaemonConfig) (control : ControlConfig β)
    (reached : List (ProcessLabel β κ) → ProcessPool β κ → Prop)
    (labels : List (ProcessLabel β κ)) (task : Nat) (finished : Bool) : Prop where
  -- the daemon was in service when it accepted the connection
  accepted : ∃ earlier middle later serving, labels =
      (earlier ++ .call Process.MAIN (.spawn .connection) () :: middle) ++
        .event (.start .connection task) :: later ∧
    reached earlier serving ∧ InService config reached earlier serving.state
  once : (replies (trace task labels)).length ≤ 1
  answered : finished = true → Answered control (trace task labels)
  ready : ∀ before sent after,
    labels = before ++ .call task (.sendResponse .ready) sent :: after →
      Admitted control (trace task before)
  session : ∀ before request response after,
    labels = before ++ .call task request response :: after → request.inSession = true →
      .call task (.sendResponse .ready) (.ok ()) ∈ before

/-- In every run, a client is only accepted by a daemon in service, is told once how its request
went, and its session starts only after that. -/
theorem connections_answered
    (h : (daemonProcess config control turns).Run cond start labels pool)
    (hfresh : Fresh start) (hmem : .event (.start .connection task) ∈ labels) :
    Conversation config control ((daemonProcess config control turns).Run cond start) labels task
      (pool.finished task) := by
  have hidle := hfresh.idle
  refine ⟨?_, ?_, ?_, ?_, ?_⟩
  · obtain ⟨before, later, rfl⟩ := List.append_of_mem hmem
    obtain ⟨earlier, middle, serving, rfl, hreached, hservice⟩ := accepted_inService h hfresh
    exact ⟨earlier, middle, later, serving, rfl, hreached, hservice⟩
  · refine replies_once fun before exchange after htrace hreply => ?_
    obtain ⟨earlier, rest, _, _, rfl, hearlier, -⟩ := h.split_trace htrace
    rw [← hearlier]
    exact (connection_gate h hidle hmem).reply hreply
  · intro hfinished
    obtain ⟨event, state, state', first, hevents, hevent, hfollows⟩ :=
      ((h.started hidle task).2 _ (Pool.finished_iff.mp hfinished)).follows
    obtain rfl := start_unique h hevents hmem (event_starts hevent).symm rfl
    obtain ⟨-, hevent⟩ := Option.ite_none_right_eq_some.mp hevent
    obtain ⟨-, hstarted⟩ := Prod.mk.inj (Option.some.inj hevent)
    obtain ⟨-, rfl⟩ := Prod.mk.inj (Option.some.inj hstarted)
    exact (handleConnection_ensures control).follows hfollows
  · rintro before sent after rfl
    exact (connection_gate h hidle hmem).ready rfl
  · rintro before request response after rfl hsession
    exact mem_trace.mp ((connection_gate h hidle hmem).session hsession)

end Runs

/-- The client that asks for a shell is told once that it can start. -/
theorem shell_answered : ∃ labels pool,
    (daemonProcess deskDaemon deskControl 1).Run (fun _ _ => True) deskPool labels pool ∧
      pool.finished 1 = true ∧ Conversation deskDaemon deskControl
        ((daemonProcess deskDaemon deskControl 1).Run (fun _ _ => True) deskPool) labels 1
        (pool.finished 1) := by
  have hsome : ((daemonProcess deskDaemon deskControl 1).follow (fun _ _ => True) deskOracle
      deskScript deskPool).any (fun result => result.2.finished 1) = true := by
    decide +kernel
  obtain ⟨⟨labels, pool⟩, hfollow, hend⟩ := (Option.any_eq_true _ _).mp hsome
  have hrun := World.run_of_follow hfollow
  have hmem : .event (.start .connection 1) ∈ labels :=
    World.event_of_follow hfollow (by simp [deskScript])
  exact ⟨labels, pool, hrun, hend,
    connections_answered hrun ⟨fun _ => rfl, rfl, rfl, rfl⟩ hmem⟩

end Failsafe.Daemon
