import Failsafe.Daemon.Settled

/-!
How a daemon ends: `run` returns without an error only after an interrupt, when it has disabled
every feature that was enabled then, and no feature is enabled afterwards, whatever the tasks that
are left still do.
-/

namespace Failsafe.Daemon

open Failsafe.Core Failsafe.Lib Failsafe.Transport Failsafe.Send

section Registry

variable {registry : FeatureRegistry} {ids : List FeatureId}
  {start : FeatureId → Except FeatureError Unit}

theorem startAll_enabled : (startAll start ids registry).2.enabled = registry.enabled := by
  induction ids generalizing registry with
  | nil => rfl
  | cons id ids ih =>
      rw [startAll]
      split
      · rfl
      · rw [ih]

end Registry

section Histories

variable {β κ : Type} {selfId : DeviceId} {config : DaemonConfig}
  {log : List (Exchange (DaemonSig β κ))}

/-- Which of the features that were listed are still to be disabled. -/
def leftAfter (left : Option (List FeatureId)) :
    Exchange (DaemonSig β κ) → Option (List FeatureId)
  | ⟨.enabledFeatures, (enabled : List FeatureId)⟩ => some enabled
  | ⟨.disable feature, _⟩ => left.map fun features => features.filter (· ≠ feature)
  | ⟨.applySelf _ _, _⟩ => none
  | _ => left

def leftEnabled (log : List (Exchange (DaemonSig β κ))) : Option (List FeatureId) :=
  log.foldl leftAfter none

theorem leftEnabled_snoc (exchange : Exchange (DaemonSig β κ)) :
    leftEnabled (log ++ [exchange]) = leftAfter (leftEnabled log) exchange := by
  rw [leftEnabled, List.foldl_append]
  rfl

/-- Every one of these features is disabled. -/
def disabling (features : List FeatureId) : List (Exchange (DaemonSig β κ)) :=
  features.map fun feature => ⟨.disable feature, ()⟩

theorem foldl_disabling {features rest : List FeatureId} (hrest : rest ⊆ features) :
    (disabling features : List (Exchange (DaemonSig β κ))).foldl leftAfter (some rest) =
      some [] := by
  induction features generalizing rest with
  | nil => rw [List.subset_nil.mp hrest, disabling, List.map_nil, List.foldl_nil]
  | cons feature features ih =>
      rw [disabling, List.map_cons, List.foldl_cons]
      refine ih fun other hother => ?_
      obtain ⟨hmem, hne⟩ := List.mem_filter.mp hother
      exact (List.mem_cons.mp (hrest hmem)).resolve_left (of_decide_eq_true hne)

def DaemonRequest.isReturn : DaemonRequest κ → Bool
  | .returned _ => true
  | _ => false

/-- Not a return from `run`. -/
def Returnless (request : DaemonRequest κ) : Prop :=
  request.isReturn = false

def Unfinished (log : List (Exchange (DaemonSig β κ))) : Prop :=
  ∀ exchange ∈ log, Returnless exchange.request

theorem Unfinished.snoc (h : Unfinished log) {exchange : Exchange (DaemonSig β κ)}
    (hexchange : Returnless exchange.request) : Unfinished (log ++ [exchange]) :=
  List.forall_mem_append.mpr ⟨h, fun other hother => by
    rw [List.mem_singleton.mp hother]
    exact hexchange⟩

/-- The loop was interrupted, and has disabled the features that were enabled then, each once. -/
def Stopped (log : List (Exchange (DaemonSig β κ))) (features : List FeatureId) : Prop :=
  ∃ before, log =
    before ++ ⟨.select, .ctrlC (.ok ())⟩ :: ⟨.enabledFeatures, features⟩ :: disabling features

theorem Stopped.leftEnabled {features : List FeatureId} (h : Stopped log features) :
    leftEnabled log = some [] := by
  obtain ⟨before, rfl⟩ := h
  rw [Daemon.leftEnabled, List.foldl_append, List.foldl_cons, List.foldl_cons]
  exact foldl_disabling (List.Subset.refl features)

/-- Nothing is asked for after the return, which says that all went well only at the end of a
shutdown. -/
structure QuitGuard (log : List (Exchange (DaemonSig β κ))) (request : DaemonRequest κ) :
    Prop where
  unfinished : Unfinished log
  stopped : request = .returned (.ok ()) → ∃ features, Stopped log features

theorem quit_free (h : Unfinished log) {request : DaemonRequest κ}
    (hrequest : Returnless request) : QuitGuard log request := by
  refine ⟨h, ?_⟩
  rintro rfl
  cases hrequest

theorem returnless_ensures {α : Type} {p : DaemonProg β κ α}
    (hp : p.All Returnless) (h : Unfinished log) :
    p.Ensures QuitGuard Prog.heard (fun _ log' => Unfinished log') log := by
  refine Prog.Ensures.of_all (I := Unfinished) hp (fun _ _ hlog hrequest => quit_free hlog hrequest)
    ?_ (fun _ _ hlog => hlog) h
  rintro request response log _ hrequest hlog rfl
  exact hlog.snoc hrequest

theorem clientRequest_returnless (request : ClientRequest κ) :
    (clientRequest selfId request : DaemonProg β κ _).All
      Returnless := by
  cases request with
  | applyDevices devices startNewFeatures =>
      refine ⟨rfl, ?_⟩
      rintro (error | localFeatures)
      · trivial
      · have hpeers : ((applyServerDevices selfId localFeatures devices).interp
            fun request => demand (.peers request) : DaemonProg β κ Unit).All Returnless :=
          Prog.All.interp (Prog.all_any _) fun request _ => ⟨rfl, fun _ => trivial⟩
        exact hpeers.bind fun _ => trivial
  | _ => exact ⟨rfl, fun _ => trivial⟩

theorem fromClient_returnless {α : Type} (call : ClientTry κ DaemonError α) :
    (fromClient selfId call : DaemonTry β κ RunError α).run.All
      Returnless :=
  (Prog.All.interp (Prog.all_any _) fun request _ => clientRequest_returnless request).bind
    fun _ => trivial

theorem demand_returnless {request : DaemonRequest κ} (hrequest : Returnless request) :
    (liftM (demand request : DaemonProg β κ _) : DaemonTry β κ RunError _).run.All
      Returnless :=
  Prog.All.lift ⟨hrequest, fun _ => trivial⟩

theorem registerTransportWithServer_returnless :
    (registerTransportWithServer config : DaemonTry β κ RunError Unit).run.All
      Returnless := by
  unfold registerTransportWithServer
  split
  · trivial
  · exact Prog.All.tryBind (demand_returnless rfl) fun self => fromClient_returnless _

theorem startDaemon_returnless :
    (startDaemon config : DaemonTry β κ RunError Unit).run.All
      Returnless := by
  unfold startDaemon
  split
  · trivial
  · refine Prog.All.tryBind (fromClient_returnless _) fun _ => ?_
    refine Prog.All.tryBind registerTransportWithServer_returnless fun _ => ?_
    refine Prog.All.tryBind (fromClient_returnless _) fun _ => ?_
    refine Prog.All.tryBind (demand_returnless rfl) fun started => ?_
    refine Prog.All.tryBind trivial fun _ => ?_
    refine Prog.All.tryBind (demand_returnless rfl) fun _ => ?_
    refine Prog.All.tryBind (demand_returnless rfl) fun bound => ?_
    trivial

theorem disableAll_quits {features : List FeatureId} (hlog : Unfinished log) :
    (disableAll features : DaemonProg β κ Unit).Ensures QuitGuard Prog.heard
      (fun _ log' => Unfinished log' ∧ log' = log ++ disabling features) log := by
  induction features generalizing log with
  | nil => exact ⟨hlog, (List.append_nil log).symm⟩
  | cons feature features ih =>
      refine ⟨quit_free hlog rfl, ?_⟩
      rintro done _ rfl
      have hdone : Unfinished (log ++ [⟨.disable feature, done⟩]) := hlog.snoc rfl
      refine (ih hdone).mono ?_
      rintro _ log' ⟨hunfinished, rfl⟩
      refine ⟨hunfinished, ?_⟩
      rw [List.append_assoc]
      rfl

theorem daemonLoop_quits (turns : Nat) (hlog : Unfinished log) :
    (daemonLoop selfId turns : DaemonProg β κ _).Ensures QuitGuard Prog.heard
      (fun result log' => Unfinished log' ∧
        (result = .ok () → ∃ features, Stopped log' features)) log := by
  induction turns generalizing log with
  | zero => exact ⟨quit_free hlog rfl, fun response => Empty.elim response⟩
  | succ turns ih =>
      refine ⟨quit_free hlog rfl, ?_⟩
      rintro turn _ rfl
      have hturn : Unfinished (log ++ [⟨.select, turn⟩]) := hlog.snoc rfl
      cases turn with
      | received message =>
          refine ⟨quit_free hturn rfl, ?_⟩
          rintro dispatched _ rfl
          exact ih (hturn.snoc rfl)
      | readerStopped error =>
          refine ⟨hturn, fun hok => ?_⟩
          cases hok
      | accepted =>
          refine ⟨quit_free hturn rfl, ?_⟩
          rintro spawned _ rfl
          exact ih (hturn.snoc rfl)
      | acceptFailed => exact ih hturn
      | tick =>
          refine Prog.ensures_bind.mpr (Prog.ensures_ret.mpr (Prog.ensures_bind.mpr ?_))
          refine (returnless_ensures (fromClient_returnless _) hturn).mono ?_
          intro result log' hlog'
          cases result with
          | error error =>
              refine ⟨hlog', fun hok => ?_⟩
              cases hok
          | ok done => exact ih hlog'
      | ctrlC result =>
          cases result with
          | error error =>
              refine ⟨hturn, fun hok => ?_⟩
              cases hok
          | ok done =>
              refine ⟨quit_free hturn rfl, ?_⟩
              rintro enabled _ rfl
              have hlisted : Unfinished (log ++ [⟨.select, .ctrlC (.ok done)⟩] ++
                  [⟨.enabledFeatures, enabled⟩]) := hturn.snoc rfl
              refine Prog.ensures_bind.mpr ((disableAll_quits hlisted).mono ?_)
              rintro _ log' ⟨hlog', rfl⟩
              refine ⟨hlog', fun _ => ⟨enabled, log, ?_⟩⟩
              rw [List.append_assoc, List.append_assoc]
              rfl

theorem runDaemon_quits (config : DaemonConfig) (turns : Nat) :
    (runDaemon config turns : DaemonProg β κ Unit).Ensures QuitGuard Prog.heard
      (fun _ _ => True) [] := by
  have hfresh : Unfinished ([] : List (Exchange (DaemonSig β κ))) :=
    fun _ hmem => absurd hmem List.not_mem_nil
  refine Prog.ensures_bind.mpr ((returnless_ensures startDaemon_returnless hfresh).mono ?_)
  intro started log₁ hlog₁
  cases started with
  | error error =>
      refine ⟨⟨hlog₁, fun hok => ?_⟩, fun _ _ _ => trivial⟩
      cases hok
  | ok done =>
      refine Prog.ensures_bind.mpr ((daemonLoop_quits turns hlog₁).mono ?_)
      rintro result log₂ ⟨hlog₂, hstopped⟩
      exact ⟨⟨hlog₂, fun hok => hstopped (by cases hok; rfl)⟩, fun _ _ _ => trivial⟩

end Histories

section Runs

variable {β κ : Type} [DecidableEq κ] {config : DaemonConfig} {control : ControlConfig β}
  {turns : Nat} {cond : Process → ProcessLabel β κ → Prop}
  {start pool pool' : ProcessPool β κ} {labels : List (ProcessLabel β κ)} {task : Nat}
  {process process' : Process} {request : DaemonRequest κ} {response : request.Response β}

/-- What ends a daemon, and what changes its features. -/
def DaemonRequest.ends : DaemonRequest κ → Bool
  | .applySelf _ _ | .enabledFeatures | .disable _ | .returned _ => true
  | _ => false

/-- What a request does to the features and to the result of the run. -/
inductive Closing (process : Process) :
    (request : DaemonRequest κ) → request.Response β → Process → Prop
  | applied {devices : List DeviceInfo} {startNewFeatures : Bool}
      {features : Except DaemonError (Finset FeatureId)} {process' : Process} :
      process'.result = process.result →
      Closing process (.applySelf devices startNewFeatures) features process'
  | listed {enabled : List FeatureId} : Listed enabled process.policy.registry.enabled →
      Closing process .enabledFeatures enabled process
  | disabled {feature : FeatureId} : Closing process (.disable feature) ()
      { process with policy := { process.policy with
        registry := process.policy.registry.disable feature } }
  | returned {result : Except RunError Unit} : Closing process (.returned result) ()
      { process with result := some result }
  | aside {request : DaemonRequest κ} {response : request.Response β} {process' : Process} :
      request.ends = false →
      process'.policy.registry.enabled = process.policy.registry.enabled →
      process'.result = process.result → Closing process request response process'

omit [DecidableEq κ] in
theorem perform_closing {selfId : DeviceId}
    (h : Process.perform selfId request response process = some process') :
    Closing process request response process' := by
  cases request with
  | peers request =>
      cases request with
      | readPeers | readDisabled | connectedPeers =>
          obtain ⟨-, h⟩ := Option.ite_none_right_eq_some.mp h
          obtain rfl := Option.some.inj h
          exact .aside rfl rfl rfl
      | _ =>
          obtain rfl := Option.some.inj h
          exact .aside rfl rfl rfl
  | applySelf devices startNewFeatures =>
      obtain ⟨-, h⟩ := Option.ite_none_right_eq_some.mp h
      obtain rfl := Option.some.inj h
      exact .applied rfl
  | startEnabled =>
      obtain ⟨-, h⟩ := Option.ite_none_right_eq_some.mp h
      obtain rfl := Option.some.inj h
      exact .aside rfl startAll_enabled rfl
  | dispatch message =>
      simp only [Process.perform] at h
      split at h
      · obtain rfl := Option.some.inj h
        exact .aside rfl rfl rfl
      · obtain ⟨-, h⟩ := Option.ite_none_right_eq_some.mp h
        obtain rfl := Option.some.inj h
        exact .aside rfl rfl rfl
  | enabledFeatures =>
      obtain ⟨hlisted, h⟩ := Option.ite_none_right_eq_some.mp h
      obtain rfl := Option.some.inj h
      exact .listed hlisted
  | disable feature =>
      obtain rfl := Option.some.inj h
      exact .disabled
  | returned result =>
      obtain rfl := Option.some.inj h
      exact .returned
  | readSelf | shareFeatures | readSharedFeatures =>
      obtain ⟨-, h⟩ := Option.ite_none_right_eq_some.mp h
      obtain rfl := Option.some.inj h
      exact .aside rfl rfl rfl
  | _ =>
      obtain rfl := Option.some.inj h
      exact .aside rfl rfl rfl

omit [DecidableEq κ] in
theorem leftAfter_aside (left : Option (List FeatureId)) (h : request.ends = false) :
    leftAfter left (⟨request, response⟩ : Exchange (DaemonSig β κ)) = left := by
  cases request with
  | applySelf | enabledFeatures | disable => cases h
  | _ => rfl

/-- The features that may be enabled. -/
def Bounds (left : Option (List FeatureId)) (process : Process) : Prop :=
  ∀ features, left = some features → process.policy.registry.enabled ⊆ features.toFinset

omit [DecidableEq κ] in
/-- No request enables a feature behind the back of a shutdown. -/
theorem Closing.bounds (h : Closing process request response process')
    {left : Option (List FeatureId)} (hleft : Bounds left process) :
    Bounds (leftAfter left (⟨request, response⟩ : Exchange (DaemonSig β κ))) process' := by
  intro features hfeatures
  cases h with
  | applied => cases hfeatures
  | listed hlisted =>
      obtain rfl := Option.some.inj hfeatures
      exact hlisted.2.symm.subset
  | disabled =>
      obtain ⟨rest, hrest, rfl⟩ := Option.map_eq_some_iff.mp hfeatures
      intro other hother
      obtain ⟨hne, hmem⟩ := FeatureRegistry.mem_enabled_disable.mp hother
      have hin := List.mem_toFinset.mp (hleft rest hrest hmem)
      exact List.mem_toFinset.mpr (List.mem_filter.mpr ⟨hin, decide_eq_true hne⟩)
  | returned => exact hleft features hfeatures
  | aside hends henabled =>
      rw [leftAfter_aside left hends] at hfeatures
      exact henabled ▸ hleft features hfeatures

omit [DecidableEq κ] in
theorem Closing.result (h : Closing process request response process') :
    process'.result = process.result ∨
      ∃ result, request = .returned result ∧ process'.result = some result := by
  cases h with
  | applied hsame => exact .inl hsame
  | listed | disabled => exact .inl rfl
  | returned => exact .inr ⟨_, rfl, rfl⟩
  | aside _ _ hsame => exact .inl hsame

omit [DecidableEq κ] in
theorem Entitled.aside (h : Entitled config control labels request task)
    (htask : task ≠ Process.MAIN) : request.ends = false := by
  cases h with
  | loop hguard => exact absurd rfl htask
  | connection _ _ hgate =>
      have hserved := hgate.served
      cases request with
      | applySelf | enabledFeatures | disable | returned => cases hserved
      | _ => rfl
  | forward _ _ hguard =>
      cases request with
      | applySelf | enabledFeatures | disable | returned => exact hguard.elim
      | _ => rfl

theorem main_quits (h : (daemonProcess config control turns).Run cond start labels pool)
    (hidle : ∀ task, start.tasks task = none)
    (hstep : (daemonProcess config control turns).step pool
      (.call Process.MAIN request response) = some pool') :
    QuitGuard (trace Process.MAIN labels) request := by
  obtain ⟨event, state, state', first, hmem, hevent, hguard⟩ := h.asked hidle hstep
  cases event with
  | boot =>
      obtain ⟨-, hevent⟩ := Option.ite_none_left_eq_some.mp hevent
      obtain ⟨-, hstarted⟩ := Prod.mk.inj (Option.some.inj hevent)
      obtain ⟨-, rfl⟩ := Prod.mk.inj (Option.some.inj hstarted)
      exact hguard _ _ (runDaemon_quits config turns)
  | start job task' =>
      obtain ⟨⟨-, hother⟩, hevent⟩ := Option.ite_none_right_eq_some.mp hevent
      obtain ⟨-, hstarted⟩ := Prod.mk.inj (Option.some.inj hevent)
      exact (hother (Prod.mk.inj (Option.some.inj hstarted)).1).elim
  | connect connected => cases (Prod.mk.inj (Option.some.inj hevent)).2
  | fail faults => cases (Prod.mk.inj (Option.some.inj hevent)).2

/-- How far the main loop is with its end. -/
structure Quitting (labels : List (ProcessLabel β κ)) (process : Process) : Prop where
  bounds : Bounds (leftEnabled (trace Process.MAIN labels)) process
  running : Unfinished (trace Process.MAIN labels) → process.result = none
  stopped : process.result = some (.ok ()) → ∃ features log, Stopped log features ∧
    trace Process.MAIN labels = log ++ [⟨.returned (.ok ()), ()⟩]

omit [DecidableEq κ] in
theorem Quitting.main (h : Quitting labels process)
    (hclosing : Closing process request response process')
    (hguard : QuitGuard (trace Process.MAIN labels) request) :
    Quitting (labels ++ [.call Process.MAIN request response]) process' := by
  have hresult := hclosing.result
  have hnone := h.running hguard.unfinished
  refine ⟨?_, fun hunfinished => ?_, fun hok => ?_⟩
  · rw [trace_snoc_self, leftEnabled_snoc]
    exact hclosing.bounds h.bounds
  · rw [trace_snoc_self] at hunfinished
    rcases hresult with hsame | ⟨result, rfl, -⟩
    · rw [hsame, hnone]
    · cases hunfinished _ (List.mem_append_right _ (List.mem_singleton_self _))
  · rcases hresult with hsame | ⟨result, rfl, hset⟩
    · rw [hsame, hnone] at hok
      cases hok
    · obtain rfl := Option.some.inj (hset.symm.trans hok)
      obtain ⟨features, hstopped⟩ := hguard.stopped rfl
      exact ⟨features, _, hstopped, trace_snoc_self _ _ _⟩

omit [DecidableEq κ] in
theorem Quitting.other (h : Quitting labels process)
    (hclosing : Closing process request response process')
    (hends : request.ends = false) (htask : task ≠ Process.MAIN) :
    Quitting (labels ++ [.call task request response]) process' := by
  have hresult : process'.result = process.result := by
    rcases hclosing.result with hsame | ⟨result, rfl, -⟩
    · exact hsame
    · cases hends
  have hbounds := hclosing.bounds h.bounds
  rw [leftAfter_aside _ hends] at hbounds
  refine ⟨?_, ?_, ?_⟩
  · rwa [trace_snoc_of_ne htask]
  · rw [trace_snoc_of_ne htask, hresult]
    exact h.running
  · rw [trace_snoc_of_ne htask, hresult]
    exact h.stopped

omit [DecidableEq κ] in
theorem event_result {event : ProcessEvent} {started : Option (Nat × DaemonProg β κ Unit)}
    (h : Process.event config control turns event process = some (process', started)) :
    process'.result = process.result := by
  cases event with
  | boot =>
      obtain ⟨-, h⟩ := Option.ite_none_left_eq_some.mp h
      obtain ⟨rfl, -⟩ := Prod.mk.inj (Option.some.inj h)
      rfl
  | start job task =>
      obtain ⟨-, h⟩ := Option.ite_none_right_eq_some.mp h
      obtain ⟨rfl, -⟩ := Prod.mk.inj (Option.some.inj h)
      rfl
  | connect connected =>
      obtain ⟨rfl, -⟩ := Prod.mk.inj (Option.some.inj h)
      rfl
  | fail faults =>
      obtain ⟨rfl, -⟩ := Prod.mk.inj (Option.some.inj h)
      rfl

omit [DecidableEq κ] in
theorem Quitting.event (h : Quitting labels process) (event : ProcessEvent)
    (hpolicy : process'.policy = process.policy) (hresult : process'.result = process.result) :
    Quitting (labels ++ [.event event]) process' := by
  refine ⟨?_, ?_, ?_⟩
  · rw [trace_snoc_event, Bounds, hpolicy]
    exact h.bounds
  · rw [trace_snoc_event, hresult]
    exact h.running
  · rw [trace_snoc_event, hresult]
    exact h.stopped

theorem run_quitting (h : (daemonProcess config control turns).Run cond start labels pool)
    (hidle : ∀ task, start.tasks task = none) (hstart : start.state.result = none) :
    Quitting labels pool.state := by
  induction h with
  | nil =>
      refine ⟨fun features hfeatures => ?_, fun _ => hstart, fun hok => ?_⟩
      · cases hfeatures
      · rw [hstart] at hok
        cases hok
  | snoc hrun hcond hstep ih =>
      rename_i middle last labels label
      cases label with
      | call task request response =>
          obtain ⟨next, state, -, hperform, rfl⟩ := World.step_call hstep
          by_cases htask : task = Process.MAIN
          · subst htask
            exact ih.main (perform_closing hperform) (main_quits hrun hidle hstep)
          · have haside := (step_entitled hrun hidle hstep).aside htask
            exact ih.other (perform_closing hperform) haside htask
      | event event =>
          obtain ⟨state, started, hevent, hstarted⟩ := World.step_event hstep
          have hstate := ih.event event (event_leaves hevent).1 (event_result hevent)
          rcases hstarted with ⟨-, rfl⟩ | ⟨task, program, -, -, rfl⟩
          · exact hstate
          · exact hstate

/-- How a daemon ends that was interrupted. -/
structure ShutDown (reached : List (ProcessLabel β κ) → ProcessPool β κ → Prop)
    (labels : List (ProcessLabel β κ)) (registry : FeatureRegistry) : Prop where
  -- the main loop disables each feature that is enabled after the interrupt, and returns
  closed : ∃ (earlier later : List (ProcessLabel β κ)) (features : List FeatureId)
      (closing : ProcessPool β κ) (log : List (Exchange (DaemonSig β κ))),
    labels = earlier ++ .call Process.MAIN .enabledFeatures features :: later ∧
      reached earlier closing ∧ Listed features closing.state.policy.registry.enabled ∧
        trace Process.MAIN earlier = log ++ [⟨.select, .ctrlC (.ok ())⟩] ∧
          trace Process.MAIN later = disabling features ++ [⟨.returned (.ok ()), ()⟩]
  enabled : registry.enabled = ∅

/-- When `run` has returned without an error, it was interrupted and has disabled all features,
and none is enabled since. -/
theorem quit_disables (h : (daemonProcess config control turns).Run cond start labels pool)
    (hidle : ∀ task, start.tasks task = none) (hstart : start.state.result = none)
    (hquit : pool.state.result = some (.ok ())) :
    ShutDown ((daemonProcess config control turns).Run cond start) labels
      pool.state.policy.registry := by
  have hquitting := run_quitting h hidle hstart
  obtain ⟨features, log, hstopped, hreturned⟩ := hquitting.stopped hquit
  have hleft : leftEnabled (trace Process.MAIN labels) = some [] := by
    rw [hreturned, leftEnabled_snoc, hstopped.leftEnabled]
    rfl
  have henabled := hquitting.bounds [] hleft
  refine ⟨?_, Finset.subset_empty.mp henabled⟩
  obtain ⟨before, rfl⟩ := hstopped
  have htrace : trace Process.MAIN labels = (before ++ [⟨.select, .ctrlC (.ok ())⟩]) ++
      ⟨.enabledFeatures, features⟩ :: (disabling features ++ [⟨.returned (.ok ()), ()⟩]) := by
    rw [hreturned]
    simp
  obtain ⟨earlier, later, closing, _, rfl, hearlier, hrun, -, hstep, -⟩ := h.split_trace htrace
  obtain ⟨next, state, -, hperform, -⟩ := World.step_call hstep
  obtain ⟨hlisted, -⟩ := Option.ite_none_right_eq_some.mp hperform
  refine ⟨earlier, later, features, closing, before, rfl, hrun, hlisted, hearlier, ?_⟩
  rw [trace_append, hearlier] at htrace
  have hlater := List.append_cancel_left htrace
  simp only [trace, Label.exchange, List.filterMap_cons] at hlater
  exact (List.cons.inj hlater).2

end Runs

section Sample

/-- The desk is interrupted on its first turn. -/
def quitOracle (task : Nat) (process : Process) :
    (request : DaemonRequest Unit) → Option (request.Response OpenShellRequest)
  | .select => some (.ctrlC (.ok ()))
  | .enabledFeatures => some (allIds.filter (· ∈ process.policy.registry.enabled))
  | .disable _ | .returned _ => some ()
  | request => deskOracle task process request

def quitScript : List (Move Nat ProcessEvent) :=
  .event .boot :: List.replicate 30 (.tick Process.MAIN)

def hasQuit (pool : ProcessPool OpenShellRequest Unit) : Bool :=
  match pool.state.result with
  | some (.ok ()) => true
  | _ => false

theorem hasQuit_iff {pool : ProcessPool OpenShellRequest Unit} (h : hasQuit pool = true) :
    pool.state.result = some (.ok ()) := by
  unfold hasQuit at h
  split at h
  · next hresult => exact hresult
  · cases h

theorem desk_quits : ∃ labels pool,
    (daemonProcess deskDaemon deskControl 1).Run (fun _ _ => True) deskPool labels pool ∧
      pool.state.result = some (.ok ()) ∧
        ShutDown ((daemonProcess deskDaemon deskControl 1).Run (fun _ _ => True) deskPool) labels
          pool.state.policy.registry := by
  have hsome : ((daemonProcess deskDaemon deskControl 1).follow (fun _ _ => True) quitOracle
      quitScript deskPool).any (fun result => hasQuit result.2) = true := by
    decide +kernel
  obtain ⟨⟨labels, pool⟩, hfollow, hend⟩ := (Option.any_eq_true _ _).mp hsome
  have hrun := World.run_of_follow hfollow
  have hquit := hasQuit_iff hend
  exact ⟨labels, pool, hrun, hquit, quit_disables hrun (fun _ => rfl) rfl hquit⟩

end Sample

end Failsafe.Daemon
