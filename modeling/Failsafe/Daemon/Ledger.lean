import Failsafe.Daemon.LoopGuard

/-!
From which device list of the server a daemon has what it allows: the features that it shares
with its control connections, and the flag of every peer and feature.

The ledger is kept from the steps of the main loop alone.  What holds of it holds of every
history of requests that the main loop may make, and the variables of a daemon agree with it in
every run.
-/

namespace Failsafe.Daemon

open Failsafe.Core Failsafe.Lib Failsafe.Transport Failsafe.Send

section Histories

variable {β κ : Type} {config : DaemonConfig} {log : List (Exchange (DaemonSig β κ))}

/-- Every request of the history is one that the main loop may make. -/
def Guarded (config : DaemonConfig) (log : List (Exchange (DaemonSig β κ))) : Prop :=
  ∀ before exchange after, log = before ++ exchange :: after →
    MainGuard config before exchange.request

theorem Guarded.of_snoc {exchange : Exchange (DaemonSig β κ)}
    (h : Guarded config (log ++ [exchange])) :
    Guarded config log ∧ MainGuard config log exchange.request := by
  refine ⟨fun before other after hlog => h before other (after ++ [exchange]) ?_, ?_⟩
  · rw [hlog, List.append_assoc, List.cons_append]
  · exact h log exchange [] rfl

/-- What the ledger says of the flags. -/
structure Consistent (config : DaemonConfig) (log : List (Exchange (DaemonSig β κ))) : Prop where
  flagged : ∀ peer feature enabled, ⟨.peers (.setFeatureEnabled peer feature enabled), ()⟩ ∈ log →
    (ledger log).policy peer feature ≠ none
  named : ∀ peer ∈ (ledger log).directory.peers, ∀ feature ∈ allIds, ∃ enabled,
    ⟨.peers (.setFeatureEnabled peer feature enabled), ()⟩ ∈ log
  permitted : ∀ peer feature source, (ledger log).policy peer feature = some source →
    (peer, feature) ∉ (ledger log).directory.disabled →
      Permits config.selfId source.localFeatures source.devices feature peer

theorem Consistent.aside (h : Consistent config log) {exchange : Exchange (DaemonSig β κ)}
    (hpolicy : ((ledger log).note exchange).policy = (ledger log).policy)
    (hdirectory : ((ledger log).note exchange).directory = (ledger log).directory)
    (hother : ∀ peer feature enabled,
      exchange ≠ ⟨.peers (.setFeatureEnabled peer feature enabled), ()⟩) :
    Consistent config (log ++ [exchange]) := by
  refine ⟨?_, ?_, ?_⟩
  · intro peer feature enabled hmem
    rw [ledger_snoc, hpolicy]
    rcases List.mem_append.mp hmem with hold | hlast
    · exact h.flagged peer feature enabled hold
    · exact (hother peer feature enabled (List.mem_singleton.mp hlast).symm).elim
  · rw [ledger_snoc, hdirectory]
    intro peer hpeer feature hfeature
    obtain ⟨enabled, hmem⟩ := h.named peer hpeer feature hfeature
    exact ⟨enabled, List.mem_append_left _ hmem⟩
  · rw [ledger_snoc, hpolicy, hdirectory]
    exact h.permitted

theorem Consistent.flag (h : Consistent config log) {peer : DeviceId} {feature : FeatureId}
    {enabled : Bool}
    (hguard : MainGuard config log (.peers (.setFeatureEnabled peer feature enabled))) :
    Consistent config (log ++ [⟨.peers (.setFeatureEnabled peer feature enabled), ()⟩]) := by
  obtain ⟨source, hsource, hpermits⟩ := hguard
  have hpolicy (peer' : DeviceId) (feature' : FeatureId) :
      (ledger (log ++ [⟨.peers (.setFeatureEnabled peer feature enabled), ()⟩])).policy
        peer' feature' = if (peer', feature') = (peer, feature) then some source
          else (ledger log).policy peer' feature' := by
    rw [ledger_snoc, ← hsource]
    exact (ledger log).policyAfter_flag peer peer' feature feature' enabled
  have hdirectory :
      (ledger (log ++ [⟨.peers (.setFeatureEnabled peer feature enabled), ()⟩])).directory =
        (ledger log).directory.setFeatureEnabled peer feature enabled := by
    rw [ledger_snoc]
    rfl
  refine ⟨?_, ?_, ?_⟩
  · intro peer' feature' enabled' hmem
    rw [hpolicy]
    split
    · exact Option.some_ne_none source
    · rename_i hother
      rcases List.mem_append.mp hmem with hold | hlast
      · exact h.flagged peer' feature' enabled' hold
      · cases List.mem_singleton.mp hlast
        exact (hother rfl).elim
  · intro peer' hpeer feature' hfeature
    rw [hdirectory, PeerDirectory.peers_setFeatureEnabled] at hpeer
    obtain ⟨enabled', hmem⟩ := h.named peer' hpeer feature' hfeature
    exact ⟨enabled', List.mem_append_left _ hmem⟩
  · intro peer' feature' source' hsource' hflag
    rw [hpolicy] at hsource'
    rw [hdirectory, PeerDirectory.mem_disabled_setFeatureEnabled] at hflag
    split at hsource'
    · rename_i hkey
      rw [if_pos hkey, Bool.not_eq_false] at hflag
      obtain ⟨rfl, rfl⟩ := Prod.mk.inj hkey
      obtain rfl := Option.some.inj hsource'
      exact hpermits hflag
    · rename_i hkey
      rw [if_neg hkey] at hflag
      exact h.permitted peer' feature' source' hsource' hflag

theorem Consistent.peers (h : Consistent config log) {peers : List DeviceId}
    (hguard : MainGuard config log (.peers (.replacePeers peers))) :
    Consistent config (log ++ [⟨.peers (.replacePeers peers), ()⟩]) := by
  refine ⟨?_, ?_, ?_⟩
  · intro peer feature enabled hmem
    rw [ledger_snoc]
    rcases List.mem_append.mp hmem with hold | hlast
    · exact h.flagged peer feature enabled hold
    · cases List.mem_singleton.mp hlast
  · intro peer hpeer feature hfeature
    rw [ledger_snoc] at hpeer
    obtain ⟨enabled, hmem⟩ := hguard peer (List.mem_toFinset.mp hpeer) feature hfeature
    exact ⟨enabled, List.mem_append_left _ hmem⟩
  · rw [ledger_snoc]
    exact h.permitted

/-- The list is one that the ledger goes by. -/
def Ledger.Holds (ledger : Ledger) (source : Source) : Prop :=
  ledger.source = some source ∨ ledger.taken = some source ∨ ledger.shared = some source ∨
    ∃ peer feature, ledger.policy peer feature = some source

theorem Ledger.holds_note {ledger : Ledger} {source : Source} {exchange : Exchange (DaemonSig β κ)}
    (h : (ledger.note exchange).Holds source) :
    ledger.Holds source ∨ ∃ startNewFeatures,
      exchange = ⟨.applySelf source.devices startNewFeatures, .ok source.localFeatures⟩ := by
  obtain ⟨request, response⟩ := exchange
  cases request with
  | peers request =>
      refine .inl ?_
      rcases h with hsource | htaken | hshared | ⟨peer', feature', hpolicy⟩
      · exact .inl hsource
      · exact .inr (.inl htaken)
      · exact .inr (.inr (.inl hshared))
      · cases request with
        | setFeatureEnabled peer feature enabled =>
            have hflag := ledger.policyAfter_flag peer peer' feature feature' enabled
            rw [show ledger.policyAfter (.setFeatureEnabled peer feature enabled) peer' feature' =
              some source from hpolicy] at hflag
            split at hflag
            · exact .inl hflag.symm
            · exact .inr (.inr (.inr ⟨peer', feature', hflag.symm⟩))
        | _ => exact .inr (.inr (.inr ⟨peer', feature', hpolicy⟩))
  | applySelf devices startNewFeatures =>
      cases response with
      | error error =>
          rcases h with hsource | hrest
          · cases hsource
          · exact .inl (.inr hrest)
      | ok localFeatures =>
          rcases h with hsource | htaken | hrest
          · obtain rfl := Option.some.inj hsource
            exact .inr ⟨startNewFeatures, rfl⟩
          · obtain rfl := Option.some.inj htaken
            exact .inr ⟨startNewFeatures, rfl⟩
          · exact .inl (.inr (.inr hrest))
  | shareFeatures =>
      rcases h with hsource | htaken | hshared | hpolicy
      · exact .inl (.inl hsource)
      · exact .inl (.inr (.inl htaken))
      · exact .inl (.inr (.inl hshared))
      · exact .inl (.inr (.inr (.inr hpolicy)))
  | _ => exact .inl h

theorem Ledger.holds_empty {source : Source} : ¬Ledger.empty.Holds source := by
  rintro (hsource | htaken | hshared | ⟨peer, feature, hpolicy⟩)
  · cases hsource
  · cases htaken
  · cases hshared
  · cases hpolicy

theorem Fetched.mono {devices : List DeviceInfo} {log' : List (Exchange (DaemonSig β κ))}
    (h : Fetched devices log) (hlog : log <+: log') : Fetched devices log' := by
  obtain ⟨authorization, ticket, response, list, hsend, hreceive, hparse⟩ := h
  exact ⟨authorization, ticket, response, list, hlog.subset hsend, hlog.subset hreceive, hparse⟩

theorem Guarded.fetched (h : Guarded config log) {source : Source}
    (hsource : (ledger log).Holds source) : Fetched source.devices log := by
  induction log using List.reverseRecOn with
  | nil => exact (Ledger.holds_empty hsource).elim
  | append_singleton log exchange ih =>
      obtain ⟨hbefore, hguard⟩ := h.of_snoc
      rw [ledger_snoc] at hsource
      rcases Ledger.holds_note hsource with hold | ⟨startNewFeatures, rfl⟩
      · exact (ih hbefore hold).mono (List.prefix_append _ _)
      · exact Fetched.mono hguard (List.prefix_append _ _)

end Histories

abbrev ProcessLabel (β κ : Type) := Label (DaemonSig β κ) Nat ProcessEvent

abbrev ProcessPool (β κ : Type) := Pool (DaemonSig β κ) Nat Process

/-- The ledger of a daemon in a run. -/
def ledgerAfter {β κ : Type} (labels : List (ProcessLabel β κ)) : Ledger :=
  ledger (trace Process.MAIN labels)

section Steps

variable {β κ : Type} {selfId : DeviceId} {process process' : Process}
  {labels : List (ProcessLabel β κ)}

theorem ledgerAfter_event (event : ProcessEvent) :
    ledgerAfter (labels ++ [.event event]) = ledgerAfter labels := by
  rw [ledgerAfter, trace_snoc_event, ledgerAfter]

theorem ledgerAfter_main (request : DaemonRequest κ) (response : request.Response β) :
    ledgerAfter (labels ++ [.call Process.MAIN request response]) =
      (ledgerAfter labels).note ⟨request, response⟩ := by
  rw [ledgerAfter, trace_snoc_self, ledger_snoc, ledgerAfter]

/-- What changes the policy of a daemon. -/
def DaemonRequest.isPolicy : DaemonRequest κ → Bool
  | .peers (.setFeatureEnabled _ _ _) | .peers (.replacePeers _) | .applySelf _ _
  | .shareFeatures => true
  | _ => false

/-- What a request does to the policy of a daemon. -/
inductive Effect (selfId : DeviceId) (process : Process) :
    (request : DaemonRequest κ) → request.Response β → Process → Prop
  | flag {peer : DeviceId} {feature : FeatureId} {enabled : Bool} :
      Effect selfId process (.peers (.setFeatureEnabled peer feature enabled)) ()
        { process with directory := process.directory.setFeatureEnabled peer feature enabled }
  | peers {peers : List DeviceId} : Effect selfId process (.peers (.replacePeers peers)) ()
      { process with directory := process.directory.replacePeers peers }
  | applied {devices : List DeviceInfo} {startNewFeatures : Bool}
      {result : Except DaemonError Bool} {policy : PolicyState} :
      applySelfFromServer process.faults selfId devices startNewFeatures process.policy =
        (result, policy) →
      Effect selfId process (.applySelf devices startNewFeatures)
        (result.map fun _ => policy.localFeatures) { process with policy }
  | shared : Effect selfId process .shareFeatures process.policy.localFeatures
      { process with shared := process.policy.localFeatures }
  | aside {request : DaemonRequest κ} {response : request.Response β} {process' : Process} :
      request.isPolicy = false → process'.policy.localFeatures = process.policy.localFeatures →
      process'.shared = process.shared → process'.directory = process.directory →
      (∀ job ∈ process'.jobs, job ∈ process.jobs ∨ request = .spawn job) →
      Effect selfId process request response process'

theorem perform_effect {request : DaemonRequest κ} {response : request.Response β}
    (h : Process.perform selfId request response process = some process') :
    Effect selfId process request response process' := by
  cases request with
  | peers request =>
      cases request with
      | setFeatureEnabled peer feature enabled =>
          obtain rfl := Option.some.inj h
          exact .flag
      | replacePeers peers =>
          obtain rfl := Option.some.inj h
          exact .peers
      | readPeers | readDisabled | connectedPeers =>
          obtain ⟨-, h⟩ := Option.ite_none_right_eq_some.mp h
          obtain rfl := Option.some.inj h
          exact .aside rfl rfl rfl rfl fun _ => .inl
      | _ =>
          obtain rfl := Option.some.inj h
          exact .aside rfl rfl rfl rfl fun _ => .inl
  | applySelf devices startNewFeatures =>
      obtain ⟨hresult, h⟩ := Option.ite_none_right_eq_some.mp h
      obtain rfl := Option.some.inj h
      subst hresult
      exact .applied rfl
  | shareFeatures =>
      obtain ⟨hfeatures, h⟩ := Option.ite_none_right_eq_some.mp h
      obtain rfl := Option.some.inj h
      subst hfeatures
      exact .shared
  | readSelf | readSharedFeatures | enabledFeatures | startEnabled =>
      obtain ⟨-, h⟩ := Option.ite_none_right_eq_some.mp h
      obtain rfl := Option.some.inj h
      exact .aside rfl rfl rfl rfl fun _ => .inl
  | dispatch message =>
      simp only [Process.perform] at h
      split at h
      · obtain rfl := Option.some.inj h
        exact .aside rfl rfl rfl rfl fun _ => .inl
      · obtain ⟨-, h⟩ := Option.ite_none_right_eq_some.mp h
        obtain rfl := Option.some.inj h
        exact .aside rfl rfl rfl rfl fun _ => .inl
  | spawn job =>
      obtain rfl := Option.some.inj h
      refine .aside rfl rfl rfl rfl fun other hmem => ?_
      rcases List.mem_append.mp hmem with hold | hnew
      · exact .inl hold
      · rw [List.mem_singleton.mp hnew]
        exact .inr rfl
  | _ =>
      obtain rfl := Option.some.inj h
      exact .aside rfl rfl rfl rfl fun _ => .inl

theorem Effect.jobs {request : DaemonRequest κ} {response : request.Response β}
    (h : Effect selfId process request response process') :
    ∀ job ∈ process'.jobs, job ∈ process.jobs ∨ request = .spawn job := by
  cases h with
  | aside _ _ _ _ hjobs => exact hjobs
  | _ => exact fun _ => .inl

theorem note_aside (ledger : Ledger) {request : DaemonRequest κ}
    (response : request.Response β) (h : request.isPolicy = false) :
    ledger.note (⟨request, response⟩ : Exchange (DaemonSig β κ)) = ledger := by
  cases request with
  | peers request => cases request <;> first | rfl | cases h
  | applySelf | shareFeatures => cases h
  | _ => rfl

theorem ledgerAfter_aside (task : Nat) {request : DaemonRequest κ}
    (response : request.Response β) (h : request.isPolicy = false) :
    ledgerAfter (labels ++ [.call task request response]) = ledgerAfter labels := by
  by_cases htask : task = Process.MAIN
  · subst htask
    rw [ledgerAfter_main, note_aside _ response h]
  · rw [ledgerAfter, trace_snoc_of_ne htask, ledgerAfter]

end Steps

section Runs

variable {β κ : Type} [DecidableEq κ] {config : DaemonConfig} {control : ControlConfig β}
  {turns : Nat} {cond : Process → ProcessLabel β κ → Prop}
  {start pool pool' : ProcessPool β κ} {labels : List (ProcessLabel β κ)} {task : Nat}
  {request : DaemonRequest κ} {response : request.Response β}

/-- What the task of an accepted connection to a forwarded port asks for. -/
def ForwardGuard (target : DeviceId) (remotePort : UInt16) : DaemonRequest κ → Prop
  | .openPortStream target' remotePort' protocol =>
      target' = target ∧ remotePort' = remotePort ∧ protocol = .tcp
  | .relay => True
  | _ => False

/-- Why a task may make a request. -/
inductive Entitled (config : DaemonConfig) (control : ControlConfig β)
    (labels : List (ProcessLabel β κ)) (request : DaemonRequest κ) : Nat → Prop
  | loop : MainGuard config (trace Process.MAIN labels) request →
      Entitled config control labels request Process.MAIN
  | connection {task : Nat} : .event (.start .connection task) ∈ labels → task ≠ Process.MAIN →
      Gate control (trace task labels) request → Entitled config control labels request task
  | forward {task : Nat} {target : DeviceId} {remotePort : UInt16} :
      .event (.start (.forward target remotePort) task) ∈ labels → task ≠ Process.MAIN →
      ForwardGuard target remotePort request → Entitled config control labels request task

omit [DecidableEq κ] in
theorem forwardConnection_ensures (target : DeviceId) (remotePort : UInt16) :
    (forwardConnection target remotePort : DaemonProg β κ Unit).Ensures
      (fun _ request => ForwardGuard target remotePort request) Prog.heard (fun _ _ => True)
        [] := by
  refine ⟨⟨rfl, rfl, rfl⟩, ?_⟩
  rintro opened _ rfl
  cases opened with
  | error error => trivial
  | ok session => exact ⟨trivial, fun _ _ _ => trivial⟩

theorem step_entitled
    (h : (daemonProcess config control turns).Run cond start labels pool)
    (hidle : ∀ task, start.tasks task = none)
    (hstep : (daemonProcess config control turns).step pool (.call task request response) =
      some pool') : Entitled config control labels request task := by
  obtain ⟨event, state, state', first, hmem, hevent, hguard⟩ := h.asked hidle hstep
  cases event with
  | boot =>
      obtain ⟨-, hevent⟩ := Option.ite_none_left_eq_some.mp hevent
      obtain ⟨-, hstarted⟩ := Prod.mk.inj (Option.some.inj hevent)
      obtain ⟨rfl, rfl⟩ := Prod.mk.inj (Option.some.inj hstarted)
      exact .loop (hguard _ _ (runDaemon_guarded config turns))
  | start job task' =>
      obtain ⟨⟨-, hother⟩, hevent⟩ := Option.ite_none_right_eq_some.mp hevent
      obtain ⟨-, hstarted⟩ := Prod.mk.inj (Option.some.inj hevent)
      obtain ⟨rfl, rfl⟩ := Prod.mk.inj (Option.some.inj hstarted)
      cases job with
      | connection =>
          exact .connection hmem hother (hguard _ _ (handleConnection_ensures control))
      | forward target remotePort =>
          exact .forward hmem hother (hguard _ _ (forwardConnection_ensures target remotePort))
  | connect connected => cases (Prod.mk.inj (Option.some.inj hevent)).2
  | fail faults => cases (Prod.mk.inj (Option.some.inj hevent)).2

omit [DecidableEq κ] in
theorem Entitled.of_policy (h : Entitled config control labels request task)
    (hpolicy : request.isPolicy = true) :
    task = Process.MAIN ∧ MainGuard config (trace Process.MAIN labels) request := by
  cases h with
  | loop hguard => exact ⟨rfl, hguard⟩
  | connection _ _ hgate =>
      have hserved := hgate.served
      cases request with
      | peers request =>
          cases request with
          | setFeatureEnabled | replacePeers => cases hserved
          | _ => cases hpolicy
      | applySelf | shareFeatures => cases hserved
      | _ => cases hpolicy
  | forward _ _ hguard =>
      cases request with
      | peers request => exact hguard.elim
      | applySelf | shareFeatures => exact hguard.elim
      | _ => cases hpolicy

/-- The variables of a daemon agree with its ledger. -/
structure Agrees (labels : List (ProcessLabel β κ)) (process : Process) : Prop where
  features : ∀ source, (ledgerAfter labels).source = some source →
    process.policy.localFeatures = source.localFeatures
  shared : process.shared = (ledgerAfter labels).shared.elim ∅ Source.localFeatures
  directory : process.directory = (ledgerAfter labels).directory

/-- A daemon that has not been started. -/
structure Fresh (pool : ProcessPool β κ) : Prop where
  idle : ∀ task, pool.tasks task = none
  shared : pool.state.shared = ∅
  directory : pool.state.directory = .new
  jobs : pool.state.jobs = []

omit [DecidableEq κ] in
theorem Fresh.agrees (h : Fresh pool) : Agrees ([] : List (ProcessLabel β κ)) pool.state := by
  refine ⟨?_, h.shared, h.directory⟩
  intro source hsource
  cases hsource

section Step

variable {process process' : Process}

omit [DecidableEq κ] in
theorem Agrees.same (h : Agrees labels process) {label : ProcessLabel β κ}
    (hledger : ledgerAfter (labels ++ [label]) = ledgerAfter labels)
    (hpolicy : process'.policy.localFeatures = process.policy.localFeatures)
    (hshared : process'.shared = process.shared)
    (hdirectory : process'.directory = process.directory) :
    Agrees (labels ++ [label]) process' := by
  refine ⟨?_, ?_, ?_⟩
  · rw [hledger, hpolicy]
    exact h.features
  · rw [hledger, hshared]
    exact h.shared
  · rw [hledger, hdirectory]
    exact h.directory

omit [DecidableEq κ] in
theorem Agrees.call (h : Agrees labels process) {task : Nat}
    {request : DaemonRequest κ} {response : request.Response β}
    (heffect : Effect config.selfId process request response process')
    (hentitled : Entitled config control labels request task) :
    Agrees (labels ++ [.call task request response]) process' := by
  cases heffect with
  | flag =>
      obtain ⟨rfl, -⟩ := hentitled.of_policy rfl
      refine ⟨?_, ?_, ?_⟩
      · rw [ledgerAfter_main]
        exact h.features
      · rw [ledgerAfter_main]
        exact h.shared
      · rw [ledgerAfter_main, h.directory]
        rfl
  | peers =>
      obtain ⟨rfl, -⟩ := hentitled.of_policy rfl
      refine ⟨?_, ?_, ?_⟩
      · rw [ledgerAfter_main]
        exact h.features
      · rw [ledgerAfter_main]
        exact h.shared
      · rw [ledgerAfter_main, h.directory]
        rfl
  | applied =>
      rename_i result policy _
      obtain ⟨rfl, -⟩ := hentitled.of_policy rfl
      cases result with
      | error error =>
          refine ⟨fun source hsource => ?_, ?_, ?_⟩
          · rw [ledgerAfter_main] at hsource
            cases hsource
          · rw [ledgerAfter_main]
            exact h.shared
          · rw [ledgerAfter_main]
            exact h.directory
      | ok changed =>
          refine ⟨fun source hsource => ?_, ?_, ?_⟩
          · rw [ledgerAfter_main] at hsource
            obtain rfl := Option.some.inj hsource
            rfl
          · rw [ledgerAfter_main]
            exact h.shared
          · rw [ledgerAfter_main]
            exact h.directory
  | shared =>
      obtain ⟨rfl, source, hsource, htaken⟩ := hentitled.of_policy rfl
      refine ⟨?_, ?_, ?_⟩
      · rw [ledgerAfter_main]
        exact h.features
      · rw [ledgerAfter_main]
        change _ = (ledger (trace Process.MAIN labels)).taken.elim ∅ Source.localFeatures
        rw [htaken]
        exact h.features source hsource
      · rw [ledgerAfter_main]
        exact h.directory
  | aside hrequest hpolicy hshared hdirectory hjobs =>
      exact h.same (ledgerAfter_aside task response hrequest) hpolicy hshared hdirectory

end Step

omit [DecidableEq κ] in
theorem event_leaves {event : ProcessEvent} {process process' : Process}
    {started : Option (Nat × DaemonProg β κ Unit)}
    (h : Process.event config control turns event process = some (process', started)) :
    process'.policy = process.policy ∧ process'.shared = process.shared ∧
      process'.directory = process.directory := by
  cases event with
  | boot =>
      obtain ⟨-, h⟩ := Option.ite_none_left_eq_some.mp h
      obtain ⟨rfl, -⟩ := Prod.mk.inj (Option.some.inj h)
      exact ⟨rfl, rfl, rfl⟩
  | start job task =>
      obtain ⟨-, h⟩ := Option.ite_none_right_eq_some.mp h
      obtain ⟨rfl, -⟩ := Prod.mk.inj (Option.some.inj h)
      exact ⟨rfl, rfl, rfl⟩
  | connect connected =>
      obtain ⟨rfl, -⟩ := Prod.mk.inj (Option.some.inj h)
      exact ⟨rfl, rfl, rfl⟩
  | fail faults =>
      obtain ⟨rfl, -⟩ := Prod.mk.inj (Option.some.inj h)
      exact ⟨rfl, rfl, rfl⟩

theorem run_agrees (h : (daemonProcess config control turns).Run cond start labels pool)
    (hfresh : Fresh start) : Agrees labels pool.state := by
  induction h with
  | nil => exact hfresh.agrees
  | snoc hrun hcond hstep ih =>
      rename_i middle last labels label
      cases label with
      | call task request response =>
          obtain ⟨next, state, -, hperform, rfl⟩ := World.step_call hstep
          exact ih.call (perform_effect hperform) (step_entitled hrun hfresh.idle hstep)
      | event event =>
          obtain ⟨state, started, hevent, hstarted⟩ := World.step_event hstep
          obtain ⟨hpolicy, hshared, hdirectory⟩ := event_leaves hevent
          have hstate : Agrees (labels ++ [.event event]) state :=
            ih.same (ledgerAfter_event event) (congrArg _ hpolicy) hshared hdirectory
          rcases hstarted with ⟨-, rfl⟩ | ⟨task, program, -, -, rfl⟩
          · exact hstate
          · exact hstate

end Runs

end Failsafe.Daemon
