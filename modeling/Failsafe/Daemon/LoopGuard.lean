import Failsafe.Daemon.Admission
import Failsafe.Daemon.Removal

/-!
What the main loop of a daemon asks for: it only takes over device lists that the server has
sent, and sets the flags of the peers, names them and shares its features by the list that it
took over last.
-/

namespace Failsafe.Daemon

open Failsafe.Core Failsafe.Lib Failsafe.Transport Failsafe.Send
open Failsafe.Server (HttpRequest HttpResponse ProtectedRoute)

/-- A device list that a daemon took over, with its own features after that. -/
structure Source where
  devices : List DeviceInfo
  localFeatures : Finset FeatureId

section Ledger

variable {β κ : Type}

/-- What a daemon goes by. -/
structure Ledger where
  -- the list that was taken over last, unless it could not be
  source : Option Source
  -- the list that was taken over last
  taken : Option Source
  -- the one when the features were shared last
  shared : Option Source
  -- the one when the flag was set last
  policy : DeviceId → FeatureId → Option Source
  directory : PeerDirectory

namespace Ledger

def empty : Ledger :=
  { source := none, taken := none, shared := none, policy := fun _ _ => none, directory := .new }

def policyAfter (ledger : Ledger) : PeerRequest → DeviceId → FeatureId → Option Source
  | .setFeatureEnabled peer feature _ =>
      Function.update ledger.policy peer
        (Function.update (ledger.policy peer) feature ledger.source)
  | _ => ledger.policy

def note (ledger : Ledger) : Exchange (DaemonSig β κ) → Ledger
  | ⟨.peers request, _⟩ =>
      { ledger with
        policy := ledger.policyAfter request
        directory := updated ledger.directory request }
  | ⟨.applySelf devices _, result⟩ => match result with
      | .ok localFeatures =>
          { ledger with
            source := some ⟨devices, localFeatures⟩
            taken := some ⟨devices, localFeatures⟩ }
      | .error _ => { ledger with source := none }
  | ⟨.shareFeatures, _⟩ => { ledger with shared := ledger.taken }
  | _ => ledger

theorem policyAfter_flag (ledger : Ledger) (peer peer' : DeviceId) (feature feature' : FeatureId)
    (enabled : Bool) :
    ledger.policyAfter (.setFeatureEnabled peer feature enabled) peer' feature' =
      if (peer', feature') = (peer, feature) then ledger.source
      else ledger.policy peer' feature' := by
  rw [policyAfter]
  rcases eq_or_ne peer' peer with rfl | hpeer
  · rcases eq_or_ne feature' feature with rfl | hfeature
    · simp
    · simp [hfeature]
  · simp [hpeer]

end Ledger

/-- The ledger after this history of the main loop. -/
def ledger (log : List (Exchange (DaemonSig β κ))) : Ledger :=
  log.foldl Ledger.note .empty

variable {log : List (Exchange (DaemonSig β κ))}

@[simp] theorem ledger_snoc (exchange : Exchange (DaemonSig β κ)) :
    ledger (log ++ [exchange]) = (ledger log).note exchange := by
  rw [ledger, List.foldl_append]
  rfl

/-- The request of an update of the directory, in the daemon. -/
def peerExchange (exchange : Exchange PeerSig) : Exchange (DaemonSig β κ) :=
  ⟨.peers exchange.request, exchange.response⟩

/-- The exchange of a call of the client, in the daemon. -/
def clientExchange (exchange : Exchange (ClientSig κ)) : Exchange (DaemonSig β κ) :=
  ⟨.client exchange.request, exchange.response⟩

/-- What an update of the directory leaves in the ledger. -/
structure UpdatedBy (requests : List PeerRequest) (before after : Ledger) : Prop where
  source : after.source = before.source
  taken : after.taken = before.taken
  shared : after.shared = before.shared
  directory : after.directory = applied before.directory requests

theorem ledger_peers (exchanges : List (Exchange PeerSig)) :
    UpdatedBy (exchanges.map Exchange.request) (ledger log)
      (ledger (log ++ exchanges.map peerExchange)) := by
  induction exchanges using List.reverseRecOn with
  | nil =>
      rw [List.map_nil, List.map_nil, List.append_nil]
      exact ⟨rfl, rfl, rfl, rfl⟩
  | append_singleton exchanges exchange ih =>
      rw [List.map_append, List.map_append, List.map_singleton, List.map_singleton,
        ← List.append_assoc, ledger_snoc]
      refine ⟨ih.source, ih.taken, ih.shared, ?_⟩
      rw [applied_snoc, ← ih.directory]
      rfl

theorem ledger_calls (exchanges : List (Exchange (ClientSig κ))) :
    ledger (log ++ exchanges.map clientExchange) = ledger log := by
  induction exchanges using List.reverseRecOn with
  | nil => rw [List.map_nil, List.append_nil]
  | append_singleton exchanges exchange ih =>
      rw [List.map_append, List.map_singleton, ← List.append_assoc, ledger_snoc, ih]
      rfl

end Ledger

section MainLoop

variable {β κ : Type}

/-- The server has sent this device list. -/
def Fetched (devices : List DeviceInfo) (log : List (Exchange (DaemonSig β κ))) : Prop :=
  ∃ authorization ticket response list,
    ⟨.client (.send (.protectedly authorization .listDevices)), .ok ticket⟩ ∈ log ∧
      ⟨.client (.receive ticket), .ok response⟩ ∈ log ∧
        parseDeviceList response = .ok list ∧ list.devices = devices

/-- The server has taken this device with its key. -/
def Registered (config : DaemonConfig) (log : List (Exchange (DaemonSig β κ))) : Prop :=
  ∃ request authorization ticket response,
    request.deviceId = config.selfId ∧ some request.irohPublicKey = config.irohPublicKey ∧
      ⟨.client (.send (.protectedly authorization (.upsertDevice config.selfId.uuid request))),
        .ok ticket⟩ ∈ log ∧
        ⟨.client (.receive ticket), .ok response⟩ ∈ log ∧
          mapDeviceMutationResponse response "device upsert" = .ok ()

/-- The features that are shared and the directory are those of the list that was taken over
last. -/
structure Settled (selfId : DeviceId) (ledger : Ledger) (list : Source) : Prop where
  taken : ledger.taken = some list
  shared : ledger.shared = some list
  directory : ∃ old, ledger.directory =
    applied old (peerUpdates selfId list.localFeatures list.devices)

/-- The daemon can serve its clients and its peers. -/
structure Serving (config : DaemonConfig) (log : List (Exchange (DaemonSig β κ))) : Prop where
  registered : Registered config log
  settled : ∃ list, Settled config.selfId (ledger log) list

/-- What the main loop asks for. -/
def MainGuard (config : DaemonConfig) (log : List (Exchange (DaemonSig β κ))) :
    DaemonRequest κ → Prop
  | .peers (.setFeatureEnabled peer feature enabled) =>
      ∃ source, (ledger log).source = some source ∧ (enabled = true →
        Permits config.selfId source.localFeatures source.devices feature peer)
  | .peers (.replacePeers peers) => ∀ peer ∈ peers, ∀ feature ∈ allIds, ∃ enabled,
      ⟨.peers (.setFeatureEnabled peer feature enabled), ()⟩ ∈ log
  | .shareFeatures => ∃ source, (ledger log).source = some source ∧ (ledger log).taken = some source
  | .applySelf devices _ => Fetched devices log
  | .bindControl | .select | .spawn .connection => Serving config log
  | .openShellStream _ _ _ | .openPortStream _ _ _ | .spawn (.forward _ _)
  | .send _ => False
  | _ => True

variable {config : DaemonConfig} {log : List (Exchange (DaemonSig β κ))}

theorem Registered.mono {log' : List (Exchange (DaemonSig β κ))} (h : Registered config log)
    (hlog : log <+: log') : Registered config log' := by
  obtain ⟨request, authorization, ticket, response, hid, hkey, hsend, hreceive, hok⟩ := h
  exact ⟨request, authorization, ticket, response, hid, hkey, hlog.subset hsend,
    hlog.subset hreceive, hok⟩

theorem Serving.snoc (h : Serving config log) {exchange : Exchange (DaemonSig β κ)}
    (hexchange : ∀ ledger : Ledger, ledger.note exchange = ledger) :
    Serving config (log ++ [exchange]) := by
  refine ⟨h.registered.mono (List.prefix_append _ _), ?_⟩
  rw [ledger_snoc, hexchange]
  exact h.settled

/-- What an update of the directory by this list comes to. -/
structure Sourced (selfId : DeviceId) (list : Source) (before after : Ledger) : Prop where
  source : after.source = some list
  taken : after.taken = some list
  shared : after.shared = before.shared
  directory : ∃ old, after.directory =
    applied old (peerUpdates selfId list.localFeatures list.devices)

/-- An update of the directory sets the flags of all peers before it names them. -/
theorem applyServerDevices_guarded {source : Source} (hsource : (ledger log).source = some source)
    (htaken : (ledger log).taken = some source) :
    ((applyServerDevices config.selfId source.localFeatures source.devices).interp
      fun request => demand (.peers request) : DaemonProg β κ Unit).Ensures (MainGuard config)
        Prog.heard (fun _ log' => log <+: log' ∧
          Sourced config.selfId source (ledger log) (ledger log')) log := by
  have hpeers : Prog.Ensures
      (Next (peerUpdates config.selfId source.localFeatures source.devices)) Prog.heard
      (applyServerDevices config.selfId source.localFeatures source.devices) _ [] :=
    applyServerDevices_ensures
  refine (hpeers.interp (R := fun told log' => log' = log ++ told.map peerExchange) ?_ ?_).mono ?_
  · rw [List.map_nil, List.append_nil]
  · rintro request told _ hnext rfl
    refine ⟨?_, ?_⟩
    · cases request with
      | setFeatureEnabled peer feature enabled =>
          refine ⟨source, by rw [(ledger_peers told).source, hsource], ?_⟩
          rintro rfl
          obtain ⟨device, hdevice, rfl, hother, hvalue⟩ :=
            mem_peerUpdates (hnext.subset (List.mem_append_right _ (List.mem_singleton_self _)))
          obtain ⟨hlocal, hremote⟩ := of_decide_eq_true hvalue.symm
          exact ⟨hother, hlocal, device, hdevice, rfl, hremote⟩
      | replacePeers peers =>
          obtain ⟨hflags, rfl⟩ := flags_of_replaced hnext
          intro peer hpeer feature hfeature
          obtain ⟨device, hdevice, rfl⟩ := List.mem_map.mp hpeer
          have hset : .setFeatureEnabled device.deviceId feature
              (feature ∈ source.localFeatures && feature ∈ device.enabledFeatures) ∈
                told.map Exchange.request := by
            rw [hflags]
            exact List.mem_flatMap.mpr
              ⟨device, hdevice, List.mem_map.mpr ⟨feature, hfeature, rfl⟩⟩
          obtain ⟨⟨request, response⟩, hmem, hrequest⟩ := List.mem_map.mp hset
          obtain rfl : request = _ := hrequest
          exact ⟨_, List.mem_append_right _ (List.mem_map.mpr ⟨_, hmem, rfl⟩)⟩
      | _ => trivial
    · rintro response _ rfl
      refine Prog.ensures_ret.mpr ?_
      rw [List.map_append, List.map_singleton, List.append_assoc]
      rfl
  · rintro _ log' ⟨told, htold, rfl⟩
    have hupdated := @ledger_peers β κ log told
    refine ⟨List.prefix_append _ _, ?_, ?_, hupdated.shared, (ledger log).directory, ?_⟩
    · rw [hupdated.source, hsource]
    · rw [hupdated.taken, htaken]
    · rw [hupdated.directory, htold]

section Calls

variable {route : ProtectedRoute} {selfId : DeviceId}

/-- What a call of the client asks the server and the credentials for. -/
def Calls : ClientRequest κ → Prop
  | .authToken | .refreshToken | .storeTokens _ _ | .send _ | .receive _ => True
  | _ => False

theorem send_calls {request : HttpRequest} : (Daemon.send (κ := κ) request).run.All Calls :=
  .tryBind ⟨trivial, fun _ => trivial⟩ fun _ => ⟨trivial, fun _ => trivial⟩

theorem refreshed_calls : (refreshed : ClientProg κ Bool).All Calls := by
  refine .bind ?_ fun result => by cases result <;> trivial
  refine .tryBind (.lift ⟨trivial, fun _ => trivial⟩) fun refreshToken => ?_
  cases refreshToken with
  | none => trivial
  | some refreshToken =>
      refine .tryBind (send_calls.bind fun _ => trivial) fun response => ?_
      split
      · trivial
      · split
        · trivial
        · split
          · trivial
          · trivial
          · exact .tryBind ⟨trivial, fun _ => trivial⟩ fun _ => trivial

theorem sendAuthenticated_calls : (sendAuthenticated (κ := κ) route).run.All Calls := by
  refine .tryBind (.lift ⟨trivial, fun _ => trivial⟩) fun token => ?_
  refine .tryBind send_calls fun response => ?_
  split
  · refine .tryBind (.lift refreshed_calls) fun fresh => ?_
    split
    · exact .tryBind (.lift ⟨trivial, fun _ => trivial⟩) fun token => send_calls
    · trivial
  · trivial

theorem heartbeatDevice_calls : (heartbeatDevice (κ := κ) selfId).run.All Calls :=
  .tryBind (sendAuthenticated_calls.bind fun _ => trivial) fun _ => trivial

theorem answered_ensures {α : Type} {describe : String → DaemonError}
    {convert : HttpResponse → Except DaemonError α} {call : ClientTry κ DaemonError α}
    (hcall : call = do
      let response ← ExceptT.adapt describe (sendAuthenticated route)
      ExceptT.mk (.ret (convert response))) :
    call.run.Ensures (fun _ request => Calls request) Prog.heard
      (fun result log => ∀ value, result = .ok value →
        ∃ authorization response, Told (.protectedly authorization route) response log ∧
          convert response = .ok value) [] := by
  rw [hcall]
  refine Prog.ensures_tryBind.mpr (Prog.ensures_bind.mpr ?_)
  -- whose turn it is does not matter to a call
  refine ((@sendAuthenticated_ensures κ ⟨0⟩ [] route).weaken_all sendAuthenticated_calls
    fun _ _ hcalls _ => hcalls).mono ?_
  rintro result log ⟨-, htold⟩
  cases result with
  | error error =>
      intro value hvalue
      cases hvalue
  | ok response =>
      intro value hvalue
      obtain ⟨authorization, htold⟩ := htold response rfl
      exact ⟨authorization, response, htold, hvalue⟩

/-- A call changes nothing that the daemon goes by, and what it was told, the daemon was. -/
theorem calls_told {α : Type} {call : ClientProg κ α}
    {post : α → List (Exchange (ClientSig κ)) → Prop}
    (hcall : call.Ensures (fun _ request => Calls request) Prog.heard post []) :
    (call.interp (clientRequest config.selfId) : DaemonProg β κ α).Ensures (MainGuard config)
      Prog.heard (fun value log' => log <+: log' ∧ ledger log' = ledger log ∧
        ∃ told, post value told ∧ told.map clientExchange ⊆ log') log := by
  refine (hcall.interp (R := fun told log' => log' = log ++ told.map clientExchange) ?_ ?_).mono
    ?_
  · rw [List.map_nil, List.append_nil]
  · rintro request told _ hrequest rfl
    have hdemand : (clientRequest config.selfId request : DaemonProg β κ _) =
        demand (.client request) := by
      cases request <;> first | exact hrequest.elim | rfl
    rw [hdemand]
    refine ⟨trivial, ?_⟩
    rintro response _ rfl
    refine Prog.ensures_ret.mpr ?_
    rw [List.map_append, List.map_singleton, List.append_assoc]
    rfl
  · rintro value _ ⟨told, hpost, rfl⟩
    exact ⟨List.prefix_append _ _, ledger_calls told, told, hpost, List.subset_append_right _ _⟩

theorem calls_guarded {α : Type} {call : ClientProg κ α} (hcall : call.All Calls) :
    (call.interp (clientRequest config.selfId) : DaemonProg β κ α).Ensures (MainGuard config)
      Prog.heard (fun _ log' => log <+: log' ∧ ledger log' = ledger log) log := by
  have hensures : call.Ensures (fun _ request => Calls request) Prog.heard (fun _ _ => True) [] :=
    Prog.Ensures.of_all (I := fun _ => True) hcall (fun _ _ _ => id)
      (fun _ _ _ _ _ _ _ => trivial) (fun _ _ _ => trivial) trivial
  exact (calls_told hensures).mono fun _ _ h => ⟨h.1, h.2.1⟩

theorem listDevices_guarded :
    ((listDevices (κ := κ)).run.interp (clientRequest config.selfId) : DaemonProg β κ _).Ensures
      (MainGuard config) Prog.heard (fun result log' => log <+: log' ∧ ledger log' = ledger log ∧
        ∀ list, result = .ok list → Fetched list.devices log') log := by
  refine (calls_told (answered_ensures rfl)).mono ?_
  rintro result log' ⟨hahead, hledger, told, htold, hlog'⟩
  refine ⟨hahead, hledger, fun list hlist => ?_⟩
  obtain ⟨authorization, response, ⟨ticket, hsend, hreceive⟩, hparse⟩ := htold list hlist
  refine ⟨authorization, ticket, response, list, hlog' ?_, hlog' ?_, hparse, rfl⟩
  · exact List.mem_map.mpr ⟨_, hsend, rfl⟩
  · exact List.mem_map.mpr ⟨_, hreceive, rfl⟩

theorem upsertDevice_guarded {request : DeviceUpsertRequest}
    (hid : request.deviceId = config.selfId)
    (hkey : some request.irohPublicKey = config.irohPublicKey) :
    ((upsertDevice (κ := κ) request).run.interp (clientRequest config.selfId) :
      DaemonProg β κ _).Ensures (MainGuard config) Prog.heard (fun result log' => log <+: log' ∧
        ledger log' = ledger log ∧ (result = .ok () → Registered config log')) log := by
  refine (calls_told (answered_ensures rfl)).mono ?_
  rintro result log' ⟨hahead, hledger, told, htold, hlog'⟩
  refine ⟨hahead, hledger, fun hok => ?_⟩
  obtain ⟨authorization, response, ⟨ticket, hsend, hreceive⟩, hmap⟩ := htold () hok
  rw [hid] at hsend
  refine ⟨request, authorization, ticket, response, hid, hkey, hlog' ?_, hlog' ?_, hmap⟩
  · exact List.mem_map.mpr ⟨_, hsend, rfl⟩
  · exact List.mem_map.mpr ⟨_, hreceive, rfl⟩

/-- What a sync leaves. -/
inductive Synced (selfId : DeviceId) (before after : Ledger) : Except DaemonError Unit → Prop
  | done {list : Source} : Sourced selfId list before after → Synced selfId before after (.ok ())
  | failed {error : DaemonError} : after.taken = before.taken → after.shared = before.shared →
      after.directory = before.directory → Synced selfId before after (.error error)

theorem applyDevices_guarded {devices : List DeviceInfo} (hdevices : Fetched devices log)
    (startNewFeatures : Bool) :
    (clientRequest config.selfId (.applyDevices devices startNewFeatures) :
      DaemonProg β κ (Except DaemonError Unit)).Ensures (MainGuard config) Prog.heard
        (fun result log' => log <+: log' ∧
          Synced config.selfId (ledger log) (ledger log') result) log := by
  refine ⟨hdevices, ?_⟩
  rintro applied _ rfl
  cases applied with
  | error error =>
      refine ⟨List.prefix_append _ _, ?_⟩
      rw [ledger_snoc]
      exact .failed rfl rfl rfl
  | ok localFeatures =>
      have hledger := @ledger_snoc β κ log
        ⟨.applySelf devices startNewFeatures, .ok localFeatures⟩
      refine Prog.ensures_bind.mpr (Prog.ensures_ret.mpr (Prog.ensures_bind.mpr ?_))
      refine (@applyServerDevices_guarded β κ config _ ⟨devices, localFeatures⟩ ?_ ?_).mono ?_
      · rw [hledger]
        rfl
      · rw [hledger]
        rfl
      · rintro _ log' ⟨hahead, hsourced⟩
        refine ⟨(List.prefix_append _ _).trans hahead, .done ⟨hsourced.source, hsourced.taken, ?_,
          hsourced.directory⟩⟩
        rw [hsourced.shared, hledger]
        rfl

theorem syncFromServer_guarded (startNewFeatures : Bool) :
    ((syncFromServer startNewFeatures).run.interp (clientRequest config.selfId) :
      DaemonProg β κ (Except DaemonError Unit)).Ensures (MainGuard config) Prog.heard
        (fun result log' => log <+: log' ∧
          Synced config.selfId (ledger log) (ledger log') result) log := by
  refine Prog.ensures_interp_tryBind.mpr (listDevices_guarded.mono ?_)
  rintro listed log₁ ⟨hahead, hledger, hlisted⟩
  cases listed with
  | error error =>
      refine ⟨hahead, ?_⟩
      rw [hledger]
      exact .failed rfl rfl rfl
  | ok response =>
      refine Prog.ensures_bind.mpr
        ((applyDevices_guarded (hlisted response rfl) startNewFeatures).mono ?_)
      rintro result log₂ ⟨hahead', hsynced⟩
      rw [hledger] at hsynced
      exact ⟨hahead.trans hahead', hsynced⟩

theorem Sourced.share {list : Source} {before after : Ledger} {features : Finset FeatureId}
    (h : Sourced config.selfId list before after) :
    Settled config.selfId
      (after.note (⟨.shareFeatures, features⟩ : Exchange (DaemonSig β κ))) list :=
  ⟨h.taken, h.taken, h.directory⟩

theorem handleSyncTick_guarded (h : Serving config log) :
    ((handleSyncTick config.selfId).run.interp (clientRequest config.selfId) :
      DaemonProg β κ (Except DaemonError Unit)).Ensures (MainGuard config) Prog.heard
        (fun _ log' => Serving config log') log := by
  refine Prog.ensures_interp_tryBind.mpr (Prog.ensures_interp_lift.mpr
    ((calls_guarded heartbeatDevice_calls).mono ?_))
  rintro heartbeat log₁ ⟨hahead₁, hledger⟩
  have hserving : Serving config log₁ := by
    refine ⟨h.registered.mono hahead₁, ?_⟩
    rw [hledger]
    exact h.settled
  dsimp only
  split
  · exact hserving
  · refine Prog.ensures_interp_tryBind.mpr (Prog.ensures_interp_lift.mpr
      ((syncFromServer_guarded true).mono ?_))
    rintro synced log₂ ⟨hahead₂, hsynced⟩
    have hregistered := hserving.registered.mono hahead₂
    cases hsynced with
    | done hsourced =>
        rename_i list
        refine ⟨⟨list, hsourced.source, hsourced.taken⟩, ?_⟩
        rintro features _ rfl
        refine ⟨hregistered.mono (List.prefix_append _ _), list, ?_⟩
        rw [ledger_snoc]
        exact hsourced.share
    | failed htaken hshared hdirectory =>
        obtain ⟨list, hsettled⟩ := hserving.settled
        refine ⟨hregistered, list, ?_, ?_, ?_⟩
        · rw [htaken, hsettled.taken]
        · rw [hshared, hsettled.shared]
        · rw [hdirectory]
          exact hsettled.directory

end Calls

theorem fromClient_guarded {α : Type} {call : ClientTry κ DaemonError α}
    {post : Except DaemonError α → List (Exchange (DaemonSig β κ)) → Prop}
    (h : (call.run.interp (clientRequest config.selfId)).Ensures (MainGuard config) Prog.heard
      post log) :
    (fromClient config.selfId call : DaemonTry β κ RunError α).run.Ensures (MainGuard config)
      Prog.heard (fun result log' => ∃ told, result = told.mapError .daemon ∧ post told log')
        log :=
  Prog.ensures_bind.mpr (h.mono fun told _ hpost => ⟨told, rfl, hpost⟩)

theorem guarded_free {α : Type} {p : DaemonProg β κ α}
    (hp : p.All fun request => ∀ log, MainGuard (β := β) config log request) :
    p.Ensures (MainGuard config) Prog.heard (fun _ _ => True) log :=
  Prog.Ensures.of_all (I := fun _ => True) hp (fun log _ _ h => h log)
    (fun _ _ _ _ _ _ _ => trivial) (fun _ _ _ => trivial) trivial

theorem disableAll_free (features : List FeatureId) :
    (disableAll features : DaemonProg β κ Unit).All
      fun request => ∀ log, MainGuard (β := β) config log request := by
  induction features with
  | nil => trivial
  | cons feature features ih => exact ⟨fun _ => trivial, fun _ => ih⟩

theorem daemonLoop_guarded (turns : Nat) (h : Serving config log) :
    (daemonLoop config.selfId turns : DaemonProg β κ _).Ensures (MainGuard config) Prog.heard
      (fun _ _ => True) log := by
  induction turns generalizing log with
  | zero => exact ⟨trivial, fun response => Empty.elim response⟩
  | succ turns ih =>
      refine ⟨h, ?_⟩
      rintro turn _ rfl
      have hturn : Serving config (log ++ [⟨.select, turn⟩]) := h.snoc fun _ => rfl
      cases turn with
      | received message =>
          refine ⟨trivial, ?_⟩
          rintro dispatched _ rfl
          exact ih (hturn.snoc fun _ => rfl)
      | readerStopped error => trivial
      | accepted =>
          refine ⟨hturn, ?_⟩
          rintro spawned _ rfl
          exact ih (hturn.snoc fun _ => rfl)
      | acceptFailed => exact ih hturn
      | tick =>
          refine Prog.ensures_bind.mpr (Prog.ensures_ret.mpr (Prog.ensures_bind.mpr ?_))
          refine (fromClient_guarded (handleSyncTick_guarded hturn)).mono ?_
          rintro result log' ⟨told, rfl, hserving⟩
          cases told with
          | error error => trivial
          | ok done => exact ih hserving
      | ctrlC result =>
          cases result with
          | error error => trivial
          | ok done =>
              refine ⟨trivial, ?_⟩
              rintro enabled log' -
              exact Prog.ensures_bind.mpr
                ((guarded_free (disableAll_free enabled)).mono fun _ _ _ => trivial)

theorem sync_guarded :
    (fromClient config.selfId (syncFromServer false) :
      DaemonTry β κ RunError Unit).run.Ensures (MainGuard config) Prog.heard
        (fun result log' => log <+: log' ∧ (result = .ok () →
          ∃ list, Sourced config.selfId list (ledger log) (ledger log'))) log := by
  refine (fromClient_guarded (syncFromServer_guarded false)).mono ?_
  rintro result log' ⟨told, rfl, hahead, hsynced⟩
  refine ⟨hahead, fun hok => ?_⟩
  cases hsynced with
  | done hsourced => exact ⟨_, hsourced⟩
  | failed => cases hok

theorem registerTransportWithServer_guarded :
    (registerTransportWithServer config : DaemonTry β κ RunError Unit).run.Ensures
      (MainGuard config) Prog.heard
      (fun result log' => result = .ok () → Registered config log') log := by
  unfold registerTransportWithServer
  split
  · intro hok
    cases hok
  · rename_i key hkey
    refine Prog.ensures_tryBind.mpr (Prog.ensures_lift.mpr ⟨trivial, ?_⟩)
    rintro self _ rfl
    obtain ⟨name, enabledFeatures⟩ := self
    refine (fromClient_guarded (upsertDevice_guarded rfl hkey.symm)).mono ?_
    rintro result log' ⟨told, rfl, -, -, hregistered⟩ hok
    cases told with
    | error error => cases hok
    | ok done => exact hregistered rfl

theorem startDaemon_guarded :
    (startDaemon config : DaemonTry β κ RunError Unit).run.Ensures (MainGuard config)
      Prog.heard (fun result log' => result = .ok () → Serving config log') log := by
  unfold startDaemon
  split
  · intro hok
    cases hok
  · refine Prog.ensures_tryBind.mpr (sync_guarded.mono ?_)
    rintro first log₁ -
    cases first with
    | error error =>
        intro hok
        cases hok
    | ok done =>
        refine Prog.ensures_tryBind.mpr (registerTransportWithServer_guarded.mono ?_)
        rintro registered log₂ hregistered
        cases registered with
        | error error =>
            intro hok
            cases hok
        | ok done =>
            refine Prog.ensures_tryBind.mpr (sync_guarded.mono ?_)
            rintro second log₃ ⟨hahead, hsourced⟩
            cases second with
            | error error =>
                intro hok
                cases hok
            | ok done =>
                obtain ⟨list, hsourced⟩ := hsourced rfl
                have hregistered := (hregistered rfl).mono hahead
                refine Prog.ensures_tryBind.mpr (Prog.ensures_lift.mpr ⟨trivial, ?_⟩)
                rintro started _ rfl
                obtain ⟨order, started⟩ := started
                cases started with
                | error error =>
                    intro hok
                    cases hok
                | ok done =>
                    have hledger := @ledger_snoc β κ log₃ ⟨.startEnabled, (order, .ok done)⟩
                    have hsourced : Sourced config.selfId list (ledger log₂) (ledger
                        (log₃ ++ [⟨.startEnabled, (order, .ok done)⟩])) := by
                      rw [hledger]
                      exact hsourced
                    refine Prog.ensures_tryBind.mpr (Prog.ensures_ret.mpr ?_)
                    refine Prog.ensures_tryBind.mpr (Prog.ensures_lift.mpr
                      ⟨⟨list, hsourced.source, hsourced.taken⟩, ?_⟩)
                    rintro features _ rfl
                    have hserving : Serving config
                      ((log₃ ++ [⟨.startEnabled, (order, .ok done)⟩]) ++
                        [⟨.shareFeatures, features⟩]) := by
                      refine ⟨(hregistered.mono (List.prefix_append _ _)).mono
                        (List.prefix_append _ _), list, ?_⟩
                      rw [ledger_snoc]
                      exact hsourced.share
                    refine Prog.ensures_tryBind.mpr (Prog.ensures_lift.mpr ⟨hserving, ?_⟩)
                    rintro bound _ rfl -
                    exact hserving.snoc fun _ => rfl

theorem runDaemon_guarded (config : DaemonConfig) (turns : Nat) :
    (runDaemon config turns : DaemonProg β κ Unit).Ensures (MainGuard config) Prog.heard
      (fun _ _ => True) [] := by
  refine Prog.ensures_bind.mpr (startDaemon_guarded.mono ?_)
  rintro started log₁ hserving
  cases started with
  | error error => exact ⟨trivial, fun _ _ _ => trivial⟩
  | ok done =>
      refine Prog.ensures_bind.mpr ((daemonLoop_guarded turns (hserving rfl)).mono ?_)
      exact fun _ _ _ => ⟨trivial, fun _ _ _ => trivial⟩

end MainLoop

end Failsafe.Daemon
