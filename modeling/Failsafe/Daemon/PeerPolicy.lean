import Failsafe.Daemon.Sync
import Failsafe.Lib.Ensures

/-!
The feature policy of the peers while the directory is updated: every answer and every
message goes to peers that the old or the new policy permits, and after the update to
exactly those that the new one permits.
-/

namespace Failsafe.Daemon

open Failsafe.Core Failsafe.Lib Failsafe.Transport

/-- The device list of the server permits the feature for this peer. -/
def Permits (selfId : DeviceId) (localFeatures : Finset FeatureId) (devices : List DeviceInfo)
    (feature : FeatureId) (peer : DeviceId) : Prop :=
  peer ≠ selfId ∧ feature ∈ localFeatures ∧
    ∃ device ∈ devices, device.deviceId = peer ∧ feature ∈ device.enabledFeatures

section Updates

variable (selfId : DeviceId) (localFeatures : Finset FeatureId)

/-- The requests of an update for one device. -/
def featureUpdates (features : List FeatureId) (device : DeviceInfo) : List PeerRequest :=
  features.map fun feature => .setFeatureEnabled device.deviceId feature
    (feature ∈ localFeatures && feature ∈ device.enabledFeatures)

def otherDevices (devices : List DeviceInfo) : List DeviceInfo :=
  devices.filter fun device => device.deviceId ≠ selfId

/-- The requests of an update that change the flags of the features. -/
def flagUpdates (devices : List DeviceInfo) : List PeerRequest :=
  (otherDevices selfId devices).flatMap (featureUpdates localFeatures allIds)

def otherIds (devices : List DeviceInfo) : List DeviceId :=
  (otherDevices selfId devices).map DeviceInfo.deviceId

def otherAddresses (devices : List DeviceInfo) (addresses : PeerAddressBook) : PeerAddressBook :=
  (otherDevices selfId devices).foldl
    (fun book device => book.insert device.deviceId device.irohPublicKey) addresses

/-- The requests of an update. -/
def peerUpdates (devices : List DeviceInfo) : List PeerRequest :=
  flagUpdates selfId localFeatures devices ++ [.replacePeers (otherIds selfId devices),
    .updatePeerAddresses (otherAddresses selfId devices [])]

/-- The request is the next one of a list that was asked so far. -/
def Next (requests : List PeerRequest) (log : List (Exchange PeerSig)) (request : PeerRequest) :
    Prop :=
  log.map Exchange.request ++ [request] <+: requests

variable {selfId localFeatures}

theorem setFeatures_ensures {requests rest : List PeerRequest} {device : DeviceInfo}
    {features : List FeatureId} {log : List (Exchange PeerSig)}
    {post : Unit → List (Exchange PeerSig) → Prop}
    (h : requests = log.map Exchange.request ++
      (featureUpdates localFeatures features device ++ rest))
    (hpost : ∀ log' : List (Exchange PeerSig),
      requests = log'.map Exchange.request ++ rest → post () log') :
    (setFeatures localFeatures device features).Ensures (Next requests) Prog.heard post log := by
  induction features generalizing log with
  | nil => exact hpost log h
  | cons feature features ih =>
      refine ⟨⟨featureUpdates localFeatures features device ++ rest, ?_⟩, ?_⟩
      · rw [h]
        simp [featureUpdates]
      · rintro response _ rfl
        refine ih ?_
        rw [h]
        simp [featureUpdates]

theorem setDevices_ensures {requests rest : List PeerRequest} {devices : List DeviceInfo}
    {log : List (Exchange PeerSig)} {peerIds : List DeviceId} {addresses : PeerAddressBook}
    {post : List DeviceId × PeerAddressBook → List (Exchange PeerSig) → Prop}
    (h : requests = log.map Exchange.request ++
      (flagUpdates selfId localFeatures devices ++ rest))
    (hpost : ∀ log' : List (Exchange PeerSig), requests = log'.map Exchange.request ++ rest →
      post (peerIds ++ otherIds selfId devices, otherAddresses selfId devices addresses) log') :
    (setDevices selfId localFeatures devices peerIds addresses).Ensures (Next requests)
      Prog.heard post log := by
  induction devices generalizing log peerIds addresses with
  | nil =>
      have hdone := hpost log h
      rw [setDevices]
      simpa [otherIds, otherAddresses, otherDevices] using hdone
  | cons device devices ih =>
      unfold setDevices
      split
      · rename_i hself
        refine ih ?_ ?_
        · simpa [flagUpdates, otherDevices, hself] using h
        · simpa [otherIds, otherAddresses, otherDevices, hself] using hpost
      · rename_i hother
        have hnext : requests = log.map Exchange.request ++
            (featureUpdates localFeatures allIds device ++
              (flagUpdates selfId localFeatures devices ++ rest)) := by
          simpa [flagUpdates, otherDevices, hother] using h
        refine Prog.ensures_bind.mpr (setFeatures_ensures hnext fun log' hlog' => ?_)
        · refine ih hlog' ?_
          simpa [otherIds, otherAddresses, otherDevices, hother] using hpost

theorem applyServerDevices_ensures {devices : List DeviceInfo} :
    (applyServerDevices selfId localFeatures devices).Ensures
      (Next (peerUpdates selfId localFeatures devices)) Prog.heard
      (fun _ log => log.map Exchange.request = peerUpdates selfId localFeatures devices) [] := by
  refine Prog.ensures_bind.mpr (setDevices_ensures rfl fun log hlog => ?_)
  simp only [List.nil_append]
  refine ⟨⟨[.updatePeerAddresses (otherAddresses selfId devices [])], ?_⟩, ?_⟩
  · rw [hlog]
    simp
  rintro response _ rfl
  refine ⟨⟨[], ?_⟩, ?_⟩
  · rw [hlog]
    simp
  rintro response' _ rfl
  simp [hlog]

end Updates

section Directories

/-- What a request does to the directory. -/
def updated (directory : PeerDirectory) : PeerRequest → PeerDirectory
  | .setFeatureEnabled peer feature enabled => directory.setFeatureEnabled peer feature enabled
  | .replacePeers peers => directory.replacePeers peers
  | _ => directory

/-- The directory after these requests. -/
def applied (old : PeerDirectory) (requests : List PeerRequest) : PeerDirectory :=
  requests.foldl updated old

@[simp] theorem applied_nil (old : PeerDirectory) : applied old [] = old := rfl

@[simp] theorem applied_snoc (old : PeerDirectory) (requests : List PeerRequest)
    (request : PeerRequest) :
    applied old (requests ++ [request]) = updated (applied old requests) request := by
  simp [applied]

variable {old : PeerDirectory} {requests done : List PeerRequest} {peer : DeviceId}
  {feature : FeatureId}

theorem enabled_applied (h : (peer, feature) ∉ (applied old requests).disabled) :
    (peer, feature) ∉ old.disabled ∨ .setFeatureEnabled peer feature true ∈ requests := by
  induction requests using List.reverseRecOn with
  | nil => exact .inl h
  | append_singleton requests request ih =>
      have hkept (hbefore : (peer, feature) ∉ (applied old requests).disabled) :
          (peer, feature) ∉ old.disabled ∨
            .setFeatureEnabled peer feature true ∈ requests ++ [request] :=
        (ih hbefore).imp id (List.mem_append_left _)
      rw [applied_snoc] at h
      cases request with
      | setFeatureEnabled peer' feature' enabled =>
          rw [updated, PeerDirectory.mem_disabled_setFeatureEnabled] at h
          split at h
          · rename_i hkey
            obtain ⟨rfl, rfl⟩ := Prod.mk.inj hkey
            rw [Bool.not_eq_false] at h
            subst h
            exact .inr (by simp)
          · exact hkept h
      | replacePeers peers => exact hkept h
      | _ => exact hkept h

/-- A flag that all of the requests about it set to one value has this value. -/
theorem disabled_applied {enabled : Bool}
    (hall : ∀ value, .setFeatureEnabled peer feature value ∈ requests → value = enabled)
    (hsome : .setFeatureEnabled peer feature enabled ∈ requests) :
    (peer, feature) ∈ (applied old requests).disabled ↔ enabled = false := by
  induction requests using List.reverseRecOn with
  | nil => cases hsome
  | append_singleton requests request ih =>
      rw [applied_snoc]
      by_cases hlast : ∃ value, request = .setFeatureEnabled peer feature value
      · obtain ⟨value, rfl⟩ := hlast
        rw [updated, PeerDirectory.mem_disabled_setFeatureEnabled, if_pos rfl,
          hall value (by simp)]
      · have hbefore : .setFeatureEnabled peer feature enabled ∈ requests := by
          rcases List.mem_append.mp hsome with hold | hnew
          · exact hold
          · exact (hlast ⟨enabled, (List.mem_singleton.mp hnew).symm⟩).elim
        rw [← ih (fun value hmem => hall value (List.mem_append_left _ hmem)) hbefore]
        cases request with
        | setFeatureEnabled peer' feature' value =>
            rw [updated, PeerDirectory.mem_disabled_setFeatureEnabled, if_neg]
            intro hkey
            obtain ⟨rfl, rfl⟩ := Prod.mk.inj hkey
            exact hlast ⟨value, rfl⟩
        | _ => exact Iff.rfl

theorem peers_applied : (applied old requests).peers = old.peers ∨
    ∃ before peers, before ++ [.replacePeers peers] <+: requests ∧
      (applied old requests).peers = peers.toFinset := by
  induction requests using List.reverseRecOn with
  | nil => exact .inl rfl
  | append_singleton requests request ih =>
      rw [applied_snoc]
      by_cases hlast : ∃ peers, request = .replacePeers peers
      · obtain ⟨peers, rfl⟩ := hlast
        exact .inr ⟨requests, peers, List.prefix_rfl, rfl⟩
      · have hsame : (updated (applied old requests) request).peers =
            (applied old requests).peers := by
          cases request with
          | setFeatureEnabled => simp [updated]
          | replacePeers peers => exact (hlast ⟨peers, rfl⟩).elim
          | _ => rfl
        rw [hsame]
        refine ih.imp id ?_
        rintro ⟨before, peers, hahead, hpeers⟩
        exact ⟨before, peers, hahead.trans (List.prefix_append _ _), hpeers⟩

end Directories

section Policy

variable {selfId : DeviceId} {localFeatures : Finset FeatureId} {devices : List DeviceInfo}
  {old : PeerDirectory} {done done' : List PeerRequest} {peer : DeviceId} {feature : FeatureId}

theorem mem_peerUpdates {value : Bool}
    (h : .setFeatureEnabled peer feature value ∈ peerUpdates selfId localFeatures devices) :
    ∃ device ∈ devices, device.deviceId = peer ∧ peer ≠ selfId ∧
      value = decide (feature ∈ localFeatures ∧ feature ∈ device.enabledFeatures) := by
  simp only [peerUpdates, flagUpdates, otherDevices, featureUpdates, List.mem_append,
    List.mem_flatMap, List.mem_filter, List.mem_map, List.mem_cons, List.not_mem_nil, or_false,
    reduceCtorEq, PeerRequest.setFeatureEnabled.injEq, decide_eq_true_eq] at h
  obtain ⟨device, ⟨hmem, hother⟩, feature', -, rfl, rfl, rfl⟩ := h
  exact ⟨device, hmem, rfl, hother, by simp⟩

theorem enabled_of_update (hdone : done <+: peerUpdates selfId localFeatures devices)
    (h : (peer, feature) ∉ (applied old done).disabled) :
    (peer, feature) ∉ old.disabled ∨ Permits selfId localFeatures devices feature peer := by
  refine (enabled_applied h).imp id fun hmem => ?_
  obtain ⟨device, hdevice, hid, hother, hvalue⟩ := mem_peerUpdates (hdone.subset hmem)
  obtain ⟨hlocal, hremote⟩ := of_decide_eq_true hvalue.symm
  exact ⟨hother, hlocal, device, hdevice, hid, hremote⟩

theorem enabled_of_flags (hdistinct : (devices.map DeviceInfo.deviceId).Nodup)
    (hdone : done <+: peerUpdates selfId localFeatures devices)
    (hflags : flagUpdates selfId localFeatures devices <+: done)
    (hpeer : peer ∈ otherIds selfId devices) (hfeature : feature ∈ allIds) :
    (peer, feature) ∉ (applied old done).disabled ↔
      Permits selfId localFeatures devices feature peer := by
  obtain ⟨device, hdevice, rfl⟩ := List.mem_map.mp hpeer
  obtain ⟨hmem, hother⟩ := List.mem_filter.mp hdevice
  have hother : device.deviceId ≠ selfId := of_decide_eq_true hother
  have hunique {device' : DeviceInfo} (hmem' : device' ∈ devices)
      (hid : device'.deviceId = device.deviceId) : device' = device :=
    List.inj_on_of_nodup_map hdistinct hmem' hmem hid
  have hset : .setFeatureEnabled device.deviceId feature
      (feature ∈ localFeatures && feature ∈ device.enabledFeatures) ∈ done :=
    hflags.subset (List.mem_flatMap.mpr
      ⟨device, hdevice, List.mem_map.mpr ⟨feature, hfeature, rfl⟩⟩)
  rw [disabled_applied (fun value hvalue => ?_) hset, Bool.not_eq_false, Bool.and_eq_true,
    decide_eq_true_eq, decide_eq_true_eq]
  · constructor
    · exact fun h => ⟨hother, h.1, device, hmem, rfl, h.2⟩
    · rintro ⟨-, hlocal, device', hmem', hid, hremote⟩
      rw [hunique hmem' hid] at hremote
      exact ⟨hlocal, hremote⟩
  · obtain ⟨device', hmem', hid, -, rfl⟩ := mem_peerUpdates (hdone.subset hvalue)
    rw [hunique hmem' hid]
    simp

theorem flags_of_replaced {before : List PeerRequest} {peers : List DeviceId}
    (h : before ++ [.replacePeers peers] <+: peerUpdates selfId localFeatures devices) :
    before = flagUpdates selfId localFeatures devices ∧ peers = otherIds selfId devices := by
  obtain ⟨after, h⟩ := h
  have hnone (before after : List PeerRequest) (peers : List DeviceId) :
      flagUpdates selfId localFeatures devices ≠ before ++ .replacePeers peers :: after := by
    intro heq
    have hmem : PeerRequest.replacePeers peers ∈ flagUpdates selfId localFeatures devices := by
      simp [heq]
    simp [flagUpdates, featureUpdates] at hmem
  rw [peerUpdates, List.append_assoc] at h
  rcases List.append_eq_append_iff.mp h with ⟨middle, hflags, hrest⟩ | ⟨middle, hflags, hrest⟩
  · cases middle with
    | nil =>
        obtain ⟨hreplaced, -⟩ := List.cons.inj hrest
        simpa [hflags] using hreplaced
    | cons request middle =>
        obtain ⟨rfl, -⟩ := List.cons.inj hrest
        exact (hnone _ _ _ hflags).elim
  · cases middle with
    | nil =>
        obtain ⟨hreplaced, -⟩ := List.cons.inj hrest
        simpa [hflags] using hreplaced.symm
    | cons request middle =>
        obtain ⟨rfl, hmiddle⟩ := List.cons.inj hrest
        cases middle with
        | nil => simp at hmiddle
        | cons request middle => simp at hmiddle

/-- Who is seen by a call that reads the peers and then, later, the flags. -/
theorem permitted_of_view (hdistinct : (devices.map DeviceInfo.deviceId).Nodup)
    (hdone : done <+: done') (hdone' : done' <+: peerUpdates selfId localFeatures devices)
    (hfeature : feature ∈ allIds) (hpeer : peer ∈ (applied old done).peers)
    (henabled : (peer, feature) ∉ (applied old done').disabled) :
    old.isFeatureEnabled peer feature = true ∨
      Permits selfId localFeatures devices feature peer := by
  rcases @peers_applied old done with hsame | ⟨before, peers, hahead, hpeers⟩
  · rw [hsame] at hpeer
    exact (enabled_of_update hdone' henabled).imp
      (fun h => PeerDirectory.isFeatureEnabled_iff.mpr ⟨hpeer, h⟩) id
  · obtain ⟨rfl, rfl⟩ := flags_of_replaced (hahead.trans (hdone.trans hdone'))
    rw [hpeers, List.mem_toFinset] at hpeer
    refine .inr ((enabled_of_flags hdistinct hdone' ?_ hpeer hfeature).mp henabled)
    exact (List.prefix_append _ _).trans (hahead.trans hdone)

theorem permitted_iff_view (hdistinct : (devices.map DeviceInfo.deviceId).Nodup)
    (hfeature : feature ∈ allIds) :
    (peer ∈ (applied old (peerUpdates selfId localFeatures devices)).peers ∧
      (peer, feature) ∉ (applied old (peerUpdates selfId localFeatures devices)).disabled) ↔
      Permits selfId localFeatures devices feature peer := by
  have hpeers : (applied old (peerUpdates selfId localFeatures devices)).peers =
      (otherIds selfId devices).toFinset := by
    simp [peerUpdates, applied, List.foldl_append, updated]
  have hflags (hpeer : peer ∈ otherIds selfId devices) :
      (peer, feature) ∉ (applied old (peerUpdates selfId localFeatures devices)).disabled ↔
        Permits selfId localFeatures devices feature peer :=
    enabled_of_flags hdistinct List.prefix_rfl (List.prefix_append _ _) hpeer hfeature
  rw [hpeers, List.mem_toFinset]
  constructor
  · rintro ⟨hpeer, henabled⟩
    exact (hflags hpeer).mp henabled
  · intro hpermits
    have hpeer : peer ∈ otherIds selfId devices := by
      obtain ⟨hother, -, device, hmem, rfl, -⟩ := hpermits
      exact List.mem_map_of_mem (List.mem_filter.mpr ⟨hmem, decide_eq_true hother⟩)
    exact ⟨hpeer, (hflags hpeer).mpr hpermits⟩

end Policy

section Jobs

variable {localId : DeviceId} {outbound : OutboundMessage} {log : List (Exchange PeerSig)}

def sent : Exchange PeerSig → Option (FeatureMessage (List UInt8) × Except TransportError Unit)
  | ⟨.send message, result⟩ => some (message, result)
  | _ => none

/-- What a call has read of the directory before anything else. -/
def Viewed (peers : List DeviceId) (disabled : Finset (DeviceId × FeatureId))
    (log : List (Exchange PeerSig)) : Prop :=
  [⟨.readPeers, peers⟩, ⟨.readDisabled, disabled⟩] <+: log

/-- A publication has sent one copy to each connected peer among those it was told, and
comes to an error if a copy could not be sent. -/
def Published (localId : DeviceId) (outbound : OutboundMessage)
    (result : Except PublishError Unit) (log : List (Exchange PeerSig)) : Prop :=
  ∃ peers disabled receivers, Viewed peers disabled log ∧
    (log.filterMap sent).map Prod.fst = receivers.map (fun peer =>
      FeatureMessage.new localId peer outbound.feature outbound.payload) ∧
    (result = .ok () ↔ ∀ attempt ∈ log.filterMap sent, attempt.2 = .ok ()) ∧
    ((∃ connected, ⟨.connectedPeers, connected⟩ ∈ log ∧
        receivers = (PeerDirectory.recipients disabled outbound.feature peers).filter
          fun peer => connected.contains peer) ∨
      PeerDirectory.recipients disabled outbound.feature peers = [] ∧ receivers = [])

/-- What a job may ask after its history. -/
def JobGuard (localId : DeviceId) (job : PeerJob) (log : List (Exchange PeerSig)) :
    PeerRequest → Prop
  | .recipients feature answer => ∃ peers disabled, Viewed peers disabled log ∧
      answer = PeerDirectory.recipients disabled feature peers
  | .published outbound result => Published localId outbound result log
  | .setFeatureEnabled _ _ _ | .replacePeers _ | .updatePeerAddresses _ =>
      ∃ localFeatures devices, job = .update localFeatures devices
  | _ => True

theorem sendEach_ensures {job : PeerJob} {peers : List DeviceId}
    {post : List String → List (Exchange PeerSig) → Prop}
    (h : ∀ failures (attempts : List (FeatureMessage (List UInt8) × Except TransportError Unit)),
      attempts.map Prod.fst = peers.map (fun peer =>
        FeatureMessage.new localId peer outbound.feature outbound.payload) →
      (failures = [] ↔ ∀ attempt ∈ attempts, attempt.2 = .ok ()) →
      post failures (log ++ attempts.map fun attempt => ⟨.send attempt.1, attempt.2⟩)) :
    (sendEach localId outbound peers).Ensures (JobGuard localId job) Prog.heard post log := by
  induction peers generalizing log post with
  | nil =>
      have hnone := h [] [] rfl (by simp)
      rw [List.map_nil, List.append_nil] at hnone
      exact hnone
  | cons peer peers ih =>
      refine Prog.ensures_bind.mpr ⟨trivial, ?_⟩
      rintro result _ rfl
      let message : FeatureMessage (List UInt8) :=
        .new localId peer outbound.feature outbound.payload
      refine Prog.ensures_bind.mpr (ih fun failures attempts hattempts hfailures => ?_)
      cases result with
      | ok value =>
          have hall := h failures ((message, .ok ()) :: attempts) (by simp [message, hattempts])
            (by simp [hfailures])
          simpa [message] using hall
      | error error =>
          have hall := h (s!"{Uuid.toText peer.uuid}: {error.toText}" :: failures)
            ((message, .error error) :: attempts) (by simp [message, hattempts]) (by simp)
          simpa [message] using hall

theorem filterMap_sent_attempts
    (attempts : List (FeatureMessage (List UInt8) × Except TransportError Unit)) :
    (attempts.map fun attempt => (⟨.send attempt.1, attempt.2⟩ : Exchange PeerSig)).filterMap
      sent = attempts := by
  induction attempts with
  | nil => rfl
  | cons attempt attempts ih => simp [sent, ih]

theorem recipientsFor_ensures {job : PeerJob} {feature : FeatureId}
    {post : List DeviceId → List (Exchange PeerSig) → Prop}
    (h : ∀ peers disabled, post (PeerDirectory.recipients disabled feature peers)
      [⟨.readPeers, peers⟩, ⟨.readDisabled, disabled⟩]) :
    (recipientsFor feature).Ensures (JobGuard localId job) Prog.heard post [] := by
  refine Prog.ensures_bind.mpr ⟨trivial, ?_⟩
  rintro (peers : List DeviceId) _ rfl
  refine Prog.ensures_bind.mpr ⟨trivial, ?_⟩
  rintro (disabled : Finset (DeviceId × FeatureId)) _ rfl
  exact h peers disabled

theorem publish_ensures {job : PeerJob} :
    (publish localId outbound).Ensures (JobGuard localId job) Prog.heard
      (fun result log => Published localId outbound result log) [] := by
  refine Prog.ensures_bind.mpr (recipientsFor_ensures fun peers disabled => ?_)
  split
  · rename_i hnone
    rw [List.isEmpty_iff] at hnone
    exact ⟨peers, disabled, [], ⟨[], rfl⟩, rfl, by simp [sent], .inr ⟨hnone, rfl⟩⟩
  · refine Prog.ensures_bind.mpr ⟨trivial, ?_⟩
    rintro (connected : List DeviceId) _ rfl
    rw [Prog.ensures_ret]
    dsimp only
    split
    · rename_i hnone
      rw [List.isEmpty_iff] at hnone
      exact ⟨peers, disabled, [], ⟨_, rfl⟩, rfl, by simp [sent],
        .inl ⟨connected, by simp, hnone.symm⟩⟩
    · refine Prog.ensures_bind.mpr
        (sendEach_ensures fun failures attempts hattempts hfailures => ?_)
      let first : List (Exchange PeerSig) :=
        [⟨.readPeers, peers⟩, ⟨.readDisabled, disabled⟩, ⟨.connectedPeers, connected⟩]
      let rest : List (Exchange PeerSig) :=
        attempts.map fun attempt => ⟨.send attempt.1, attempt.2⟩
      have hsent : (first ++ rest).filterMap sent = attempts := by
        rw [List.filterMap_append, filterMap_sent_attempts]
        rfl
      have hpublished {result : Except PublishError Unit}
          (hresult : result = .ok () ↔ failures = []) :
          Published localId outbound result (first ++ rest) := by
        refine ⟨peers, disabled, _, ⟨_, rfl⟩, ?_, ?_, .inl ⟨connected, by simp [first], rfl⟩⟩
        · rw [hsent]
          exact hattempts
        · rw [hsent]
          exact hresult.trans hfailures
      split
      · rename_i hnone
        exact hpublished (by simpa using hnone)
      · rename_i hsome
        exact hpublished (by simpa using hsome)

theorem jobGuard_ensures (job : PeerJob) :
    (job.run localId).Ensures (JobGuard localId job) Prog.heard (fun _ _ => True) [] := by
  cases job with
  | update localFeatures devices =>
      refine (Prog.Ensures.mono applyServerDevices_ensures fun _ _ _ => trivial).weaken ?_
      intro log request hnext
      have hmem : request ∈ peerUpdates localId localFeatures devices := hnext.subset (by simp)
      cases request with
      | recipients | published =>
          simp [peerUpdates, flagUpdates, featureUpdates] at hmem
      | setFeatureEnabled | replacePeers | updatePeerAddresses => exact ⟨_, _, rfl⟩
      | _ => trivial
  | recipientsFor feature =>
      refine Prog.ensures_bind.mpr (recipientsFor_ensures fun peers disabled => ?_)
      exact ⟨⟨peers, disabled, List.prefix_rfl, rfl⟩, fun _ _ _ => trivial⟩
  | publish outbound =>
      refine Prog.ensures_bind.mpr (publish_ensures.mono fun result log hpublished => ?_)
      exact ⟨hpublished, fun _ _ _ => trivial⟩

end Jobs

section Steps

variable {τ : Type} {localId : DeviceId}

theorem perform_directory {request : PeerRequest} {response : request.Response}
    {state state' : PeerState τ} (h : PeerState.perform request response state = some state') :
    state'.directory = updated state.directory request ∧ state'.updater = state.updater := by
  cases request with
  | readPeers | readDisabled =>
      simp only [PeerState.perform, Option.ite_none_right_eq_some, Option.some.injEq] at h
      rw [← h.2]
      exact ⟨rfl, rfl⟩
  | _ =>
      obtain rfl := Option.some.inj h
      exact ⟨rfl, rfl⟩

theorem apply_event {event : PeerEvent τ} {state state' : PeerState τ}
    {started : Option (τ × PeerProg Unit)}
    (h : PeerEvent.apply localId event state = some (state', started)) :
    started = some (event.task, event.job.run localId) ∧ state'.directory = state.directory ∧
      ((state'.updater = state.updater ∧ ∀ localFeatures devices,
          event.job ≠ .update localFeatures devices) ∨
        state.updater = none ∧ state'.updater = some event.task ∧
          ∃ localFeatures devices, event.job = .update localFeatures devices) := by
  unfold PeerEvent.apply at h
  dsimp only at h
  split at h
  · rename_i hjob hnone
    obtain ⟨rfl, rfl⟩ := Prod.mk.inj (Option.some.inj h)
    exact ⟨rfl, rfl, .inr ⟨hnone, rfl, _, _, hjob⟩⟩
  · cases h
  · rename_i hfree hbusy
    obtain ⟨rfl, rfl⟩ := Prod.mk.inj (Option.some.inj h)
    refine ⟨rfl, rfl, .inl ⟨rfl, fun localFeatures devices hjob => ?_⟩⟩
    cases hupdater : state.updater with
    | none => exact hfree _ _ hjob hupdater
    | some task => exact hbusy _ _ _ hjob hupdater

end Steps

section Runs

variable {τ : Type} [DecidableEq τ] {localId : DeviceId}

abbrev PeerPool (τ : Type) := Pool PeerSig τ (PeerState τ)

abbrev PeerLabel (τ : Type) := Label PeerSig τ (PeerEvent τ)

abbrev PeerRun (localId : DeviceId) (cond : PeerState τ → PeerLabel τ → Prop) :=
  (peerWorld (τ := τ) localId).Run cond

/-- Nothing is running yet. -/
structure Quiet (pool : PeerPool τ) : Prop where
  tasks : ∀ task, pool.tasks task = none
  updater : pool.state.updater = none

variable {cond : PeerState τ → PeerLabel τ → Prop} {pool pool₁ pool₂ pool' : PeerPool τ}
  {labels : List (PeerLabel τ)} {task updater : τ} {localFeatures : Finset FeatureId}
  {devices : List DeviceInfo}

/-- What a task has asked so far. -/
def requests (task : τ) (labels : List (PeerLabel τ)) : List PeerRequest :=
  (trace task labels).map Exchange.request

theorem PeerRun.asked (h : PeerRun localId cond pool labels pool₁) (hquiet : Quiet pool)
    {request : PeerRequest} {response : request.Response}
    (hstep : (peerWorld localId).step pool₁ (.call task request response) = some pool₂) :
    ∃ job, .event ⟨task, job⟩ ∈ labels ∧
      ∀ guard post, (job.run localId).Ensures guard Prog.heard post [] →
        guard (trace task labels) request := by
  obtain ⟨event, _, _, first, hmem, hevent, hguard⟩ := World.Run.asked h hquiet.tasks hstep
  obtain ⟨hstarted, -, -⟩ := apply_event hevent
  obtain ⟨rfl, rfl⟩ := Prod.mk.inj (Option.some.inj hstarted)
  exact ⟨event.job, hmem, hguard⟩

theorem starts_event {event : PeerEvent τ} {state state' : PeerState τ}
    {started : Option (τ × PeerProg Unit)}
    (h : (peerWorld localId).event event state = some (state', started)) :
    started.map Prod.fst = some event.task := by
  rw [(apply_event h).1]
  rfl

theorem PeerRun.job_unique (h : PeerRun localId cond pool labels pool') {job job' : PeerJob}
    (hjob : .event ⟨task, job⟩ ∈ labels) (hjob' : .event ⟨task, job'⟩ ∈ labels) : job = job' := by
  exact (PeerEvent.mk.inj
    (World.Run.event_unique (fun _ _ _ _ => starts_event) h hjob hjob' rfl rfl)).2

theorem PeerRun.directory (h : PeerRun localId cond pool labels pool') (hquiet : Quiet pool) :
    (∀ task, pool'.state.updater = some task →
      (∃ localFeatures devices, .event ⟨task, .update localFeatures devices⟩ ∈ labels) ∧
      pool'.state.directory = applied pool.state.directory (requests task labels)) ∧
    (pool'.state.updater = none → pool'.state.directory = pool.state.directory) ∧
    ∀ task localFeatures devices, .event ⟨task, .update localFeatures devices⟩ ∈ labels →
      pool'.state.updater = some task := by
  induction h with
  | nil =>
      refine ⟨fun task hsome => ?_, fun _ => rfl, fun _ _ _ hmem => by cases hmem⟩
      rw [hquiet.updater] at hsome
      cases hsome
  | snoc hbefore hcond hstep ih =>
      rename_i middle last labels label
      obtain ⟨hsome, hnone, hevent⟩ := ih
      cases label with
      | call task' request response =>
          have hperform : PeerState.perform request response middle.state = some last.state := by
            obtain ⟨_, _, -, hperform, rfl⟩ := World.step_call hstep
            exact hperform
          obtain ⟨hdirectory, hupdater⟩ := perform_directory hperform
          obtain ⟨job, hjob, hguard⟩ := PeerRun.asked hbefore hquiet hstep
          -- only the update makes requests that change the directory
          have hother (hne : middle.state.updater ≠ some task') :
              last.state.directory = middle.state.directory := by
            rw [hdirectory]
            have hwrite := hguard _ _ (jobGuard_ensures job)
            cases request with
            | setFeatureEnabled | replacePeers =>
                obtain ⟨localFeatures, devices, rfl⟩ := hwrite
                exact (hne (hevent _ _ _ hjob)).elim
            | _ => rfl
          refine ⟨fun task htask => ?_, fun hupdater' => ?_,
            fun task localFeatures devices hmem => ?_⟩
          · rw [hupdater] at htask
            by_cases hself : task' = task
            · subst hself
              obtain ⟨⟨localFeatures, devices, hmem⟩, hbefore⟩ := hsome task' htask
              refine ⟨⟨localFeatures, devices, by simpa using hmem⟩, ?_⟩
              rw [hdirectory, hbefore]
              simp [requests, trace, Label.exchange]
            · obtain ⟨⟨localFeatures, devices, hmem⟩, hbefore⟩ := hsome task htask
              refine ⟨⟨localFeatures, devices, by simpa using hmem⟩, ?_⟩
              rw [hother fun heq => hself (Option.some.inj (heq.symm.trans htask)), hbefore]
              simp [requests, trace, Label.exchange, hself]
          · rw [hupdater] at hupdater'
            rw [hother (by simp [hupdater']), hnone hupdater']
          · rw [hupdater]
            exact hevent task localFeatures devices (by simpa using hmem)
      | event event =>
          obtain ⟨state', started, happly, hstarted⟩ := World.step_event hstep
          have hlast : last.state = state' := by
            rcases hstarted with ⟨-, rfl⟩ | ⟨_, _, -, -, rfl⟩ <;> rfl
          obtain ⟨rfl, hdirectory, hupdate⟩ := apply_event happly
          have hasked (task : τ) : requests task (labels ++ [(.event event : PeerLabel τ)]) =
              requests task labels := by
            simp [requests, trace, Label.exchange]
          rw [hlast, hdirectory]
          rcases hupdate with ⟨hupdater, hjob⟩ | ⟨hfree, hupdater, localFeatures, devices, hjob⟩
          · rw [hupdater]
            refine ⟨fun task htask => ?_, hnone, fun task localFeatures devices hmem => ?_⟩
            · obtain ⟨⟨localFeatures, devices, hmem⟩, hbefore⟩ := hsome task htask
              refine ⟨⟨localFeatures, devices, List.mem_append_left _ hmem⟩, ?_⟩
              rw [hasked, hbefore]
            · rcases List.mem_append.mp hmem with hold | hnew
              · exact hevent task localFeatures devices hold
              · have heq := Label.event.inj (List.mem_singleton.mp hnew)
                exact (hjob localFeatures devices (by rw [← heq])).elim
          · refine ⟨fun task htask => ?_, fun hnone' => ?_,
              fun task localFeatures devices hmem => ?_⟩
            · -- the task of the update has not asked anything yet
              obtain rfl := Option.some.inj (hupdater.symm.trans htask)
              have hidle : middle.tasks event.task = none := by
                rcases hstarted with ⟨hnone', -⟩ | ⟨_, _, heq, hfree', -⟩
                · cases hnone'
                · obtain ⟨rfl, -⟩ := Prod.mk.inj (Option.some.inj heq)
                  exact hfree'
              refine ⟨⟨localFeatures, devices, by simp [← hjob]⟩, ?_⟩
              rw [hasked, hnone hfree, requests,
                (hbefore.started hquiet.tasks event.task).1 hidle]
              rfl
            · rw [hupdater] at hnone'
              cases hnone'
            · rcases List.mem_append.mp hmem with hold | hnew
              · rw [hevent task localFeatures devices hold] at hfree
                cases hfree
              · have heq := Label.event.inj (List.mem_singleton.mp hnew)
                rw [hupdater, ← heq]

/-- At any point of a run the directory is what a part of the update has made of it. -/
theorem PeerRun.part {earlier later : List (PeerLabel τ)}
    (h : PeerRun localId cond pool (earlier ++ later) pool')
    (h₁ : PeerRun localId cond pool earlier pool₁) (hquiet : Quiet pool)
    (hupdate : .event ⟨updater, .update localFeatures devices⟩ ∈ earlier ++ later) :
    pool₁.state.directory = applied pool.state.directory (requests updater earlier) ∧
      requests updater earlier <+: peerUpdates localId localFeatures devices ∧
      (pool₁.finished updater = true →
        requests updater earlier = peerUpdates localId localFeatures devices) := by
  have hstarted := h₁.started hquiet.tasks updater
  have hfollows {program : PeerProg Unit} (hprogram : pool₁.tasks updater = some program) :
      .event ⟨updater, .update localFeatures devices⟩ ∈ earlier ∧
        program.Ensures (Next (peerUpdates localId localFeatures devices)) Prog.heard
          (fun _ log => log.map Exchange.request = peerUpdates localId localFeatures devices)
          (trace updater earlier) := by
    obtain ⟨event, _, _, first, hmem, hevent, hfollows⟩ := (hstarted.2 _ hprogram).follows
    obtain ⟨hfirst, -, -⟩ := apply_event hevent
    obtain ⟨rfl, rfl⟩ := Prod.mk.inj (Option.some.inj hfirst)
    have hjob : event.job = .update localFeatures devices :=
      PeerRun.job_unique h (List.mem_append_left _ hmem) hupdate
    rw [hjob] at hfollows
    refine ⟨hjob ▸ hmem, ?_⟩
    simpa using applyServerDevices_ensures.follows hfollows
  refine ⟨?_, ?_, fun hfinished => ?_⟩
  · obtain ⟨hsome, hnone, -⟩ := PeerRun.directory h₁ hquiet
    cases hupdater : pool₁.state.updater with
    | none =>
        have hidle : pool₁.tasks updater = none := by
          cases hprogram : pool₁.tasks updater with
          | none => rfl
          | some program =>
              have hbusy := (PeerRun.directory h₁ hquiet).2.2 _ _ _ (hfollows hprogram).1
              rw [hupdater] at hbusy
              cases hbusy
        rw [hnone hupdater, requests, hstarted.1 hidle]
        rfl
    | some task =>
        obtain ⟨⟨localFeatures', devices', hmem⟩, hdirectory⟩ := hsome task hupdater
        have hall := (PeerRun.directory h hquiet).2.2
        obtain rfl : task = updater := Option.some.inj
          ((hall _ _ _ (List.mem_append_left _ hmem)).symm.trans (hall _ _ _ hupdate))
        exact hdirectory
  · cases hprogram : pool₁.tasks updater with
    | none =>
        rw [requests, hstarted.1 hprogram]
        exact List.nil_prefix
    | some program =>
        have hensures := (hfollows hprogram).2
        cases program with
        | ret value => exact hensures ▸ List.prefix_rfl
        | call request next => exact (List.prefix_append _ _).trans hensures.1
  · exact (hfollows (Pool.finished_iff.mp hfinished)).2

theorem PeerRun.viewed {earlier later : List (PeerLabel τ)} {peers : List DeviceId}
    {disabled : Finset (DeviceId × FeatureId)}
    (h : PeerRun localId cond pool (earlier ++ later) pool')
    (h₁ : PeerRun localId cond pool earlier pool₁) (hquiet : Quiet pool)
    (hupdate : .event ⟨updater, .update localFeatures devices⟩ ∈ earlier ++ later)
    (hviewed : Viewed peers disabled (trace task earlier)) :
    ∃ first second, first <+: second ∧
      second <+: peerUpdates localId localFeatures devices ∧ peers.Nodup ∧
      peers.toFinset = (applied pool.state.directory first).peers ∧
      disabled = (applied pool.state.directory second).disabled ∧
      ∀ before after job before', earlier ++ later = before ++ .event ⟨task, job⟩ :: after →
        PeerRun localId cond pool before before' → before'.finished updater = true →
        first = peerUpdates localId localFeatures devices := by
  obtain ⟨rest, hrest⟩ := hviewed
  obtain ⟨labels₁, labels₂, pool₂, pool₃, rfl, hfirst, hrun₁, -, hstep₁, hrun₂⟩ :=
    h₁.split_trace (hrest.symm.trans (List.nil_append _).symm)
  have hmiddle : trace task labels₂ = [] ++ ⟨.readDisabled, disabled⟩ :: rest := by
    rw [trace_append, hfirst] at hrest
    simpa [trace, Label.exchange] using hrest.symm
  obtain ⟨labels₃, labels₄, pool₄, _, rfl, -, hrun₃, -, hstep₂, -⟩ := hrun₂.split_trace hmiddle
  have hrun₄ : PeerRun localId cond pool
      (labels₁ ++ .call task .readPeers peers :: labels₃) pool₄ := by
    obtain ⟨_, _, hrun, hcond, hstep, -⟩ := h₁.split_inv
    obtain rfl := hrun.unique hrun₁
    rw [← List.singleton_append, ← List.append_assoc]
    exact World.Run.append (.snoc hrun₁ hcond hstep₁) hrun₃
  rw [List.append_assoc] at h hupdate
  obtain ⟨hpeers, -, -⟩ := PeerRun.part h hrun₁ hquiet hupdate
  have hread : peers.Nodup ∧ peers.toFinset = pool₂.state.directory.peers := by
    obtain ⟨_, _, -, hperform, -⟩ := World.step_call hstep₁
    exact (Option.ite_none_right_eq_some.mp hperform).1
  have hread' : disabled = pool₄.state.directory.disabled := by
    obtain ⟨_, _, -, hperform, -⟩ := World.step_call hstep₂
    exact (Option.ite_none_right_eq_some.mp hperform).1
  have hlabels : labels₁ ++ (.call task .readPeers peers ::
      (labels₃ ++ .call task .readDisabled disabled :: labels₄) ++ later) =
      (labels₁ ++ .call task .readPeers peers :: labels₃) ++
        (.call task .readDisabled disabled :: labels₄ ++ later) := by
    simp
  obtain ⟨hdisabled, hpart, -⟩ := PeerRun.part (hlabels ▸ h) hrun₄ hquiet (hlabels ▸ hupdate)
  refine ⟨_, _, ?_, hpart, hread.1, hpeers ▸ hread.2, hdisabled ▸ hread',
    fun before after job before' hsplit hbefore hfinished => ?_⟩
  · simp [requests]
  · rw [List.append_assoc] at hsplit
    have hahead : before <+: labels₁ := by
      refine World.Run.start_before (hsplit ▸ h) hquiet.tasks ?_ hsplit.symm
      exact fun _ _ _ hevent => starts_event hevent
    obtain ⟨-, -, hdone⟩ := PeerRun.part (hsplit ▸ h) hbefore hquiet (hsplit ▸ hupdate)
    obtain ⟨-, hmost, -⟩ := PeerRun.part h hrun₁ hquiet hupdate
    have hless : requests updater before <+: requests updater labels₁ := by
      obtain ⟨rest, rfl⟩ := hahead
      simp [requests]
    rw [hdone hfinished] at hless
    exact hmost.eq_of_length_le hless.length_le

theorem PeerRun.found {earlier later : List (PeerLabel τ)} {peers : List DeviceId}
    {disabled : Finset (DeviceId × FeatureId)} {feature : FeatureId}
    (h : PeerRun localId cond pool (earlier ++ later) pool')
    (h₁ : PeerRun localId cond pool earlier pool₁) (hquiet : Quiet pool)
    (hupdate : .event ⟨updater, .update localFeatures devices⟩ ∈ earlier ++ later)
    (hdistinct : (devices.map DeviceInfo.deviceId).Nodup) (hfeature : feature ∈ allIds)
    (hviewed : Viewed peers disabled (trace task earlier)) :
    (PeerDirectory.recipients disabled feature peers).Nodup ∧
      (∀ peer ∈ PeerDirectory.recipients disabled feature peers,
        pool.state.directory.isFeatureEnabled peer feature = true ∨
          Permits localId localFeatures devices feature peer) ∧
      ∀ before after job before', earlier ++ later = before ++ .event ⟨task, job⟩ :: after →
        PeerRun localId cond pool before before' → before'.finished updater = true →
        ∀ peer, peer ∈ PeerDirectory.recipients disabled feature peers ↔
          Permits localId localFeatures devices feature peer := by
  obtain ⟨first, second, horder, hpart, hnodup, hpeers, rfl, hdone⟩ :=
    PeerRun.viewed h h₁ hquiet hupdate hviewed
  have hmem (peer : DeviceId) : peer ∈ peers ↔
      peer ∈ (applied pool.state.directory first).peers := by
    rw [← hpeers, List.mem_toFinset]
  refine ⟨hnodup.filter _, fun peer hpeer => ?_, fun before after job before' hsplit hbefore
    hfinished peer => ?_⟩
  · obtain ⟨hlisted, henabled⟩ := PeerDirectory.mem_recipients.mp hpeer
    exact permitted_of_view hdistinct horder hpart hfeature ((hmem peer).mp hlisted) henabled
  · obtain rfl := hdone before after job before' hsplit hbefore hfinished
    obtain rfl := hpart.eq_of_length_le horder.length_le
    rw [PeerDirectory.mem_recipients, hmem]
    exact permitted_iff_view hdistinct hfeature

/-- What holds of a run in which the update was started. -/
structure PolicyEnforced (localId : DeviceId) (localFeatures : Finset FeatureId)
    (devices : List DeviceInfo) (updater : τ) (cond : PeerState τ → PeerLabel τ → Prop)
    (pool : PeerPool τ) (labels : List (PeerLabel τ)) (pool' : PeerPool τ) : Prop where
  final : pool'.finished updater = true → ∀ feature ∈ allIds, ∀ peer,
    pool'.state.directory.isFeatureEnabled peer feature = true ↔
      Permits localId localFeatures devices feature peer
  /-- An answer at any time names peers that the old directory or the new policy permits. -/
  answered : ∀ earlier task feature answer later,
    labels = earlier ++ .call task (.recipients feature answer) () :: later →
    feature ∈ allIds → ∀ peer ∈ answer,
      pool.state.directory.isFeatureEnabled peer feature = true ∨
        Permits localId localFeatures devices feature peer
  /-- A call that starts after the update is answered with the new policy. -/
  answeredAfter : ∀ before before' task job middle feature answer later,
    labels = before ++ .event ⟨task, job⟩ :: middle ++
      .call task (.recipients feature answer) () :: later →
    PeerRun localId cond pool before before' → before'.finished updater = true →
    feature ∈ allIds → answer.Nodup ∧
      ∀ peer, peer ∈ answer ↔ Permits localId localFeatures devices feature peer
  /-- So is a publication, which sends one copy to each permitted peer that is connected. -/
  publishedAfter : ∀ before before' task job middle outbound result later,
    labels = before ++ .event ⟨task, job⟩ :: middle ++
      .call task (.published outbound result) () :: later →
    PeerRun localId cond pool before before' → before'.finished updater = true →
    outbound.feature ∈ allIds → ∃ connected receivers : List DeviceId,
      (⟨.connectedPeers, connected⟩ ∈ trace task middle ∨
        ∀ peer, ¬Permits localId localFeatures devices outbound.feature peer) ∧
      receivers.Nodup ∧
      (∀ peer, peer ∈ receivers ↔
        Permits localId localFeatures devices outbound.feature peer ∧ peer ∈ connected) ∧
      ((trace task middle).filterMap sent).map Prod.fst = receivers.map (fun peer =>
        FeatureMessage.new localId peer outbound.feature outbound.payload) ∧
      (result = .ok () ↔ ∀ attempt ∈ (trace task middle).filterMap sent, attempt.2 = .ok ())

/-- For every directory before it, an update enforces its policy exactly, and fails closed
while it is going on. -/
theorem policy_enforced (h : PeerRun localId cond pool labels pool') (hquiet : Quiet pool)
    (hupdate : .event ⟨updater, .update localFeatures devices⟩ ∈ labels)
    (hdistinct : (devices.map DeviceInfo.deviceId).Nodup) :
    PolicyEnforced localId localFeatures devices updater cond pool labels pool' := by
  refine ⟨fun hfinished feature hfeature peer => ?_, ?_, ?_, ?_⟩
  · have hrun : PeerRun localId cond pool (labels ++ []) pool' := by rwa [List.append_nil]
    obtain ⟨hdirectory, -, hdone⟩ :=
      PeerRun.part hrun h hquiet (by rwa [List.append_nil])
    rw [PeerDirectory.isFeatureEnabled_iff, hdirectory, hdone hfinished]
    exact permitted_iff_view hdistinct hfeature
  · rintro earlier task feature answer later rfl hfeature
    obtain ⟨pool₁, pool₂, h₁, -, hstep, -⟩ := h.split_inv
    obtain ⟨job, -, hguard⟩ := PeerRun.asked h₁ hquiet hstep
    obtain ⟨peers, disabled, hviewed, rfl⟩ := hguard _ _ (jobGuard_ensures job)
    exact (PeerRun.found h h₁ hquiet hupdate hdistinct hfeature hviewed).2.1
  · rintro before before' task job middle feature answer later rfl hbefore hfinished hfeature
    obtain ⟨pool₁, pool₂, h₁, -, hstep, -⟩ := h.split_inv
    obtain ⟨job', -, hguard⟩ := PeerRun.asked h₁ hquiet hstep
    obtain ⟨peers, disabled, hviewed, rfl⟩ := hguard _ _ (jobGuard_ensures job')
    obtain ⟨hnodup, -, hexact⟩ := PeerRun.found h h₁ hquiet hupdate hdistinct hfeature hviewed
    exact ⟨hnodup, hexact before _ job before' (List.append_assoc _ _ _) hbefore hfinished⟩
  · rintro before before' task job middle outbound result later rfl hbefore hfinished hfeature
    obtain ⟨pool₁, pool₂, h₁, -, hstep, -⟩ := h.split_inv
    obtain ⟨job', -, hguard⟩ := PeerRun.asked h₁ hquiet hstep
    have htrace : trace task (before ++ .event ⟨task, job⟩ :: middle) = trace task middle := by
      rw [trace_append, h₁.trace_before hquiet.tasks fun _ _ _ => starts_event]
      rfl
    obtain ⟨peers, disabled, receivers, hviewed, hsent, hresult, hreceivers⟩ :=
      hguard _ _ (jobGuard_ensures job')
    obtain ⟨hnodup, -, hexact⟩ := PeerRun.found h h₁ hquiet hupdate hdistinct hfeature hviewed
    have hexact := hexact before _ job before' (List.append_assoc _ _ _) hbefore hfinished
    rw [htrace] at hsent hresult hreceivers
    rcases hreceivers with ⟨connected, hconnected, rfl⟩ | ⟨hnone, rfl⟩
    · refine ⟨connected, _, .inl hconnected, hnodup.filter _, fun peer => ?_, hsent, hresult⟩
      rw [List.mem_filter, hexact, List.contains_iff_mem]
    · have hnobody (peer : DeviceId) :
          ¬Permits localId localFeatures devices outbound.feature peer := by
        rw [← hexact, hnone]
        exact List.not_mem_nil
      refine ⟨[], [], .inr hnobody, List.nodup_nil, fun peer => ?_, hsent, hresult⟩
      exact iff_of_false List.not_mem_nil fun hboth => hnobody peer hboth.1

def clipboardDevices : List DeviceInfo :=
  [1, 2, 3].map fun uuid =>
    { deviceId := ⟨uuid⟩, name := "laptop", irohPublicKey := "key",
      enabledFeatures := [⟨"clipboard"⟩], lastSeen := none, online := true }

/-- An update that lets a clipboard be shared with the devices 2 and 3, after which a text is
published that cannot be sent to device 3. -/
theorem policy_enforced_published :
    ∃ labels pool', PeerRun (τ := Nat) ⟨1⟩ (fun _ _ => True)
        ⟨⟨.new, [], none⟩, fun _ => none⟩ labels pool' ∧
      pool'.finished 0 = true ∧ pool'.finished 1 = true ∧
      PolicyEnforced ⟨1⟩ {⟨"clipboard"⟩} clipboardDevices 0 (fun _ _ => True)
        ⟨⟨.new, [], none⟩, fun _ => none⟩ labels pool' := by
  let script : List (Move Nat (PeerEvent Nat)) :=
    .event ⟨0, .update {⟨"clipboard"⟩} clipboardDevices⟩ :: List.replicate 10 (.tick 0) ++
    .event ⟨1, .publish ⟨⟨"clipboard"⟩, []⟩⟩ :: List.replicate 6 (.tick 1)
  let oracle (_ : Nat) (state : PeerState Nat) : (request : PeerRequest) → Option request.Response
    | .readPeers => some ([⟨2⟩, ⟨3⟩].filter (· ∈ state.directory.peers))
    | .readDisabled => some state.directory.disabled
    | .connectedPeers => some [⟨3⟩, ⟨2⟩]
    | .send message => some (if message.to = ⟨3⟩ then .error .disconnected else .ok ())
    | .setFeatureEnabled _ _ _ | .replacePeers _ | .updatePeerAddresses _ | .recipients _ _
    | .published _ _ => some ()
  have hsome : ((peerWorld (τ := Nat) ⟨1⟩).follow (fun _ _ => True) oracle script
      ⟨⟨.new, [], none⟩, fun _ => none⟩).any
        (fun result => result.2.finished 0 && result.2.finished 1) = true := by
    decide +kernel
  obtain ⟨⟨labels, pool⟩, hfollow, hend⟩ := (Option.any_eq_true _ _).mp hsome
  rw [Bool.and_eq_true] at hend
  have hrun := World.run_of_follow hfollow
  have hupdate : .event ⟨0, .update {⟨"clipboard"⟩} clipboardDevices⟩ ∈ labels :=
    World.event_of_follow hfollow List.mem_cons_self
  exact ⟨labels, pool, hrun, hend.1, hend.2,
    policy_enforced hrun ⟨fun _ => rfl, rfl⟩ hupdate (by decide)⟩

end Runs

end Failsafe.Daemon
