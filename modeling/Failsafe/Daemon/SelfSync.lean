import Failsafe.Core.Registry
import Failsafe.Transport.Codec

/-!
What the daemon takes over from its own entry in the device list of the server
(`failsafe/src/sync.rs`, `config.rs`), and when this brings the features, the cached policy
and the configuration file in line with the server after a failure.
-/

namespace Failsafe.Daemon

open Failsafe.Core Failsafe.Transport

inductive DaemonError where
  | config (message : String)
  | io (message : String)
  | feature (error : FeatureError)
  | deviceRemoved
deriving DecidableEq, Repr

structure Config where
  deviceId : DeviceId
  deviceName : String
  serverUrl : String
  enabledFeatures : List FeatureId
  blobStorePath : Option String
  clipboardMaxFileBytes : UInt64
deriving DecidableEq, Repr

/-- What a save comes to; one that fails leaves some contents, or none that can be read. -/
inductive SaveOutcome where
  | saved
  | failed (error : DaemonError) (disk : Option Config)

/-- What the fallible steps of one call come to. -/
structure Faults where
  start : FeatureId → Except FeatureError Unit
  save : SaveOutcome

/-- The variables that a call may change, and the configuration file. -/
structure PolicyState where
  deviceName : String
  localFeatures : Finset FeatureId
  config : Config
  disk : Option Config
  registry : FeatureRegistry
deriving DecidableEq

/-- `Config::save` -/
def save (outcome : SaveOutcome) (state : PolicyState) : Except DaemonError Unit × PolicyState :=
  match outcome with
  | .saved => (.ok (), { state with disk := some state.config })
  | .failed error disk => (.error error, { state with disk })

/-- `Config::apply_server_policy` -/
def applyServerPolicy (outcome : SaveOutcome) (name : String) (features : List FeatureId)
    (state : PolicyState) : Except DaemonError Bool × PolicyState :=
  if state.config.deviceName ≠ name ∨ state.config.enabledFeatures ≠ features then
    match save outcome { state with
      config := { state.config with deviceName := name, enabledFeatures := features } } with
    | (.error error, state) => (.error error, state)
    | (.ok (), state) => (.ok true, state)
  else (.ok false, state)

/-- One turn of the loop of `sync_features_to_registry`. -/
def syncFeature (start : FeatureId → Except FeatureError Unit) (target : Finset FeatureId)
    (startNewFeatures : Bool) (feature : FeatureId) (registry : FeatureRegistry) :
    Except FeatureError Unit × FeatureRegistry :=
  if !registry.isRegistered feature then (.ok (), registry)
  else
    let shouldEnable := decide (feature ∈ target)
    let isEnabled := registry.isEnabled feature
    if shouldEnable && !isEnabled then
      if startNewFeatures then registry.enableAndStart start feature
      else registry.enable feature
    else if !shouldEnable && isEnabled then (.ok (), registry.disable feature)
    else (.ok (), registry)

/-- `sync_features_to_registry` over these features. -/
def syncFeaturesToRegistry (start : FeatureId → Except FeatureError Unit)
    (target : Finset FeatureId) (startNewFeatures : Bool) :
    List FeatureId → FeatureRegistry → Except FeatureError Unit × FeatureRegistry
  | [], registry => (.ok (), registry)
  | feature :: features, registry =>
      match syncFeature start target startNewFeatures feature registry with
      | (.error error, registry) => (.error error, registry)
      | (.ok (), registry) =>
          syncFeaturesToRegistry start target startNewFeatures features registry

def findSelfDevice (selfId : DeviceId) (devices : List DeviceInfo) : Option DeviceInfo :=
  devices.find? fun device => device.deviceId = selfId

/-- The step of `apply_self_from_server` for features that have changed. -/
def applyFeatures (faults : Faults) (serverFeatures : Finset FeatureId)
    (startNewFeatures : Bool) (state : PolicyState) : Except DaemonError Unit × PolicyState :=
  match syncFeaturesToRegistry faults.start serverFeatures startNewFeatures allIds
      state.registry with
  | (.error error, registry) =>
      (.error (.feature error), { state with localFeatures := serverFeatures, registry })
  | (.ok (), registry) => (.ok (), { state with localFeatures := serverFeatures, registry })

/-- `apply_self_from_server` -/
def applySelfFromServer (faults : Faults) (selfId : DeviceId) (devices : List DeviceInfo)
    (startNewFeatures : Bool) (state : PolicyState) : Except DaemonError Bool × PolicyState :=
  match findSelfDevice selfId devices with
  | none => (.ok false, state)
  | some selfDevice =>
      let serverFeatures := selfDevice.enabledFeatures.toFinset
      let nameChanged := decide (selfDevice.name ≠ state.deviceName)
      let featuresChanged := decide (serverFeatures ≠ state.localFeatures)
      let policyChanged := nameChanged || featuresChanged
      let named := { state with
        deviceName := if nameChanged then selfDevice.name else state.deviceName }
      match if featuresChanged then applyFeatures faults serverFeatures startNewFeatures named
        else (.ok (), named) with
      | (.error error, state) => (.error error, state)
      | (.ok (), state) =>
          if policyChanged then
            match applyServerPolicy faults.save selfDevice.name selfDevice.enabledFeatures
                state with
            | (.error error, state) => (.error error, state)
            | (.ok _, state) => (.ok policyChanged, state)
          else (.ok policyChanged, state)

/-- One call, with what its steps come to. -/
structure SyncCall where
  faults : Faults
  devices : List DeviceInfo
  startNewFeatures : Bool

def SyncCall.run (selfId : DeviceId) (call : SyncCall) (state : PolicyState) :
    Except DaemonError Bool × PolicyState :=
  applySelfFromServer call.faults selfId call.devices call.startNewFeatures state

/-- The state after these calls. -/
def runCalls (selfId : DeviceId) (calls : List SyncCall) (state : PolicyState) : PolicyState :=
  calls.foldl (fun state call => (call.run selfId state).2) state

section Registry

/-- What bringing these features in line leaves in the registry. -/
structure Aligned (target : Finset FeatureId) (startNewFeatures : Bool)
    (features : List FeatureId) (before after : FeatureRegistry) : Prop where
  registered : after.registered = before.registered
  enabled : ∀ feature, feature ∈ after.enabled ↔
    if feature ∈ features ∧ feature ∈ before.registered then feature ∈ target
    else feature ∈ before.enabled
  started : ∀ feature ∈ after.enabled, feature ∈ after.started ↔
    feature ∈ before.enabled ∧ feature ∈ before.started ∨
      feature ∉ before.enabled ∧ startNewFeatures = true

variable {start : FeatureId → Except FeatureError Unit} {target : Finset FeatureId}
  {startNewFeatures : Bool} {feature : FeatureId} {features : List FeatureId}
  {before middle after : FeatureRegistry}

theorem Aligned.nil : Aligned target startNewFeatures [] before before := by
  constructor
  · rfl
  · intro feature
    simp
  · intro feature henabled
    simp [henabled]

theorem Aligned.cons (h : Aligned target startNewFeatures [feature] before middle)
    (h' : Aligned target startNewFeatures features middle after) :
    Aligned target startNewFeatures (feature :: features) before after := by
  constructor
  · rw [h'.registered, h.registered]
  · intro other
    rw [h'.enabled, h.enabled, h.registered]
    by_cases hregistered : other ∈ before.registered
    · by_cases hrest : other ∈ features
      · simp [hregistered, hrest]
      · simp [hregistered, hrest]
    · simp [hregistered]
  · intro other henabled
    rw [h'.started other henabled]
    by_cases hmiddle : other ∈ middle.enabled
    · simp [hmiddle, h.started other hmiddle]
    · -- a feature that was taken away before is not one to enable
      have hbefore : other ∉ before.enabled := by
        intro hold
        have henabled := (h'.enabled other).mp henabled
        have hmiddle' := hmiddle
        rw [h.enabled] at hmiddle'
        split at hmiddle'
        · rename_i hturn
          rw [h.registered] at henabled
          split at henabled
          · exact hmiddle' henabled
          · exact hmiddle henabled
        · exact hmiddle' hold
      simp [hmiddle, hbefore]

theorem Aligned.same (h : feature ∈ before.registered →
      (feature ∈ before.enabled ↔ feature ∈ target)) :
    Aligned target startNewFeatures [feature] before before := by
  constructor
  · rfl
  · intro other
    split
    · rename_i hturn
      obtain rfl := List.mem_singleton.mp hturn.1
      exact h hturn.2
    · exact Iff.rfl
  · intro other henabled
    simp [henabled]

theorem Aligned.enable (h : before.Enabled feature after) (htarget : feature ∈ target)
    (hidle : feature ∉ before.enabled)
    (hstarted : feature ∈ after.started ↔ startNewFeatures = true) :
    Aligned target startNewFeatures [feature] before after := by
  constructor
  · exact h.registered
  · intro other
    rw [h.enabled, Finset.mem_insert]
    split
    · rename_i hturn
      obtain rfl := List.mem_singleton.mp hturn.1
      simp [htarget]
    · rename_i hturn
      have hregistered : feature ∈ before.registered := by
        rw [← h.registered]
        exact after.enabled_subset (h.enabled ▸ Finset.mem_insert_self _ _)
      have hother : other ≠ feature := by
        rintro rfl
        exact hturn ⟨List.mem_singleton_self _, hregistered⟩
      simp [hother]
  · intro other henabled
    rw [h.enabled, Finset.mem_insert] at henabled
    by_cases hself : other = feature
    · subst hself
      simp [hstarted, hidle]
    · simp [h.others other hself, henabled.resolve_left hself]

theorem Aligned.disable (htarget : feature ∉ target) (hregistered : feature ∈ before.registered) :
    Aligned target startNewFeatures [feature] before (before.disable feature) := by
  constructor
  · rfl
  · intro other
    rw [FeatureRegistry.mem_enabled_disable]
    split
    · rename_i hturn
      obtain rfl := List.mem_singleton.mp hturn.1
      simp [htarget]
    · rename_i hturn
      have hother : other ≠ feature := by
        rintro rfl
        exact hturn ⟨List.mem_singleton_self _, hregistered⟩
      simp [hother]
  · intro other henabled
    rw [FeatureRegistry.mem_enabled_disable] at henabled
    simp [FeatureRegistry.mem_started_disable, henabled]

theorem syncFeature_ok
    (h : syncFeature start target startNewFeatures feature before = (.ok (), after)) :
    Aligned target startNewFeatures [feature] before after := by
  simp only [syncFeature, FeatureRegistry.isRegistered, FeatureRegistry.isEnabled,
    Bool.not_eq_true', decide_eq_false_iff_not, Bool.and_eq_true, decide_eq_true_eq] at h
  split at h
  · rename_i hregistered
    obtain ⟨-, rfl⟩ := Prod.mk.inj h
    exact .same fun hmem => (hregistered hmem).elim
  · rename_i hregistered
    split at h
    · rename_i hnew
      split at h
      · rename_i hstart
        obtain ⟨henabled, hstarted⟩ := FeatureRegistry.enableAndStart_ok h
        exact .enable henabled hnew.1 hnew.2 (iff_of_true hstarted hstart)
      · rename_i hstart
        obtain ⟨henabled, hstarted⟩ := FeatureRegistry.enable_ok h
        exact .enable henabled hnew.1 hnew.2 (iff_of_false hstarted hstart)
    · rename_i hnew
      split at h
      · rename_i hold
        obtain ⟨-, rfl⟩ := Prod.mk.inj h
        exact .disable hold.1 (not_not.mp hregistered)
      · rename_i hold
        obtain ⟨-, rfl⟩ := Prod.mk.inj h
        exact .same fun _ => by tauto

theorem syncFeaturesToRegistry_ok
    (h : syncFeaturesToRegistry start target startNewFeatures features before =
      (.ok (), after)) :
    Aligned target startNewFeatures features before after := by
  induction features generalizing before with
  | nil =>
      obtain ⟨-, rfl⟩ := Prod.mk.inj h
      exact .nil
  | cons feature features ih =>
      unfold syncFeaturesToRegistry at h
      split at h
      · cases (Prod.mk.inj h).1
      · rename_i middle hfirst
        exact (syncFeature_ok hfirst).cons (ih h)

end Registry

section Calls

variable {selfId : DeviceId} {selfDevice : DeviceInfo} {call : SyncCall} {changed : Bool}
  {state state' : PolicyState}

/-- The call writes the configuration file. -/
def Writes (selfDevice : DeviceInfo) (state : PolicyState) : Prop :=
  (selfDevice.name ≠ state.deviceName ∨
    selfDevice.enabledFeatures.toFinset ≠ state.localFeatures) ∧
  (state.config.deviceName ≠ selfDevice.name ∨
    state.config.enabledFeatures ≠ selfDevice.enabledFeatures)

/-- What a call takes over into its variables and the registry. -/
structure Taken (selfDevice : DeviceInfo) (startNewFeatures : Bool)
    (state state' : PolicyState) : Prop where
  name : state'.deviceName = selfDevice.name
  features : state'.localFeatures = selfDevice.enabledFeatures.toFinset
  registry : if selfDevice.enabledFeatures.toFinset = state.localFeatures then
      state'.registry = state.registry
    else Aligned selfDevice.enabledFeatures.toFinset startNewFeatures allIds state.registry
      state'.registry

/-- What a call that succeeds has done. -/
structure Done (selfDevice : DeviceInfo) (startNewFeatures : Bool)
    (state state' : PolicyState) : Prop extends Taken selfDevice startNewFeatures state state' where
  written : Writes selfDevice state → state'.disk = some state'.config ∧
    state'.config = { state.config with
      deviceName := selfDevice.name, enabledFeatures := selfDevice.enabledFeatures }
  unwritten : ¬Writes selfDevice state →
    state'.disk = state.disk ∧ state'.config = state.config

theorem applyServerPolicy_ok {outcome : SaveOutcome} {name : String}
    {features : List FeatureId}
    (h : applyServerPolicy outcome name features state = (.ok changed, state')) :
    if state.config.deviceName ≠ name ∨ state.config.enabledFeatures ≠ features then
      state' = { state with
        config := { state.config with deviceName := name, enabledFeatures := features },
        disk := some { state.config with deviceName := name, enabledFeatures := features } }
    else state' = state := by
  unfold applyServerPolicy at h
  split at h
  · rename_i hdiffers
    rw [if_pos hdiffers]
    split at h
    · cases (Prod.mk.inj h).1
    · rename_i hsave
      obtain ⟨-, rfl⟩ := Prod.mk.inj h
      cases outcome with
      | saved => exact (Prod.mk.inj hsave).2.symm
      | failed => cases (Prod.mk.inj hsave).1
  · rename_i hsame
    rw [if_neg hsame]
    exact (Prod.mk.inj h).2.symm

theorem applyFeatures_ok {faults : Faults} {serverFeatures : Finset FeatureId}
    {startNewFeatures : Bool}
    (h : applyFeatures faults serverFeatures startNewFeatures state = (.ok (), state')) :
    ∃ registry, state' = { state with localFeatures := serverFeatures, registry } ∧
      Aligned serverFeatures startNewFeatures allIds state.registry registry := by
  unfold applyFeatures at h
  split at h
  · cases (Prod.mk.inj h).1
  · rename_i registry hsynced
    obtain ⟨-, rfl⟩ := Prod.mk.inj h
    exact ⟨registry, rfl, syncFeaturesToRegistry_ok hsynced⟩

theorem run_ok (hself : findSelfDevice selfId call.devices = some selfDevice)
    (h : call.run selfId state = (.ok changed, state')) :
    Done selfDevice call.startNewFeatures state state' := by
  have hnamed : (if decide (selfDevice.name ≠ state.deviceName) then selfDevice.name
      else state.deviceName) = selfDevice.name := by
    simp only [decide_eq_true_eq, ite_not, ite_eq_right_iff]
    exact Eq.symm
  simp only [SyncCall.run, applySelfFromServer, hself, hnamed] at h
  split at h
  · cases (Prod.mk.inj h).1
  · rename_i middle hmiddle
    obtain ⟨htaken, hconfig, hdisk⟩ : Taken selfDevice call.startNewFeatures state middle ∧
        middle.config = state.config ∧ middle.disk = state.disk := by
      split at hmiddle
      · rename_i hchanged
        obtain ⟨registry, rfl, haligned⟩ := applyFeatures_ok hmiddle
        refine ⟨⟨rfl, rfl, ?_⟩, rfl, rfl⟩
        rw [if_neg (of_decide_eq_true hchanged)]
        exact haligned
      · rename_i hsame
        obtain ⟨-, rfl⟩ := Prod.mk.inj hmiddle
        have hsame : selfDevice.enabledFeatures.toFinset = state.localFeatures := by
          simpa using hsame
        refine ⟨⟨rfl, hsame.symm, ?_⟩, rfl, rfl⟩
        rw [if_pos hsame]
    simp only [Bool.or_eq_true, decide_eq_true_eq] at h
    split at h
    · rename_i hpolicy
      split at h
      · cases (Prod.mk.inj h).1
      · rename_i state₁ hwritten
        obtain ⟨-, rfl⟩ := Prod.mk.inj h
        have hwritten := applyServerPolicy_ok hwritten
        rw [hconfig] at hwritten
        split at hwritten
        · rename_i hdiffers
          subst hwritten
          exact ⟨⟨htaken.name, htaken.features, htaken.registry⟩, fun _ => ⟨rfl, rfl⟩,
            fun hnone => (hnone ⟨hpolicy, hdiffers⟩).elim⟩
        · rename_i hsame
          subst hwritten
          exact ⟨htaken, fun hwrites => (hsame hwrites.2).elim, fun _ => ⟨hdisk, hconfig⟩⟩
    · rename_i hpolicy
      obtain ⟨-, rfl⟩ := Prod.mk.inj h
      exact ⟨htaken, fun hwrites => (hpolicy hwrites.1).elim, fun _ => ⟨hdisk, hconfig⟩⟩

/-- The configuration file holds the policy of the server. -/
def Holds (selfDevice : DeviceInfo) (disk : Option Config) : Prop :=
  ∃ config, disk = some config ∧ config.deviceName = selfDevice.name ∧
    config.enabledFeatures.toFinset = selfDevice.enabledFeatures.toFinset

/-- The features and the file are those of the server. -/
structure Converged (selfDevice : DeviceInfo) (startNewFeatures : Bool) (state : PolicyState) :
    Prop where
  enabled : state.registry.enabled =
    selfDevice.enabledFeatures.toFinset ∩ state.registry.registered
  started : startNewFeatures = true → state.registry.enabled ⊆ state.registry.started
  disk : Holds selfDevice state.disk

/-- What a call does not change is right already. -/
structure Ready (selfDevice : DeviceInfo) (startNewFeatures : Bool) (state : PolicyState) :
    Prop where
  enabled : ∀ feature ∈ state.registry.registered,
    selfDevice.enabledFeatures.toFinset = state.localFeatures ∨ feature ∉ allIds →
    (feature ∈ state.registry.enabled ↔ feature ∈ selfDevice.enabledFeatures)
  started : startNewFeatures = true → ∀ feature ∈ state.registry.enabled,
    feature ∈ selfDevice.enabledFeatures → feature ∈ state.registry.started
  disk : Writes selfDevice state ∨ Holds selfDevice state.disk

theorem enabled_eq_iff {registry : FeatureRegistry} {features : Finset FeatureId} :
    registry.enabled = features ∩ registry.registered ↔
      ∀ feature ∈ registry.registered, (feature ∈ registry.enabled ↔ feature ∈ features) := by
  constructor
  · intro h feature hregistered
    rw [h, Finset.mem_inter]
    exact and_iff_left hregistered
  · intro h
    ext feature
    rw [Finset.mem_inter]
    constructor
    · intro henabled
      have hregistered := registry.enabled_subset henabled
      exact ⟨(h feature hregistered).mp henabled, hregistered⟩
    · rintro ⟨hfeature, hregistered⟩
      exact (h feature hregistered).mpr hfeature

theorem Taken.enabled_iff {startNewFeatures : Bool}
    (h : Taken selfDevice startNewFeatures state state') :
    state'.registry.enabled =
        selfDevice.enabledFeatures.toFinset ∩ state'.registry.registered ↔
      ∀ feature ∈ state.registry.registered,
        selfDevice.enabledFeatures.toFinset = state.localFeatures ∨ feature ∉ allIds →
        (feature ∈ state.registry.enabled ↔ feature ∈ selfDevice.enabledFeatures) := by
  have hregistry := h.registry
  rw [enabled_eq_iff]
  simp only [List.mem_toFinset]
  split at hregistry
  · rename_i hsame
    rw [hregistry]
    constructor
    · exact fun hall feature hregistered _ => hall feature hregistered
    · exact fun hall feature hregistered => hall feature hregistered (.inl hsame)
  · rename_i hchanged
    rw [hregistry.registered]
    refine forall₂_congr fun feature hregistered => ?_
    rw [hregistry.enabled]
    by_cases hlisted : feature ∈ allIds
    · simp [hlisted, hregistered, hchanged]
    · simp [hlisted]

theorem Taken.started_iff {startNewFeatures : Bool}
    (h : Taken selfDevice startNewFeatures state state')
    (henabled : state'.registry.enabled =
      selfDevice.enabledFeatures.toFinset ∩ state'.registry.registered)
    (hstart : startNewFeatures = true) :
    state'.registry.enabled ⊆ state'.registry.started ↔
      ∀ feature ∈ state.registry.enabled, feature ∈ selfDevice.enabledFeatures →
        feature ∈ state.registry.started := by
  have hmem (feature : FeatureId) : feature ∈ state'.registry.enabled ↔
      feature ∈ selfDevice.enabledFeatures ∧ feature ∈ state'.registry.registered := by
    rw [henabled, Finset.mem_inter, List.mem_toFinset]
  have hregistry := h.registry
  split at hregistry
  · rw [hregistry] at hmem ⊢
    constructor
    · exact fun hsubset feature hfeature _ => hsubset hfeature
    · exact fun hall feature hfeature => hall feature hfeature ((hmem feature).mp hfeature).1
  · rw [hregistry.registered] at hmem
    constructor
    · intro hsubset feature hfeature hserver
      have hnow := (hmem feature).mpr ⟨hserver, state.registry.enabled_subset hfeature⟩
      have hstarted := (hregistry.started feature hnow).mp (hsubset hnow)
      exact (hstarted.resolve_right fun hnew => hnew.1 hfeature).2
    · intro hall feature hnow
      refine (hregistry.started feature hnow).mpr ?_
      by_cases hfeature : feature ∈ state.registry.enabled
      · exact .inl ⟨hfeature, hall feature hfeature ((hmem feature).mp hnow).1⟩
      · exact .inr ⟨hfeature, hstart⟩

theorem Done.holds_iff {startNewFeatures : Bool}
    (h : Done selfDevice startNewFeatures state state') :
    Holds selfDevice state'.disk ↔ Writes selfDevice state ∨ Holds selfDevice state.disk := by
  by_cases hwrites : Writes selfDevice state
  · obtain ⟨hdisk, hconfig⟩ := h.written hwrites
    refine iff_of_true ⟨_, hdisk, ?_, ?_⟩ (.inl hwrites)
    · rw [hconfig]
    · rw [hconfig]
  · obtain ⟨hdisk, -⟩ := h.unwritten hwrites
    rw [hdisk]
    simp [hwrites]

theorem Done.converged_iff {startNewFeatures : Bool}
    (h : Done selfDevice startNewFeatures state state') :
    Converged selfDevice startNewFeatures state' ↔ Ready selfDevice startNewFeatures state := by
  constructor
  · intro hconverged
    exact ⟨h.enabled_iff.mp hconverged.enabled,
      fun hstart => (h.started_iff hconverged.enabled hstart).mp (hconverged.started hstart),
      h.holds_iff.mp hconverged.disk⟩
  · intro hready
    have henabled := h.enabled_iff.mpr hready.enabled
    exact ⟨henabled, fun hstart => (h.started_iff henabled hstart).mpr (hready.started hstart),
      h.holds_iff.mpr hready.disk⟩

/-- Variables, registry and file say the same, and all that is enabled is started. -/
structure InStep (state : PolicyState) : Prop where
  listed : ∀ feature ∈ state.registry.registered, feature ∈ allIds
  enabled : state.registry.enabled = state.localFeatures ∩ state.registry.registered
  started : state.registry.enabled ⊆ state.registry.started
  name : state.config.deviceName = state.deviceName
  features : state.config.enabledFeatures.toFinset = state.localFeatures
  disk : state.disk = some state.config

theorem InStep.ready (h : InStep state) {startNewFeatures : Bool} :
    Ready selfDevice startNewFeatures state := by
  constructor
  · rintro feature hregistered (hsame | hunlisted)
    · rw [enabled_eq_iff.mp h.enabled feature hregistered, ← hsame, List.mem_toFinset]
    · exact (hunlisted (h.listed feature hregistered)).elim
  · exact fun _ feature hfeature _ => h.started hfeature
  · by_cases hpolicy : selfDevice.name ≠ state.deviceName ∨
        selfDevice.enabledFeatures.toFinset ≠ state.localFeatures
    · refine .inl ⟨hpolicy, ?_⟩
      rw [← h.name, ← h.features] at hpolicy
      exact hpolicy.imp Ne.symm fun hne heq => hne (heq ▸ rfl)
    · rw [not_or, not_not, not_not] at hpolicy
      exact .inr ⟨state.config, h.disk, h.name.trans hpolicy.1.symm,
        h.features.trans hpolicy.2.symm⟩

theorem Done.inStep (h : Done selfDevice true state state') (hbefore : InStep state) :
    InStep state' := by
  have hconverged := h.converged_iff.mpr hbefore.ready
  have hregistered : state'.registry.registered = state.registry.registered := by
    have hregistry := h.registry
    split at hregistry
    · rw [hregistry]
    · exact hregistry.registered
  have hdisk : state'.disk = some state'.config := by
    by_cases hwrites : Writes selfDevice state
    · exact (h.written hwrites).1
    · obtain ⟨hdisk, hconfig⟩ := h.unwritten hwrites
      rw [hdisk, hconfig, hbefore.disk]
  obtain ⟨config, hholds, hname, hfeatures⟩ := hconverged.disk
  obtain rfl := Option.some.inj (hdisk.symm.trans hholds)
  exact ⟨hregistered ▸ hbefore.listed, h.features ▸ hconverged.enabled,
    hconverged.started rfl, hname.trans h.name.symm, hfeatures.trans h.features.symm, hdisk⟩

/-- No call of the list fails, and all start what they enable. -/
def Succeeds (selfId : DeviceId) (calls : List SyncCall) (start : PolicyState) : Prop :=
  ∀ before call after, calls = before ++ call :: after → call.startNewFeatures = true ∧
    ∃ changed, (call.run selfId (runCalls selfId before start)).1 = .ok changed

@[simp] theorem runCalls_snoc (calls : List SyncCall) :
    runCalls selfId (calls ++ [call]) state =
      (call.run selfId (runCalls selfId calls state)).2 := by
  simp [runCalls]

theorem InStep.runCalls {calls : List SyncCall} (h : InStep state)
    (hsucceeds : Succeeds selfId calls state) : InStep (runCalls selfId calls state) := by
  induction calls using List.reverseRecOn with
  | nil => exact h
  | append_singleton calls call ih =>
      have hbefore := ih fun before call' after heq =>
        hsucceeds before call' (after ++ [call]) (by rw [heq]; simp)
      obtain ⟨hstart, changed, hok⟩ := hsucceeds calls call [] rfl
      rw [runCalls_snoc]
      cases hself : findSelfDevice selfId call.devices with
      | none =>
          simp only [SyncCall.run, applySelfFromServer, hself]
          exact hbefore
      | some selfDevice =>
          have hdone := run_ok hself (Prod.ext hok rfl)
          rw [hstart] at hdone
          exact hdone.inStep hbefore

/-- After any calls, one that succeeds leaves the features and the file as the server has
them just when what it does not change is right already; and this is so as long as no call
fails. -/
theorem policy_converges {calls : List SyncCall} {start : PolicyState}
    (hself : findSelfDevice selfId call.devices = some selfDevice)
    (hok : (call.run selfId (runCalls selfId calls start)).1 = .ok changed) :
    (Converged selfDevice call.startNewFeatures (runCalls selfId (calls ++ [call]) start) ↔
      Ready selfDevice call.startNewFeatures (runCalls selfId calls start)) ∧
    (InStep start → Succeeds selfId calls start →
      Ready selfDevice call.startNewFeatures (runCalls selfId calls start)) := by
  rw [runCalls_snoc]
  exact ⟨(run_ok hself (Prod.ext hok rfl)).converged_iff,
    fun hstart hsucceeds => (hstart.runCalls hsucceeds).ready⟩

section Samples

def clipboardId : FeatureId := ⟨"clipboard"⟩

def sampleConfig : Config :=
  { deviceId := ⟨1⟩, deviceName := "laptop", serverUrl := "https://failsafe.pendejo.dev",
    enabledFeatures := [], blobStorePath := none, clipboardMaxFileBytes := 104857600 }

def sampleState : PolicyState :=
  { deviceName := "laptop", localFeatures := ∅, config := sampleConfig,
    disk := some sampleConfig,
    registry := ⟨{clipboardId}, ∅, ∅, Finset.empty_subset _⟩ }

def laptopDevice : DeviceInfo :=
  { deviceId := ⟨1⟩, name := "laptop", irohPublicKey := "key",
    enabledFeatures := [clipboardId], lastSeen := none, online := true }

/-- The server lists the clipboard, which can be started or not. -/
def sampleCall (start : Except FeatureError Unit) : SyncCall :=
  { faults := ⟨fun _ => start, .saved⟩, devices := [laptopDevice], startNewFeatures := true }

/-- The server lists no feature of this device, under another name. -/
def withdrawnCall : SyncCall :=
  { faults := ⟨fun _ => .ok (), .saved⟩
    devices := [{ laptopDevice with name := "desk", enabledFeatures := [] }]
    startNewFeatures := true }

/-- The clipboard is enabled, withdrawn and enabled again. -/
theorem policy_converges_clipboard :
    Converged laptopDevice true (runCalls ⟨1⟩
      ([sampleCall (.ok ()), withdrawnCall] ++ [sampleCall (.ok ())]) sampleState) := by
  have hconverges := @policy_converges ⟨1⟩ laptopDevice (sampleCall (.ok ())) true
    [sampleCall (.ok ()), withdrawnCall] sampleState (by decide) (by decide)
  refine hconverges.1.mpr (hconverges.2 ?_ ?_)
  · constructor <;> decide
  · intro before call after heq
    rcases before with _ | ⟨first, _ | ⟨second, before⟩⟩
    · obtain ⟨rfl, -⟩ := List.cons.inj heq
      exact ⟨rfl, true, by decide⟩
    · obtain ⟨rfl, hrest⟩ := List.cons.inj heq
      obtain ⟨rfl, -⟩ := List.cons.inj hrest
      exact ⟨rfl, true, by decide⟩
    · have hlength := congrArg List.length heq
      simp at hlength

/-- A feature that could not be started is not started by the next call. -/
theorem unstarted_stays :
    ¬∀ (selfId : DeviceId) (calls : List SyncCall) (call : SyncCall) (start : PolicyState)
      (selfDevice : DeviceInfo) (changed : Bool),
      findSelfDevice selfId call.devices = some selfDevice →
      (call.run selfId (runCalls selfId calls start)).1 = .ok changed →
      Converged selfDevice call.startNewFeatures (runCalls selfId (calls ++ [call]) start) := by
  intro hclaim
  have hconverged := hclaim ⟨1⟩ [sampleCall (.error (.failed clipboardId "no display"))]
    (sampleCall (.ok ())) sampleState laptopDevice false (by decide) (by decide)
  exact absurd (hconverged.started rfl) (by decide)

end Samples

end Calls

end Failsafe.Daemon
