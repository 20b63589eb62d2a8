import Mathlib.Data.Finset.Insert
import Mathlib.Data.Finset.Lattice.Lemmas
import Failsafe.Core.Catalog

/-!
The features of a device and which of them are enabled (`failsafe-core/src/registry.rs`).
-/

namespace Failsafe.Core

/-- The registered features by their ids; what a feature does is a parameter of the calls.
`started` is not in the source: the features that have been started successfully since they
were last enabled. -/
structure FeatureRegistry where
  registered : Finset FeatureId
  enabled : Finset FeatureId
  started : Finset FeatureId
  enabled_subset : enabled ⊆ registered
deriving DecidableEq

namespace FeatureRegistry

def new : FeatureRegistry :=
  { registered := ∅, enabled := ∅, started := ∅, enabled_subset := Finset.Subset.refl _ }

def register (registry : FeatureRegistry) (id : FeatureId) :
    Except FeatureError Unit × FeatureRegistry :=
  if id ∈ registry.registered then (.error (.alreadyRegistered id), registry)
  else (.ok (), { registry with
    registered := insert id registry.registered
    enabled_subset := registry.enabled_subset.trans (Finset.subset_insert _ _) })

def isRegistered (registry : FeatureRegistry) (id : FeatureId) : Bool :=
  id ∈ registry.registered

def isEnabled (registry : FeatureRegistry) (id : FeatureId) : Bool :=
  id ∈ registry.enabled

def enable (registry : FeatureRegistry) (id : FeatureId) :
    Except FeatureError Unit × FeatureRegistry :=
  if h : id ∈ registry.registered then
    (.ok (), { registry with
      enabled := insert id registry.enabled
      started := registry.started.erase id
      enabled_subset := Finset.insert_subset h registry.enabled_subset })
  else (.error (.notRegistered id), registry)

/-- An error of `Feature::stop` is dropped. -/
def disable (registry : FeatureRegistry) (id : FeatureId) : FeatureRegistry :=
  { registry with
    enabled := registry.enabled.erase id
    started := registry.started.erase id
    enabled_subset := (Finset.erase_subset _ _).trans registry.enabled_subset }

/-- `dispatch`, up to the feature whose `handle_message` is called. -/
def dispatch (registry : FeatureRegistry) (message : FeatureMessage (List UInt8)) :
    Except FeatureError FeatureId :=
  if registry.isEnabled message.feature then
    if registry.isRegistered message.feature then .ok message.feature
    else .error (.notRegistered message.feature)
  else .error (.notEnabled message.feature)

/-- `enable_and_start`, where `Feature::start` comes to these results. -/
def enableAndStart (start : FeatureId → Except FeatureError Unit) (registry : FeatureRegistry)
    (id : FeatureId) : Except FeatureError Unit × FeatureRegistry :=
  match registry.enable id with
  | (.error error, registry) => (.error error, registry)
  | (.ok (), registry) =>
      match start id with
      | .error error => (.error error, registry)
      | .ok () => (.ok (), { registry with started := insert id registry.started })

variable {registry registry' : FeatureRegistry} {id feature : FeatureId}

/-- What enabling a feature leaves, whether it is started or not. -/
structure Enabled (registry : FeatureRegistry) (id : FeatureId) (registry' : FeatureRegistry) :
    Prop where
  registered : registry'.registered = registry.registered
  enabled : registry'.enabled = insert id registry.enabled
  others : ∀ feature, feature ≠ id → (feature ∈ registry'.started ↔ feature ∈ registry.started)

theorem enable_ok (h : registry.enable id = (.ok (), registry')) :
    registry.Enabled id registry' ∧ id ∉ registry'.started := by
  unfold enable at h
  split at h
  · obtain ⟨-, rfl⟩ := Prod.mk.inj h
    refine ⟨⟨rfl, rfl, fun feature hother => ?_⟩, Finset.notMem_erase _ _⟩
    simp [hother]
  · cases (Prod.mk.inj h).1

theorem enableAndStart_ok {start : FeatureId → Except FeatureError Unit}
    (h : registry.enableAndStart start id = (.ok (), registry')) :
    registry.Enabled id registry' ∧ id ∈ registry'.started := by
  unfold enableAndStart at h
  split at h
  · cases (Prod.mk.inj h).1
  · rename_i registry₁ henable
    split at h
    · cases (Prod.mk.inj h).1
    · obtain ⟨-, rfl⟩ := Prod.mk.inj h
      obtain ⟨henabled, -⟩ := enable_ok henable
      refine ⟨⟨henabled.registered, henabled.enabled, fun feature hother => ?_⟩,
        Finset.mem_insert_self _ _⟩
      simp [hother, henabled.others feature hother]

theorem dispatch_eq_ok {message : FeatureMessage (List UInt8)} :
    registry.dispatch message = .ok feature ↔
      feature = message.feature ∧ feature ∈ registry.enabled := by
  unfold dispatch isEnabled isRegistered
  constructor
  · intro h
    split at h
    · rename_i henabled
      split at h
      · obtain rfl := Except.ok.inj h
        exact ⟨rfl, of_decide_eq_true henabled⟩
      · cases h
    · cases h
  · rintro ⟨rfl, henabled⟩
    rw [if_pos (decide_eq_true henabled),
      if_pos (decide_eq_true (registry.enabled_subset henabled))]

theorem mem_enabled_disable : feature ∈ (registry.disable id).enabled ↔
    feature ≠ id ∧ feature ∈ registry.enabled :=
  Finset.mem_erase

theorem mem_started_disable : feature ∈ (registry.disable id).started ↔
    feature ≠ id ∧ feature ∈ registry.started :=
  Finset.mem_erase

end FeatureRegistry

end Failsafe.Core
