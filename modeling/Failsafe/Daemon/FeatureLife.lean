import Failsafe.Daemon.SelfSync
import Failsafe.Lib.Machine

/-!
What starting and stopping the features of a device leaves running: the tasks of
`SendFeature` (`failsafe-send/src/feature.rs`, `resume.rs`), through every way in which the
registry and the policies of the server start and stop it (`failsafe-core/src/registry.rs`,
`failsafe/src/sync.rs`).
-/

namespace Failsafe.Daemon

open Failsafe.Core Failsafe.Lib

def FILE_SEND : FeatureId :=
  ⟨"file_send"⟩

/-- The tasks that run for `SendFeature`: resumptions, which come to an end, and watchers for
new peers, which do not. -/
structure SendTasks where
  resumptions : Nat
  watchers : Nat
deriving DecidableEq, Repr

namespace SendTasks

/-- `SendFeature::start`. -/
def start (tasks : SendTasks) : Except FeatureError Unit × SendTasks :=
  (.ok (), { resumptions := tasks.resumptions + 1, watchers := tasks.watchers + 1 })

/-- `SendFeature::stop`. -/
def stop (tasks : SendTasks) : Except FeatureError Unit × SendTasks :=
  (.ok (), tasks)

end SendTasks

/-- The registry, and what runs for `SendFeature`. -/
structure FeatureLife where
  registry : FeatureRegistry
  send : SendTasks
deriving DecidableEq

namespace FeatureLife

section

variable (others : FeatureId → Except FeatureError Unit)

/-- `Feature::start`, which comes to these results for the other features. -/
def start (id : FeatureId) (life : FeatureLife) : Except FeatureError Unit × FeatureLife :=
  match if id = FILE_SEND then life.send.start else (others id, life.send) with
  | (.error error, send) => (.error error, { life with send })
  | (.ok (), send) =>
      (.ok (), { send, registry := { life.registry with
        started := insert id life.registry.started } })

def enable (id : FeatureId) (life : FeatureLife) : Except FeatureError Unit × FeatureLife :=
  match life.registry.enable id with
  | (result, registry) => (result, { life with registry })

def enableAndStart (id : FeatureId) (life : FeatureLife) :
    Except FeatureError Unit × FeatureLife :=
  match life.enable id with
  | (.error error, life) => (.error error, life)
  | (.ok (), life) => life.start others id

/-- An error of `Feature::stop` is dropped. -/
def disable (id : FeatureId) (life : FeatureLife) : FeatureLife :=
  { registry := life.registry.disable id
    send := if id = FILE_SEND ∧ life.registry.isRegistered id then life.send.stop.2
      else life.send }

/-- The loop of `start_enabled`. -/
def startAll : List FeatureId → FeatureLife → Except FeatureError Unit × FeatureLife
  | [], life => (.ok (), life)
  | id :: ids, life =>
      match life.start others id with
      | (.error error, life) => (.error error, life)
      | (.ok (), life) => startAll ids life

variable (target : Finset FeatureId) (startNewFeatures : Bool)

/-- One turn of the loop of `sync_features_to_registry`. -/
def syncFeature (feature : FeatureId) (life : FeatureLife) :
    Except FeatureError Unit × FeatureLife :=
  if !life.registry.isRegistered feature then (.ok (), life)
  else
    let shouldEnable := decide (feature ∈ target)
    let isEnabled := life.registry.isEnabled feature
    if shouldEnable && !isEnabled then
      if startNewFeatures then life.enableAndStart others feature
      else life.enable feature
    else if !shouldEnable && isEnabled then (.ok (), life.disable feature)
    else (.ok (), life)

/-- `sync_features_to_registry` over these features. -/
def syncFeatures : List FeatureId → FeatureLife → Except FeatureError Unit × FeatureLife
  | [], life => (.ok (), life)
  | feature :: features, life =>
      match life.syncFeature others target startNewFeatures feature with
      | (.error error, life) => (.error error, life)
      | (.ok (), life) => syncFeatures features life

/-- What starting a feature comes to, for the registry alone. -/
def startResult (id : FeatureId) : Except FeatureError Unit :=
  if id = FILE_SEND then .ok () else others id

variable {others target startNewFeatures} {id feature : FeatureId} {life life' : FeatureLife}
  {features ids : List FeatureId}

theorem enableAndStart_registry : (life.enableAndStart others id).1 =
      (life.registry.enableAndStart (startResult others) id).1 ∧
    (life.enableAndStart others id).2.registry =
      (life.registry.enableAndStart (startResult others) id).2 := by
  unfold enableAndStart FeatureRegistry.enableAndStart enable
  obtain ⟨result, registry⟩ := life.registry.enable id
  cases result with
  | error error => exact ⟨rfl, rfl⟩
  | ok done =>
      unfold start startResult
      by_cases hsend : id = FILE_SEND
      · simp [hsend, SendTasks.start]
      · simp only [hsend, if_false]
        cases others id with
        | error error => exact ⟨rfl, rfl⟩
        | ok done => exact ⟨rfl, rfl⟩

theorem syncFeature_registry :
    (life.syncFeature others target startNewFeatures feature).1 =
      (Daemon.syncFeature (startResult others) target startNewFeatures feature
        life.registry).1 ∧
    (life.syncFeature others target startNewFeatures feature).2.registry =
      (Daemon.syncFeature (startResult others) target startNewFeatures feature
        life.registry).2 := by
  unfold syncFeature Daemon.syncFeature
  split
  · exact ⟨rfl, rfl⟩
  · dsimp only
    split
    · split
      · exact enableAndStart_registry
      · exact ⟨rfl, rfl⟩
    · split
      · exact ⟨rfl, rfl⟩
      · exact ⟨rfl, rfl⟩

theorem syncFeatures_registry :
    (life.syncFeatures others target startNewFeatures features).1 =
      (syncFeaturesToRegistry (startResult others) target startNewFeatures features
        life.registry).1 ∧
    (life.syncFeatures others target startNewFeatures features).2.registry =
      (syncFeaturesToRegistry (startResult others) target startNewFeatures features
        life.registry).2 := by
  induction features generalizing life with
  | nil => exact ⟨rfl, rfl⟩
  | cons feature features ih =>
      have hfirst := @syncFeature_registry others target startNewFeatures feature life
      unfold syncFeatures syncFeaturesToRegistry
      generalize life.syncFeature others target startNewFeatures feature = first at hfirst ⊢
      generalize Daemon.syncFeature (startResult others) target startNewFeatures feature
        life.registry = second at hfirst ⊢
      obtain ⟨result, life'⟩ := first
      obtain ⟨result', registry⟩ := second
      obtain ⟨rfl, rfl⟩ := hfirst
      cases result with
      | error error => exact ⟨rfl, rfl⟩
      | ok done => exact ih

/-- Nothing was done to `SendFeature`. -/
structure Untouched (life life' : FeatureLife) : Prop where
  watchers : life'.send.watchers = life.send.watchers
  registered : FILE_SEND ∈ life'.registry.registered ↔ FILE_SEND ∈ life.registry.registered
  enabled : FILE_SEND ∈ life'.registry.enabled ↔ FILE_SEND ∈ life.registry.enabled

theorem Untouched.refl (life : FeatureLife) : Untouched life life :=
  ⟨rfl, Iff.rfl, Iff.rfl⟩

theorem Untouched.trans {middle : FeatureLife} (h : Untouched life middle)
    (h' : Untouched middle life') : Untouched life life' :=
  ⟨h'.watchers.trans h.watchers, h'.registered.trans h.registered, h'.enabled.trans h.enabled⟩

theorem start_other (hother : id ≠ FILE_SEND) : Untouched life (life.start others id).2 := by
  unfold start
  rw [if_neg hother]
  cases others id with
  | error error => exact Untouched.refl life
  | ok done => exact ⟨rfl, Iff.rfl, Iff.rfl⟩

theorem enable_other (hother : id ≠ FILE_SEND) : Untouched life (life.enable id).2 := by
  unfold enable FeatureRegistry.enable
  by_cases hregistered : id ∈ life.registry.registered
  · rw [dif_pos hregistered]
    exact ⟨rfl, Iff.rfl, by simp [hother.symm]⟩
  · rw [dif_neg hregistered]
    exact Untouched.refl life

theorem enableAndStart_other (hother : id ≠ FILE_SEND) :
    Untouched life (life.enableAndStart others id).2 := by
  have henable := @enable_other id life hother
  unfold enableAndStart
  split
  · next henabled => rwa [henabled] at henable
  · next henabled =>
      rw [henabled] at henable
      exact henable.trans (start_other hother)

theorem disable_other (hother : id ≠ FILE_SEND) : Untouched life (life.disable id) := by
  refine ⟨?_, Iff.rfl, ?_⟩
  · simp [disable, hother]
  · simp [disable, FeatureRegistry.disable, hother.symm]

theorem startAll_other (hothers : FILE_SEND ∉ ids) :
    Untouched life (life.startAll others ids).2 := by
  induction ids generalizing life with
  | nil => exact Untouched.refl life
  | cons id ids ih =>
      have hfirst := @start_other others id life (List.ne_of_not_mem_cons hothers).symm
      unfold startAll
      split
      · next hstart => rwa [hstart] at hfirst
      · next hstart =>
          rw [hstart] at hfirst
          exact hfirst.trans (ih (List.not_mem_of_not_mem_cons hothers))

theorem syncFeature_other (hother : feature ≠ FILE_SEND) :
    Untouched life (life.syncFeature others target startNewFeatures feature).2 := by
  unfold syncFeature
  split
  · exact Untouched.refl life
  · dsimp only
    split
    · split
      · exact enableAndStart_other hother
      · exact enable_other hother
    · split
      · exact disable_other hother
      · exact Untouched.refl life

theorem syncFeatures_other (hothers : FILE_SEND ∉ features) :
    Untouched life (life.syncFeatures others target startNewFeatures features).2 := by
  induction features generalizing life with
  | nil => exact Untouched.refl life
  | cons feature features ih =>
      have hfirst := @syncFeature_other others target startNewFeatures feature life
        (List.ne_of_not_mem_cons hothers).symm
      unfold syncFeatures
      split
      · next hsync => rwa [hsync] at hfirst
      · next hsync =>
          rw [hsync] at hfirst
          exact hfirst.trans (ih (List.not_mem_of_not_mem_cons hothers))

theorem startAll_append (before after : List FeatureId) :
    life.startAll others (before ++ after) =
      match life.startAll others before with
      | (.error error, life) => (.error error, life)
      | (.ok (), life) => life.startAll others after := by
  induction before generalizing life with
  | nil => rfl
  | cons id before ih =>
      rw [List.cons_append, startAll, startAll]
      split
      · rfl
      · exact ih

theorem syncFeatures_append (before after : List FeatureId) :
    life.syncFeatures others target startNewFeatures (before ++ after) =
      match life.syncFeatures others target startNewFeatures before with
      | (.error error, life) => (.error error, life)
      | (.ok (), life) => life.syncFeatures others target startNewFeatures after := by
  induction before generalizing life with
  | nil => rfl
  | cons feature before ih =>
      rw [List.cons_append, syncFeatures, syncFeatures]
      split
      · rfl
      · exact ih

end

end FeatureLife

/-- One call of the registry, with what the starts of the other features come to; the order in
which a set is gone through is not known. -/
inductive LifeCall where
  | enable (id : FeatureId)
  | enableAndStart (others : FeatureId → Except FeatureError Unit) (id : FeatureId)
  | startEnabled (others : FeatureId → Except FeatureError Unit) (order : List FeatureId)
  | disable (id : FeatureId)
  | sync (others : FeatureId → Except FeatureError Unit) (target : Finset FeatureId)
      (startNewFeatures : Bool)
  | resumed

namespace FeatureLife

def step (life : FeatureLife) : LifeCall → Option FeatureLife
  | .enable id => some (life.enable id).2
  | .enableAndStart others id => some (life.enableAndStart others id).2
  | .startEnabled others order =>
      if order.Nodup ∧ order.toFinset = life.registry.enabled then
        some (life.startAll others order).2
      else none
  | .disable id => some (life.disable id)
  | .sync others target startNewFeatures =>
      some (life.syncFeatures others target startNewFeatures allIds).2
  | .resumed =>
      if life.send.resumptions = 0 then none
      else some { life with send := { life.send with
        resumptions := life.send.resumptions - 1 } }

/-- The features that a sync looks at before `file_send`. -/
def beforeFileSend : List FeatureId :=
  allIds.takeWhile (· ≠ FILE_SEND)

/-- The call starts `SendFeature`. -/
def Starts (life : FeatureLife) : LifeCall → Prop
  | .enableAndStart _ id => id = FILE_SEND ∧ FILE_SEND ∈ life.registry.registered
  | .startEnabled others order => FILE_SEND ∈ life.registry.enabled ∧
      (life.startAll others (order.takeWhile (· ≠ FILE_SEND))).1 = .ok ()
  | .sync others target startNewFeatures =>
      FILE_SEND ∈ life.registry.registered ∧ FILE_SEND ∉ life.registry.enabled ∧
        FILE_SEND ∈ target ∧ startNewFeatures = true ∧
        (life.syncFeatures others target startNewFeatures beforeFileSend).1 = .ok ()
  | _ => False

/-- The call disables `SendFeature`. -/
def Disables (life : FeatureLife) : LifeCall → Prop
  | .disable id => id = FILE_SEND
  | .sync others target startNewFeatures =>
      FILE_SEND ∈ life.registry.enabled ∧ FILE_SEND ∉ target ∧
        (life.syncFeatures others target startNewFeatures beforeFileSend).1 = .ok ()
  | _ => False

/-- What a call does to `SendFeature`. -/
structure Effect (life : FeatureLife) (call : LifeCall) (life' : FeatureLife) : Prop where
  starts : life.Starts call → life'.send.watchers = life.send.watchers + 1 ∧
    FILE_SEND ∈ life'.registry.enabled
  disables : life.Disables call → life'.send.watchers = life.send.watchers ∧
    FILE_SEND ∉ life'.registry.enabled
  neither : ¬life.Starts call → ¬life.Disables call →
    life'.send.watchers = life.send.watchers ∧
      (FILE_SEND ∈ life.registry.enabled → FILE_SEND ∈ life'.registry.enabled)

section

variable {others : FeatureId → Except FeatureError Unit} {target : Finset FeatureId}
  {startNewFeatures : Bool} {id : FeatureId} {life life' : FeatureLife} {call : LifeCall}

theorem start_send : ∃ life', life.start others FILE_SEND = (.ok (), life') ∧
    life'.send.watchers = life.send.watchers + 1 ∧
    life'.registry.enabled = life.registry.enabled := by
  unfold start
  rw [if_pos rfl]
  exact ⟨_, rfl, rfl, rfl⟩

theorem enable_send (hregistered : FILE_SEND ∈ life.registry.registered) :
    (life.enable FILE_SEND).1 = .ok () ∧
      (life.enable FILE_SEND).2.send = life.send ∧
      FILE_SEND ∈ (life.enable FILE_SEND).2.registry.enabled := by
  unfold enable FeatureRegistry.enable
  rw [dif_pos hregistered]
  exact ⟨rfl, rfl, Finset.mem_insert_self _ _⟩

theorem enable_unregistered (hregistered : id ∉ life.registry.registered) :
    life.enable id = (.error (.notRegistered id), life) := by
  unfold enable FeatureRegistry.enable
  rw [dif_neg hregistered]

theorem enableAndStart_send (hregistered : FILE_SEND ∈ life.registry.registered) :
    (life.enableAndStart others FILE_SEND).2.send.watchers = life.send.watchers + 1 ∧
      FILE_SEND ∈ (life.enableAndStart others FILE_SEND).2.registry.enabled := by
  obtain ⟨hok, hsend, henabled⟩ := enable_send hregistered
  unfold enableAndStart
  split
  · next herror =>
      rw [herror] at hok
      cases hok
  · next hsame =>
      rw [hsame] at hsend henabled
      obtain ⟨started, hstart, hwatchers, hkept⟩ := @start_send others _
      rw [hstart, hwatchers, hkept]
      exact ⟨congrArg (·.watchers + 1) hsend, henabled⟩

theorem disable_send : (life.disable FILE_SEND).send.watchers = life.send.watchers ∧
    FILE_SEND ∉ (life.disable FILE_SEND).registry.enabled := by
  refine ⟨?_, by simp [disable, FeatureRegistry.disable]⟩
  unfold disable SendTasks.stop
  split
  · rfl
  · rfl

theorem Untouched.effect (h : Untouched life life') (hstarts : ¬life.Starts call)
    (hdisables : ¬life.Disables call) : Effect life call life' where
  starts hcall := absurd hcall hstarts
  disables hcall := absurd hcall hdisables
  neither _ _ := ⟨h.watchers, h.enabled.mpr⟩

theorem split_order {order : List FeatureId} (hnodup : order.Nodup) (hmem : FILE_SEND ∈ order) :
    ∃ before after, order = before ++ FILE_SEND :: after ∧ FILE_SEND ∉ before ∧
      FILE_SEND ∉ after ∧ order.takeWhile (· ≠ FILE_SEND) = before := by
  obtain ⟨before, after, rfl, hbefore⟩ := List.eq_append_cons_of_mem hmem
  refine ⟨before, after, rfl, hbefore, ?_, ?_⟩
  · exact (List.nodup_cons.mp (List.nodup_append.mp hnodup).2.1).1
  · rw [List.takeWhile_append_of_pos]
    · simp
    · intro id hid
      simpa using ne_of_mem_of_not_mem hid hbefore

theorem effect_startEnabled {order : List FeatureId} (hnodup : order.Nodup)
    (horder : order.toFinset = life.registry.enabled) :
    Effect life (.startEnabled others order) (life.startAll others order).2 := by
  by_cases henabled : FILE_SEND ∈ life.registry.enabled
  · have hmem : FILE_SEND ∈ order := by rwa [← List.mem_toFinset, horder]
    obtain ⟨before, after, hsplit, hbefore, hafter, htake⟩ := split_order hnodup hmem
    have hfirst := @startAll_other others life before hbefore
    rw [hsplit, startAll_append]
    split
    · next herror =>
        rw [herror] at hfirst
        refine hfirst.effect ?_ fun hdisables => hdisables
        rintro ⟨-, hok⟩
        rw [← hsplit, htake, herror] at hok
        cases hok
    · next life₁ hok =>
        rw [hok] at hfirst
        obtain ⟨life₂, hstart, hwatchers, hkept⟩ := @start_send others life₁
        have hlast := @startAll_other others life₂ after hafter
        rw [startAll, hstart]
        refine ⟨fun _ => ⟨?_, ?_⟩, False.elim, fun hnot => absurd ⟨henabled, ?_⟩ hnot⟩
        · rw [hlast.watchers, hwatchers, hfirst.watchers]
        · rw [hlast.enabled, hkept, hfirst.enabled]
          exact henabled
        · rw [← hsplit, htake, hok]
  · refine (startAll_other ?_).effect (fun hstarts => henabled hstarts.1) fun hdisables => hdisables
    rwa [← List.mem_toFinset, horder]

theorem allIds_split : allIds = beforeFileSend ++ [FILE_SEND] := by
  decide

theorem not_mem_beforeFileSend : FILE_SEND ∉ beforeFileSend := by
  decide

theorem syncFeature_unregistered (h : id ∉ life.registry.registered) :
    life.syncFeature others target startNewFeatures id = (.ok (), life) := by
  unfold syncFeature FeatureRegistry.isRegistered
  rw [if_pos (by simpa using h)]

theorem syncFeature_registered (h : id ∈ life.registry.registered) :
    life.syncFeature others target startNewFeatures id =
      if id ∈ target ∧ id ∉ life.registry.enabled then
        if startNewFeatures then life.enableAndStart others id else life.enable id
      else if id ∉ target ∧ id ∈ life.registry.enabled then (.ok (), life.disable id)
      else (.ok (), life) := by
  unfold syncFeature FeatureRegistry.isRegistered FeatureRegistry.isEnabled
  rw [if_neg (by simpa using h)]
  by_cases htarget : id ∈ target
  · by_cases henabled : id ∈ life.registry.enabled
    · simp [htarget, henabled]
    · simp [htarget, henabled]
  · by_cases henabled : id ∈ life.registry.enabled
    · simp [htarget, henabled]
    · simp [htarget, henabled]

theorem effect_sync_last {life₁ : FeatureLife}
    (hok : (life.syncFeatures others target startNewFeatures beforeFileSend).1 = .ok ())
    (hfirst : Untouched life life₁) :
    Effect life (.sync others target startNewFeatures)
      (life₁.syncFeature others target startNewFeatures FILE_SEND).2 := by
  by_cases hregistered : FILE_SEND ∈ life₁.registry.registered
  · rw [syncFeature_registered hregistered]
    split
    · next hnew =>
        have hnot : ¬life.Disables (.sync others target startNewFeatures) :=
          fun hdisables => hdisables.2.1 hnew.1
        have hbefore : FILE_SEND ∉ life.registry.enabled :=
          fun henabled => hnew.2 (hfirst.enabled.mpr henabled)
        refine ⟨fun hstarts => ?_, fun hdisables => absurd hdisables hnot, fun hstarts _ => ?_⟩
        · obtain ⟨hwatchers, hafter⟩ := @enableAndStart_send others life₁ hregistered
          rw [if_pos hstarts.2.2.2.1, hwatchers, hfirst.watchers]
          exact ⟨rfl, hafter⟩
        · have hlater : ¬startNewFeatures = true := fun hnow =>
            hstarts ⟨hfirst.registered.mp hregistered, hbefore, hnew.1, hnow, hok⟩
          obtain ⟨-, hsend, -⟩ := enable_send hregistered
          rw [if_neg hlater, hsend, hfirst.watchers]
          exact ⟨rfl, fun henabled => absurd henabled hbefore⟩
    · next hold =>
        have hnot : ¬life.Starts (.sync others target startNewFeatures) := fun hstarts =>
          hold ⟨hstarts.2.2.1, fun henabled => hstarts.2.1 (hfirst.enabled.mp henabled)⟩
        split
        · next hleft =>
            obtain ⟨hwatchers, hafter⟩ := @disable_send life₁
            refine ⟨fun hstarts => absurd hstarts hnot, fun _ => ⟨?_, hafter⟩, fun _ hkept => ?_⟩
            · rw [hwatchers, hfirst.watchers]
            · exact absurd ⟨hfirst.enabled.mp hleft.2, hleft.1, hok⟩ hkept
        · next hkept =>
            refine hfirst.effect hnot fun hdisables => hkept ⟨hdisables.2.1, ?_⟩
            exact hfirst.enabled.mpr hdisables.1
  · rw [syncFeature_unregistered hregistered]
    refine hfirst.effect (fun hstarts => hregistered (hfirst.registered.mpr hstarts.1)) ?_
    intro hdisables
    exact hregistered (life₁.registry.enabled_subset (hfirst.enabled.mpr hdisables.1))

theorem effect_sync : Effect life (.sync others target startNewFeatures)
    (life.syncFeatures others target startNewFeatures allIds).2 := by
  have hfirst := @syncFeatures_other others target startNewFeatures life _ not_mem_beforeFileSend
  rw [allIds_split, syncFeatures_append]
  split
  · next herror =>
      rw [herror] at hfirst
      refine hfirst.effect ?_ ?_
      · rintro ⟨-, -, -, -, hok⟩
        rw [herror] at hok
        cases hok
      · rintro ⟨-, -, hok⟩
        rw [herror] at hok
        cases hok
  · next life₁ hok =>
      have hreached := congrArg Prod.fst hok
      rw [hok] at hfirst
      have hlast : (life₁.syncFeatures others target startNewFeatures [FILE_SEND]).2 =
          (life₁.syncFeature others target startNewFeatures FILE_SEND).2 := by
        rw [syncFeatures]
        split
        · next herror => rw [herror]
        · next hdone =>
            rw [hdone]
            rfl
      rw [hlast]
      exact effect_sync_last hreached hfirst

theorem effect_of_step (h : life.step call = some life') : Effect life call life' := by
  cases call with
  | enable id =>
      obtain rfl := Option.some.inj h
      refine ⟨False.elim, False.elim, fun _ _ => ?_⟩
      by_cases hregistered : id ∈ life.registry.registered
      · unfold enable FeatureRegistry.enable
        rw [dif_pos hregistered]
        exact ⟨rfl, Finset.mem_insert_of_mem⟩
      · rw [enable_unregistered hregistered]
        exact ⟨rfl, fun hmem => hmem⟩
  | enableAndStart others id =>
      obtain rfl := Option.some.inj h
      by_cases hstarts : id = FILE_SEND ∧ FILE_SEND ∈ life.registry.registered
      · obtain ⟨rfl, hregistered⟩ := hstarts
        exact ⟨fun _ => enableAndStart_send hregistered, False.elim,
          fun hnot => absurd ⟨rfl, hregistered⟩ hnot⟩
      · refine Untouched.effect ?_ hstarts fun hdisables => hdisables
        by_cases hsend : id = FILE_SEND
        · have hregistered : id ∉ life.registry.registered := fun hmem =>
            hstarts ⟨hsend, hsend ▸ hmem⟩
          unfold enableAndStart
          rw [enable_unregistered hregistered]
          exact Untouched.refl life
        · exact enableAndStart_other hsend
  | startEnabled others order =>
      simp only [step] at h
      split at h
      · next horder =>
          obtain rfl := Option.some.inj h
          exact effect_startEnabled horder.1 horder.2
      · cases h
  | disable id =>
      obtain rfl := Option.some.inj h
      by_cases hsend : id = FILE_SEND
      · subst hsend
        exact ⟨False.elim, fun _ => disable_send, fun _ hnot => absurd rfl hnot⟩
      · exact (disable_other hsend).effect (fun hstarts => hstarts) hsend
  | sync others target startNewFeatures =>
      obtain rfl := Option.some.inj h
      exact effect_sync
  | resumed =>
      simp only [step] at h
      split at h
      · cases h
      · obtain rfl := Option.some.inj h
        exact Untouched.effect ⟨rfl, Iff.rfl, Iff.rfl⟩ (fun hstarts => hstarts)
          (fun hdisables => hdisables)

/-- At most one watcher runs, and none while `file_send` is disabled. -/
structure WatcherSafe (life : FeatureLife) : Prop where
  atMostOne : life.send.watchers ≤ 1
  disabled : FILE_SEND ∉ life.registry.enabled → life.send.watchers = 0

/-- There is no watcher that the call could double or leave behind. -/
def Calm (life : FeatureLife) (call : LifeCall) : Prop :=
  life.send.watchers = 0 ∨ ¬life.Starts call ∧ ¬life.Disables call

theorem WatcherSafe.step (hsafe : life.WatcherSafe) (hcalm : life.Calm call)
    (h : life.step call = some life') : life'.WatcherSafe := by
  have heffect := effect_of_step h
  by_cases hstarts : life.Starts call
  · obtain ⟨hwatchers, henabled⟩ := heffect.starts hstarts
    have hnone : life.send.watchers = 0 := hcalm.resolve_right fun hnot => hnot.1 hstarts
    exact ⟨by omega, fun hnot => absurd henabled hnot⟩
  by_cases hdisables : life.Disables call
  · obtain ⟨hwatchers, -⟩ := heffect.disables hdisables
    have hnone : life.send.watchers = 0 := hcalm.resolve_right fun hnot => hnot.2 hdisables
    exact ⟨by omega, fun _ => by omega⟩
  · obtain ⟨hwatchers, henabled⟩ := heffect.neither hstarts hdisables
    refine ⟨hwatchers ▸ hsafe.atMostOne, fun hnot => ?_⟩
    rw [hwatchers]
    exact hsafe.disabled fun hbefore => hnot (henabled hbefore)

theorem not_watcherSafe (hcalm : ¬life.Calm call) (h : life.step call = some life') :
    ¬life'.WatcherSafe := by
  intro hsafe
  have heffect := effect_of_step h
  rw [Calm, not_or, not_and_or, Classical.not_not, Classical.not_not] at hcalm
  obtain ⟨hsome, hstarts | hdisables⟩ := hcalm
  · have hwatchers := (heffect.starts hstarts).1
    have hone := hsafe.atMostOne
    omega
  · obtain ⟨hwatchers, hdisabled⟩ := heffect.disables hdisables
    have hnone := hsafe.disabled hdisabled
    omega

variable {first : FeatureLife} {calls before : List LifeCall}

theorem watchers_pos_iff (hfirst : first.send.watchers = 0)
    (h : runSteps step first before = some life) :
    0 < life.send.watchers ↔ ∃ earlier started later middle,
      before = earlier ++ started :: later ∧ runSteps step first earlier = some middle ∧
        middle.Starts started := by
  induction before using List.reverseRecOn generalizing life with
  | nil =>
      obtain rfl := Option.some.inj h
      simp [hfirst]
  | append_singleton before call ih =>
      obtain ⟨middle, hbefore, hcall⟩ := runSteps_snoc_iff.mp h
      have heffect := effect_of_step hcall
      have hmore : middle.send.watchers ≤ life.send.watchers := by
        by_cases hstarts : middle.Starts call
        · have hwatchers := (heffect.starts hstarts).1
          omega
        by_cases hdisables : middle.Disables call
        · exact (heffect.disables hdisables).1.ge
        · exact (heffect.neither hstarts hdisables).1.ge
      constructor
      · intro hpos
        by_cases hstarts : middle.Starts call
        · exact ⟨before, call, [], middle, rfl, hbefore, hstarts⟩
        · have hsame : life.send.watchers = middle.send.watchers := by
            by_cases hdisables : middle.Disables call
            · exact (heffect.disables hdisables).1
            · exact (heffect.neither hstarts hdisables).1
          rw [hsame] at hpos
          obtain ⟨earlier, started, later, reached, rfl, hreached⟩ := (ih hbefore).mp hpos
          exact ⟨earlier, started, later ++ [call], reached, by simp, hreached⟩
      · rintro ⟨earlier, started, later, reached, hsplit, hreached, hstarts⟩
        rcases concat_eq_split hsplit with ⟨rfl, rfl⟩ | ⟨between, rfl⟩
        · rw [hbefore] at hreached
          obtain rfl := Option.some.inj hreached
          have hwatchers := (heffect.starts hstarts).1
          omega
        · have hpos := (ih hbefore).mpr ⟨earlier, started, between, reached, rfl, hreached,
            hstarts⟩
          omega

end

/-- In every state of a run at most one watcher runs, and none while `file_send` is disabled,
exactly if no call that starts it is followed by one that starts it again or disables it. -/
theorem watchers_safe_iff (first final : FeatureLife) (hfirst : first.send.watchers = 0)
    (calls : List LifeCall) (h : runSteps step first calls = some final) :
    (∀ before life, before <+: calls → runSteps step first before = some life →
      life.WatcherSafe) ↔
    (∀ before started between call after life life',
      calls = before ++ started :: (between ++ call :: after) →
      runSteps step first before = some life → life.Starts started →
      runSteps step first (before ++ started :: between) = some life' →
      ¬life'.Starts call ∧ ¬life'.Disables call) := by
  constructor
  · rintro hsafe before started between call after life life' rfl hbefore hstarts hbetween
    have hpos := (watchers_pos_iff hfirst hbetween).mpr
      ⟨before, started, between, life, rfl, hbefore, hstarts⟩
    by_contra hnot
    have hcalm : ¬life'.Calm call := by
      rintro (hnone | hneither)
      · omega
      · exact hnot hneither
    have hsplit : before ++ started :: (between ++ call :: after) =
        (before ++ started :: between ++ [call]) ++ after := by simp
    rw [hsplit] at h
    obtain ⟨next, hnext, -⟩ := runSteps_append_iff.mp h
    obtain ⟨middle, hmiddle, hstep⟩ := runSteps_snoc_iff.mp hnext
    rw [hbetween] at hmiddle
    obtain rfl := Option.some.inj hmiddle
    exact not_watcherSafe hcalm hstep (hsafe _ next ⟨after, hsplit.symm⟩ hnext)
  · rintro honce before life ⟨rest, rfl⟩ hrun
    refine runSteps_inv (A := Calm) (fun _ _ _ hsafe hcalm hstep => hsafe.step hcalm hstep)
      ⟨by omega, fun _ => hfirst⟩ ?_ hrun
    rintro earlier call later middle rfl hmiddle
    by_cases hnone : middle.send.watchers = 0
    · exact .inl hnone
    · obtain ⟨start, started, between, reached, rfl, hreached, hstarts⟩ :=
        (watchers_pos_iff hfirst hmiddle).mp (Nat.pos_of_ne_zero hnone)
      exact .inr (honce start started between call (later ++ rest) reached middle (by simp)
        hreached hstarts hmiddle)

/-- A device with file transfers that are not enabled yet. -/
def fresh : FeatureLife where
  registry :=
    { registered := {FILE_SEND}
      enabled := ∅
      started := ∅
      enabled_subset := Finset.empty_subset _ }
  send := { resumptions := 0, watchers := 0 }

/-- A daemon that syncs, starts what is enabled, and syncs twice more with the same policy. -/
def steadyCalls : List LifeCall :=
  [.sync (fun _ => .ok ()) {FILE_SEND} false, .startEnabled (fun _ => .ok ()) [FILE_SEND], .resumed,
    .sync (fun _ => .ok ()) {FILE_SEND} true, .sync (fun _ => .ok ()) {FILE_SEND} true]

theorem started_once_safe :
    ∃ final, runSteps step fresh steadyCalls = some final ∧ final.send.watchers = 1 ∧
      ((∀ before life, before <+: steadyCalls → runSteps step fresh before = some life →
          life.WatcherSafe) ↔
        (∀ before started between call after life life',
          steadyCalls = before ++ started :: (between ++ call :: after) →
          runSteps step fresh before = some life → life.Starts started →
          runSteps step fresh (before ++ started :: between) = some life' →
          ¬life'.Starts call ∧ ¬life'.Disables call)) :=
  ⟨_, rfl, by decide, watchers_safe_iff fresh _ rfl _ rfl⟩

/-- A policy that disables `file_send` leaves its watcher running, and one that enables it again
starts a second. -/
theorem second_watcher :
    (∃ life, runSteps step fresh [.sync (fun _ => .ok ()) {FILE_SEND} true,
        .sync (fun _ => .ok ()) ∅ true] = some life ∧
      FILE_SEND ∉ life.registry.enabled ∧ life.send.watchers = 1) ∧
    ∃ life, runSteps step fresh [.sync (fun _ => .ok ()) {FILE_SEND} true,
        .sync (fun _ => .ok ()) ∅ true, .sync (fun _ => .ok ()) {FILE_SEND} true] = some life ∧
      FILE_SEND ∈ life.registry.enabled ∧ life.send.watchers = 2 :=
  ⟨⟨_, rfl, by decide, by decide⟩, ⟨_, rfl, by decide, by decide⟩⟩

end FeatureLife

end Failsafe.Daemon
