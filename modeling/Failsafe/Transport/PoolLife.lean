import Failsafe.Transport.Connections

/-!
Which connection the pool has for a device.  The loop of a connection removes the device from the
pool, and not the connection: what this loses, and when nothing is lost.
-/

namespace Failsafe.Transport.Connections

open Failsafe.Core Failsafe.Lib

variable {κ : Type} {fromStr : String → Except String κ} {toText : κ → String}
  {fromSlice : List UInt8 → Except String (FeatureMessage (List UInt8))} {endpointId : κ}
  {localDeviceId : DeviceId} {state state' final : Connections κ} {event : ConnectionEvent κ}
  {connection : Nat} {device : DeviceId}

/-- The connection is registered for the device, and open. -/
def Live (state : Connections κ) (device : DeviceId) (connection : Nat) : Prop :=
  ∃ remoteId, state.connections[connection]? = some ⟨remoteId, true, .serving device⟩

/-- The connection is registered for the device, and its loop has not cleaned up. -/
def Registered (state : Connections κ) (device : DeviceId) (connection : Nat) : Prop :=
  state.stage connection = some (.serving device) ∨ state.stage connection = some (.ended device)

/-- Every closed connection that was registered has been cleaned up. -/
def CleanedUp (state : Connections κ) : Prop :=
  ∀ (connection : Nat) (old : Connection κ) (device : DeviceId),
    state.connections[connection]? = some old →
      old.stage = .serving device ∨ old.stage = .ended device → old.isOpen = true

/-- A device with a live connection is in the pool, with a live connection. -/
def PoolLive (state : Connections κ) : Prop :=
  ∀ device connection, state.Live device connection →
    (∃ pooled, state.get device = some pooled ∧ state.Live device pooled) ∧
      device ∈ state.connectedPeers

/-- The pool has for each device the connection that was registered last, unless one of the
device was cleaned up since. -/
structure Pooled (events : List (ConnectionEvent κ)) (state : Connections κ) : Prop where
  closed : ∀ (connection : Nat) (old : Connection κ) (device : DeviceId),
    state.connections[connection]? = some old → old.stage = .ended device → old.isOpen = false
  registered : ∀ device connection, state.get device = some connection →
    state.Registered device connection
  empty : ∀ device connection, state.get device = none → state.Live device connection →
    ∃ before removed after, events = before ++ .remove removed :: after ∧
      state.Attributed device removed ∧
      ∀ other, .insert other ∈ after →
        ∃ owner, owner ≠ device ∧ state.Attributed owner other

theorem live_iff : state.Live device connection ↔ ∃ old,
    state.connections[connection]? = some old ∧ old.stage = .serving device ∧
      old.isOpen = true := by
  constructor
  · rintro ⟨remoteId, hfound⟩
    exact ⟨_, hfound, rfl, rfl⟩
  · rintro ⟨⟨remoteId, isOpen, stage⟩, hfound, rfl, rfl⟩
    exact ⟨remoteId, hfound⟩

theorem StepTo.registered_after
    (h : StepTo fromStr toText fromSlice localDeviceId state event state')
    (hregistered : state.Registered device connection) :
    state'.Registered device connection ∨
      event = .remove connection ∧ state.stage connection = some (.ended device) := by
  obtain ⟨old, hold, hstage⟩ : ∃ old, state.connections[connection]? = some old ∧
      (old.stage = .serving device ∨ old.stage = .ended device) := by
    rcases hregistered with hserving | hended
    · obtain ⟨old, hold, hstage⟩ := stage_eq_some.mp hserving
      exact ⟨old, hold, Or.inl hstage⟩
    · obtain ⟨old, hold, hstage⟩ := stage_eq_some.mp hended
      exact ⟨old, hold, Or.inr hstage⟩
  have hkept (new : Connection κ) (hnew : state'.connections[connection]? = some new)
      (hsame : new.stage = old.stage) : state'.Registered device connection := by
    rw [← hsame] at hstage
    exact hstage.imp (fun hserving => stage_eq_some.mpr ⟨new, hnew, hserving⟩)
      (fun hended => stage_eq_some.mpr ⟨new, hnew, hended⟩)
  obtain ⟨new, hnew, hmoves⟩ := h.moves hold
  cases hmoves with
  | same => exact Or.inl (hkept old hnew rfl)
  | resolved _ harrived =>
      rw [harrived] at hstage
      rcases hstage with hserving | hended
      · cases hserving
      · cases hended
  | refused _ harrived =>
      rw [harrived] at hstage
      rcases hstage with hserving | hended
      · cases hserving
      · cases hended
  | inserted _ hresolved =>
      rw [hresolved] at hstage
      rcases hstage with hserving | hended
      · cases hserving
      · cases hended
  | closed => exact Or.inl (hkept _ hnew rfl)
  | ended _ hserving =>
      rw [hserving] at hstage
      rcases hstage with hsame | hended
      · obtain rfl := Stage.serving.inj hsame
        exact Or.inl (Or.inr (stage_eq_some.mpr ⟨_, hnew, rfl⟩))
      · cases hended
  | removed hremove hended =>
      rw [hended] at hstage
      rcases hstage with hserving | hsame
      · cases hserving
      · obtain rfl := Stage.ended.inj hsame
        exact Or.inr ⟨hremove, stage_eq_some.mpr ⟨old, hold, hended⟩⟩

/-- A step leaves the pool's connection of a device, or inserts or cleans up one. -/
inductive PoolStep (state : Connections κ) (device : DeviceId) (event : ConnectionEvent κ)
    (state' : Connections κ) : Prop
  | same : state'.get device = state.get device →
      (∀ connection, event = .insert connection →
        ∃ other, other ≠ device ∧ state'.Attributed other connection) →
      (∀ connection, event = .remove connection →
        state.stage connection ≠ some (.ended device)) →
      PoolStep state device event state'
  | inserted {connection : Nat} : event = .insert connection →
      state'.get device = some connection → state'.Registered device connection →
      PoolStep state device event state'
  | removed {connection : Nat} : event = .remove connection → state'.get device = none →
      state'.stage connection = some (.removed device) → PoolStep state device event state'

theorem stage_enter {stage : Stage} (h : state.stage connection = some stage) (next : Stage) :
    (state.enter connection next).stage connection = some next := by
  obtain ⟨old, hold, -⟩ := stage_eq_some.mp h
  refine stage_eq_some.mpr ⟨{ old with stage := next }, ?_, rfl⟩
  rw [connections_enter, hold, Option.map_some, if_pos rfl]

theorem StepTo.pool (h : StepTo fromStr toText fromSlice localDeviceId state event state')
    (device : DeviceId) : PoolStep state device event state' := by
  cases h with
  | update => exact .same rfl (by simp) (by simp)
  | @aside event _ _ hopens =>
      refine .same rfl ?_ ?_
      · rintro connection rfl
        cases hopens
      · rintro connection rfl
        cases hopens
  | @arrived event _ _ hopens =>
      refine .same rfl ?_ ?_
      · rintro connection rfl
        cases hopens
      · rintro connection rfl
        cases hopens
  | resolved => exact .same rfl (by simp) (by simp)
  | refused => exact .same rfl (by simp) (by simp)
  | @inserted connection other dialing hstage =>
      have hentered := stage_enter hstage (.serving other)
      by_cases hsame : device = other
      · subst hsame
        exact .inserted rfl Table.find_insert_self (Or.inl hentered)
      · refine .same (Table.find_insert hsame) ?_ (by simp)
        intro found hfound
        obtain rfl := ConnectionEvent.insert.inj hfound
        exact ⟨other, Ne.symm hsame, _, hentered, rfl⟩
  | closed => exact .same rfl (by simp) (by simp)
  | streamed => exact .same rfl (by simp) (by simp)
  | ended => exact .same rfl (by simp) (by simp)
  | @removed connection other hstage =>
      have hentered := stage_enter hstage (.removed other)
      by_cases hsame : device = other
      · subst hsame
        exact .removed rfl Table.find_remove_self hentered
      · refine .same (Table.find_remove hsame) (by simp) ?_
        rintro found hfound hended
        obtain rfl := ConnectionEvent.remove.inj hfound
        exact hsame (Stage.ended.inj (Option.some.inj (hended.symm.trans hstage)))
  | handled => exact .same rfl (by simp) (by simp)

theorem StepTo.closed_after (h : StepTo fromStr toText fromSlice localDeviceId state event state')
    (hclosed : ∀ old : Connection κ, state.connections[connection]? = some old →
      old.stage = .ended device → old.isOpen = false) {new : Connection κ}
    (hnew : state'.connections[connection]? = some new) (hended : new.stage = .ended device) :
    new.isOpen = false := by
  cases hold : state.connections[connection]? with
  | none =>
      rw [h.fresh hold hnew] at hended
      cases hended
  | some old =>
      obtain ⟨moved, hmoved, hmoves⟩ := h.moves hold
      obtain rfl := Option.some.inj (hmoved.symm.trans hnew)
      cases hmoves with
      | same => exact hclosed _ hold hended
      | resolved => cases hended
      | refused => cases hended
      | inserted => cases hended
      | closed => rfl
      | ended _ _ hshut => exact hshut
      | removed => cases hended

theorem StepTo.live_before (h : StepTo fromStr toText fromSlice localDeviceId state event state')
    (hlive : state'.Live device connection) :
    state.Live device connection ∨ event = .insert connection := by
  obtain ⟨new, hnew, hserving, hopen⟩ := live_iff.mp hlive
  cases hold : state.connections[connection]? with
  | none =>
      rw [h.fresh hold hnew] at hserving
      cases hserving
  | some old =>
      obtain ⟨moved, hmoved, hmoves⟩ := h.moves hold
      obtain rfl := Option.some.inj (hmoved.symm.trans hnew)
      cases hmoves with
      | same => exact Or.inl (live_iff.mpr ⟨_, hold, hserving, hopen⟩)
      | resolved => cases hserving
      | refused => cases hserving
      | inserted hinsert => exact Or.inr hinsert
      | closed => cases hopen
      | ended => cases hserving
      | removed => cases hserving

theorem attributed_unique {owner : DeviceId} (h : state.Attributed device connection)
    (howner : state.Attributed owner connection) : owner = device := by
  obtain ⟨stage, hstage, hdevice⟩ := h
  obtain ⟨found, hfound, howner⟩ := howner
  obtain rfl := Option.some.inj (hstage.symm.trans hfound)
  exact Option.some.inj (howner.symm.trans hdevice)

theorem Live.attributed (h : state.Live device connection) :
    state.Attributed device connection := by
  obtain ⟨old, hold, hserving, -⟩ := live_iff.mp h
  exact ⟨_, stage_eq_some.mpr ⟨old, hold, hserving⟩, rfl⟩

theorem Registered.attributed (h : state.Registered device connection) :
    state.Attributed device connection := by
  rcases h with hserving | hended
  · exact ⟨_, hserving, rfl⟩
  · exact ⟨_, hended, rfl⟩

theorem Pooled.snoc {events : List (ConnectionEvent κ)} (hpooled : Pooled events state)
    (h : StepTo fromStr toText fromSlice localDeviceId state event state') :
    Pooled (events ++ [event]) state' := by
  constructor
  · intro connection new device hnew hended
    exact h.closed_after (fun old hold => hpooled.closed connection old device hold) hnew hended
  · intro device connection hget
    cases h.pool device with
    | same hsame _ hothers =>
        rw [hsame] at hget
        rcases h.registered_after (hpooled.registered device connection hget) with hkept | hgone
        · exact hkept
        · exact absurd hgone.2 (hothers connection hgone.1)
    | inserted _ hpool hregistered =>
        obtain rfl := Option.some.inj (hpool.symm.trans hget)
        exact hregistered
    | removed _ hpool => cases hpool.symm.trans hget
  · intro device connection hget hlive
    cases h.pool device with
    | same hsame hothers =>
        rw [hsame] at hget
        rcases h.live_before hlive with hbefore | hinsert
        · obtain ⟨before, removed, after, rfl, hremoved, hinserts⟩ :=
            hpooled.empty device connection hget hbefore
          refine ⟨before, removed, after ++ [event], by simp, h.attributed hremoved, ?_⟩
          intro other hother
          rcases List.mem_append.mp hother with hearlier | hlast
          · obtain ⟨owner, hne, howner⟩ := hinserts other hearlier
            exact ⟨owner, hne, h.attributed howner⟩
          · exact hothers other (List.mem_singleton.mp hlast).symm
        · obtain ⟨owner, hne, howner⟩ := hothers connection hinsert
          exact absurd (attributed_unique hlive.attributed howner) hne
    | inserted _ hpool => cases hpool.symm.trans hget
    | @removed removed hremove _ hstage =>
        subst hremove
        exact ⟨events, removed, [], rfl, ⟨_, hstage, rfl⟩, by simp⟩

theorem pooled_started {addresses : AddressState} :
    Pooled [] (started addresses : Connections κ) := by
  constructor
  · intro connection old device hold
    cases hold
  · intro device connection hget
    cases hget
  · rintro device connection - ⟨remoteId, hfound⟩
    cases hfound

section Runs

variable [DecidableEq κ] {addresses : AddressState} {events : List (ConnectionEvent κ)}

theorem run_pooled (hrun : runSteps (step fromStr toText fromSlice endpointId localDeviceId)
    (started addresses) events = some state) : Pooled events state := by
  induction events using List.reverseRecOn generalizing state with
  | nil =>
      obtain rfl := Option.some.inj hrun
      exact pooled_started
  | append_singleton events event ih =>
      obtain ⟨middle, hbefore, hlast⟩ := runSteps_snoc_iff.mp hrun
      exact (ih hbefore).snoc (step_to hlast)

theorem run_absent (hrun : runSteps (step fromStr toText fromSlice endpointId localDeviceId)
      state events = some state') (hget : state.get device = none)
    (hinserts : ∀ other, .insert other ∈ events → ¬ state'.Attributed device other) :
    state'.get device = none := by
  induction events generalizing state with
  | nil =>
      obtain rfl := Option.some.inj hrun
      exact hget
  | cons event events ih =>
      obtain ⟨middle, hstep, hrest⟩ := runSteps_cons_iff.mp hrun
      refine ih hrest ?_ fun other hother => hinserts other (List.mem_cons_of_mem _ hother)
      cases (step_to hstep).pool device with
      | same hsame => rw [hsame, hget]
      | @inserted connection hinsert _ hregistered =>
          subst hinsert
          exact absurd (run_attributed hrest hregistered.attributed)
            (hinserts connection List.mem_cons_self)
      | removed _ hpool => exact hpool

theorem removed_absent
    (hstep : step fromStr toText fromSlice endpointId localDeviceId state (.remove connection) =
      some state')
    (hrun : runSteps (step fromStr toText fromSlice endpointId localDeviceId) state' events =
      some final) (hdevice : final.Attributed device connection) : state'.get device = none := by
  cases step_to hstep with
  | aside hopens => cases hopens
  | arrived hopens => cases hopens
  | removed hstage =>
      have hremoved : final.Attributed _ connection :=
        run_attributed hrun ⟨_, stage_enter hstage _, rfl⟩
      obtain rfl := attributed_unique hdevice hremoved
      exact Table.find_remove_self

/-- Where the closed connections are cleaned up, the pool has a live connection of every device
that has one if and only if every clean-up for such a device was followed by a registration. -/
theorem pool_live_iff
    (hrun : runSteps (step fromStr toText fromSlice endpointId localDeviceId)
      (started addresses) events = some state) (hcleaned : state.CleanedUp) :
    state.PoolLive ↔ ∀ device connection, state.Live device connection →
      ∀ before removed after, events = before ++ .remove removed :: after →
        state.Attributed device removed →
          ∃ other, .insert other ∈ after ∧ state.Attributed device other := by
  constructor
  · rintro hpool device connection hlive before removed after rfl hremoved
    by_contra hnone
    obtain ⟨⟨pooled, hget, -⟩, -⟩ := hpool device connection hlive
    obtain ⟨middle, hbefore, hrest⟩ := runSteps_append_iff.mp hrun
    obtain ⟨next, hstep, hafter⟩ := runSteps_cons_iff.mp hrest
    have habsent := run_absent hafter (removed_absent hstep hafter hremoved)
      fun other hother hdevice => hnone ⟨other, hother, hdevice⟩
    cases habsent.symm.trans hget
  · intro hfollowed device connection hlive
    have hpooled := run_pooled hrun
    cases hget : state.get device with
    | none =>
        obtain ⟨before, removed, after, hsplit, hremoved, hinserts⟩ :=
          hpooled.empty device connection hget hlive
        obtain ⟨other, hother, hdevice⟩ :=
          hfollowed device connection hlive before removed after hsplit hremoved
        obtain ⟨owner, hne, howner⟩ := hinserts other hother
        exact absurd (attributed_unique hdevice howner) hne
    | some pooled =>
        refine ⟨⟨pooled, rfl, ?_⟩, Table.mem_keys_of_find hget⟩
        rcases hpooled.registered device pooled hget with hserving | hended
        · obtain ⟨old, hold, hstage⟩ := stage_eq_some.mp hserving
          exact live_iff.mpr ⟨old, hold, hstage, hcleaned pooled old device hold (Or.inl hstage)⟩
        · obtain ⟨old, hold, hstage⟩ := stage_eq_some.mp hended
          have hopen := hcleaned pooled old device hold (Or.inr hstage)
          rw [hpooled.closed pooled old device hold hstage] at hopen
          cases hopen

end Runs

section Peer

theorem isKeyText_keyOne : isKeyText keyOne = true := by
  decide +kernel

theorem isKeyText_keyTwo : isKeyText keyTwo = true := by
  decide +kernel

def peerKey : KeyText :=
  ⟨keyOne, isKeyText_keyOne⟩

/-- Steps of a device that has one peer. -/
def peerStep : Connections KeyText → ConnectionEvent KeyText → Option (Connections KeyText) :=
  step readKeyText Subtype.val (fun _ => .error "eof") ⟨keyTwo, isKeyText_keyTwo⟩ ⟨1⟩

def peerStart : Connections KeyText :=
  started ⟨[(⟨2⟩, keyOne)], [(keyOne, ⟨2⟩)]⟩

/-- The peer comes back after its connection was closed and cleaned up. -/
def reconnection : List (ConnectionEvent KeyText) :=
  [.accept peerKey, .resolve 0, .insert 0, .close 0, .finish 0, .remove 0, .accept peerKey,
    .resolve 1, .insert 1]

theorem reconnection_live :
    ∃ state, runSteps peerStep peerStart reconnection = some state ∧
      state.Live ⟨2⟩ 1 ∧ state.PoolLive := by
  have hrun : (runSteps peerStep peerStart reconnection).map Connections.connections =
      some [⟨peerKey, false, .removed ⟨2⟩⟩, ⟨peerKey, true, .serving ⟨2⟩⟩] := by
    decide +kernel
  obtain ⟨state, hstate, hconnections⟩ := Option.map_eq_some_iff.mp hrun
  have hlive : state.Live ⟨2⟩ 1 := ⟨peerKey, by rw [hconnections]; rfl⟩
  refine ⟨state, hstate, hlive, (pool_live_iff hstate ?_).mpr ?_⟩
  · intro connection old device hold hstage
    have hmem := List.mem_of_getElem? hold
    rw [hconnections] at hmem
    rcases List.mem_cons.mp hmem with rfl | hmem
    · simp at hstage
    · obtain rfl := List.mem_singleton.mp hmem
      rfl
  · rintro device connection ⟨remoteId, hfound⟩ before removed after hsplit -
    rw [hconnections] at hfound
    obtain rfl : connection = 1 := by
      match connection with
      | 0 => cases hfound
      | 1 => rfl
      | connection + 2 => cases hfound
    obtain rfl : device = ⟨2⟩ := by
      cases hfound
      rfl
    refine ⟨1, ?_, hlive.attributed⟩
    have hlast := congrArg List.getLast? hsplit
    rcases List.eq_nil_or_concat after with rfl | ⟨rest, last, rfl⟩
    · simp [reconnection] at hlast
    · have hinsert : ConnectionEvent.insert 1 = last := by
        rw [List.concat_eq_append] at hlast
        simpa [reconnection, List.getLast?_append, List.getLast?_cons] using hlast
      simp [hinsert]

/-- The peer has two connections, and the older one is closed: the pool loses the other. -/
theorem older_connection_closed :
    ∃ state, runSteps peerStep peerStart [.accept peerKey, .resolve 0, .insert 0,
        .accept peerKey, .resolve 1, .insert 1, .close 0, .finish 0, .remove 0] = some state ∧
      state.CleanedUp ∧ state.Live ⟨2⟩ 1 ∧ state.get ⟨2⟩ = none ∧ ¬ state.PoolLive := by
  have hrun : (runSteps peerStep peerStart [.accept peerKey, .resolve 0, .insert 0,
      .accept peerKey, .resolve 1, .insert 1, .close 0, .finish 0, .remove 0]).map
        (fun state => (state.connections, state.pool)) =
      some ([⟨peerKey, false, .removed ⟨2⟩⟩, ⟨peerKey, true, .serving ⟨2⟩⟩], []) := by
    decide +kernel
  obtain ⟨state, hstate, heq⟩ := Option.map_eq_some_iff.mp hrun
  obtain ⟨hconnections, hpool⟩ := Prod.mk.inj heq
  have hlive : state.Live ⟨2⟩ 1 := ⟨peerKey, by rw [hconnections]; rfl⟩
  have hget : state.get ⟨2⟩ = none := by
    unfold Connections.get
    rw [hpool]
    rfl
  refine ⟨state, hstate, ?_, hlive, hget, fun hpoolLive => ?_⟩
  · intro connection old device hold hstage
    have hmem := List.mem_of_getElem? hold
    rw [hconnections] at hmem
    rcases List.mem_cons.mp hmem with rfl | hmem
    · simp at hstage
    · obtain rfl := List.mem_singleton.mp hmem
      rfl
  · obtain ⟨⟨pooled, hpooled, -⟩, -⟩ := hpoolLive ⟨2⟩ 1 hlive
    cases hget.symm.trans hpooled

end Peer

end Failsafe.Transport.Connections
