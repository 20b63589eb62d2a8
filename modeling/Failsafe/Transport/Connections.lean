import Failsafe.Lib.Machine
import Failsafe.Transport.Address
import Failsafe.Transport.Stream

/-!
The connections of the transport: dialing, accepting, the pool and the loops over the incoming
streams (`failsafe-transport/src/iroh/manager.rs`, `protocol.rs`).
-/

namespace Failsafe.Transport

open Failsafe.Core Failsafe.Lib

/-- How far the task of a connection is. -/
inductive Stage where
  | arrived
  | refused
  -- found to be of this device, and not yet in the pool
  | resolved (device : DeviceId)
  -- in its loop over the streams
  | serving (device : DeviceId)
  -- out of its loop, and about to remove the device from the pool
  | ended (device : DeviceId)
  | removed (device : DeviceId)
deriving DecidableEq, Repr

/-- The device that a connection was found to be of. -/
def Stage.device : Stage → Option DeviceId
  | .arrived | .refused => none
  | .resolved device | .serving device | .ended device | .removed device => some device

structure Connection (κ : Type) where
  remoteId : κ
  isOpen : Bool
  stage : Stage
deriving DecidableEq, Repr

/-- What the dial manager waits for. -/
inductive Dialing (κ : Type) where
  | waiting
  | connecting (endpointId : κ)
  | registering (connection : Nat)
deriving DecidableEq, Repr

/-- What the tasks of the transport share, and what they work on. -/
structure Connections (κ : Type) where
  addresses : AddressState
  connections : List (Connection κ)
  pool : Table DeviceId Nat
  -- the peers that the dial manager has still to try in this round
  round : List (DeviceId × String)
  dialing : Dialing κ
  -- the streams that were accepted and not handled
  streams : List (Nat × DeviceId × RecvStream)
  handled : List (Nat × StreamEvent)

inductive ConnectionEvent (κ : Type) where
  | update (book : PeerAddressBook)
  | tick
  | dial
  | dialed
  | dialFailed
  | accept (remoteId : κ)
  | resolve (connection : Nat)
  | insert (connection : Nat)
  | close (connection : Nat)
  | stream (connection : Nat) (recv : RecvStream)
  | finish (connection : Nat)
  | remove (connection : Nat)
  | handle (stream : Nat) (inboxOpen : Bool) (portAcceptor shellAcceptor : Acceptor)

/-- An event of the dial manager, or of a connection that comes in. -/
def ConnectionEvent.Opens {κ : Type} : ConnectionEvent κ → Prop
  | .tick | .dial | .dialed | .dialFailed | .accept _ => True
  | _ => False

namespace Connections

variable {κ : Type}

/-- `ConnectionPool::get` -/
def get (state : Connections κ) (device : DeviceId) : Option Nat :=
  Table.find state.pool device

/-- `ConnectionPool::connected_peers` -/
def connectedPeers (state : Connections κ) : List DeviceId :=
  state.pool.map Prod.fst

def started (addresses : AddressState) : Connections κ :=
  { addresses, connections := [], pool := [], round := [], dialing := .waiting, streams := [],
    handled := [] }

def arrive (state : Connections κ) (remoteId : κ) : Connections κ :=
  { state with connections := state.connections ++ [⟨remoteId, true, .arrived⟩] }

def enter (state : Connections κ) (connection : Nat) (stage : Stage) : Connections κ :=
  { state with
    connections := state.connections.modify connection fun old => { old with stage } }

def shut (state : Connections κ) (connection : Nat) : Connections κ :=
  { state with
    connections := state.connections.modify connection fun old => { old with isOpen := false } }

def stage (state : Connections κ) (connection : Nat) : Option Stage :=
  state.connections[connection]?.map Connection.stage

variable (fromStr : String → Except String κ) (toText : κ → String)
  (fromSlice : List UInt8 → Except String (FeatureMessage (List UInt8)))
  (endpointId : κ) (localDeviceId : DeviceId)

/-- The dial manager goes on with its round once its connection is registered or refused. -/
def release [DecidableEq κ] (state : Connections κ) (connection : Nat) : Connections κ :=
  if state.dialing = .registering connection then { state with dialing := .waiting } else state

def step [DecidableEq κ] (state : Connections κ) :
    ConnectionEvent κ → Option (Connections κ)
  | .update book => some { state with
      addresses := updatePeerAddresses fromStr toText state.addresses book }
  | .tick =>
      if state.round = [] ∧ state.dialing = .waiting then
        some { state with round := state.addresses.book }
      else none
  | .dial => match state.dialing, state.round with
      | .waiting, (device, address) :: round =>
          match tryDialOne fromStr endpointId state.connectedPeers.toFinset device address with
          | none => some { state with round }
          | some id => some { state with round, dialing := .connecting id }
      | _, _ => none
  | .dialed => match state.dialing with
      | .connecting id =>
          some { state.arrive id with dialing := .registering state.connections.length }
      | _ => none
  | .dialFailed => match state.dialing with
      | .connecting _ => some { state with dialing := .waiting }
      | _ => none
  | .accept remoteId =>
      if remoteId = endpointId then some state else some (state.arrive remoteId)
  | .resolve connection => match state.connections[connection]? with
      | some ⟨remoteId, _, .arrived⟩ =>
          match resolveDevice toText state.addresses remoteId with
          | .ok device => some (state.enter connection (.resolved device))
          | .error _ => some ((state.enter connection .refused).release connection)
      | _ => none
  | .insert connection => match state.stage connection with
      | some (.resolved device) =>
          some ({ state.enter connection (.serving device) with
            pool := Table.insert state.pool device connection }.release connection)
      | _ => none
  | .close connection => some (state.shut connection)
  | .stream connection recv => match state.stage connection with
      | some (.serving device) =>
          some { state with streams := state.streams ++ [(connection, device, recv)] }
      | _ => none
  | .finish connection => match state.connections[connection]? with
      | some ⟨_, false, .serving device⟩ => some (state.enter connection (.ended device))
      | _ => none
  | .remove connection => match state.stage connection with
      | some (.ended device) =>
          some { state.enter connection (.removed device) with
            pool := Table.remove state.pool device }
      | _ => none
  | .handle stream inboxOpen portAcceptor shellAcceptor => match state.streams[stream]? with
      | some (connection, device, recv) =>
          let event := handleIncomingBiStream fromSlice
            { device, localDeviceId, inboxOpen, portAcceptor, shellAcceptor } recv
          some { state with
            streams := state.streams.eraseIdx stream
            handled := state.handled ++ [(connection, event)] }
      | none => none

section Steps

variable {fromStr toText fromSlice endpointId localDeviceId} [DecidableEq κ]
  {state state' : Connections κ} {event : ConnectionEvent κ} {connection : Nat} {stage : Stage}
  {old new : Connection κ}

theorem exists_release (state : Connections κ) (connection : Nat) :
    ∃ dialing, state.release connection = { state with dialing } := by
  unfold release
  split
  · exact ⟨_, rfl⟩
  · exact ⟨_, rfl⟩

omit [DecidableEq κ] in
theorem connections_enter (other : Nat) :
    (state.enter connection stage).connections[other]? = state.connections[other]?.map fun old =>
      if connection = other then { old with stage } else old := by
  unfold enter
  rw [List.getElem?_modify]
  split
  · rfl
  · simp

omit [DecidableEq κ] in
theorem connections_shut (other : Nat) :
    (state.shut connection).connections[other]? = state.connections[other]?.map fun old =>
      if connection = other then { old with isOpen := false } else old := by
  unfold shut
  rw [List.getElem?_modify]
  split
  · rfl
  · simp

omit [DecidableEq κ] in
theorem connections_arrive {remoteId : κ} (h : state.connections[connection]? = some old) :
    (state.arrive remoteId).connections[connection]? = some old := by
  obtain ⟨hlength, -⟩ := List.getElem?_eq_some_iff.mp h
  unfold arrive
  rw [List.getElem?_append_left hlength, h]

omit [DecidableEq κ] in
theorem arrived_arrive {remoteId : κ} (h : state.connections[connection]? = none)
    (hnew : (state.arrive remoteId).connections[connection]? = some new) :
    new.stage = .arrived := by
  have hlength := List.getElem?_eq_none_iff.mp h
  unfold arrive at hnew
  rw [List.getElem?_append_right hlength] at hnew
  obtain ⟨_, rfl⟩ := List.mem_singleton.mp (List.mem_of_getElem? hnew)
  rfl

omit [DecidableEq κ] in
theorem stage_eq_some : state.stage connection = some stage ↔
    ∃ old, state.connections[connection]? = some old ∧ old.stage = stage :=
  Option.map_eq_some_iff

/-- What a step comes to. -/
inductive StepTo (fromStr : String → Except String κ) (toText : κ → String)
    (fromSlice : List UInt8 → Except String (FeatureMessage (List UInt8)))
    (localDeviceId : DeviceId) (state : Connections κ) :
    ConnectionEvent κ → Connections κ → Prop
  | update {book : PeerAddressBook} : StepTo fromStr toText fromSlice localDeviceId state
      (.update book)
      { state with addresses := updatePeerAddresses fromStr toText state.addresses book }
  | aside {event : ConnectionEvent κ} {round : List (DeviceId × String)} {dialing : Dialing κ} :
      event.Opens →
      StepTo fromStr toText fromSlice localDeviceId state event { state with round, dialing }
  | arrived {event : ConnectionEvent κ} {remoteId : κ} {dialing : Dialing κ} :
      event.Opens →
      StepTo fromStr toText fromSlice localDeviceId state event
        { state.arrive remoteId with dialing }
  | resolved {connection : Nat} {old : Connection κ} {device : DeviceId} :
      state.connections[connection]? = some old → old.stage = .arrived →
      resolveDevice toText state.addresses old.remoteId = .ok device →
      StepTo fromStr toText fromSlice localDeviceId state (.resolve connection)
        (state.enter connection (.resolved device))
  | refused {connection : Nat} {dialing : Dialing κ} :
      state.stage connection = some .arrived →
      StepTo fromStr toText fromSlice localDeviceId state (.resolve connection)
        { state.enter connection .refused with dialing }
  | inserted {connection : Nat} {device : DeviceId} {dialing : Dialing κ} :
      state.stage connection = some (.resolved device) →
      StepTo fromStr toText fromSlice localDeviceId state (.insert connection)
        { state.enter connection (.serving device) with
          pool := Table.insert state.pool device connection, dialing }
  | closed {connection : Nat} :
      StepTo fromStr toText fromSlice localDeviceId state (.close connection)
        (state.shut connection)
  | streamed {connection : Nat} {device : DeviceId} {recv : RecvStream} :
      state.stage connection = some (.serving device) →
      StepTo fromStr toText fromSlice localDeviceId state (.stream connection recv)
        { state with streams := state.streams ++ [(connection, device, recv)] }
  | ended {connection : Nat} {old : Connection κ} {device : DeviceId} :
      state.connections[connection]? = some old → old.stage = .serving device →
      old.isOpen = false →
      StepTo fromStr toText fromSlice localDeviceId state (.finish connection)
        (state.enter connection (.ended device))
  | removed {connection : Nat} {device : DeviceId} :
      state.stage connection = some (.ended device) →
      StepTo fromStr toText fromSlice localDeviceId state (.remove connection)
        { state.enter connection (.removed device) with
          pool := Table.remove state.pool device }
  | handled {stream connection : Nat} {device : DeviceId} {recv : RecvStream}
      {inboxOpen : Bool} {portAcceptor shellAcceptor : Acceptor} :
      (connection, device, recv) ∈ state.streams →
      StepTo fromStr toText fromSlice localDeviceId state
        (.handle stream inboxOpen portAcceptor shellAcceptor)
        { state with
          streams := state.streams.eraseIdx stream
          handled := state.handled ++ [(connection, handleIncomingBiStream fromSlice
            { device, localDeviceId, inboxOpen, portAcceptor, shellAcceptor } recv)] }

theorem step_to
    (h : step fromStr toText fromSlice endpointId localDeviceId state event = some state') :
    StepTo fromStr toText fromSlice localDeviceId state event state' := by
  cases event with
  | update book =>
      obtain rfl := Option.some.inj h
      exact .update
  | tick =>
      obtain ⟨-, h⟩ := Option.ite_none_right_eq_some.mp h
      obtain rfl := Option.some.inj h
      exact .aside trivial
  | dial =>
      simp only [step] at h
      split at h
      · split at h
        · obtain rfl := Option.some.inj h
          exact .aside trivial
        · obtain rfl := Option.some.inj h
          exact .aside trivial
      · cases h
  | dialed =>
      simp only [step] at h
      split at h
      · obtain rfl := Option.some.inj h
        exact .arrived trivial
      · cases h
  | dialFailed =>
      simp only [step] at h
      split at h
      · obtain rfl := Option.some.inj h
        exact .aside trivial
      · cases h
  | accept remoteId =>
      simp only [step] at h
      split at h
      · obtain rfl := Option.some.inj h
        exact .aside trivial
      · obtain rfl := Option.some.inj h
        exact .arrived trivial
  | resolve connection =>
      simp only [step] at h
      split at h
      · next harrived =>
          split at h
          · next hdevice =>
              obtain rfl := Option.some.inj h
              exact .resolved harrived rfl hdevice
          · obtain rfl := Option.some.inj h
            obtain ⟨dialing, hrelease⟩ :=
              exists_release (state.enter connection .refused) connection
            rw [hrelease]
            exact .refused (stage_eq_some.mpr ⟨_, harrived, rfl⟩)
      · cases h
  | insert connection =>
      simp only [step] at h
      split at h
      · next device hstage =>
          obtain rfl := Option.some.inj h
          obtain ⟨dialing, hrelease⟩ := exists_release
            { state.enter connection (.serving device) with
              pool := Table.insert state.pool device connection } connection
          rw [hrelease]
          exact .inserted hstage
      · cases h
  | close connection =>
      obtain rfl := Option.some.inj h
      exact .closed
  | stream connection recv =>
      simp only [step] at h
      split at h
      · next hstage =>
          obtain rfl := Option.some.inj h
          exact .streamed hstage
      · cases h
  | finish connection =>
      simp only [step] at h
      split at h
      · next hserving =>
          obtain rfl := Option.some.inj h
          exact .ended hserving rfl rfl
      · cases h
  | remove connection =>
      simp only [step] at h
      split at h
      · next hstage =>
          obtain rfl := Option.some.inj h
          exact .removed hstage
      · cases h
  | handle stream inboxOpen portAcceptor shellAcceptor =>
      simp only [step] at h
      split at h
      · next hstream =>
          obtain rfl := Option.some.inj h
          exact .handled (List.mem_of_getElem? hstream)
      · cases h

end Steps

section Moves

variable {fromStr : String → Except String κ} {toText : κ → String}
  {fromSlice : List UInt8 → Except String (FeatureMessage (List UInt8))}
  {localDeviceId : DeviceId} {state state' : Connections κ} {event : ConnectionEvent κ}
  {connection : Nat} {old new : Connection κ}

/-- What a step may make of a connection. -/
inductive Moves (toText : κ → String) (state : Connections κ) (event : ConnectionEvent κ)
    (connection : Nat) (old : Connection κ) : Connection κ → Prop
  | same : Moves toText state event connection old old
  | resolved {device : DeviceId} : event = .resolve connection → old.stage = .arrived →
      resolveDevice toText state.addresses old.remoteId = .ok device →
      Moves toText state event connection old { old with stage := .resolved device }
  | refused : event = .resolve connection → old.stage = .arrived →
      Moves toText state event connection old { old with stage := .refused }
  | inserted {device : DeviceId} : event = .insert connection → old.stage = .resolved device →
      Moves toText state event connection old { old with stage := .serving device }
  | closed : event = .close connection →
      Moves toText state event connection old { old with isOpen := false }
  | ended {device : DeviceId} : event = .finish connection → old.stage = .serving device →
      old.isOpen = false →
      Moves toText state event connection old { old with stage := .ended device }
  | removed {device : DeviceId} : event = .remove connection → old.stage = .ended device →
      Moves toText state event connection old { old with stage := .removed device }

theorem moves_enter {target : Nat} {stage : Stage}
    (hold : state.connections[connection]? = some old)
    (hmove : target = connection →
      Moves toText state event connection old { old with stage }) :
    ∃ new, (state.enter target stage).connections[connection]? = some new ∧
      Moves toText state event connection old new := by
  rw [connections_enter, hold]
  refine ⟨_, rfl, ?_⟩
  split
  · next hsame => exact hmove hsame
  · exact .same

theorem StepTo.moves (h : StepTo fromStr toText fromSlice localDeviceId state event state')
    (hold : state.connections[connection]? = some old) :
    ∃ new, state'.connections[connection]? = some new ∧
      Moves toText state event connection old new := by
  cases h with
  | update => exact ⟨old, hold, .same⟩
  | aside => exact ⟨old, hold, .same⟩
  | arrived => exact ⟨old, connections_arrive hold, .same⟩
  | resolved hfound harrived hdevice =>
      refine moves_enter hold ?_
      rintro rfl
      obtain rfl := Option.some.inj (hold.symm.trans hfound)
      exact .resolved rfl harrived hdevice
  | refused hstage =>
      refine moves_enter hold ?_
      rintro rfl
      obtain ⟨found, hfound, harrived⟩ := stage_eq_some.mp hstage
      obtain rfl := Option.some.inj (hold.symm.trans hfound)
      exact .refused rfl harrived
  | inserted hstage =>
      refine moves_enter hold ?_
      rintro rfl
      obtain ⟨found, hfound, hresolved⟩ := stage_eq_some.mp hstage
      obtain rfl := Option.some.inj (hold.symm.trans hfound)
      exact .inserted rfl hresolved
  | closed =>
      rw [connections_shut, hold]
      refine ⟨_, rfl, ?_⟩
      split
      · next hsame =>
          subst hsame
          exact .closed rfl
      · exact .same
  | streamed => exact ⟨old, hold, .same⟩
  | ended hfound hserving hclosed =>
      refine moves_enter hold ?_
      rintro rfl
      obtain rfl := Option.some.inj (hold.symm.trans hfound)
      exact .ended rfl hserving hclosed
  | removed hstage =>
      refine moves_enter hold ?_
      rintro rfl
      obtain ⟨found, hfound, hended⟩ := stage_eq_some.mp hstage
      obtain rfl := Option.some.inj (hold.symm.trans hfound)
      exact .removed rfl hended
  | handled => exact ⟨old, hold, .same⟩

theorem StepTo.fresh (h : StepTo fromStr toText fromSlice localDeviceId state event state')
    (hold : state.connections[connection]? = none)
    (hnew : state'.connections[connection]? = some new) : new.stage = .arrived := by
  have hentered (target : Nat) (stage : Stage) :
      (state.enter target stage).connections[connection]? = none := by
    rw [connections_enter, hold]
    rfl
  cases h with
  | update => cases hold.symm.trans hnew
  | aside => cases hold.symm.trans hnew
  | arrived => exact arrived_arrive hold hnew
  | resolved => cases (hentered _ _).symm.trans hnew
  | refused => cases (hentered _ _).symm.trans hnew
  | inserted => cases (hentered _ _).symm.trans hnew
  | closed =>
      rw [connections_shut, hold] at hnew
      cases hnew
  | streamed => cases hold.symm.trans hnew
  | ended => cases (hentered _ _).symm.trans hnew
  | removed => cases (hentered _ _).symm.trans hnew
  | handled => cases hold.symm.trans hnew

/-- The connection was found to be of the device. -/
def Attributed (state : Connections κ) (device : DeviceId) (connection : Nat) : Prop :=
  ∃ stage, state.stage connection = some stage ∧ stage.device = some device

theorem Moves.device {device : DeviceId} (h : Moves toText state event connection old new)
    (hdevice : old.stage.device = some device) : new.stage.device = some device := by
  cases h with
  | same => exact hdevice
  | resolved _ harrived =>
      rw [harrived] at hdevice
      cases hdevice
  | refused _ harrived =>
      rw [harrived] at hdevice
      cases hdevice
  | inserted _ hstage =>
      rw [hstage] at hdevice
      exact hdevice
  | closed => exact hdevice
  | ended _ hstage =>
      rw [hstage] at hdevice
      exact hdevice
  | removed _ hstage =>
      rw [hstage] at hdevice
      exact hdevice

theorem StepTo.attributed {device : DeviceId}
    (h : StepTo fromStr toText fromSlice localDeviceId state event state')
    (hdevice : state.Attributed device connection) : state'.Attributed device connection := by
  obtain ⟨stage, hstage, hdevice⟩ := hdevice
  obtain ⟨old, hold, rfl⟩ := stage_eq_some.mp hstage
  obtain ⟨new, hnew, hmoves⟩ := h.moves hold
  exact ⟨new.stage, stage_eq_some.mpr ⟨new, hnew, rfl⟩, hmoves.device hdevice⟩

theorem run_attributed [DecidableEq κ] {endpointId : κ} {device : DeviceId}
    {events : List (ConnectionEvent κ)}
    (h : runSteps (step fromStr toText fromSlice endpointId localDeviceId) state events =
      some state') (hdevice : state.Attributed device connection) :
    state'.Attributed device connection := by
  induction events generalizing state with
  | nil =>
      obtain rfl := Option.some.inj h
      exact hdevice
  | cons event events ih =>
      obtain ⟨middle, hstep, hrest⟩ := runSteps_cons_iff.mp h
      exact ih hrest ((step_to hstep).attributed hdevice)

end Moves

end Connections

end Failsafe.Transport
