import Failsafe.Transport.Connections

/-!
What a book without a device takes away from the device.  The book is asked once for each
connection, when it is registered; what is found then stays with the connection.
-/

namespace Failsafe.Transport

open Failsafe.Core Failsafe.Lib

/-- The device that a message or a session is handed on as coming from. -/
def StreamEvent.sender : StreamEvent → Option DeviceId
  | .port session => some session.from
  | .shell session => some session.from
  | .inbox message => some message.from
  | .log _ => none

section Handling

variable {fromSlice : List UInt8 → Except String (FeatureMessage (List UInt8))}
  {context : StreamContext} {device : DeviceId}

theorem sender_forward {acceptor : Acceptor} {session : StreamEvent}
    {notRegistered closed : String}
    (h : (forwardToAcceptor acceptor session notRegistered closed).sender = some device) :
    session.sender = some device := by
  cases acceptor with
  | unregistered => cases h
  | registered => exact h
  | closed => cases h

theorem sender_handle {recv : RecvStream}
    (h : (handleIncomingBiStream fromSlice context recv).sender = some device) :
    device = context.device := by
  unfold handleIncomingBiStream at h
  split at h
  · cases h
  split at h
  · unfold tryAcceptPortStream at h
    split at h
    · cases h
    split at h
    · cases h
    · exact (Option.some.inj (sender_forward h)).symm
  split at h
  · unfold tryAcceptShellStream at h
    split at h
    · cases h
    · exact (Option.some.inj (sender_forward h)).symm
  · unfold handleFeatureFrame at h
    dsimp only at h
    split at h
    · cases h
    split at h
    · cases h
    split at h
    · cases h
    · unfold deliverMessage at h
      split at h
      · cases h
      split at h
      · exact (Option.some.inj h).symm
      · cases h

end Handling

namespace Connections

variable {κ : Type} {fromStr : String → Except String κ} {toText : κ → String}
  {fromSlice : List UInt8 → Except String (FeatureMessage (List UInt8))} {endpointId : κ}
  {localDeviceId : DeviceId} {state state' middle : Connections κ} {event : ConnectionEvent κ}
  {connection : Nat} {device : DeviceId} {book : PeerAddressBook}

/-- The book that is installed has the device. -/
def Lists (state : Connections κ) (device : DeviceId) : Prop :=
  device ∈ state.addresses.book.map Prod.fst

/-- The addresses are those of a book, and a stream or a message bears the device of its
connection. -/
structure Traced (fromStr : String → Except String κ) (toText : κ → String)
    (state : Connections κ) : Prop where
  addresses : ∃ book, AddressState.fromBook fromStr toText book = .ok state.addresses
  streams : ∀ connection device recv, (connection, device, recv) ∈ state.streams →
    state.Attributed device connection
  handled : ∀ connection event, (connection, event) ∈ state.handled → ∀ device,
    event.sender = some device → state.Attributed device connection

theorem lists_of_resolved {key : κ} (hfrom : AddressState.fromBook fromStr toText book =
      .ok state.addresses) (h : resolveDevice toText state.addresses key = .ok device) :
    state.Lists device := by
  obtain ⟨-, haddresses⟩ := fromBook_iff.mp hfrom
  have hfound := resolveDevice_eq_ok.mp h
  unfold Lists
  rw [haddresses] at hfound ⊢
  obtain ⟨row, hrow, key', -, heq⟩ := mem_endpointRows.mp (Table.mem_of_find_ofRows hfound)
  obtain ⟨-, rfl⟩ := Prod.mk.inj heq
  exact List.mem_map_of_mem hrow

theorem StepTo.attributed_before
    (h : StepTo fromStr toText fromSlice localDeviceId state event state')
    (hdevice : state'.Attributed device connection) :
    state.Attributed device connection ∨ event = .resolve connection ∧
      ∃ key, resolveDevice toText state.addresses key = .ok device := by
  obtain ⟨stage, hstage, hdevice⟩ := hdevice
  obtain ⟨new, hnew, rfl⟩ := stage_eq_some.mp hstage
  cases hold : state.connections[connection]? with
  | none =>
      rw [h.fresh hold hnew] at hdevice
      cases hdevice
  | some old =>
      have hbefore (hsame : old.stage.device = some device) : state.Attributed device connection :=
        ⟨old.stage, stage_eq_some.mpr ⟨old, hold, rfl⟩, hsame⟩
      obtain ⟨moved, hmoved, hmoves⟩ := h.moves hold
      obtain rfl := Option.some.inj (hmoved.symm.trans hnew)
      cases hmoves with
      | same => exact Or.inl (hbefore hdevice)
      | resolved hresolve _ hfound =>
          obtain rfl := Option.some.inj hdevice
          exact Or.inr ⟨hresolve, _, hfound⟩
      | refused => cases hdevice
      | inserted _ hresolved => exact Or.inl (hbefore (by rw [hresolved]; exact hdevice))
      | closed => exact Or.inl (hbefore hdevice)
      | ended _ hserving => exact Or.inl (hbefore (by rw [hserving]; exact hdevice))
      | removed _ hended => exact Or.inl (hbefore (by rw [hended]; exact hdevice))

theorem StepTo.addresses
    (h : StepTo fromStr toText fromSlice localDeviceId state event state') :
    state'.addresses = state.addresses ∨ ∃ book, event = .update book ∧
      state'.addresses = updatePeerAddresses fromStr toText state.addresses book := by
  cases h with
  | update => exact Or.inr ⟨_, rfl, rfl⟩
  | aside => exact Or.inl rfl
  | arrived => exact Or.inl rfl
  | resolved => exact Or.inl rfl
  | refused => exact Or.inl rfl
  | inserted => exact Or.inl rfl
  | closed => exact Or.inl rfl
  | streamed => exact Or.inl rfl
  | ended => exact Or.inl rfl
  | removed => exact Or.inl rfl
  | handled => exact Or.inl rfl

/-- What is new among the streams and the messages after a step comes from a connection that was
found to be of its device. -/
theorem StepTo.traced (h : StepTo fromStr toText fromSlice localDeviceId state event state')
    (htraced : state.Traced fromStr toText) : state'.Traced fromStr toText := by
  constructor
  · rcases h.addresses with hsame | ⟨book, rfl, hupdated⟩
    · rw [hsame]
      exact htraced.addresses
    · rw [hupdated]
      by_cases hparse : KeysParse fromStr book
      · rw [updatePeerAddresses_parsed hparse]
        exact ⟨book, fromBook_iff.mpr ⟨hparse, rfl⟩⟩
      · rw [updatePeerAddresses_unparsed hparse]
        exact htraced.addresses
  · intro connection device recv hstream
    have hkept (hbefore : (connection, device, recv) ∈ state.streams) :
        state'.Attributed device connection :=
      h.attributed (htraced.streams connection device recv hbefore)
    cases h with
    | update => exact hkept hstream
    | aside => exact hkept hstream
    | arrived => exact hkept hstream
    | resolved => exact hkept hstream
    | refused => exact hkept hstream
    | inserted => exact hkept hstream
    | closed => exact hkept hstream
    | streamed hserving =>
        rcases List.mem_append.mp hstream with hbefore | hlast
        · exact hkept hbefore
        · simp only [List.mem_singleton, Prod.mk.injEq] at hlast
          obtain ⟨rfl, rfl, -⟩ := hlast
          exact ⟨_, hserving, rfl⟩
    | ended => exact hkept hstream
    | removed => exact hkept hstream
    | handled => exact hkept (List.mem_of_mem_eraseIdx hstream)
  · intro connection handled hhandled device hsender
    have hkept (hbefore : (connection, handled) ∈ state.handled) :
        state'.Attributed device connection :=
      h.attributed (htraced.handled connection handled hbefore device hsender)
    cases h with
    | update => exact hkept hhandled
    | aside => exact hkept hhandled
    | arrived => exact hkept hhandled
    | resolved => exact hkept hhandled
    | refused => exact hkept hhandled
    | inserted => exact hkept hhandled
    | closed => exact hkept hhandled
    | streamed => exact hkept hhandled
    | ended => exact hkept hhandled
    | removed => exact hkept hhandled
    | handled hstream =>
        rcases List.mem_append.mp hhandled with hbefore | hlast
        · exact hkept hbefore
        · obtain ⟨rfl, rfl⟩ := Prod.mk.inj (List.mem_singleton.mp hlast)
          obtain rfl := sender_handle hsender
          exact htraced.streams connection _ _ hstream

theorem traced_started {addresses : AddressState}
    (h : AddressState.fromBook fromStr toText book = .ok addresses) :
    (started addresses : Connections κ).Traced fromStr toText := by
  constructor
  · exact ⟨book, h⟩
  · intro connection device recv hstream
    cases hstream
  · intro connection event hhandled
    cases hhandled

section Runs

variable [DecidableEq κ] {addresses : AddressState} {before after : List (ConnectionEvent κ)}

theorem run_traced (hstart : AddressState.fromBook fromStr toText book = .ok addresses)
    (hrun : runSteps (step fromStr toText fromSlice endpointId localDeviceId)
      (started addresses) before = some state) : state.Traced fromStr toText := by
  induction before using List.reverseRecOn generalizing state with
  | nil =>
      obtain rfl := Option.some.inj hrun
      exact traced_started hstart
  | append_singleton before event ih =>
      obtain ⟨middle, hbefore, hlast⟩ := runSteps_snoc_iff.mp hrun
      exact (step_to hlast).traced (ih hbefore)

theorem run_known (hstart : AddressState.fromBook fromStr toText book = .ok addresses)
    (hrun : runSteps (step fromStr toText fromSlice endpointId localDeviceId)
      (started addresses) before = some state) (hdevice : state.Attributed device connection) :
    ∃ earlier later found, before = earlier ++ .resolve connection :: later ∧
      runSteps (step fromStr toText fromSlice endpointId localDeviceId) (started addresses)
        earlier = some found ∧ found.Lists device := by
  induction before using List.reverseRecOn generalizing state with
  | nil =>
      obtain rfl := Option.some.inj hrun
      obtain ⟨stage, hstage, -⟩ := hdevice
      cases hstage
  | append_singleton before event ih =>
      obtain ⟨middle, hbefore, hlast⟩ := runSteps_snoc_iff.mp hrun
      rcases (step_to hlast).attributed_before hdevice with hearlier | ⟨rfl, key, hfound⟩
      · obtain ⟨earlier, later, found, rfl, hfound⟩ := ih hbefore hearlier
        exact ⟨earlier, later ++ [event], found, by simp, hfound⟩
      · obtain ⟨book, hbook⟩ := (run_traced hstart hbefore).addresses
        exact ⟨before, [], middle, rfl, hbefore, lists_of_resolved hbook hfound⟩

theorem run_unlisted (htraced : middle.Traced fromStr toText) (hrevoked : ¬ middle.Lists device)
    (hbooks : ∀ later, .update later ∈ after → KeysParse fromStr later →
      device ∉ later.map Prod.fst)
    (hrun : runSteps (step fromStr toText fromSlice endpointId localDeviceId) middle after =
      some state) (hdevice : state.Attributed device connection) :
    middle.Attributed device connection := by
  induction after generalizing middle with
  | nil =>
      obtain rfl := Option.some.inj hrun
      exact hdevice
  | cons event after ih =>
      obtain ⟨next, hstep, hrest⟩ := runSteps_cons_iff.mp hrun
      have hnext : ¬ next.Lists device := by
        unfold Lists
        rcases (step_to hstep).addresses with hsame | ⟨later, rfl, hupdated⟩
        · rw [hsame]
          exact hrevoked
        · rw [hupdated]
          by_cases hparse : KeysParse fromStr later
          · rw [updatePeerAddresses_parsed hparse]
            exact hbooks later List.mem_cons_self hparse
          · rw [updatePeerAddresses_unparsed hparse]
            exact hrevoked
      have hlater := ih ((step_to hstep).traced htraced) hnext
        (fun later hlater => hbooks later (List.mem_cons_of_mem _ hlater)) hrest
      rcases (step_to hstep).attributed_before hlater with hbefore | ⟨-, key, hfound⟩
      · exact hbefore
      · obtain ⟨book, hbook⟩ := htraced.addresses
        exact absurd (lists_of_resolved hbook hfound) hrevoked

/-- What is left to a device without a place in the book: the connections that were found to be
of it when a book had it. -/
structure Revoked (stepped : Connections κ → ConnectionEvent κ → Option (Connections κ))
    (start : Connections κ) (before : List (ConnectionEvent κ)) (middle state : Connections κ)
    (device : DeviceId) : Prop where
  attributed : ∀ connection, state.Attributed device connection →
    middle.Attributed device connection
  handled : ∀ connection event, (connection, event) ∈ state.handled →
    event.sender = some device → middle.Attributed device connection
  known : ∀ connection, middle.Attributed device connection →
    ∃ earlier later found, before = earlier ++ .resolve connection :: later ∧
      runSteps stepped start earlier = some found ∧ found.Lists device

/-- From a book without the device on, and until a book has it again, no connection is found to
be of the device, and what is handed on as coming from it comes on a connection that was found to
be of it while a book had it. -/
theorem revocation (hstart : AddressState.fromBook fromStr toText book = .ok addresses)
    (hbefore : runSteps (step fromStr toText fromSlice endpointId localDeviceId)
      (started addresses) before = some middle)
    (hrun : runSteps (step fromStr toText fromSlice endpointId localDeviceId) middle after =
      some state)
    (hrevoked : ¬ middle.Lists device)
    (hbooks : ∀ later, .update later ∈ after → KeysParse fromStr later →
      device ∉ later.map Prod.fst) :
    Revoked (step fromStr toText fromSlice endpointId localDeviceId) (started addresses) before
      middle state device := by
  have htraced := run_traced hstart hbefore
  have hfinal : state.Traced fromStr toText := by
    have hwhole := runSteps_append_iff.mpr ⟨middle, hbefore, hrun⟩
    exact run_traced hstart hwhole
  constructor
  · intro connection hdevice
    exact run_unlisted htraced hrevoked hbooks hrun hdevice
  · intro connection event hhandled hsender
    have hdevice := hfinal.handled connection event hhandled device hsender
    exact run_unlisted htraced hrevoked hbooks hrun hdevice
  · intro connection hdevice
    exact run_known hstart hbefore hdevice

end Runs

section Revoking

/-- A message for this device, in a frame. -/
def heldFrame : RecvStream :=
  ⟨[[0, 0, 0, 1, 0]], .ok (), by simp⟩

/-- Steps of a device that reads the greeting from any frame. -/
def greetedStep : Connections KeyText → ConnectionEvent KeyText → Option (Connections KeyText) :=
  step readKeyText Subtype.val (fun _ => .ok greeting) ⟨keyTwo, by decide +kernel⟩ ⟨2⟩

def knownPeer : AddressState :=
  ⟨[(⟨3⟩, keyOne)], [(keyOne, ⟨3⟩)]⟩

theorem knownPeer_built :
    AddressState.fromBook readKeyText Subtype.val [(⟨3⟩, keyOne)] = .ok knownPeer := by
  decide +kernel

/-- A peer that is registered, and then taken out of the book. -/
def taken : List (ConnectionEvent KeyText) :=
  [.accept ⟨keyOne, by decide +kernel⟩, .resolve 0, .insert 0, .update []]

theorem revoked_reconnects :
    ∃ middle state, runSteps greetedStep (started knownPeer) taken = some middle ∧
      runSteps greetedStep middle [.close 0, .finish 0, .remove 0,
        .accept ⟨keyOne, by decide +kernel⟩, .resolve 1] = some state ∧
      Revoked greetedStep (started knownPeer) taken middle state ⟨3⟩ ∧
      state.stage 1 = some .refused := by
  have hruns : ((runSteps greetedStep (started knownPeer) taken).bind fun middle =>
      (runSteps greetedStep middle [.close 0, .finish 0, .remove 0,
        .accept ⟨keyOne, by decide +kernel⟩, .resolve 1]).map fun state =>
          (middle.addresses.book, state.stage 1)) = some ([], some .refused) := by
    decide +kernel
  obtain ⟨middle, hbefore, hrest⟩ := Option.bind_eq_some_iff.mp hruns
  obtain ⟨state, hafter, heq⟩ := Option.map_eq_some_iff.mp hrest
  obtain ⟨hbook, hstage⟩ := Prod.mk.inj heq
  have hrevoked : ¬ middle.Lists ⟨3⟩ := by
    unfold Lists
    rw [hbook]
    simp
  exact ⟨middle, state, hbefore, hafter,
    revocation knownPeer_built hbefore hafter hrevoked (by simp), hstage⟩

def StreamEvent.message : StreamEvent → Option (FeatureMessage (List UInt8))
  | .inbox message => some message
  | _ => none

/-- A message on a connection from before is still put into the inbox as coming from the peer. -/
theorem revoked_still_heard :
    ∃ middle state, runSteps greetedStep (started knownPeer) taken = some middle ∧
      ¬ middle.Lists ⟨3⟩ ∧ middle.handled = [] ∧
      runSteps greetedStep middle [.stream 0 heldFrame, .handle 0 true .registered .registered] =
        some state ∧
      ∃ connection message, (connection, StreamEvent.inbox message) ∈ state.handled ∧
        message.from = ⟨3⟩ := by
  have htaken : (runSteps greetedStep (started knownPeer) taken).map (fun middle =>
      (middle.addresses.book, middle.handled.length)) = some ([], 0) := by
    decide +kernel
  have hruns : ((runSteps greetedStep (started knownPeer) taken).bind fun middle =>
      (runSteps greetedStep middle
        [.stream 0 heldFrame, .handle 0 true .registered .registered]).map fun state =>
          state.handled.map fun row => StreamEvent.message row.2) =
      some [some (.new ⟨3⟩ ⟨2⟩ ⟨"clipboard"⟩ [104, 105])] := by
    decide +kernel
  obtain ⟨middle, hbefore, hmiddle⟩ := Option.map_eq_some_iff.mp htaken
  obtain ⟨hbook, hlength⟩ := Prod.mk.inj hmiddle
  rw [hbefore, Option.bind_some] at hruns
  obtain ⟨state, hafter, hhandled⟩ := Option.map_eq_some_iff.mp hruns
  obtain ⟨⟨connection, event⟩, hone, hmessage⟩ := List.map_eq_singleton_iff.mp hhandled
  refine ⟨middle, state, hbefore, ?_, List.length_eq_zero_iff.mp hlength, hafter, connection,
    .new ⟨3⟩ ⟨2⟩ ⟨"clipboard"⟩ [104, 105], ?_, rfl⟩
  · unfold Lists
    rw [hbook]
    simp
  · cases event with
    | inbox message =>
        obtain rfl := Option.some.inj hmessage
        rw [hone]
        exact List.mem_cons_self
    | port session => cases hmessage
    | shell session => cases hmessage
    | log text => cases hmessage

end Revoking

end Connections

end Failsafe.Transport
