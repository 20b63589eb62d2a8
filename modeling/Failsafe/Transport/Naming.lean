import Failsafe.Transport.PoolLife
import Failsafe.Transport.Revocation

/-!
Whose key a connection has: a device that a connection was found to be of is one that a book had
under the key of the other end.
-/

namespace Failsafe.Transport.Connections

open Failsafe.Core Failsafe.Lib

variable {κ : Type}

/-- The key of the other end of a connection. -/
def remote (state : Connections κ) (connection : Nat) : Option κ :=
  state.connections[connection]?.map Connection.remoteId

variable {fromStr : String → Except String κ} {toText : κ → String}
  {fromSlice : List UInt8 → Except String (FeatureMessage (List UInt8))} {endpointId key : κ}
  {localDeviceId device : DeviceId} {state state' : Connections κ} {event : ConnectionEvent κ}
  {connection : Nat} {rows rows' : PeerAddressBook}

/-- The rows have the device under this key. -/
def Names (fromStr : String → Except String κ) (rows : PeerAddressBook) (device : DeviceId)
    (key : κ) : Prop :=
  ∃ row ∈ rows, row.1 = device ∧ fromStr row.2 = .ok key

theorem Names.mono (h : Names fromStr rows device key) (hrows : rows ⊆ rows') :
    Names fromStr rows' device key := by
  obtain ⟨row, hrow, hnames⟩ := h
  exact ⟨row, hrows hrow, hnames⟩

theorem names_of_resolved (hkeys : ∀ key, fromStr (toText key) = .ok key)
    {book : PeerAddressBook} {addresses : AddressState} (hbook : book ⊆ rows)
    (hfrom : AddressState.fromBook fromStr toText book = .ok addresses)
    (h : resolveDevice toText addresses key = .ok device) : Names fromStr rows device key := by
  obtain ⟨-, haddresses⟩ := fromBook_iff.mp hfrom
  have hfound := resolveDevice_eq_ok.mp h
  rw [haddresses] at hfound
  obtain ⟨row, hrow, key', hkey', heq⟩ := mem_endpointRows.mp (Table.mem_of_find_ofRows hfound)
  obtain ⟨htext, rfl⟩ := Prod.mk.inj heq
  rw [toText_injective hkeys htext] at *
  exact ⟨row, hbook hrow, rfl, hkey'⟩

theorem Moves.remoteId {old new : Connection κ}
    (h : Moves toText state event connection old new) : new.remoteId = old.remoteId := by
  cases h with
  | same => rfl
  | resolved => rfl
  | refused => rfl
  | inserted => rfl
  | closed => rfl
  | ended => rfl
  | removed => rfl

theorem StepTo.remote (h : StepTo fromStr toText fromSlice localDeviceId state event state')
    (hremote : state.remote connection = some key) : state'.remote connection = some key := by
  obtain ⟨old, hold, rfl⟩ := Option.map_eq_some_iff.mp hremote
  obtain ⟨new, hnew, hmoves⟩ := h.moves hold
  exact Option.map_eq_some_iff.mpr ⟨new, hnew, hmoves.remoteId⟩

/-- The book that is installed is one of these rows, and so is every device of a connection. -/
structure Named (fromStr : String → Except String κ) (toText : κ → String)
    (rows : PeerAddressBook) (state : Connections κ) : Prop where
  addresses : ∃ book, book ⊆ rows ∧
    AddressState.fromBook fromStr toText book = .ok state.addresses
  connections : ∀ device connection, state.Attributed device connection →
    ∃ key, state.remote connection = some key ∧ Names fromStr rows device key

theorem Named.mono (h : state.Named fromStr toText rows) (hrows : rows ⊆ rows') :
    state.Named fromStr toText rows' := by
  constructor
  · obtain ⟨book, hbook, hfrom⟩ := h.addresses
    exact ⟨book, List.Subset.trans hbook hrows, hfrom⟩
  · intro device connection hdevice
    obtain ⟨key, hremote, hnames⟩ := h.connections device connection hdevice
    exact ⟨key, hremote, hnames.mono hrows⟩

theorem named_started {addresses : AddressState} {book : PeerAddressBook} (hbook : book ⊆ rows)
    (h : AddressState.fromBook fromStr toText book = .ok addresses) :
    (started addresses : Connections κ).Named fromStr toText rows := by
  constructor
  · exact ⟨book, hbook, h⟩
  · rintro device connection ⟨stage, hstage, -⟩
    cases hstage

theorem StepTo.named (hkeys : ∀ key, fromStr (toText key) = .ok key)
    (h : StepTo fromStr toText fromSlice localDeviceId state event state')
    (hnamed : state.Named fromStr toText rows)
    (hupdate : ∀ book, event = .update book → book ⊆ rows) :
    state'.Named fromStr toText rows := by
  constructor
  · rcases h.addresses with hsame | ⟨book, rfl, hupdated⟩
    · rw [hsame]
      exact hnamed.addresses
    · rw [hupdated]
      by_cases hparse : KeysParse fromStr book
      · rw [updatePeerAddresses_parsed hparse]
        exact ⟨book, hupdate book rfl, fromBook_iff.mpr ⟨hparse, rfl⟩⟩
      · rw [updatePeerAddresses_unparsed hparse]
        exact hnamed.addresses
  · intro device connection hdevice
    have hkept (hbefore : state.Attributed device connection) :
        ∃ key, state'.remote connection = some key ∧ Names fromStr rows device key := by
      obtain ⟨key, hremote, hnames⟩ := hnamed.connections device connection hbefore
      exact ⟨key, h.remote hremote, hnames⟩
    obtain ⟨stage, hstage, howner⟩ := hdevice
    obtain ⟨new, hnew, rfl⟩ := stage_eq_some.mp hstage
    cases hold : state.connections[connection]? with
    | none =>
        rw [h.fresh hold hnew] at howner
        cases howner
    | some old =>
        have hbefore (hsame : old.stage.device = some device) :
            state.Attributed device connection :=
          ⟨old.stage, stage_eq_some.mpr ⟨old, hold, rfl⟩, hsame⟩
        obtain ⟨moved, hmoved, hmoves⟩ := h.moves hold
        obtain rfl := Option.some.inj (hmoved.symm.trans hnew)
        cases hmoves with
        | same => exact hkept (hbefore howner)
        | resolved _ _ hfound =>
            obtain rfl := Option.some.inj howner
            obtain ⟨book, hbook, hfrom⟩ := hnamed.addresses
            refine ⟨old.remoteId, ?_, names_of_resolved hkeys hbook hfrom hfound⟩
            exact Option.map_eq_some_iff.mpr ⟨_, hnew, rfl⟩
        | refused => cases howner
        | inserted _ hresolved => exact hkept (hbefore (by rw [hresolved]; exact howner))
        | closed => exact hkept (hbefore howner)
        | ended _ hserving => exact hkept (hbefore (by rw [hserving]; exact howner))
        | removed _ hended => exact hkept (hbefore (by rw [hended]; exact howner))

end Failsafe.Transport.Connections
