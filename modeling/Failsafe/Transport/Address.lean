import Mathlib.Data.Finset.Basic
import Failsafe.Core.Peer
import Failsafe.Lib.Fallible
import Failsafe.Lib.Table
import Failsafe.Transport.Codec

/-!
The addresses of the peers and the reverse table that says whose connection it is
(`failsafe-transport/src/iroh/address.rs`, with what `transport.rs`, `protocol.rs` and
`manager.rs` do with them).  A book is listed as its iteration gives it.  Public keys belong
to the third-party `iroh`: reading and printing them are the parameters `fromStr` and `toText`.
-/

namespace Failsafe.Transport

open Failsafe.Core Failsafe.Lib

structure AddressState where
  book : PeerAddressBook
  reverseLookup : Table String DeviceId
deriving DecidableEq, Repr

section Definitions

variable {κ : Type} (fromStr : String → Except String κ) (toText : κ → String)

def parseEndpointAddr (address : String) : Except TransportError κ :=
  match fromStr address with
  | .error error => .error (.codec s!"invalid iroh public key: {error}")
  | .ok publicKey => .ok publicKey

def buildReverseLookup (book : PeerAddressBook) :
    Except TransportError (Table String DeviceId) :=
  book.foldlM (fun reverse row => do
    let endpointId ← parseEndpointAddr fromStr row.2
    return Table.insert reverse (toText endpointId) row.1) []

def AddressState.fromBook (book : PeerAddressBook) : Except TransportError AddressState := do
  let reverseLookup ← buildReverseLookup fromStr toText book
  return { book, reverseLookup }

def updateAddressState (state : AddressState) (book : PeerAddressBook) :
    Except TransportError Unit × AddressState :=
  match AddressState.fromBook fromStr toText book with
  | .error error => (.error error, state)
  | .ok next => (.ok (), next)

/-- `update_peer_addresses`, which logs an error and goes on. -/
def updatePeerAddresses (state : AddressState) (book : PeerAddressBook) : AddressState :=
  (updateAddressState fromStr toText state book).2

def resolveDevice (state : AddressState) (remoteId : κ) : Except TransportError DeviceId :=
  match Table.find state.reverseLookup (toText remoteId) with
  | some device => .ok device
  | none => .error (.codec (s!"unknown remote endpoint {toText remoteId}; not in peer address " ++
      "book — if this repeats, remove stale devices from the server or re-pair the connecting " ++
      "device so its iroh key matches"))

variable [DecidableEq κ]

/-- The endpoint that `try_dial_one` connects to, if it gets that far. -/
def tryDialOne (endpointId : κ) (pool : Finset DeviceId) (device : DeviceId)
    (address : String) : Option κ :=
  if device ∈ pool then none
  else match parseEndpointAddr fromStr address with
    | .error _ => none
    | .ok id => if id = endpointId then none else some id

/-- The connections that a round of `dial_peers` tries. -/
def dialPeers (endpointId : κ) (pool : Finset DeviceId) (state : AddressState) :
    List (DeviceId × κ) :=
  state.book.filterMap fun (device, address) =>
    (tryDialOne fromStr endpointId pool device address).map fun id => (device, id)

end Definitions

section Lookup

variable {κ : Type} {fromStr : String → Except String κ} {toText : κ → String}
  {state next : AddressState} {book : PeerAddressBook} {device : DeviceId} {key : κ}

/-- Every address of the book is the text of a public key. -/
def KeysParse (fromStr : String → Except String κ) (book : PeerAddressBook) : Prop :=
  ∀ row ∈ book, ∃ key, fromStr row.2 = .ok key

/-- No two devices of the book have one public key. -/
def KeysDistinct (fromStr : String → Except String κ) (book : PeerAddressBook) : Prop :=
  ∀ row ∈ book, ∀ other ∈ book, ∀ key, fromStr row.2 = .ok key → fromStr other.2 = .ok key →
    row.1 = other.1

theorem keysParse_iff : KeysParse fromStr book ↔
    ∀ row ∈ book, (fromStr row.2).toOption.isSome = true := by
  refine forall₂_congr fun row _ => ?_
  cases fromStr row.2 with
  | error error => simp [Except.toOption]
  | ok key => simp [Except.toOption]

theorem keysDistinct_iff : KeysDistinct fromStr book ↔
    ∀ row ∈ book, ∀ other ∈ book, (fromStr row.2).toOption.isSome = true →
      (fromStr row.2).toOption = (fromStr other.2).toOption → row.1 = other.1 := by
  refine forall₂_congr fun row _ => forall₂_congr fun other _ => ?_
  cases fromStr row.2 with
  | error error => simp [Except.toOption]
  | ok key =>
      cases fromStr other.2 with
      | error error => simp [Except.toOption]
      | ok key' => simp [Except.toOption, eq_comm]

instance : Decidable (KeysParse fromStr book) :=
  decidable_of_iff' _ keysParse_iff

instance [DecidableEq κ] : Decidable (KeysDistinct fromStr book) :=
  decidable_of_iff' _ keysDistinct_iff

/-- What the reverse table gets from one device. -/
def endpointRow (fromStr : String → Except String κ) (toText : κ → String)
    (row : DeviceId × String) : Option (String × DeviceId) :=
  match fromStr row.2 with
  | .error _ => none
  | .ok key => some (toText key, row.1)

theorem toText_injective (hkeys : ∀ key, fromStr (toText key) = .ok key) :
    Function.Injective toText := by
  intro key key' htext
  have hkey := hkeys key
  rw [htext, hkeys key'] at hkey
  exact (Except.ok.inj hkey).symm

theorem parseEndpointAddr_eq_ok {address : String} :
    parseEndpointAddr fromStr address = .ok key ↔ fromStr address = .ok key := by
  unfold parseEndpointAddr
  split
  · rename_i error herror
    simp [herror]
  · rename_i publicKey hkey
    simp [hkey]

theorem endpointRow_eq_some {row : DeviceId × String} {entry : String × DeviceId} :
    endpointRow fromStr toText row = some entry ↔
      ∃ key, fromStr row.2 = .ok key ∧ entry = (toText key, row.1) := by
  unfold endpointRow
  split
  · rename_i error herror
    simp [herror]
  · rename_i publicKey hkey
    simp [hkey, eq_comm]

theorem mem_endpointRows {entry : String × DeviceId} :
    entry ∈ book.filterMap (endpointRow fromStr toText) ↔
      ∃ row ∈ book, ∃ key, fromStr row.2 = .ok key ∧ entry = (toText key, row.1) := by
  simp only [List.mem_filterMap, endpointRow_eq_some]

theorem keysParse_snoc {row : DeviceId × String} :
    KeysParse fromStr (book ++ [row]) ↔
      KeysParse fromStr book ∧ ∃ key, fromStr row.2 = .ok key := by
  simp [KeysParse, or_imp, forall_and]

theorem buildReverseLookup_iff {table : Table String DeviceId} :
    buildReverseLookup fromStr toText book = .ok table ↔
      KeysParse fromStr book ∧
        table = Table.ofRows (book.filterMap (endpointRow fromStr toText)) := by
  induction book using List.reverseRecOn generalizing table with
  | nil => simp [buildReverseLookup, KeysParse, pure, Except.pure, eq_comm]
  | append_singleton book row ih =>
      have hbefore := @ih
      unfold buildReverseLookup at hbefore ⊢
      rw [List.foldlM_append, keysParse_snoc, List.filterMap_append]
      constructor
      · intro h
        obtain ⟨reverse, hreverse, h⟩ := bind_ok h
        obtain ⟨hparse, rfl⟩ := hbefore.mp hreverse
        rw [List.foldlM_cons] at h
        obtain ⟨last, hlast, h⟩ := bind_ok h
        obtain ⟨key, hkey, hlast⟩ := bind_ok hlast
        rw [parseEndpointAddr_eq_ok] at hkey
        obtain rfl := Except.ok.inj h
        obtain rfl := Except.ok.inj hlast
        refine ⟨⟨hparse, key, hkey⟩, ?_⟩
        have hrow : [row].filterMap (endpointRow fromStr toText) = [(toText key, row.1)] := by
          simp [endpointRow, hkey]
        rw [hrow, Table.ofRows_snoc]
      · rintro ⟨⟨hparse, key, hkey⟩, rfl⟩
        rw [hbefore.mpr ⟨hparse, rfl⟩]
        have hrow : [row].filterMap (endpointRow fromStr toText) = [(toText key, row.1)] := by
          simp [endpointRow, hkey]
        rw [hrow, Table.ofRows_snoc]
        have hparsed := parseEndpointAddr_eq_ok.mpr hkey
        simp [List.foldlM_cons, hparsed, bind, Except.bind, pure, Except.pure]

theorem fromBook_iff : AddressState.fromBook fromStr toText book = .ok state ↔
    KeysParse fromStr book ∧
      state = ⟨book, Table.ofRows (book.filterMap (endpointRow fromStr toText))⟩ := by
  constructor
  · intro h
    obtain ⟨table, htable, h⟩ := bind_ok h
    obtain ⟨hparse, rfl⟩ := buildReverseLookup_iff.mp htable
    exact ⟨hparse, (Except.ok.inj h).symm⟩
  · rintro ⟨hparse, rfl⟩
    unfold AddressState.fromBook
    rw [buildReverseLookup_iff.mpr ⟨hparse, rfl⟩]
    rfl

theorem updatePeerAddresses_parsed (h : KeysParse fromStr book) :
    updatePeerAddresses fromStr toText state book =
      ⟨book, Table.ofRows (book.filterMap (endpointRow fromStr toText))⟩ := by
  unfold updatePeerAddresses updateAddressState
  rw [fromBook_iff.mpr ⟨h, rfl⟩]

theorem updatePeerAddresses_unparsed (h : ¬ KeysParse fromStr book) :
    updatePeerAddresses fromStr toText state book = state := by
  unfold updatePeerAddresses updateAddressState
  split
  · rfl
  · rename_i next hnext
    exact absurd (fromBook_iff.mp hnext).1 h

theorem resolveDevice_eq_ok : resolveDevice toText state key = .ok device ↔
    Table.find state.reverseLookup (toText key) = some device := by
  unfold resolveDevice
  split
  · rename_i found hfound
    simp [hfound]
  · rename_i hfound
    simp [hfound]

theorem mem_dialPeers [DecidableEq κ] {endpointId : κ} {pool : Finset DeviceId} :
    (device, key) ∈ dialPeers fromStr endpointId pool state ↔
      device ∉ pool ∧ key ≠ endpointId ∧
        ∃ address, (device, address) ∈ state.book ∧ fromStr address = .ok key := by
  have hdial (address : String) : tryDialOne fromStr endpointId pool device address = some key ↔
      device ∉ pool ∧ key ≠ endpointId ∧ fromStr address = .ok key := by
    unfold tryDialOne parseEndpointAddr
    cases fromStr address with
    | error error => simp
    | ok id =>
        simp only [Option.ite_none_left_eq_some, Option.some.injEq, Except.ok.injEq]
        constructor
        · rintro ⟨hpool, hown, rfl⟩
          exact ⟨hpool, hown, rfl⟩
        · rintro ⟨hpool, hown, rfl⟩
          exact ⟨hpool, hown, rfl⟩
  constructor
  · intro h
    obtain ⟨⟨device', address⟩, hrow, hmap⟩ := List.mem_filterMap.mp h
    obtain ⟨id, hid, heq⟩ := Option.map_eq_some_iff.mp hmap
    obtain ⟨rfl, rfl⟩ := Prod.mk.inj heq
    obtain ⟨hpool, hown, hkey⟩ := (hdial address).mp hid
    exact ⟨hpool, hown, address, hrow, hkey⟩
  · rintro ⟨hpool, hown, address, hrow, hkey⟩
    refine List.mem_filterMap.mpr ⟨(device, address), hrow, ?_⟩
    exact Option.map_eq_some_iff.mpr ⟨key, (hdial address).mpr ⟨hpool, hown, hkey⟩, rfl⟩

theorem agree_iff_keysDistinct (hkeys : Function.Injective toText) :
    Table.Agree (book.filterMap (endpointRow fromStr toText)) ↔ KeysDistinct fromStr book := by
  constructor
  · intro hagree row hrow other hother key hkey hsame
    exact hagree _ (mem_endpointRows.mpr ⟨row, hrow, key, hkey, rfl⟩) _
      (mem_endpointRows.mpr ⟨other, hother, key, hsame, rfl⟩) rfl
  · intro hdistinct entry hentry entry' hentry' htext
    obtain ⟨row, hrow, key, hkey, rfl⟩ := mem_endpointRows.mp hentry
    obtain ⟨other, hother, key', hkey', rfl⟩ := mem_endpointRows.mp hentry'
    obtain rfl := hkeys htext
    exact hdistinct row hrow other hother key hkey hkey'

end Lookup


section Unambiguous

variable {κ : Type} {fromStr : String → Except String κ} {toText : κ → String}
  {state : AddressState} {book : PeerAddressBook}

/-- A connection is attributed to the one device of the book that has its key, whatever the
order of the book. -/
structure Unambiguous (fromStr : String → Except String κ) (toText : κ → String)
    (state : AddressState) : Prop where
  found : ∀ row ∈ state.book, ∀ key, fromStr row.2 = .ok key →
    Table.find state.reverseLookup (toText key) = some row.1 ∧
      resolveDevice toText state key = .ok row.1
  single : ∀ entry ∈ state.reverseLookup, ∀ device,
    (∃ address key, (device, address) ∈ state.book ∧ fromStr address = .ok key ∧
      toText key = entry.1) ↔ device = entry.2
  unordered : ∀ listed : PeerAddressBook, listed.Perm state.book → ∀ other,
    AddressState.fromBook fromStr toText listed = .ok other → ∀ remoteId,
      resolveDevice toText other remoteId = resolveDevice toText state remoteId

theorem unambiguous_of_distinct (hkeys : Function.Injective toText)
    (hstate : AddressState.fromBook fromStr toText book = .ok state)
    (hdistinct : KeysDistinct fromStr book) : Unambiguous fromStr toText state := by
  obtain ⟨-, rfl⟩ := fromBook_iff.mp hstate
  have hagree := (agree_iff_keysDistinct hkeys).mpr hdistinct
  constructor
  · intro row hrow key hkey
    have hfound := Table.find_ofRows_iff_agree.mpr hagree _
      (mem_endpointRows.mpr ⟨row, hrow, key, hkey, rfl⟩)
    exact ⟨hfound, resolveDevice_eq_ok.mpr hfound⟩
  · intro entry hentry device
    obtain ⟨row, hrow, key, hkey, rfl⟩ := mem_endpointRows.mp (Table.mem_of_mem_ofRows hentry)
    constructor
    · rintro ⟨address, key', haddress, hkey', htext⟩
      obtain rfl := hkeys htext
      exact hdistinct _ haddress row hrow key' hkey' hkey
    · rintro rfl
      exact ⟨row.2, key, hrow, hkey, rfl⟩
  · intro listed hlisted other hother remoteId
    obtain ⟨-, rfl⟩ := fromBook_iff.mp hother
    unfold resolveDevice
    rw [Table.find_ofRows_perm hagree (hlisted.filterMap _)]

theorem Unambiguous.distinct (h : Unambiguous fromStr toText state) :
    KeysDistinct fromStr state.book := by
  intro row hrow other hother key hkey hsame
  have hfound := (h.found row hrow key hkey).1
  rw [(h.found other hother key hsame).1] at hfound
  exact (Option.some.inj hfound).symm

/-- Every state that a run of updates passes through is unambiguous. -/
def StaysUnambiguous (fromStr : String → Except String κ) (toText : κ → String)
    (state : AddressState) (books : List PeerAddressBook) : Prop :=
  ∀ given, given <+: books →
    Unambiguous fromStr toText (given.foldl (updatePeerAddresses fromStr toText) state)

/-- A run of updates stays unambiguous if and only if no book that it takes over gives two
devices one key. -/
theorem addresses_unambiguous_iff (hkeys : ∀ key, fromStr (toText key) = .ok key)
    (hstate : AddressState.fromBook fromStr toText book = .ok state)
    (books : List PeerAddressBook) :
    StaysUnambiguous fromStr toText state books ↔
      ∀ installed ∈ book :: books, KeysParse fromStr installed →
        KeysDistinct fromStr installed := by
  have hbook : state.book = book := by
    rw [(fromBook_iff.mp hstate).2]
  constructor
  · intro hall installed hinstalled hparse
    rcases List.mem_cons.mp hinstalled with rfl | hinstalled
    · rw [← hbook]
      exact (hall [] List.nil_prefix).distinct
    · obtain ⟨before, after, rfl⟩ := List.append_of_mem hinstalled
      have hafter := hall (before ++ [installed]) ⟨after, by simp⟩
      rw [List.foldl_append, List.foldl_cons, List.foldl_nil,
        updatePeerAddresses_parsed hparse] at hafter
      exact hafter.distinct
  · -- The state after each update comes from a book that was taken over.
    intro hall given hgiven
    suffices hfrom : ∃ installed ∈ book :: books, AddressState.fromBook fromStr toText installed =
        .ok (given.foldl (updatePeerAddresses fromStr toText) state) by
      obtain ⟨installed, hinstalled, hbuilt⟩ := hfrom
      have hdistinct := hall installed hinstalled (fromBook_iff.mp hbuilt).1
      exact unambiguous_of_distinct (toText_injective hkeys) hbuilt hdistinct
    clear hall
    induction given using List.reverseRecOn with
    | nil => exact ⟨book, List.mem_cons_self, hstate⟩
    | append_singleton given last ih =>
        rw [List.foldl_append, List.foldl_cons, List.foldl_nil]
        by_cases hparse : KeysParse fromStr last
        · rw [updatePeerAddresses_parsed hparse]
          have hlast : last ∈ books := hgiven.subset (by simp)
          exact ⟨last, List.mem_cons_of_mem _ hlast, fromBook_iff.mpr ⟨hparse, rfl⟩⟩
        · rw [updatePeerAddresses_unparsed hparse]
          exact ih ((List.prefix_append given [last]).trans hgiven)

end Unambiguous

section Keys

/-- The text of a public key: 64 hexadecimal digits in lower case. -/
def isKeyText (text : String) : Bool :=
  text.toList.length == 64 && text.toList.all fun c => c.isDigit || ('a' ≤ c && c ≤ 'f')

abbrev KeyText := { text : String // isKeyText text = true }

def readKeyText (text : String) : Except String KeyText :=
  if h : isKeyText text = true then .ok ⟨text, h⟩ else .error "invalid length"

theorem readKeyText_val (key : KeyText) : readKeyText key.val = .ok key := by
  unfold readKeyText
  rw [dif_pos key.property]

def keyOne : String := "d75a980182b10ab7d54bfed3c964073a0ee172f3daa62325af021a68f707511a"

def keyTwo : String := "3d4017c3e843895a92b70aa74d1b7ebc9c982ccf2ec4968cc0cd55f12af4660c"

/-- Two devices that swap their keys, with an update in between that is refused. -/
theorem swapped_keys_unambiguous :
    StaysUnambiguous readKeyText Subtype.val
      ⟨[(⟨1⟩, keyOne), (⟨2⟩, keyTwo)], [(keyOne, ⟨1⟩), (keyTwo, ⟨2⟩)]⟩
      [[(⟨1⟩, keyOne), (⟨2⟩, keyOne), (⟨3⟩, "key")], [(⟨1⟩, keyTwo), (⟨2⟩, keyOne)]] := by
  have hstart : AddressState.fromBook readKeyText Subtype.val
      [(⟨1⟩, keyOne), (⟨2⟩, keyTwo)] =
        .ok ⟨[(⟨1⟩, keyOne), (⟨2⟩, keyTwo)], [(keyOne, ⟨1⟩), (keyTwo, ⟨2⟩)]⟩ := by
    decide +kernel
  exact (addresses_unambiguous_iff readKeyText_val hstart _).mpr (by decide +kernel)

/-- Two devices with one key: the last of the iteration gets the connections of both. -/
theorem shared_key_ambiguous :
    AddressState.fromBook readKeyText Subtype.val [(⟨1⟩, keyOne), (⟨2⟩, keyOne)] =
        .ok ⟨[(⟨1⟩, keyOne), (⟨2⟩, keyOne)], [(keyOne, ⟨2⟩)]⟩ ∧
      AddressState.fromBook readKeyText Subtype.val [(⟨2⟩, keyOne), (⟨1⟩, keyOne)] =
        .ok ⟨[(⟨2⟩, keyOne), (⟨1⟩, keyOne)], [(keyOne, ⟨1⟩)]⟩ ∧
      ¬ Unambiguous readKeyText Subtype.val
        ⟨[(⟨1⟩, keyOne), (⟨2⟩, keyOne)], [(keyOne, ⟨2⟩)]⟩ := by
  refine ⟨by decide +kernel, by decide +kernel, fun h => ?_⟩
  have hdistinct := h.distinct _ List.mem_cons_self _ (List.mem_cons_of_mem _ List.mem_cons_self)
    ⟨keyOne, by decide +kernel⟩ (by decide +kernel) (by decide +kernel)
  exact absurd hdistinct (by decide +kernel)

end Keys

end Failsafe.Transport
