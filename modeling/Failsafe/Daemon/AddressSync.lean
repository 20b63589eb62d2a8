import Failsafe.Daemon.PeerPolicy
import Failsafe.Transport.Address

/-!
What an update of the device list makes of the addresses of the transport: whom the transport
dials, and whom it takes the owner of a key for.
-/

namespace Failsafe.Daemon

open Failsafe.Core Failsafe.Lib Failsafe.Transport

section Updates

variable {κ : Type} {fromStr : String → Except String κ} {toText : κ → String}
  {selfId : DeviceId} {localFeatures : Finset FeatureId} {devices : List DeviceInfo}
  {state state' : AddressState}

/-- What the requests of an update do to the addresses.  The book that is handed over is
iterated in an order of its own. -/
def AddressStep (fromStr : String → Except String κ) (toText : κ → String) :
    (request : PeerRequest) → request.Response → AddressState → AddressState → Prop
  | .updatePeerAddresses book, _, state, state' => ∃ listed : PeerAddressBook,
      listed.Perm book ∧ state' = updatePeerAddresses fromStr toText state listed
  | _, _, state, state' => state' = state

theorem setFeatures_keeps {device : DeviceInfo} {features : List FeatureId} :
    (setFeatures localFeatures device features).Ensures (fun _ _ => True)
      (AddressStep fromStr toText) (fun _ state' => state' = state) state := by
  induction features with
  | nil => rfl
  | cons feature features ih =>
      refine ⟨trivial, ?_⟩
      rintro response _ rfl
      exact ih

theorem setDevices_keeps {peerIds : List DeviceId} {addresses : PeerAddressBook} :
    (setDevices selfId localFeatures devices peerIds addresses).Ensures (fun _ _ => True)
      (AddressStep fromStr toText) (fun result state' =>
        result.2 = otherAddresses selfId devices addresses ∧ state' = state) state := by
  induction devices generalizing peerIds addresses with
  | nil => exact ⟨rfl, rfl⟩
  | cons device devices ih =>
      unfold setDevices
      split
      · rename_i hself
        simpa [otherAddresses, otherDevices, hself] using ih
      · rename_i hother
        refine Prog.ensures_bind.mpr (setFeatures_keeps.mono fun _ _ hstate => ?_)
        subst hstate
        simpa [otherAddresses, otherDevices, hother] using ih

theorem applyServerDevices_addresses {log : List (Exchange PeerSig)}
    (h : Prog.Exec (AddressStep fromStr toText)
      (applyServerDevices selfId localFeatures devices) state log () state') :
    ∃ listed : PeerAddressBook, listed.Perm (otherAddresses selfId devices []) ∧
      state' = updatePeerAddresses fromStr toText state listed := by
  have hensures : (applyServerDevices selfId localFeatures devices).Ensures (fun _ _ => True)
      (AddressStep fromStr toText) (fun _ state' => ∃ listed : PeerAddressBook,
        listed.Perm (otherAddresses selfId devices []) ∧
          state' = updatePeerAddresses fromStr toText state listed) state := by
    refine Prog.ensures_bind.mpr (setDevices_keeps.mono ?_)
    rintro ⟨peerIds, addresses⟩ _ ⟨rfl, rfl⟩
    refine ⟨trivial, ?_⟩
    rintro response _ rfl
    exact ⟨trivial, fun response' state'' hupdate => hupdate⟩
  exact hensures.exec h

theorem setFeatures_runs {device : DeviceInfo} {features : List FeatureId} :
    ∃ log, Prog.Exec (AddressStep fromStr toText)
      (setFeatures localFeatures device features) state log () state := by
  induction features with
  | nil => exact ⟨[], .ret⟩
  | cons feature features ih =>
      obtain ⟨log, hlog⟩ := ih
      exact ⟨⟨.setFeatureEnabled device.deviceId feature _, ()⟩ :: log, .call rfl hlog⟩

theorem setDevices_runs {peerIds : List DeviceId} {addresses : PeerAddressBook} :
    ∃ log result, result.2 = otherAddresses selfId devices addresses ∧
      Prog.Exec (AddressStep fromStr toText)
        (setDevices selfId localFeatures devices peerIds addresses) state log result state := by
  induction devices generalizing peerIds addresses with
  | nil => exact ⟨[], _, rfl, .ret⟩
  | cons device devices ih =>
      unfold setDevices
      split
      · rename_i hself
        obtain ⟨log, result, hresult, hlog⟩ := @ih peerIds addresses
        refine ⟨log, result, ?_, hlog⟩
        simpa [otherAddresses, otherDevices, hself] using hresult
      · rename_i hother
        obtain ⟨first, hfirst⟩ : ∃ log, Prog.Exec (AddressStep fromStr toText)
            (setFeatures localFeatures device allIds) state log () state := setFeatures_runs
        obtain ⟨log, result, hresult, hlog⟩ := @ih (peerIds ++ [device.deviceId])
          (addresses.insert device.deviceId device.irohPublicKey)
        refine ⟨first ++ log, result, ?_, hfirst.bind hlog⟩
        simpa [otherAddresses, otherDevices, hother] using hresult

theorem applyServerDevices_runs {listed : PeerAddressBook}
    (hlisted : listed.Perm (otherAddresses selfId devices [])) :
    ∃ log, Prog.Exec (AddressStep fromStr toText)
      (applyServerDevices selfId localFeatures devices) state log ()
      (updatePeerAddresses fromStr toText state listed) := by
  obtain ⟨first, result, hresult, hfirst⟩ : ∃ log result,
      result.2 = otherAddresses selfId devices [] ∧ Prog.Exec (AddressStep fromStr toText)
        (setDevices selfId localFeatures devices [] []) state log result state := setDevices_runs
  rw [← hresult] at hlisted
  have hlast : Prog.Exec (AddressStep fromStr toText)
      (ask (.replacePeers result.1) >>= fun _ => ask (.updatePeerAddresses result.2)) state
      [⟨.replacePeers result.1, ()⟩, ⟨.updatePeerAddresses result.2, ()⟩] ()
      (updatePeerAddresses fromStr toText state listed) :=
    .call rfl (.call ⟨listed, hlisted, rfl⟩ .ret)
  exact ⟨_, hfirst.bind hlast⟩

end Updates

section Serving

variable {κ : Type} (fromStr : String → Except String κ) (toText : κ → String) (endpointId : κ)
  (selfId : DeviceId) (devices : List DeviceInfo)

/-- The transport dials each other device of the list under its key and knows it by this key,
and has nothing to do with a device that is not listed. -/
structure Serves [DecidableEq κ] (state : AddressState) : Prop where
  dialed : ∀ device ∈ otherDevices selfId devices, ∀ key,
    fromStr device.irohPublicKey = .ok key →
      (device.deviceId, key) ∈ dialPeers fromStr endpointId ∅ state
  resolved : ∀ device ∈ otherDevices selfId devices, ∀ key,
    fromStr device.irohPublicKey = .ok key →
      resolveDevice toText state key = .ok device.deviceId
  undialed : ∀ id ∉ devices.map DeviceInfo.deviceId, ∀ key,
    (id, key) ∉ dialPeers fromStr endpointId ∅ state
  unresolved : ∀ id ∉ devices.map DeviceInfo.deviceId, ∀ key,
    resolveDevice toText state key ≠ .ok id

/-- Among the other devices, one id stands for one key and one key for one id. -/
def OneToOne : Prop :=
  ∀ device ∈ otherDevices selfId devices, ∀ other ∈ otherDevices selfId devices, ∀ key key',
    fromStr device.irohPublicKey = .ok key → fromStr other.irohPublicKey = .ok key' →
      (device.deviceId = other.deviceId ↔ key = key')

/-- No other device has the key of this endpoint. -/
def NoneOwn : Prop :=
  ∀ device ∈ otherDevices selfId devices, fromStr device.irohPublicKey ≠ .ok endpointId

end Serving

section Served

variable {κ : Type} {fromStr : String → Except String κ} {toText : κ → String} {endpointId : κ}
  {selfId : DeviceId} {localFeatures : Finset FeatureId} {devices : List DeviceInfo}
  {state state' : AddressState} {listed : PeerAddressBook}

theorem oneToOne_iff : OneToOne fromStr selfId devices ↔
    ∀ device ∈ otherDevices selfId devices, ∀ other ∈ otherDevices selfId devices,
      (fromStr device.irohPublicKey).toOption.isSome = true →
        (fromStr other.irohPublicKey).toOption.isSome = true →
          (device.deviceId = other.deviceId ↔
            (fromStr device.irohPublicKey).toOption = (fromStr other.irohPublicKey).toOption) := by
  refine forall₂_congr fun device _ => forall₂_congr fun other _ => ?_
  cases fromStr device.irohPublicKey with
  | error error => simp [Except.toOption]
  | ok key =>
      cases fromStr other.irohPublicKey with
      | error error => simp [Except.toOption]
      | ok key' => simp [Except.toOption]

instance [DecidableEq κ] : Decidable (OneToOne fromStr selfId devices) :=
  decidable_of_iff' _ oneToOne_iff

/-- What an update hands over for one device. -/
def addressRow (device : DeviceInfo) : DeviceId × String :=
  (device.deviceId, device.irohPublicKey)

theorem otherAddresses_eq : otherAddresses selfId devices [] =
    Table.ofRows ((otherDevices selfId devices).map addressRow) := by
  unfold otherAddresses Table.ofRows
  rw [List.foldl_map]
  rfl

theorem exists_of_mem_listed (hlisted : listed.Perm (otherAddresses selfId devices []))
    {row : DeviceId × String} (hrow : row ∈ listed) :
    ∃ device ∈ otherDevices selfId devices, row = addressRow device := by
  have hmem := hlisted.mem_iff.mp hrow
  rw [otherAddresses_eq] at hmem
  obtain ⟨device, hdevice, hsame⟩ := List.mem_map.mp (Table.mem_of_mem_ofRows hmem)
  exact ⟨device, hdevice, hsame.symm⟩

theorem exists_listed (hlisted : listed.Perm (otherAddresses selfId devices []))
    {device : DeviceInfo} (hdevice : device ∈ otherDevices selfId devices) :
    ∃ address, (device.deviceId, address) ∈ listed := by
  have hrow : addressRow device ∈ (otherDevices selfId devices).map addressRow :=
    List.mem_map_of_mem hdevice
  obtain ⟨address, haddress⟩ := Table.exists_mem_ofRows hrow
  rw [← otherAddresses_eq] at haddress
  exact ⟨address, hlisted.mem_iff.mpr haddress⟩

theorem listed_keyed (hlisted : listed.Perm (otherAddresses selfId devices [])) :
    Table.Keyed listed := by
  have hkeyed : Table.Keyed (otherAddresses selfId devices []) := by
    rw [otherAddresses_eq]
    exact Table.keyed_ofRows
  exact (hlisted.map Prod.fst).nodup_iff.mpr hkeyed

theorem keysParse_listed (hlisted : listed.Perm (otherAddresses selfId devices [])) :
    KeysParse fromStr listed ↔ KeysParse fromStr (otherAddresses selfId devices []) :=
  forall_congr' fun _ => imp_congr_left hlisted.mem_iff

theorem OneToOne.distinct (h : OneToOne fromStr selfId devices)
    (hlisted : listed.Perm (otherAddresses selfId devices [])) :
    KeysDistinct fromStr listed := by
  intro row hrow other hother key hkey hsame
  obtain ⟨device, hdevice, rfl⟩ := exists_of_mem_listed hlisted hrow
  obtain ⟨device', hdevice', rfl⟩ := exists_of_mem_listed hlisted hother
  exact (h device hdevice device' hdevice' key key hkey hsame).mpr rfl

theorem not_mem_of_unlisted (hlisted : listed.Perm (otherAddresses selfId devices []))
    {id : DeviceId} (hid : id ∉ devices.map DeviceInfo.deviceId) (address : String) :
    (id, address) ∉ listed := by
  intro hrow
  obtain ⟨device, hdevice, hsame⟩ := exists_of_mem_listed hlisted hrow
  refine hid (List.mem_map.mpr ⟨device, List.mem_of_mem_filter hdevice, ?_⟩)
  exact (congrArg Prod.fst hsame).symm

variable [DecidableEq κ]

theorem serves_of_oneToOne (hkeys : Function.Injective toText)
    (hlisted : listed.Perm (otherAddresses selfId devices []))
    (hparse : KeysParse fromStr listed) (hone : OneToOne fromStr selfId devices)
    (hown : NoneOwn fromStr endpointId selfId devices) :
    Serves fromStr toText endpointId selfId devices
      ⟨listed, Table.ofRows (listed.filterMap (endpointRow fromStr toText))⟩ := by
  have hfind := Table.find_ofRows_iff_agree.mpr
    ((agree_iff_keysDistinct hkeys).mpr (hone.distinct hlisted))
  have hrow (device : DeviceInfo) (hdevice : device ∈ otherDevices selfId devices) (key : κ)
      (hkey : fromStr device.irohPublicKey = .ok key) :
      ∃ address, (device.deviceId, address) ∈ listed ∧ fromStr address = .ok key := by
    obtain ⟨address, haddress⟩ := exists_listed hlisted hdevice
    obtain ⟨key', hkey'⟩ := hparse _ haddress
    obtain ⟨other, hother, hsame⟩ := exists_of_mem_listed hlisted haddress
    obtain ⟨hid, rfl⟩ := Prod.mk.inj hsame
    obtain rfl := (hone device hdevice other hother key key' hkey hkey').mp hid
    exact ⟨other.irohPublicKey, haddress, hkey'⟩
  constructor
  · intro device hdevice key hkey
    refine mem_dialPeers.mpr ⟨Finset.notMem_empty _, ?_, hrow device hdevice key hkey⟩
    rintro rfl
    exact hown device hdevice hkey
  · intro device hdevice key hkey
    obtain ⟨address, haddress, hkey'⟩ := hrow device hdevice key hkey
    exact resolveDevice_eq_ok.mpr
      (hfind _ (mem_endpointRows.mpr ⟨_, haddress, key, hkey', rfl⟩))
  · intro id hid key hdial
    obtain ⟨-, -, address, haddress, -⟩ := mem_dialPeers.mp hdial
    exact not_mem_of_unlisted hlisted hid address haddress
  · intro id hid key hresolve
    have hfound := Table.mem_of_find_ofRows (resolveDevice_eq_ok.mp hresolve)
    obtain ⟨row, hrow', key', -, hsame⟩ := mem_endpointRows.mp hfound
    obtain ⟨-, rfl⟩ := Prod.mk.inj hsame
    exact not_mem_of_unlisted hlisted hid row.2 hrow'

theorem Serves.oneToOne (hlisted : listed.Perm (otherAddresses selfId devices []))
    {table : Table String DeviceId}
    (h : Serves fromStr toText endpointId selfId devices ⟨listed, table⟩) :
    OneToOne fromStr selfId devices := by
  intro device hdevice other hother key key' hkey hkey'
  constructor
  · intro hid
    obtain ⟨-, -, address, haddress, hparsed⟩ := mem_dialPeers.mp (h.dialed device hdevice key hkey)
    obtain ⟨-, -, address', haddress', hparsed'⟩ :=
      mem_dialPeers.mp (h.dialed other hother key' hkey')
    rw [hid] at haddress
    have hkeyed := listed_keyed hlisted
    have hfind := (Table.find_eq_some_iff hkeyed).mpr haddress
    rw [(Table.find_eq_some_iff hkeyed).mpr haddress'] at hfind
    obtain rfl := Option.some.inj hfind
    exact Except.ok.inj (hparsed.symm.trans hparsed')
  · rintro rfl
    have hresolve := h.resolved device hdevice key hkey
    rw [h.resolved other hother key hkey'] at hresolve
    exact (Except.ok.inj hresolve).symm

theorem Serves.noneOwn (h : Serves fromStr toText endpointId selfId devices state) :
    NoneOwn fromStr endpointId selfId devices := by
  intro device hdevice hkey
  obtain ⟨-, hown, -⟩ := mem_dialPeers.mp (h.dialed device hdevice endpointId hkey)
  exact hown rfl

/-- After an update the transport serves the device list if and only if every address that was
handed over is a key, ids and keys stand for each other and none is the own one; or else it
refuses the addresses and served the list before. -/
theorem update_serves_iff (hkeys : ∀ key, fromStr (toText key) = .ok key)
    {log : List (Exchange PeerSig)}
    (h : Prog.Exec (AddressStep fromStr toText)
      (applyServerDevices selfId localFeatures devices) state log () state') :
    Serves fromStr toText endpointId selfId devices state' ↔
      KeysParse fromStr (otherAddresses selfId devices []) ∧
          OneToOne fromStr selfId devices ∧ NoneOwn fromStr endpointId selfId devices ∨
        ¬ KeysParse fromStr (otherAddresses selfId devices []) ∧
          Serves fromStr toText endpointId selfId devices state := by
  obtain ⟨listed, hlisted, rfl⟩ := applyServerDevices_addresses h
  rw [← keysParse_listed hlisted]
  by_cases hparse : KeysParse fromStr listed
  · rw [updatePeerAddresses_parsed hparse]
    constructor
    · intro hserves
      exact Or.inl ⟨hparse, hserves.oneToOne hlisted, hserves.noneOwn⟩
    · rintro (⟨-, hone, hown⟩ | ⟨hunparsed, -⟩)
      · exact serves_of_oneToOne (toText_injective hkeys) hlisted hparse hone hown
      · exact absurd hparse hunparsed
  · rw [updatePeerAddresses_unparsed hparse]
    constructor
    · intro hserves
      exact Or.inr ⟨hparse, hserves⟩
    · rintro (⟨hparsed, -⟩ | ⟨-, hserves⟩)
      · exact absurd hparsed hparse
      · exact hserves

end Served

section Lists

/-- A device list with the keys of the devices, in the order of their ids from 1. -/
def keyedDevices (keys : List String) : List DeviceInfo :=
  (keys.zipIdx 1).map fun (key, id) =>
    { deviceId := ⟨id⟩, name := "laptop", irohPublicKey := key, enabledFeatures := [],
      lastSeen := none, online := true }

def keyThree : String := "fc51cd8e6218a1a38da47ed00230f0580816ed13ba3303ac5deb911548908025"

/-- The second device of a list takes another key, and a third one is new. -/
theorem changed_keys_served :
    Serves readKeyText Subtype.val ⟨keyThree, by decide +kernel⟩ ⟨1⟩
      (keyedDevices [keyThree, keyTwo, keyOne])
      (updatePeerAddresses readKeyText Subtype.val ⟨[(⟨2⟩, keyOne)], [(keyOne, ⟨2⟩)]⟩
        [(⟨3⟩, keyOne), (⟨2⟩, keyTwo)]) := by
  have hlisted : ([(⟨3⟩, keyOne), (⟨2⟩, keyTwo)] : PeerAddressBook).Perm
      (otherAddresses ⟨1⟩ (keyedDevices [keyThree, keyTwo, keyOne]) []) := by
    decide +kernel
  obtain ⟨log, hlog⟩ := @applyServerDevices_runs _ readKeyText Subtype.val _ ∅ _
    ⟨[(⟨2⟩, keyOne)], [(keyOne, ⟨2⟩)]⟩ _ hlisted
  refine (update_serves_iff readKeyText_val hlog).mpr (Or.inl ⟨?_, ?_, ?_⟩)
  · decide +kernel
  · decide +kernel
  · unfold NoneOwn
    decide +kernel

/-- A new device with a bad key: the third device is not dialed, and the removed one is still
known by its key. -/
theorem bad_key_freezes :
    ∃ log, Prog.Exec (AddressStep readKeyText Subtype.val)
        (applyServerDevices ⟨1⟩ ∅ (keyedDevices [keyThree, "key", keyTwo]))
        ⟨[(⟨4⟩, keyOne)], [(keyOne, ⟨4⟩)]⟩ log () ⟨[(⟨4⟩, keyOne)], [(keyOne, ⟨4⟩)]⟩ ∧
      ¬ Serves readKeyText Subtype.val ⟨keyThree, by decide +kernel⟩ ⟨1⟩
        (keyedDevices [keyThree, "key", keyTwo]) ⟨[(⟨4⟩, keyOne)], [(keyOne, ⟨4⟩)]⟩ := by
  obtain ⟨log, hlog⟩ := @applyServerDevices_runs _ readKeyText Subtype.val ⟨1⟩ ∅
    (keyedDevices [keyThree, "key", keyTwo]) ⟨[(⟨4⟩, keyOne)], [(keyOne, ⟨4⟩)]⟩ _ (.refl _)
  rw [updatePeerAddresses_unparsed (by decide +kernel)] at hlog
  refine ⟨log, hlog, fun hserves => ?_⟩
  refine hserves.unresolved ⟨4⟩ (by decide +kernel) ⟨keyOne, by decide +kernel⟩ ?_
  decide +kernel

end Lists

end Failsafe.Daemon
