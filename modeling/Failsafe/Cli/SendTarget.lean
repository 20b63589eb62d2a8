import Failsafe.Core.Text
import Failsafe.Core.Uuid
import Failsafe.Daemon.SelfSync

/-!
How the command line finds the device that a transfer goes to (`cli/util.rs` and
`cli/commands/send.rs`).
-/

namespace Failsafe.Cli

open Failsafe.Core Failsafe.Daemon

/-- `str::to_ascii_lowercase` -/
def toAsciiLowercase (text : String) : String :=
  String.ofList (text.toList.map Char.toLower)

/-- `DeviceId::from_str` -/
def parseDeviceId (text : String) : Option DeviceId :=
  (Uuid.parse text).map DeviceId.mk

/-- The other devices with this name. -/
def namedLike (query : String) (selfId : DeviceId) (devices : List DeviceInfo) :
    List DeviceInfo :=
  devices.filter fun device => device.deviceId ≠ selfId ∧
    toAsciiLowercase device.name = toAsciiLowercase query

def resolveDeviceTarget (query : String) (selfId : DeviceId) (devices : List DeviceInfo) :
    Except DaemonError DeviceInfo :=
  let query := trimmed query
  if query = "" then .error (.config "device name cannot be empty")
  else match parseDeviceId query with
    | some deviceId =>
        match devices.find? fun device => device.deviceId = deviceId with
        | none => .error (.config s!"device `{query}` not found")
        | some device =>
            if device.deviceId = selfId then .error (.config "cannot open a shell to this device")
            else .ok device
    | none =>
        match namedLike query selfId devices with
        | [] => .error (.config s!"device `{query}` not found")
        | [device] => .ok device
        | candidates =>
            let names := String.intercalate ", " (candidates.map fun device =>
              s!"{device.name} ({Uuid.toText device.deviceId.uuid})")
            .error (.config s!"ambiguous device name `{query}`; matches: {names}")

/-- The device that is named, the one that a transfer is resumed to, or the one that the user
selects. -/
def resolveSendTarget (device : Option String) (targetDevice : Option DeviceId)
    (localDeviceId : DeviceId) (devices : List DeviceInfo)
    (selectDeviceInteractive : Except DaemonError DeviceInfo) : Except DaemonError DeviceInfo :=
  match device, targetDevice with
  | some name, _ => resolveDeviceTarget name localDeviceId devices
  | none, some deviceId =>
      match devices.find? fun entry => entry.deviceId = deviceId with
      | none =>
          .error (.config (s!"resume target device {Uuid.toText deviceId.uuid}" ++
            " is not in your device list"))
      | some device => resolveDeviceTarget device.name localDeviceId devices
  | none, none => selectDeviceInteractive

/-- A transfer is resumed to the device with the saved id, and to no other. -/
def ResumesSaved (localDeviceId : DeviceId) (devices : List DeviceInfo) (deviceId : DeviceId) :
    Prop :=
  ∀ select, (∀ device ∈ devices, device.deviceId = deviceId → deviceId ≠ localDeviceId →
      resolveSendTarget none (some deviceId) localDeviceId devices select = .ok device) ∧
    ((deviceId = localDeviceId ∨ ∀ device ∈ devices, device.deviceId ≠ deviceId) →
      ∃ error, resolveSendTarget none (some deviceId) localDeviceId devices select = .error error)

/-- A name that leads back to its device: the text of its id, or a name without whitespace around
it that no other device has. -/
def LeadsBack (localDeviceId : DeviceId) (devices : List DeviceInfo) (device : DeviceInfo) :
    Prop :=
  match parseDeviceId (trimmed device.name) with
  | some deviceId => deviceId = device.deviceId
  | none => trimmed device.name = device.name ∧ device.name ≠ "" ∧
      ∀ other ∈ devices, other.deviceId ≠ localDeviceId →
        toAsciiLowercase other.name = toAsciiLowercase device.name →
          other.deviceId = device.deviceId

/-- A name of this device that leads to no other: it is not the text of another id in the list,
and not the name of exactly one other device. -/
def LeadsNowhere (localDeviceId : DeviceId) (devices : List DeviceInfo) (device : DeviceInfo) :
    Prop :=
  match parseDeviceId (trimmed device.name) with
  | some deviceId => deviceId = localDeviceId ∨ ∀ other ∈ devices, other.deviceId ≠ deviceId
  | none => trimmed device.name = "" ∨
      (namedLike (trimmed device.name) localDeviceId devices).length ≠ 1

section Names

theorem trim_sublist (text : List Char) : List.Sublist (trim text) text := by
  rw [trim_eq]
  exact (List.rdropWhile_prefix isWhitespace _).sublist.trans (List.dropWhile_sublist _)

theorem lowercase_trimmed_iff {name : String} :
    toAsciiLowercase name = toAsciiLowercase (trimmed name) ↔ trimmed name = name := by
  constructor
  · intro h
    have hlength := congrArg (fun text : String => text.toList.length) h
    have hsub : List.Sublist (trim name.toList) name.toList := trim_sublist _
    unfold trimmed at hlength ⊢
    have heq : trim name.toList = name.toList := hsub.eq_of_length (by
      simpa [toAsciiLowercase] using hlength.symm)
    rw [heq, String.ofList_toList]
  · intro h
    rw [h]

variable {localDeviceId deviceId : DeviceId} {devices : List DeviceInfo} {device : DeviceInfo}

theorem eq_of_ids (hids : (devices.map (·.deviceId)).Nodup) {other : DeviceInfo}
    (hmem : device ∈ devices) (hother : other ∈ devices)
    (h : other.deviceId = device.deviceId) : other = device :=
  List.inj_on_of_nodup_map hids hother hmem h

theorem find_device (hids : (devices.map (·.deviceId)).Nodup) (hmem : device ∈ devices)
    (h : device.deviceId = deviceId) :
    devices.find? (fun entry => entry.deviceId = deviceId) = some device := by
  subst h
  cases hfind : devices.find? fun entry => entry.deviceId = device.deviceId with
  | none =>
      have hnone := List.find?_eq_none.mp hfind device hmem
      simp at hnone
  | some found =>
      have hfound := List.find?_some hfind
      rw [eq_of_ids hids hmem (List.mem_of_find?_eq_some hfind) (by simpa using hfound)]

theorem find_device_none :
    devices.find? (fun entry => entry.deviceId = deviceId) = none ↔
      ∀ device ∈ devices, device.deviceId ≠ deviceId := by
  simp [List.find?_eq_none]

theorem mem_namedLike {query : String} :
    device ∈ namedLike query localDeviceId devices ↔ device ∈ devices ∧
      device.deviceId ≠ localDeviceId ∧
      toAsciiLowercase device.name = toAsciiLowercase query := by
  simp [namedLike]

theorem namedLike_eq_singleton {query : String} (hids : (devices.map (·.deviceId)).Nodup)
    (hmem : device ∈ namedLike query localDeviceId devices)
    (honly : ∀ other ∈ namedLike query localDeviceId devices,
      other.deviceId = device.deviceId) :
    namedLike query localDeviceId devices = [device] := by
  have hdevices : devices.Nodup := List.Nodup.of_map _ hids
  have hnodup : (namedLike query localDeviceId devices).Nodup := hdevices.filter _
  have hall : ∀ other ∈ namedLike query localDeviceId devices, other = device := fun other h =>
    eq_of_ids hids (mem_namedLike.mp hmem).1 (mem_namedLike.mp h).1 (honly other h)
  have hperm : (namedLike query localDeviceId devices).Perm [device] := by
    refine (List.perm_ext_iff_of_nodup hnodup (List.nodup_singleton device)).mpr fun other => ?_
    rw [List.mem_singleton]
    constructor
    · exact hall other
    · rintro rfl
      exact hmem
  exact List.perm_singleton.mp hperm

theorem parseDeviceId_empty : parseDeviceId "" = none := by decide

theorem resolve_ok_iff (hids : (devices.map (·.deviceId)).Nodup) (hmem : device ∈ devices)
    (hother : device.deviceId ≠ localDeviceId) :
    resolveDeviceTarget device.name localDeviceId devices = .ok device ↔
      LeadsBack localDeviceId devices device := by
  unfold resolveDeviceTarget LeadsBack
  dsimp only
  by_cases hempty : trimmed device.name = ""
  · rw [if_pos hempty, hempty, parseDeviceId_empty]
    constructor
    · intro h
      cases h
    · rintro ⟨hname, hne, -⟩
      exact (hne hname.symm).elim
  rw [if_neg hempty]
  cases hparse : parseDeviceId (trimmed device.name) with
  | some deviceId =>
      dsimp only
      constructor
      · intro h
        cases hfind : devices.find? fun entry => entry.deviceId = deviceId with
        | none =>
            rw [hfind] at h
            cases h
        | some found =>
            rw [hfind] at h
            dsimp only at h
            split at h
            · cases h
            · obtain rfl := Except.ok.inj h
              have hfound := List.find?_some hfind
              simpa using (of_decide_eq_true hfound).symm
      · rintro rfl
        rw [find_device hids hmem rfl]
        exact if_neg hother
  | none =>
      dsimp only
      constructor
      · intro h
        have hlist : namedLike (trimmed device.name) localDeviceId devices = [device] := by
          split at h
          · cases h
          · rename_i found hfound
            rw [hfound, Except.ok.inj h]
          · cases h
        have hdevice : device ∈ namedLike (trimmed device.name) localDeviceId devices := by
          rw [hlist]
          exact List.mem_singleton_self device
        have htrimmed := lowercase_trimmed_iff.mp (mem_namedLike.mp hdevice).2.2
        refine ⟨htrimmed, fun hname => hempty (htrimmed.trans hname), fun other hin hne hsame => ?_⟩
        have hlike : other ∈ namedLike (trimmed device.name) localDeviceId devices :=
          mem_namedLike.mpr ⟨hin, hne, by rw [htrimmed]; exact hsame⟩
        rw [hlist, List.mem_singleton] at hlike
        rw [hlike]
      · rintro ⟨htrimmed, -, honly⟩
        have hsingle : namedLike device.name localDeviceId devices = [device] := by
          refine namedLike_eq_singleton hids (mem_namedLike.mpr ⟨hmem, hother, rfl⟩) ?_
          intro other h
          obtain ⟨hin, hne, hsame⟩ := mem_namedLike.mp h
          exact honly other hin hne hsame
        rw [htrimmed, hsingle]

theorem resolve_error_iff :
    (∃ error, resolveDeviceTarget device.name localDeviceId devices = .error error) ↔
      LeadsNowhere localDeviceId devices device := by
  unfold resolveDeviceTarget LeadsNowhere
  dsimp only
  by_cases hempty : trimmed device.name = ""
  · rw [if_pos hempty, hempty, parseDeviceId_empty]
    exact ⟨fun _ => .inl rfl, fun _ => ⟨_, rfl⟩⟩
  rw [if_neg hempty]
  cases hparse : parseDeviceId (trimmed device.name) with
  | some deviceId =>
      dsimp only
      cases hfind : devices.find? fun entry => entry.deviceId = deviceId with
      | none => exact ⟨fun _ => .inr (find_device_none.mp hfind), fun _ => ⟨_, rfl⟩⟩
      | some found =>
          have hfound : found.deviceId = deviceId := by simpa using List.find?_some hfind
          subst hfound
          dsimp only
          by_cases hself : found.deviceId = localDeviceId
          · rw [if_pos hself]
            exact ⟨fun _ => .inl hself, fun _ => ⟨_, rfl⟩⟩
          · rw [if_neg hself]
            constructor
            · rintro ⟨error, h⟩
              cases h
            · rintro (h | h)
              · exact (hself h).elim
              · exact (h found (List.mem_of_find?_eq_some hfind) rfl).elim
  | none =>
      dsimp only
      split
      · rename_i hlist
        exact ⟨fun _ => .inr (by simp [hlist]), fun _ => ⟨_, rfl⟩⟩
      · rename_i hlist
        constructor
        · rintro ⟨error, h⟩
          cases h
        · rintro (h | h)
          · exact (hempty h).elim
          · simp [hlist] at h
      · rename_i hnil hone
        refine ⟨fun _ => .inr fun hlength => ?_, fun _ => ⟨_, rfl⟩⟩
        obtain ⟨found, hlist⟩ := List.length_eq_one_iff.mp hlength
        exact hone found hlist

/-- A transfer goes on to its saved device just if the name of that device leads back to it, or
for this device itself nowhere. -/
theorem resumes_saved_iff (hids : (devices.map (·.deviceId)).Nodup) :
    ResumesSaved localDeviceId devices deviceId ↔
      ∀ device ∈ devices, device.deviceId = deviceId →
        if deviceId = localDeviceId then LeadsNowhere localDeviceId devices device
        else LeadsBack localDeviceId devices device := by
  unfold ResumesSaved
  constructor
  · intro h device hmem hid
    obtain ⟨hok, herror⟩ := h (.error .deviceRemoved)
    split
    · rename_i hself
      obtain ⟨error, hresult⟩ := herror (.inl hself)
      simp only [resolveSendTarget, find_device hids hmem hid] at hresult
      exact resolve_error_iff.mp ⟨error, hresult⟩
    · rename_i hother
      have hresult := hok device hmem hid hother
      simp only [resolveSendTarget, find_device hids hmem hid] at hresult
      exact (resolve_ok_iff hids hmem (hid.trans_ne hother)).mp hresult
  · intro h select
    constructor
    · intro device hmem hid hother
      have hback := h device hmem hid
      rw [if_neg hother] at hback
      simp only [resolveSendTarget, find_device hids hmem hid]
      exact (resolve_ok_iff hids hmem (hid.trans_ne hother)).mpr hback
    · intro hcase
      cases hfind : devices.find? fun entry => entry.deviceId = deviceId with
      | none =>
          simp only [resolveSendTarget, hfind]
          exact ⟨_, rfl⟩
      | some device =>
          have hmem := List.mem_of_find?_eq_some hfind
          have hid : device.deviceId = deviceId := by simpa using List.find?_some hfind
          rcases hcase with hself | hnone
          · have hnowhere := h device hmem hid
            rw [if_pos hself] at hnowhere
            simp only [resolveSendTarget, hfind]
            exact resolve_error_iff.mpr hnowhere
          · exact (hnone device hmem hid).elim

end Names

section Samples

def sampleDevice (id : Nat) (name : String) : DeviceInfo :=
  { deviceId := ⟨BitVec.ofNat 128 id⟩, name, irohPublicKey := "k", enabledFeatures := [],
    lastSeen := none, online := true }

/-- A device that is named with the id of another. -/
def sampleDevices : List DeviceInfo :=
  [sampleDevice 1 "00000000-0000-0000-0000-000000000002", sampleDevice 2 "Desktop",
    sampleDevice 3 "Laptop"]

/-- A transfer to the first device is resumed to the second one. -/
theorem resumed_to_another :
    resolveSendTarget none (some ⟨1⟩) ⟨3⟩ sampleDevices (.error .deviceRemoved) =
        .ok (sampleDevice 2 "Desktop") ∧
      ¬ResumesSaved ⟨3⟩ sampleDevices ⟨1⟩ := by
  have hresult : resolveSendTarget none (some ⟨1⟩) ⟨3⟩ sampleDevices (.error .deviceRemoved) =
      .ok (sampleDevice 2 "Desktop") := by
    unfold sampleDevices resolveSendTarget resolveDeviceTarget trimmed
    decide +kernel
  refine ⟨hresult, fun h => ?_⟩
  have hsaved := (h (.error .deviceRemoved)).1 _ (List.mem_cons_self) rfl (by decide)
  rw [hresult] at hsaved
  revert hsaved
  decide

/-- The desktop has a name of its own. -/
theorem resumed_to_desktop :
    (sampleDevices.map (·.deviceId)).Nodup ∧ ResumesSaved ⟨3⟩ sampleDevices ⟨2⟩ := by
  have hids : (sampleDevices.map (·.deviceId)).Nodup := by decide
  have htrimmed : trimmed "Desktop" = "Desktop" := by
    unfold trimmed
    decide
  have hparse : parseDeviceId (trimmed "Desktop") = none := by
    rw [htrimmed]
    decide
  refine ⟨hids, (resumes_saved_iff hids).mpr ?_⟩
  intro device hmem hid
  rw [if_neg (by decide)]
  obtain rfl : sampleDevice 2 "Desktop" = device :=
    eq_of_ids hids hmem (by decide) (by rw [hid]; rfl)
  unfold LeadsBack
  change match parseDeviceId (trimmed "Desktop") with
    | some deviceId => _
    | none => _
  rw [hparse]
  exact ⟨htrimmed, by decide, by decide⟩

end Samples

end Failsafe.Cli
