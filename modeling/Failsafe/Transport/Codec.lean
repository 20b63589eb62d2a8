import Failsafe.Core.Message
import Failsafe.Lib.BigEndian

/-!
Frames of the device transport (`failsafe-transport/src/codec.rs`).  JSON is written and
read by the third-party `serde_json`, which is a parameter of `encode` and `decode`.
-/

namespace Failsafe.Transport

open Failsafe.Core Failsafe.Lib

inductive TransportError where
  | peerNotFound (device : DeviceId)
  | disconnected
  | codec (message : String)
deriving DecidableEq, Repr

def TransportError.toText : TransportError → String
  | .peerNotFound device => s!"peer `{Uuid.toText device.uuid}` not found"
  | .disconnected => "transport disconnected"
  | .codec message => s!"transport codec error: {message}"

def MAX_MESSAGE_SIZE : Nat := 16 * 1024 * 1024

/-- `toVec` is `serde_json::to_vec` at `FeatureMessage`. -/
def encode (toVec : FeatureMessage (List UInt8) → Except String (List UInt8))
    (message : FeatureMessage (List UInt8)) : Except TransportError (List UInt8) :=
  match toVec message with
  | .error error => .error (.codec error)
  | .ok payload =>
      if payload.length > MAX_MESSAGE_SIZE then
        .error (.codec s!"message exceeds maximum size of {MAX_MESSAGE_SIZE} bytes")
      else
        .ok (toBeBytes (UInt32.ofNat payload.length) ++ payload)

/-- `fromSlice` is `serde_json::from_slice` at `FeatureMessage`. -/
def decode (fromSlice : List UInt8 → Except String (FeatureMessage (List UInt8)))
    (frame : List UInt8) : Except TransportError (FeatureMessage (List UInt8)) :=
  if frame.length < 4 then .error (.codec "frame too short")
  else
    let length := fromBeBytes (frame.take 4)
    if length > MAX_MESSAGE_SIZE then
      .error (.codec s!"message exceeds maximum size of {MAX_MESSAGE_SIZE} bytes")
    else if frame.length < 4 + length then .error (.codec "incomplete frame")
    else match fromSlice ((frame.drop 4).take length) with
      | .error error => .error (.codec error)
      | .ok message => .ok message

theorem encode_isOk_iff
    (toVec : FeatureMessage (List UInt8) → Except String (List UInt8))
    (message : FeatureMessage (List UInt8)) :
    (encode toVec message).isOk = true ↔
      ∃ payload, toVec message = .ok payload ∧ payload.length ≤ MAX_MESSAGE_SIZE := by
  unfold encode
  cases toVec message with
  | error error => simp [Except.isOk, Except.toBool]
  | ok payload =>
      by_cases hsize : payload.length > MAX_MESSAGE_SIZE
      · simp [hsize, Except.isOk, Except.toBool]
      · simp [hsize, Except.isOk, Except.toBool, Nat.not_lt.mp hsize]

theorem encode_ok {toVec : FeatureMessage (List UInt8) → Except String (List UInt8)}
    {message : FeatureMessage (List UInt8)} {frame : List UInt8}
    (h : encode toVec message = .ok frame) :
    ∃ payload, toVec message = .ok payload ∧ payload.length ≤ MAX_MESSAGE_SIZE ∧
      frame = toBeBytes (UInt32.ofNat payload.length) ++ payload ∧
      fromBeBytes (toBeBytes (UInt32.ofNat payload.length)) = payload.length := by
  unfold encode at h
  split at h
  · cases h
  · rename_i payload hpayload
    split at h
    · cases h
    · rename_i hsize
      have hsize := Nat.not_lt.mp hsize
      refine ⟨payload, hpayload, hsize, (Except.ok.inj h).symm, ?_⟩
      rw [fromBeBytes_toBeBytes, UInt32.toNat_ofNat_of_lt']
      exact lt_of_le_of_lt hsize (by decide)

theorem decode_encode {toVec : FeatureMessage (List UInt8) → Except String (List UInt8)}
    {fromSlice : List UInt8 → Except String (FeatureMessage (List UInt8))}
    (hjson : ∀ message payload, toVec message = .ok payload → fromSlice payload = .ok message)
    {message : FeatureMessage (List UInt8)} {frame : List UInt8}
    (h : encode toVec message = .ok frame) : decode fromSlice frame = .ok message := by
  obtain ⟨payload, hpayload, hsize, rfl, hlength⟩ := encode_ok h
  have hheader := length_toBeBytes (UInt32.ofNat payload.length)
  unfold decode
  rw [if_neg (by simp)]
  dsimp only
  rw [List.take_left' hheader, List.drop_left' hheader, hlength, if_neg (Nat.not_lt.mpr hsize),
    if_neg (by simp), List.take_length, hjson message payload hpayload]

end Failsafe.Transport
