import Mathlib.Data.UInt

/-!
Lengths in four bytes, the highest first.
-/

namespace Failsafe.Lib

/-- `u32::to_be_bytes`. -/
def toBeBytes (length : UInt32) : List UInt8 :=
  [(length >>> 24).toUInt8, (length >>> 16).toUInt8, (length >>> 8).toUInt8,
    length.toUInt8]

@[simp] theorem length_toBeBytes (length : UInt32) : (toBeBytes length).length = 4 := rfl

/-- The value of big-endian bytes, `from_be_bytes`. -/
def fromBeBytes (bytes : List UInt8) : Nat :=
  bytes.foldl (fun value byte => value * 256 + byte.toNat) 0

theorem fromBeBytes_toBeBytes (length : UInt32) :
    fromBeBytes (toBeBytes length) = length.toNat := by
  have hbound := length.toNat_lt
  simp only [toBeBytes, fromBeBytes, List.foldl_cons, List.foldl_nil, UInt32.toNat_toUInt8,
    UInt32.toNat_shiftRight, UInt32.reduceToNat, Nat.shiftRight_eq_div_pow, Nat.reduceMod,
    Nat.reducePow]
  omega

end Failsafe.Lib
