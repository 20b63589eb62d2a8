import Mathlib.Data.UInt

/-!
Size limits of received and sent files (`failsafe-clipboard/src/limits.rs`).
-/

namespace Failsafe.Clipboard

structure ClipboardLimits where
  maxFileBytes : UInt64
  maxTotalBytes : UInt64
deriving DecidableEq, Repr

/-- `u64::saturating_add`. -/
def saturatingAdd (left right : UInt64) : UInt64 :=
  UInt64.ofNat (min (left.toNat + right.toNat) (UInt64.size - 1))

namespace ClipboardLimits

def default : ClipboardLimits :=
  { maxFileBytes := 100 * 1024 * 1024, maxTotalBytes := 500 * 1024 * 1024 }

def validateTotal (limits : ClipboardLimits) (total : UInt64) :
    List (String × UInt64) → Except String Unit
  | [] =>
      if total > limits.maxTotalBytes then
        .error s!"files exceed total limit of {limits.maxTotalBytes} bytes"
      else .ok ()
  | (name, size) :: entries =>
      if size > limits.maxFileBytes then
        .error s!"file `{name}` exceeds limit of {limits.maxFileBytes} bytes"
      else limits.validateTotal (saturatingAdd total size) entries

def validateEntries (limits : ClipboardLimits) (entries : List (String × UInt64)) :
    Except String Unit :=
  limits.validateTotal 0 entries

/-- The loop of `validate_files`, from the total so far. -/
def validateFilesFrom (limits : ClipboardLimits) (total : UInt64) :
    List (String × List UInt8) → Except String Unit
  | [] =>
      if total > limits.maxTotalBytes then
        .error s!"clipboard files exceed total limit of {limits.maxTotalBytes} bytes"
      else .ok ()
  | (name, data) :: files =>
      let size := UInt64.ofNat data.length
      if size > limits.maxFileBytes then
        .error s!"clipboard file `{name}` exceeds limit of {limits.maxFileBytes} bytes"
      else limits.validateFilesFrom (saturatingAdd total size) files

def validateFiles (limits : ClipboardLimits) (files : List (String × List UInt8)) :
    Except String Unit :=
  limits.validateFilesFrom 0 files

def validateBlob (limits : ClipboardLimits) (size : Nat) : Except String Unit :=
  if UInt64.ofNat size > limits.maxFileBytes then
    .error s!"clipboard blob exceeds limit of {limits.maxFileBytes} bytes"
  else .ok ()

end ClipboardLimits

end Failsafe.Clipboard
