import Mathlib.Data.List.DropRight
import Mathlib.Data.List.TakeWhile

/-!
Whitespace and the trimming of text, as in the standard library of Rust.
-/

namespace Failsafe.Core

/-- `char::is_whitespace`. -/
def isWhitespace (ch : Char) : Bool :=
  (0x9 ≤ ch.val && ch.val ≤ 0xd) ||
    [0x20, 0x85, 0xa0, 0x1680, 0x2028, 0x2029, 0x202f, 0x205f, 0x3000].contains ch.val ||
    (0x2000 ≤ ch.val && ch.val ≤ 0x200a)

def trim (text : List Char) : List Char :=
  ((text.dropWhile isWhitespace).reverse.dropWhile isWhitespace).reverse

/-- `str::trim`, which is not to be run while a handler is looked at. -/
@[irreducible] def trimmed (text : String) : String :=
  String.ofList (trim text.toList)

theorem trim_eq (text : List Char) :
    trim text = (text.dropWhile isWhitespace).rdropWhile isWhitespace := rfl

theorem trim_trim (text : List Char) : trim (trim text) = trim text := by
  have hfront : (trim text).dropWhile isWhitespace = trim text := by
    obtain ⟨rest, hrest⟩ : trim text <+: text.dropWhile isWhitespace :=
      List.rdropWhile_prefix isWhitespace _
    cases htrim : trim text with
    | nil => rfl
    | cons ch chars =>
        rw [htrim] at hrest
        have hlength : 0 < (text.dropWhile isWhitespace).length := by simp [← hrest]
        have hfirst := List.dropWhile_get_zero_not isWhitespace text hlength
        simp only [← hrest, List.cons_append, List.get_eq_getElem,
          List.getElem_cons_zero] at hfirst
        exact List.dropWhile_cons_of_neg hfirst
  rw [trim_eq (trim text), hfront, trim_eq, List.rdropWhile_idempotent]

@[simp] theorem trimmed_trimmed (text : String) : trimmed (trimmed text) = trimmed text := by
  simp [trimmed, trim_trim]

end Failsafe.Core
