import Mathlib.Algebra.GroupWithZero.Nat
import Mathlib.Algebra.Order.BigOperators.Group.List
import Mathlib.Algebra.Order.Group.Nat
import Failsafe.Lib.JsonText

/-!
How many bytes JSON text takes at most.
-/

namespace Failsafe.Lib.JsonText

/-- How many bytes a text takes in UTF-8. -/
def byteLength (text : List Char) : Nat :=
  (utf8 text).length

section

variable {text other : List Char} {items : List (List Char)} {width : Nat}

@[simp] theorem byteLength_nil : byteLength [] = 0 := rfl

@[simp] theorem byteLength_cons (c : Char) :
    byteLength (c :: text) = c.utf8Size + byteLength text := by
  simp [byteLength, utf8, String.length_utf8EncodeChar]

@[simp] theorem byteLength_append :
    byteLength (text ++ other) = byteLength text + byteLength other := by
  simp [byteLength, utf8]

theorem byteLength_toList (s : String) : byteLength s.toList = s.utf8ByteSize := by
  unfold byteLength
  rw [utf8_eq, String.ofList_toList, Utf8.toList_eq, Array.length_toList]
  exact String.size_toByteArray

theorem byteLength_le_mul (h : ∀ c ∈ text, c.utf8Size ≤ width) :
    byteLength text ≤ text.length * width := by
  induction text with
  | nil => simp
  | cons c text ih =>
      have hc := h c List.mem_cons_self
      have htext := ih fun d hd => h d (List.mem_cons_of_mem c hd)
      rw [byteLength_cons, List.length_cons, Nat.add_one_mul]
      omega

theorem byteLength_escapeChar_le (c : Char) : byteLength (escapeChar c) ≤ 6 * c.utf8Size := by
  have hpos := Char.utf8Size_pos c
  have hsix (digit digit' : Char) (hdigit : digit.utf8Size = 1) (hdigit' : digit'.utf8Size = 1) :
      byteLength ['\\', 'u', '0', '0', digit, digit'] = 6 := by
    simp only [byteLength_cons, byteLength_nil, hdigit, hdigit']
    rfl
  have htwo (d : Char) (hd : d.utf8Size = 1) : byteLength ['\\', d] ≤ 6 * c.utf8Size := by
    have hslash : '\\'.utf8Size = 1 := rfl
    simp only [byteLength_cons, byteLength_nil, hd, hslash]
    omega
  unfold escapeChar
  split
  · exact htwo _ rfl
  split
  · exact htwo _ rfl
  split
  · exact htwo _ rfl
  split
  · exact htwo _ rfl
  split
  · exact htwo _ rfl
  split
  · exact htwo _ rfl
  split
  · exact htwo _ rfl
  split
  · have hdigits : ∀ n < 16, (hexDigit n).utf8Size = 1 := by decide
    rw [hsix _ _ (hdigits _ (by omega)) (hdigits _ (by omega))]
    omega
  · rw [byteLength_cons, byteLength_nil]
    omega

theorem byteLength_writeString_le (s : String) :
    byteLength (writeString s) ≤ 6 * s.utf8ByteSize + 2 := by
  have hescaped (text : List Char) :
      byteLength (text.flatMap escapeChar) ≤ 6 * byteLength text := by
    induction text with
    | nil => simp
    | cons c text ih =>
        have hc := byteLength_escapeChar_le c
        rw [List.flatMap_cons, byteLength_append, byteLength_cons]
        omega
  have htext := hescaped s.toList
  have hquote : '"'.utf8Size = 1 := rfl
  rw [byteLength_toList] at htext
  simp only [writeString, byteLength_append, byteLength_cons, byteLength_nil, hquote]
  omega

theorem utf8Size_of_isDigit {c : Char} (h : c.isDigit = true) : c.utf8Size = 1 := by
  have hdigit : c.val ≤ 57 := by
    simp only [Char.isDigit, Bool.and_eq_true, decide_eq_true_eq] at h
    exact h.2
  have hascii : (57 : UInt32) ≤ 127 := by decide
  exact Char.utf8Size_eq_one_iff.mpr (UInt32.le_trans hdigit hascii)

theorem byteLength_writeNat_le {n digits : Nat} (hdigits : 0 < digits) (h : n < 10 ^ digits) :
    byteLength (writeNat n) ≤ digits := by
  have hlength := (Nat.length_toDigits_le_iff (by decide) hdigits).mpr h
  have hbytes : byteLength (writeNat n) ≤ (writeNat n).length * 1 := by
    refine byteLength_le_mul fun c hc => ?_
    exact (utf8Size_of_isDigit (Nat.isDigit_of_mem_toDigits (by decide) (by decide) hc)).le
  rw [Nat.mul_one] at hbytes
  exact hbytes.trans hlength

theorem byteLength_commaSeparated_le :
    byteLength (commaSeparated items) ≤ (items.map fun item => byteLength item + 1).sum := by
  induction items with
  | nil => simp [commaSeparated]
  | cons item items ih =>
      rw [List.map_cons, List.sum_cons]
      cases items with
      | nil =>
          rw [commaSeparated]
          omega
      | cons next items =>
          have hcomma : ','.utf8Size = 1 := rfl
          rw [commaSeparated, byteLength_append, byteLength_cons, hcomma]
          · omega
          · simp

theorem byteLength_writeArray_le (hwidth : ∀ item ∈ items, byteLength item ≤ width) :
    byteLength (writeArray items) ≤ items.length * (width + 1) + 2 := by
  have hitems : byteLength (commaSeparated items) ≤ items.length * (width + 1) := by
    refine byteLength_commaSeparated_le.trans ?_
    have hsum := List.sum_le_card_nsmul (items.map fun item => byteLength item + 1) (width + 1)
      (by
        intro size hsize
        obtain ⟨item, hitem, rfl⟩ := List.mem_map.mp hsize
        exact Nat.add_le_add_right (hwidth item hitem) 1)
    rwa [List.length_map, Nat.nsmul_eq_mul] at hsum
  have hopening : '['.utf8Size = 1 := rfl
  have hclosing : ']'.utf8Size = 1 := rfl
  simp only [writeArray, byteLength_append, byteLength_cons, byteLength_nil, hopening, hclosing]
  omega

theorem byteLength_writeObject_le {fields : List (String × List Char)}
    (hnames : (fields.map Prod.fst).all (fun name => name.utf8ByteSize ≤ width) = true) :
    byteLength (writeObject fields) ≤
      (fields.map fun field => byteLength field.2 + (6 * width + 4)).sum + 2 := by
  have hfields : ((fields.map writeField).map fun item => byteLength item + 1).sum ≤
      (fields.map fun field => byteLength field.2 + (6 * width + 4)).sum := by
    rw [List.map_map]
    refine List.sum_le_sum fun field hfield => ?_
    have hname := List.all_eq_true.mp hnames _ (List.mem_map_of_mem hfield)
    have hwritten := byteLength_writeString_le field.1
    have hcolon : ':'.utf8Size = 1 := rfl
    simp only [decide_eq_true_eq] at hname
    simp only [Function.comp_apply, writeField, byteLength_append, byteLength_cons, hcolon]
    omega
  have hitems := byteLength_commaSeparated_le.trans hfields
  have hopening : '{'.utf8Size = 1 := rfl
  have hclosing : '}'.utf8Size = 1 := rfl
  simp only [writeObject, byteLength_append, byteLength_cons, byteLength_nil, hopening, hclosing]
  omega

end

end Failsafe.Lib.JsonText
