import Failsafe.Core.Message
import Mathlib.Tactic.IntervalCases

/-!
Reading a `Uuid` back from its text, as `Uuid::parse_str`.
-/

namespace Failsafe.Core

def hexValue (ch : Char) : Option Nat :=
  if '0' ≤ ch ∧ ch ≤ '9' then some (ch.toNat - '0'.toNat)
  else if 'a' ≤ ch ∧ ch ≤ 'f' then some (ch.toNat - 'a'.toNat + 10)
  else if 'A' ≤ ch ∧ ch ≤ 'F' then some (ch.toNat - 'A'.toNat + 10)
  else none

def parseHex (digits : List Char) : Option Nat :=
  digits.foldl (fun value ch => do return 16 * (← value) + (← hexValue ch)) (some 0)

/-- The digits of a hyphenated text. -/
def unhyphenate (chars : List Char) : Option (List Char) :=
  if chars[8]? = some '-' ∧ chars[13]? = some '-' ∧ chars[18]? = some '-' ∧
      chars[23]? = some '-' then
    some (chars.take 8 ++ (chars.drop 9).take 4 ++ (chars.drop 14).take 4 ++
      (chars.drop 19).take 4 ++ chars.drop 24)
  else none

/-- The simple, hyphenated, braced and URN forms. -/
def Uuid.parse (text : String) : Option Uuid := do
  let chars := text.toList
  let digits ←
    if chars.length = 32 then some chars
    else if chars.length = 36 then unhyphenate chars
    else if chars.length = 38 ∧ chars.head? = some '\x7b' ∧ chars.getLast? = some '\x7d' then
      unhyphenate ((chars.drop 1).take 36)
    else if chars.length = 45 ∧ chars.take 9 = "urn:uuid:".toList then
      unhyphenate (chars.drop 9)
    else none
  return BitVec.ofNat 128 (← parseHex digits)

theorem hexValue_digitChar {n : Nat} (h : n < 16) : hexValue (Nat.digitChar n) = some n := by
  interval_cases n <;> rfl

theorem parseHex_append (digits : List Char) (ch : Char) :
    parseHex (digits ++ [ch]) = do return 16 * (← parseHex digits) + (← hexValue ch) := by
  simp [parseHex]

theorem parseHex_digits (n len : Nat) :
    parseHex ((List.range len).map fun place =>
      Nat.digitChar (n / 16 ^ (len - 1 - place) % 16)) = some (n % 16 ^ len) := by
  induction len generalizing n with
  | zero => simp [parseHex, Nat.mod_one]
  | succ len ih =>
      have hfirst : ((List.range len).map fun place =>
          Nat.digitChar (n / 16 ^ (len + 1 - 1 - place) % 16)) =
          (List.range len).map fun place =>
            Nat.digitChar (n / 16 / 16 ^ (len - 1 - place) % 16) := by
        refine List.map_congr_left fun place hplace => ?_
        have hlt := List.mem_range.mp hplace
        have hexp : len + 1 - 1 - place = len - 1 - place + 1 := by omega
        rw [hexp, Nat.pow_succ', Nat.div_div_eq_div_mul]
      rw [List.range_succ, List.map_append, List.map_singleton, parseHex_append, hfirst, ih]
      have hlast : hexValue (Nat.digitChar (n / 16 ^ (len + 1 - 1 - len) % 16)) =
          some (n % 16) := by
        simpa using hexValue_digitChar (n := n % 16) (Nat.mod_lt _ (by decide))
      rw [hlast]
      change some (16 * (n / 16 % 16 ^ len) + n % 16) = _
      rw [Nat.pow_succ', Nat.mod_mul, Nat.add_comm]

theorem Uuid.length_digits (id : Uuid) : id.digits.length = 32 := by
  simp [Uuid.digits]

theorem Uuid.parseHex_digits (id : Uuid) : parseHex id.digits = some id.toNat := by
  have h := Core.parseHex_digits id.toNat 32
  rw [Nat.mod_eq_of_lt (by simpa using id.isLt)] at h
  exact h

theorem unhyphenate_append {a b c d e : List Char} (ha : a.length = 8) (hb : b.length = 4)
    (hc : c.length = 4) (hd : d.length = 4) :
    unhyphenate (a ++ '-' :: (b ++ '-' :: (c ++ '-' :: (d ++ '-' :: e)))) =
      some (a ++ b ++ c ++ d ++ e) := by
  have hmarks : unhyphenate (a ++ '-' :: (b ++ '-' :: (c ++ '-' :: (d ++ '-' :: e)))) =
      some _ := if_pos (by simp [List.getElem?_append, ha, hb, hc, hd])
  rw [hmarks]
  simp (disch := omega) [List.drop_append, List.drop_eq_nil_of_le, ha, hb, hc, hd]

theorem Uuid.toList_toText (id : Uuid) :
    (Uuid.toText id).toList =
      id.digits.take 8 ++ '-' :: ((id.digits.drop 8).take 4 ++ '-' ::
        ((id.digits.drop 12).take 4 ++ '-' :: ((id.digits.drop 16).take 4 ++ '-' ::
          (id.digits.drop 20).take 12))) := by
  simp [Uuid.toText, String.intercalate_cons_cons]

theorem Uuid.length_toText (id : Uuid) : (Uuid.toText id).toList.length = 36 := by
  simp [toList_toText, length_digits]

theorem Uuid.parse_toText (id : Uuid) : Uuid.parse (Uuid.toText id) = some id := by
  have hdigits := id.length_digits
  have hgroup (start len : Nat) :
      (id.digits.drop start).take len ++ id.digits.drop (start + len) =
        id.digits.drop start := by
    rw [← List.drop_drop, List.take_append_drop]
  have hlast : (id.digits.drop 20).take 12 = id.digits.drop 20 :=
    List.take_of_length_le (by simp [hdigits])
  have hjoin : unhyphenate (Uuid.toText id).toList = some id.digits := by
    rw [toList_toText, unhyphenate_append (by simp [hdigits]) (by simp [hdigits])
      (by simp [hdigits]) (by simp [hdigits]), hlast]
    simp only [List.append_assoc]
    rw [hgroup 16 4, hgroup 12 4, hgroup 8 4, List.take_append_drop]
  simp [Uuid.parse, length_toText, hjoin, parseHex_digits]

theorem Uuid.toText_injective : Function.Injective Uuid.toText := by
  intro id id' h
  have hparse := id.parse_toText
  rw [h, id'.parse_toText] at hparse
  exact (Option.some.inj hparse).symm

end Failsafe.Core
