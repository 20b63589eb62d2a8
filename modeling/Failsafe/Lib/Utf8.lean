import Mathlib.Data.List.Basic

/-!
Text and its bytes in UTF-8.
-/

namespace Failsafe.Lib.Utf8

def ofBytes (bytes : List UInt8) : Option String :=
  String.fromUTF8? ⟨bytes.toArray⟩

/-- Whether a byte may come second in a character that has more than one. -/
def secondOf (first second : UInt8) : Bool :=
  if first = 0xe0 then 0xa0 ≤ second && second ≤ 0xbf
  else if first = 0xed then 0x80 ≤ second && second ≤ 0x9f
  else if first = 0xf0 then 0x90 ≤ second && second ≤ 0xbf
  else if first = 0xf4 then 0x80 ≤ second && second ≤ 0x8f
  else 0xc2 ≤ first && first ≤ 0xf4 && 0x80 ≤ second && second ≤ 0xbf

def continues (byte : UInt8) : Bool :=
  0x80 ≤ byte && byte ≤ 0xbf

/-- How many bytes belong to the first character, or to the beginning of one that is broken
off. -/
def firstWidth : List UInt8 → Nat
  | first :: second :: rest =>
      if !secondOf first second then 1
      else if first < 0xe0 then 2
      else
        match rest with
        | third :: rest =>
            if !continues third then 2
            else if first < 0xf0 then 3
            else
              match rest with
              | fourth :: _ => if continues fourth then 4 else 3
              | [] => 3
        | [] => 2
  | _ => 1

/-- What is broken off is replaced. -/
def lossyFrom : Nat → List UInt8 → String
  | 0, _ | _, [] => ""
  | fuel + 1, bytes =>
      (ofBytes (bytes.take (firstWidth bytes))).getD "\uFFFD" ++
        lossyFrom fuel (bytes.drop (firstWidth bytes))

def lossy (bytes : List UInt8) : String :=
  lossyFrom bytes.length bytes

/-- Where a text stops being valid: how many bytes are valid before, and how many are not one
character after, unless the bytes end within a character. -/
def errorFrom : Nat → Nat → List UInt8 → Nat × Option Nat
  | 0, index, _ | _, index, [] => (index, none)
  | fuel + 1, index, first :: rest =>
      let width := firstWidth (first :: rest)
      match ofBytes ((first :: rest).take width) with
      | some _ => errorFrom fuel (index + width) ((first :: rest).drop width)
      | none =>
          if width = rest.length + 1 ∧ 0xc2 ≤ first ∧ first ≤ 0xf4 then (index, none)
          else (index, some width)

/-- The text of a `Utf8Error`. -/
def errorText (bytes : List UInt8) : String :=
  match errorFrom bytes.length 0 bytes with
  | (index, some width) => s!"invalid utf-8 sequence of {width} bytes from index {index}"
  | (index, none) => s!"incomplete utf-8 byte sequence from index {index}"

theorem toList_loop (bytes : ByteArray) (index : Nat) (front : List UInt8) :
    ByteArray.toList.loop bytes index front = front.reverse ++ bytes.data.toList.drop index := by
  fun_induction ByteArray.toList.loop bytes index front with
  | case1 index front hindex ih =>
      have hsize : index < bytes.data.toList.length := by simpa using hindex
      rw [ih, List.drop_eq_getElem_cons hsize, List.reverse_cons, List.append_assoc,
        List.singleton_append]
      have hget : bytes.get! index = bytes.data.toList[index] := by
        rw [Array.getElem_toList]
        exact getElem!_pos bytes.data index (by simpa using hindex)
      rw [hget]
  | case2 index front hindex =>
      have hsize : bytes.data.toList.length ≤ index := by simpa using hindex
      rw [List.drop_eq_nil_of_le hsize, List.append_nil]

theorem toList_eq (bytes : ByteArray) : bytes.toList = bytes.data.toList := by
  rw [ByteArray.toList, toList_loop, List.reverse_nil, List.nil_append, List.drop_zero]

theorem mk_toList (bytes : ByteArray) : (⟨bytes.toList.toArray⟩ : ByteArray) = bytes := by
  rw [toList_eq]

@[simp] theorem ofBytes_toList (text : String) : ofBytes text.toUTF8.toList = some text := by
  rw [ofBytes, mk_toList]
  exact dif_pos text.isValidUTF8

theorem ofBytes_eq_some_iff {bytes : List UInt8} {text : String} :
    ofBytes bytes = some text ↔ text.toUTF8.toList = bytes := by
  constructor
  · intro h
    unfold ofBytes String.fromUTF8? at h
    split at h
    · obtain rfl := Option.some.inj h
      exact toList_eq _
    · cases h
  · rintro rfl
    exact ofBytes_toList text

theorem toList_injective : Function.Injective fun text : String => text.toUTF8.toList := by
  intro text other heq
  have hsome := congrArg ofBytes heq
  dsimp only at hsome
  rw [ofBytes_toList, ofBytes_toList] at hsome
  exact Option.some.inj hsome

end Failsafe.Lib.Utf8
