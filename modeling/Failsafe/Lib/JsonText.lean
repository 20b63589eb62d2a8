import Failsafe.Lib.Utf8

/-!
Compact JSON text: the writer for the objects, arrays, strings and numbers of
a serializer without whitespace, lower bounds on the length of its output, and that
a string literal can be read back.
-/

namespace Failsafe.Lib.JsonText

def hexDigit (n : Nat) : Char :=
  (Nat.toDigits 16 n).headD '0'

/-- One character inside a string literal. -/
def escapeChar (c : Char) : List Char :=
  if c = '"' then ['\\', '"']
  else if c = '\\' then ['\\', '\\']
  else if c = '\n' then ['\\', 'n']
  else if c = '\r' then ['\\', 'r']
  else if c = '\t' then ['\\', 't']
  else if c.toNat = 8 then ['\\', 'b']
  else if c.toNat = 12 then ['\\', 'f']
  else if c.toNat < 32 then
    ['\\', 'u', '0', '0', hexDigit (c.toNat / 16), hexDigit (c.toNat % 16)]
  else [c]

def writeString (s : String) : List Char :=
  '"' :: s.toList.flatMap escapeChar ++ ['"']

def writeNat (n : Nat) : List Char :=
  Nat.toDigits 10 n

def writeBool (b : Bool) : List Char :=
  if b then ['t', 'r', 'u', 'e'] else ['f', 'a', 'l', 's', 'e']

/-- Items separated by commas. -/
def commaSeparated : List (List Char) → List Char
  | [] => []
  | [item] => item
  | item :: items => item ++ ',' :: commaSeparated items

def writeArray (items : List (List Char)) : List Char :=
  '[' :: commaSeparated items ++ [']']

def writeField (field : String × List Char) : List Char :=
  writeString field.1 ++ ':' :: field.2

def writeObject (fields : List (String × List Char)) : List Char :=
  '{' :: commaSeparated (fields.map writeField) ++ ['}']

def newLine (indent : Nat) : List Char :=
  '\n' :: List.replicate (2 * indent) ' '

/-- Items on lines of their own, one step further in than the brackets around them. -/
def prettyBlock (opening closing : Char) (indent : Nat) (items : List (Nat → List Char)) :
    List Char :=
  if items.isEmpty then [opening, closing]
  else
    opening :: commaSeparated (items.map fun item => newLine (indent + 1) ++ item (indent + 1)) ++
      newLine indent ++ [closing]

def prettyArray (items : List (Nat → List Char)) (indent : Nat) : List Char :=
  prettyBlock '[' ']' indent items

def prettyObject (fields : List (String × (Nat → List Char))) (indent : Nat) : List Char :=
  prettyBlock '{' '}' indent
    (fields.map fun (name, value) indent => writeString name ++ ':' :: ' ' :: value indent)

/-- The UTF-8 bytes of a text. -/
def utf8 (text : List Char) : List UInt8 :=
  text.flatMap String.utf8EncodeChar

theorem length_commaSeparated_ge {width : Nat} {items : List (List Char)}
    (hwidth : ∀ item ∈ items, width ≤ item.length) :
    items.length * (width + 1) ≤ (commaSeparated items).length + 1 := by
  induction items with
  | nil => simp
  | cons item items ih =>
      have hitem := hwidth item (by simp)
      have hrest := ih fun i hi => hwidth i (by simp [hi])
      rcases items with _ | ⟨next, items⟩
      · simpa [commaSeparated] using hitem
      · simp only [commaSeparated, List.length_append, List.length_cons] at hrest ⊢
        rw [Nat.add_mul (items.length + 1) 1]
        omega

theorem length_writeArray_ge {width : Nat} {items : List (List Char)}
    (hwidth : ∀ item ∈ items, width ≤ item.length) :
    items.length * (width + 1) ≤ (writeArray items).length := by
  have hitems := length_commaSeparated_ge hwidth
  simp only [writeArray, List.length_append, List.length_cons, List.length_nil]
  omega

theorem one_le_length_writeNat (n : Nat) : 1 ≤ (writeNat n).length := by
  have hne : Nat.toDigits 10 n ≠ [] := Nat.toDigits_ne_nil
  exact List.length_pos_iff.mpr hne

theorem mem_le_length_commaSeparated {item : List Char} {items : List (List Char)}
    (hitem : item ∈ items) : item.length ≤ (commaSeparated items).length := by
  induction items with
  | nil => simp at hitem
  | cons first items ih =>
      rcases items with _ | ⟨next, items⟩
      · simp only [List.mem_singleton] at hitem
        simp [commaSeparated, hitem]
      · simp only [commaSeparated, List.length_append, List.length_cons] at ih ⊢
        rcases List.mem_cons.mp hitem with rfl | hrest
        · omega
        · have := ih hrest
          omega

theorem length_writeObject_ge (name : String) {value : List Char}
    {fields : List (String × List Char)} (hfield : (name, value) ∈ fields) :
    value.length ≤ (writeObject fields).length := by
  have hmem : writeField (name, value) ∈ fields.map writeField :=
    List.mem_map_of_mem hfield
  have hlength := mem_le_length_commaSeparated hmem
  simp only [writeField, List.length_append, List.length_cons] at hlength
  simp only [writeObject, List.length_append, List.length_cons, List.length_nil]
  omega

theorem length_le_length_utf8 (text : List Char) : text.length ≤ (utf8 text).length := by
  induction text with
  | nil => simp [utf8]
  | cons c text ih =>
      have hc : 1 ≤ (String.utf8EncodeChar c).length := by
        rw [String.length_utf8EncodeChar]
        exact Char.utf8Size_pos c
      simp only [utf8, List.flatMap_cons, List.length_append, List.length_cons] at ih ⊢
      omega

theorem utf8_eq (text : List Char) : utf8 text = (String.ofList text).toUTF8.toList := by
  have hbytes : (String.ofList text).toUTF8 = (text.flatMap String.utf8EncodeChar).toByteArray :=
    String.toByteArray_ofList
  rw [Utf8.toList_eq, hbytes, List.toList_data_toByteArray, utf8]

theorem utf8_injective : Function.Injective utf8 := by
  intro text other heq
  rw [utf8_eq, utf8_eq] at heq
  exact String.ofList_injective (Utf8.toList_injective heq)

def hexValue (digit : Char) : Nat :=
  if digit.toNat < 58 then digit.toNat - 48 else digit.toNat - 87

/-- The character that a literal goes on with. -/
def readChar : List Char → Option (Char × List Char)
  | '\\' :: 'n' :: rest => some ('\n', rest)
  | '\\' :: 'r' :: rest => some ('\r', rest)
  | '\\' :: 't' :: rest => some ('\t', rest)
  | '\\' :: 'b' :: rest => some (Char.ofNat 8, rest)
  | '\\' :: 'f' :: rest => some (Char.ofNat 12, rest)
  | '\\' :: 'u' :: '0' :: '0' :: high :: low :: rest =>
      some (Char.ofNat (16 * hexValue high + hexValue low), rest)
  | '\\' :: c :: rest => some (c, rest)
  | '"' :: _ => none
  | c :: rest => some (c, rest)
  | [] => none

theorem readChar_plain {c : Char} (hquote : c ≠ '"') (hslash : c ≠ '\\') (rest : List Char) :
    readChar (c :: rest) = some (c, rest) := by
  unfold readChar
  split <;> simp_all

theorem hexValue_hexDigit : ∀ n < 32,
    16 * hexValue (hexDigit (n / 16)) + hexValue (hexDigit (n % 16)) = n := by
  decide

theorem readChar_escapeChar (c : Char) (rest : List Char) :
    readChar (escapeChar c ++ rest) = some (c, rest) := by
  have hnat (n : Nat) (h : c.toNat = n) : Char.ofNat n = c := by
    rw [← h, Char.ofNat_toNat]
  unfold escapeChar
  split
  · next h => rw [h]; rfl
  split
  · next h => rw [h]; rfl
  split
  · next h => rw [h]; rfl
  split
  · next h => rw [h]; rfl
  split
  · next h => rw [h]; rfl
  split
  · next h => exact congrArg (fun d => some (d, rest)) (hnat 8 h)
  split
  · next h => exact congrArg (fun d => some (d, rest)) (hnat 12 h)
  split
  · next h =>
      refine congrArg (fun d => some (d, rest)) (hnat _ ?_)
      exact (hexValue_hexDigit c.toNat h).symm
  · next hquote hslash _ _ _ _ _ _ => exact readChar_plain hquote hslash rest

theorem escape_append_inj {text other rest rest' : List Char}
    (h : text.flatMap escapeChar ++ '"' :: rest = other.flatMap escapeChar ++ '"' :: rest') :
    text = other ∧ rest = rest' := by
  induction text generalizing other with
  | nil =>
      cases other with
      | nil => exact ⟨rfl, (List.cons.inj h).2⟩
      | cons c other =>
          have hread := congrArg readChar h
          rw [List.flatMap_cons, List.append_assoc, readChar_escapeChar] at hread
          cases hread
  | cons c text ih =>
      have hread := congrArg readChar h
      rw [List.flatMap_cons, List.append_assoc, readChar_escapeChar] at hread
      cases other with
      | nil => cases hread
      | cons d other =>
          rw [List.flatMap_cons, List.append_assoc, readChar_escapeChar] at hread
          obtain ⟨rfl, htail⟩ := Prod.mk.inj (Option.some.inj hread)
          obtain ⟨rfl, hrest⟩ := ih htail
          exact ⟨rfl, hrest⟩

theorem writeString_append_inj {s s' : String} {rest rest' : List Char}
    (h : writeString s ++ rest = writeString s' ++ rest') : s = s' ∧ rest = rest' := by
  simp only [writeString, List.cons_append, List.append_assoc,
    List.cons.injEq, true_and] at h
  obtain ⟨hs, hrest⟩ := escape_append_inj h
  exact ⟨String.toList_injective hs, hrest⟩

end Failsafe.Lib.JsonText
