import Failsafe.Core.Text
import Failsafe.Core.Uuid
import Failsafe.Lib.Fallible
import Failsafe.Lib.JsonText
import Failsafe.Lib.Paths

/-!
The paths in a text of the clipboard (`failsafe-clipboard/src/io/linux_files.rs`).
-/

namespace Failsafe.Clipboard

open Failsafe.Core Failsafe.Lib Failsafe.Lib.JsonText Failsafe.Lib.Paths

def asciiByte (ch : Char) : UInt8 := UInt8.ofNat ch.toNat

/-- `percent_encoding::percent_decode`: a percent sign with two hexadecimal digits stands for a
byte, and other bytes for themselves. -/
structure PercentDecoder where
  decode : List UInt8 → List UInt8
  decode_nil : decode [] = []
  decode_plain : ∀ byte rest, byte ≠ asciiByte '%' → decode (byte :: rest) = byte :: decode rest
  decode_escape : ∀ high low highValue lowValue rest, Core.hexValue high = some highValue →
    Core.hexValue low = some lowValue →
    decode (asciiByte '%' :: asciiByte high :: asciiByte low :: rest) =
      UInt8.ofNat (16 * highValue + lowValue) :: decode rest

/-- The lines of a text with their ends. -/
def splitInclusive : List Char → List (List Char)
  | [] => []
  | ch :: rest =>
      if ch = '\n' then [ch] :: splitInclusive rest
      else match splitInclusive rest with
        | [] => [[ch]]
        | line :: lines => (ch :: line) :: lines

/-- A line without its end. -/
def stripLineEnd (line : List Char) : List Char :=
  if line.getLast? = some '\n' then
    let line := line.dropLast
    if line.getLast? = some '\r' then line.dropLast else line
  else line

/-- `str::lines` -/
def lines (text : List Char) : List (List Char) :=
  (splitInclusive text).map stripLineEnd

def filePrefix : List Char := "file://".toList

section Parser

variable (decoder : PercentDecoder)

/-- The path of a line. -/
def linePath (line : List Char) : Option PathBuf :=
  match stripPrefix line with
  | some uri => (Utf8.ofBytes (decoder.decode (utf8 uri))).map fun decoded => decoded.toUTF8.toList
  | none => if line.head? = some '/' then some (utf8 line) else none
where
  stripPrefix (line : List Char) : Option (List Char) :=
    if filePrefix.isPrefixOf line then some (line.drop filePrefix.length) else none

/-- The lines that are left of a text: those with something on them, without the first one if
it is a keyword. -/
def remainingLines (text : List Char) : List (List Char) :=
  let lines := ((lines text).map trim).filter fun line => line ≠ []
  if lines.head? = some "copy".toList ∨ lines.head? = some "cut".toList then lines.tail else lines

def parseFilePathsFromClipboardText (text : List Char) : List PathBuf :=
  ((remainingLines text).mapM (linePath decoder)).getD []

end Parser

/-- The characters that stand for themselves in a URI. -/
def isPlain (ch : Char) : Bool :=
  ch.isAlphanum || ['-', '.', '_', '~', '/'].contains ch

/-- Bytes in percent-encoding. -/
inductive Encodes : List UInt8 → List Char → Prop where
  | nil : Encodes [] []
  | plain {ch : Char} {bytes : List UInt8} {text : List Char} :
      isPlain ch = true → Encodes bytes text → Encodes (asciiByte ch :: bytes) (ch :: text)
  | escaped {byte : UInt8} {high low : Char} {highValue lowValue : Nat} {bytes : List UInt8}
      {text : List Char} :
      Core.hexValue high = some highValue → Core.hexValue low = some lowValue →
      byte = UInt8.ofNat (16 * highValue + lowValue) →
      (∀ ch, isPlain ch = true → byte ≠ asciiByte ch) → Encodes bytes text →
      Encodes (byte :: bytes) ('%' :: high :: low :: text)

/-- An absolute path as a URI. -/
def IsFileUri (path : List Char) (line : List Char) : Prop :=
  path.head? = some '/' ∧ '\x00' ∉ path ∧
    ∃ encoded, line = filePrefix ++ encoded ∧ Encodes (utf8 path) encoded

/-- Paths in a text: one URI on each line that is not blank, after a keyword if there is one. -/
structure Written (paths : List (List Char)) (text : List Char) : Prop where
  nonempty : paths ≠ []
  laidOut : ∃ (ended : List (List Char × List Char)) (last : List Char)
      (header uris : List (List Char)),
    text = (ended.flatMap fun line => line.1 ++ line.2) ++ last ∧
    (∀ line ∈ ended, line.2 = ['\n'] ∨ line.2 = ['\r', '\n']) ∧
    (∀ line ∈ ended.map Prod.fst ++ [last], '\n' ∉ line) ∧
    (header = [] ∨ header = ["copy".toList] ∨ header = ["cut".toList]) ∧
    List.Forall₂ IsFileUri paths uris ∧
    ((ended.map Prod.fst ++ [last]).filter fun line => ¬line.all isWhitespace) = header ++ uris

/-- Either no files, or one absolute path for each line that is left, in their order. -/
def Exact (decoder : PercentDecoder) (text : List Char) : Prop :=
  parseFilePathsFromClipboardText decoder text = [] ∨
    List.Forall₂ (fun line path => linePath decoder line = some path ∧ isAbsolute .unix path = true)
      (remainingLines text) (parseFilePathsFromClipboardText decoder text)

/-- What a text is to become: the paths that are written in it, no files if a line has another
form, and otherwise one absolute path for each line. -/
structure ParsesExactly (decoder : PercentDecoder) (text : List Char) : Prop where
  written : ∀ paths, Written paths text →
    parseFilePathsFromClipboardText decoder text = paths.map utf8
  rejected : ∀ line ∈ remainingLines text, ¬filePrefix <+: line → line.head? ≠ some '/' →
    parseFilePathsFromClipboardText decoder text = []
  exact : Exact decoder text

/-- Some line is turned down, or each URI has a path that begins with a slash. -/
def AbsoluteUris (decoder : PercentDecoder) (text : List Char) : Prop :=
  (∃ line ∈ remainingLines text, linePath decoder line = none) ∨
    ∀ uri, filePrefix ++ uri ∈ remainingLines text →
      (decoder.decode (utf8 uri)).head? = some slash

section Lines

theorem splitInclusive_line {line rest : List Char} (h : '\n' ∉ line) :
    splitInclusive (line ++ '\n' :: rest) = (line ++ ['\n']) :: splitInclusive rest := by
  induction line with
  | nil => simp [splitInclusive]
  | cons ch line ih =>
      have hch : ch ≠ '\n' := fun heq => h (heq ▸ List.mem_cons_self)
      have hrest := ih fun hmem => h (List.mem_cons_of_mem _ hmem)
      simp only [List.cons_append, splitInclusive, if_neg hch, hrest]

theorem splitInclusive_last {line : List Char} (h : '\n' ∉ line) :
    splitInclusive line = if line = [] then [] else [line] := by
  induction line with
  | nil => rfl
  | cons ch line ih =>
      have hch : ch ≠ '\n' := fun heq => h (heq ▸ List.mem_cons_self)
      rw [splitInclusive, if_neg hch, ih fun hmem => h (List.mem_cons_of_mem _ hmem)]
      cases line <;> simp

theorem trim_eq_nil_iff {text : List Char} : trim text = [] ↔ text.all isWhitespace = true := by
  rw [trim_eq, List.rdropWhile_eq_nil_iff, List.all_eq_true]
  constructor
  · intro h
    have hnil : text.dropWhile isWhitespace = [] := by
      cases hdrop : text.dropWhile isWhitespace with
      | nil => rfl
      | cons ch rest =>
          have hfirst := List.dropWhile_get_zero_not isWhitespace text (by simp [hdrop])
          have hall := h ch (by simp [hdrop])
          simp only [hdrop, List.get_eq_getElem, List.getElem_cons_zero] at hfirst
          exact (hfirst hall).elim
    exact List.dropWhile_eq_nil_iff.mp hnil
  · intro h
    rw [List.dropWhile_eq_nil_iff.mpr h]
    simp

theorem rdropWhile_append {text space : List Char} (h : space.all isWhitespace = true) :
    (text ++ space).rdropWhile isWhitespace = text.rdropWhile isWhitespace := by
  induction space using List.reverseRecOn with
  | nil => rw [List.append_nil]
  | append_singleton space ch ih =>
      rw [List.all_append, Bool.and_eq_true] at h
      rw [← List.append_assoc, List.rdropWhile_concat_pos _ _ _ (by simpa using h.2), ih h.1]

theorem trim_append {text space : List Char} (h : space.all isWhitespace = true) :
    trim (text ++ space) = trim text := by
  by_cases hblank : text.all isWhitespace = true
  · rw [trim_eq_nil_iff.mpr hblank, trim_eq_nil_iff.mpr (by rw [List.all_append, hblank, h]; rfl)]
  · have hne : text.dropWhile isWhitespace ≠ [] := by
      rw [Ne, List.dropWhile_eq_nil_iff, ← List.all_eq_true]
      exact hblank
    rw [trim_eq, List.dropWhile_append, if_neg (by simpa using hne), rdropWhile_append h, trim_eq]

theorem trim_stripLineEnd (line : List Char) : trim (stripLineEnd line) = trim line := by
  have hdrop {text : List Char} {ch : Char} (hlast : text.getLast? = some ch)
      (hch : isWhitespace ch = true) : trim text.dropLast = trim text := by
    have htext := List.dropLast_append_getLast? ch hlast
    have hspace : [ch].all isWhitespace = true := by simpa using hch
    have htrim := @trim_append text.dropLast [ch] hspace
    rw [← htrim, htext]
  unfold stripLineEnd
  split
  · rename_i hend
    dsimp only
    split
    · rename_i hreturn
      rw [hdrop hreturn (by decide), hdrop hend (by decide)]
    · exact hdrop hend (by decide)
  · rfl

theorem trim_solid {text : List Char} (h : ∀ ch ∈ text, isWhitespace ch = false) :
    trim text = text := by
  have hdrop : text.dropWhile isWhitespace = text := by
    cases text with
    | nil => rfl
    | cons ch rest => exact List.dropWhile_cons_of_neg (by simp [h ch])
  rw [trim_eq, hdrop, List.rdropWhile_eq_self_iff]
  intro hne
  simpa using h _ (List.getLast_mem hne)

theorem trimmed_lines {ended : List (List Char × List Char)} {last : List Char}
    (hends : ∀ line ∈ ended, line.2 = ['\n'] ∨ line.2 = ['\r', '\n'])
    (hlines : ∀ line ∈ ended.map Prod.fst ++ [last], '\n' ∉ line) :
    (((lines ((ended.flatMap fun line => line.1 ++ line.2) ++ last)).map trim).filter
        fun line => line ≠ []) =
      ((ended.map Prod.fst ++ [last]).filter fun line => ¬line.all isWhitespace).map trim := by
  have hsolid : ∀ list : List (List Char), (list.map trim).filter (fun line => line ≠ []) =
      (list.filter fun line => ¬line.all isWhitespace).map trim := by
    intro list
    rw [List.filter_map]
    congr 1
    exact List.filter_congr fun line _ => decide_eq_decide.mpr (not_congr trim_eq_nil_iff)
  rw [← hsolid, lines, List.map_map]
  induction ended with
  | nil =>
      rw [List.flatMap_nil, List.nil_append, splitInclusive_last (hlines last (by simp))]
      split
      · rename_i hnil
        subst hnil
        rfl
      · simp [trim_stripLineEnd]
  | cons line ended ih =>
      have hline : '\n' ∉ line.1 := hlines line.1 (by simp)
      have hrest := ih (fun other hmem => hends other (List.mem_cons_of_mem _ hmem))
        fun other hmem => hlines other (by simpa using Or.inr (by simpa using hmem))
      obtain ⟨content, ending⟩ := line
      have hsplit : ∀ rest, splitInclusive (content ++ ending ++ rest) =
          (content ++ ending) :: splitInclusive rest := by
        intro rest
        rcases hends _ List.mem_cons_self with hend | hend <;> obtain rfl := hend
        · rw [List.append_assoc]
          exact splitInclusive_line hline
        · have hreturn : '\n' ∉ content ++ ['\r'] := by simpa using hline
          have hsplit := @splitInclusive_line _ rest hreturn
          simpa using hsplit
      have hspace : ending.all isWhitespace = true := by
        rcases hends _ List.mem_cons_self with hend | hend <;> obtain rfl := hend <;> decide
      rw [List.flatMap_cons, List.append_assoc, hsplit, List.map_cons, List.map_cons,
        List.cons_append, List.map_cons, List.filter_cons, List.filter_cons, hrest]
      simp [trim_stripLineEnd, trim_append hspace]

end Lines

section Uris

variable {decoder : PercentDecoder}

theorem utf8_cons {ch : Char} {text : List Char} (h : ch.toNat < 128) :
    utf8 (ch :: text) = asciiByte ch :: utf8 text := by
  have hsize : ch.utf8Size = 1 := by
    unfold Char.utf8Size
    have hle : ch.val ≤ 127 := by
      rw [UInt32.le_iff_toNat_le]
      exact Nat.le_of_lt_succ h
    exact if_pos hle
  rw [utf8, List.flatMap_cons, String.utf8EncodeChar_eq_singleton hsize]
  rfl

theorem of_ascii {p : Char → Bool} (h : ∀ n : Fin 128, p (Char.ofNat n) = true) {ch : Char}
    (hch : ch.toNat < 128) : p ch = true := by
  have hnat := h ⟨ch.toNat, hch⟩
  rwa [Char.ofNat_toNat] at hnat

theorem isPlain_spec {ch : Char} (h : isPlain ch = true) :
    ch.toNat < 128 ∧ isWhitespace ch = false ∧ ch ≠ '%' := by
  have hascii : ch.toNat < 128 := by
    unfold isPlain at h
    rcases Bool.or_eq_true_iff.mp h with halphanum | hmark
    · delta Char.isAlphanum Char.isAlpha Char.isUpper Char.isLower Char.isDigit at halphanum
      simp only [Bool.or_eq_true, Bool.and_eq_true, decide_eq_true_eq, ge_iff_le,
        UInt32.le_iff_toNat_le] at halphanum
      have hval : ch.val.toNat = ch.toNat := rfl
      simp at halphanum
      omega
    · simp only [List.contains_eq_mem, decide_eq_true_eq, List.mem_cons, List.not_mem_nil,
        or_false] at hmark
      rcases hmark with rfl | rfl | rfl | rfl | rfl <;> decide
  have hspec := of_ascii (p := fun ch => !isPlain ch || !isWhitespace ch && ch != '%')
    (by decide +kernel) hascii
  simp only [h, Bool.not_true, Bool.false_or, Bool.and_eq_true, Bool.not_eq_true',
    bne_iff_ne, ne_eq] at hspec
  exact ⟨hascii, hspec⟩

theorem hexValue_spec {ch : Char} {value : Nat} (h : Core.hexValue ch = some value) :
    ch.toNat < 128 ∧ isWhitespace ch = false := by
  have hascii : ch.toNat < 128 := by
    have hle (last : Char) (hlast : last.toNat < 128) (hch : ch ≤ last) : ch.toNat < 128 :=
      Nat.lt_of_le_of_lt (UInt32.le_iff_toNat_le.mp hch) hlast
    unfold Core.hexValue at h
    split at h
    · rename_i hdigit
      exact hle '9' (by decide) hdigit.2
    · split at h
      · rename_i hlower
        exact hle 'f' (by decide) hlower.2
      · split at h
        · rename_i hupper
          exact hle 'F' (by decide) hupper.2
        · cases h
  have hspec := of_ascii (p := fun ch => (Core.hexValue ch).isNone || !isWhitespace ch)
    (by decide +kernel) hascii
  simp only [h, Option.isNone_some, Bool.false_or, Bool.not_eq_true'] at hspec
  exact ⟨hascii, hspec⟩

theorem Encodes.solid {bytes : List UInt8} {text : List Char} (h : Encodes bytes text) :
    ∀ ch ∈ text, isWhitespace ch = false := by
  induction h with
  | nil => simp
  | plain hch _ ih =>
      intro ch hmem
      rcases List.mem_cons.mp hmem with rfl | hmem
      · exact (isPlain_spec hch).2.1
      · exact ih ch hmem
  | escaped hhigh hlow _ _ _ ih =>
      intro ch hmem
      simp only [List.mem_cons] at hmem
      rcases hmem with rfl | rfl | rfl | hmem
      · decide
      · exact (hexValue_spec hhigh).2
      · exact (hexValue_spec hlow).2
      · exact ih ch hmem

theorem asciiByte_ne_percent {ch : Char} (h : ch.toNat < 128) (hne : ch ≠ '%') :
    asciiByte ch ≠ asciiByte '%' := by
  intro heq
  have hnat := congrArg UInt8.toNat heq
  unfold asciiByte at hnat
  rw [UInt8.toNat_ofNat', UInt8.toNat_ofNat', Nat.mod_eq_of_lt (by omega)] at hnat
  exact hne (Char.toNat_inj.mp hnat)

theorem Encodes.decode {bytes : List UInt8} {text : List Char} (h : Encodes bytes text) :
    decoder.decode (utf8 text) = bytes := by
  induction h with
  | nil => exact decoder.decode_nil
  | plain hch _ ih =>
      obtain ⟨hascii, -, hne⟩ := isPlain_spec hch
      rw [utf8_cons hascii, decoder.decode_plain _ _ (asciiByte_ne_percent hascii hne), ih]
  | escaped hhigh hlow hbyte _ _ ih =>
      rw [utf8_cons (by decide), utf8_cons (hexValue_spec hhigh).1,
        utf8_cons (hexValue_spec hlow).1, decoder.decode_escape _ _ _ _ _ hhigh hlow, ih, hbyte]

theorem ofBytes_utf8 (text : List Char) : Utf8.ofBytes (utf8 text) = some (String.ofList text) := by
  rw [utf8_eq]
  exact Utf8.ofBytes_toList _

theorem stripPrefix_filePrefix (uri : List Char) :
    linePath.stripPrefix (filePrefix ++ uri) = some uri := by
  simp [linePath.stripPrefix]

theorem IsFileUri.linePath {path line : List Char} (h : IsFileUri path line) :
    linePath decoder line = some (utf8 path) := by
  obtain ⟨-, -, encoded, rfl, hencoded⟩ := h
  unfold Clipboard.linePath
  rw [stripPrefix_filePrefix]
  dsimp only
  rw [hencoded.decode, ofBytes_utf8, Option.map_some, ← utf8_eq]

theorem IsFileUri.solid {path line : List Char} (h : IsFileUri path line) :
    ∀ ch ∈ line, isWhitespace ch = false := by
  obtain ⟨-, -, encoded, rfl, hencoded⟩ := h
  have hfile : (filePrefix.all fun ch => !isWhitespace ch) = true := by decide
  intro ch hmem
  rcases List.mem_append.mp hmem with hmem | hmem
  · simpa using List.all_eq_true.mp hfile ch hmem
  · exact hencoded.solid ch hmem

theorem IsFileUri.not_keyword {path line : List Char} (h : IsFileUri path line) :
    line ≠ "copy".toList ∧ line ≠ "cut".toList := by
  obtain ⟨-, -, encoded, rfl, -⟩ := h
  constructor <;> simp [filePrefix]

theorem Written.remainingLines {paths : List (List Char)} {text : List Char}
    (h : Written paths text) : List.Forall₂ IsFileUri paths (remainingLines text) := by
  obtain ⟨hnonempty, ended, last, header, uris, rfl, hends, hlines, hheader, huris, hcontents⟩ := h
  have huris' : uris.map trim = uris := by
    clear hcontents hnonempty
    induction huris with
    | nil => rfl
    | cons huri _ ih => rw [List.map_cons, ih, trim_solid (IsFileUri.solid huri)]
  unfold Clipboard.remainingLines
  dsimp only
  rw [trimmed_lines hends hlines, hcontents, List.map_append, huris']
  rcases hheader with rfl | rfl | rfl
  · cases huris with
    | nil => exact (hnonempty rfl).elim
    | cons huri hrest =>
        rw [if_neg]
        · exact .cons huri hrest
        · simpa using huri.not_keyword
  · exact huris
  · exact huris

theorem Written.parse {paths : List (List Char)} {text : List Char} (h : Written paths text) :
    parseFilePathsFromClipboardText decoder text = paths.map utf8 := by
  have hpaths : List.Forall₂ (fun line path => linePath decoder line = some path)
      (Clipboard.remainingLines text) (paths.map utf8) := by
    rw [List.forall₂_map_right_iff]
    exact h.remainingLines.flip.imp fun line path huri => IsFileUri.linePath huri
  rw [parseFilePathsFromClipboardText, mapM_eq_some_iff.mpr hpaths]
  rfl

theorem isAbsolute_unix {path : PathBuf} :
    isAbsolute .unix path = true ↔ path.head? = some slash := by
  cases path with
  | nil => decide
  | cons byte rest =>
      simp [isAbsolute, hasRoot, hasPhysicalRoot, afterPrefix, prefixLen, parsePrefix, isSep]

theorem linePath_uri {uri : List Char} {path : PathBuf}
    (h : linePath decoder (filePrefix ++ uri) = some path) : decoder.decode (utf8 uri) = path := by
  unfold Clipboard.linePath at h
  rw [stripPrefix_filePrefix] at h
  obtain ⟨decoded, hdecoded, rfl⟩ := Option.map_eq_some_iff.mp h
  exact (Utf8.ofBytes_eq_some_iff.mp hdecoded).symm

theorem linePath_plain {line : List Char} (h : ¬filePrefix <+: line) :
    linePath decoder line = if line.head? = some '/' then some (utf8 line) else none := by
  have hstrip : linePath.stripPrefix line = none := by
    rw [linePath.stripPrefix, if_neg (by simpa using h)]
  rw [Clipboard.linePath, hstrip]

theorem head_utf8 {line : List Char} (h : line.head? = some '/') :
    (utf8 line).head? = some slash := by
  obtain ⟨rest, rfl⟩ := List.head?_eq_some_iff.mp h
  rw [utf8_cons (by decide)]
  rfl

theorem isAbsolute_iff {line : List Char} {path : PathBuf}
    (h : linePath decoder line = some path) : isAbsolute .unix path = true ↔
      ∀ uri, line = filePrefix ++ uri → (decoder.decode (utf8 uri)).head? = some slash := by
  rw [isAbsolute_unix]
  by_cases hfile : filePrefix <+: line
  · obtain ⟨uri, rfl⟩ := hfile
    rw [← linePath_uri h]
    constructor
    · intro habsolute other heq
      rwa [← List.append_cancel_left heq]
    · exact fun habsolute => habsolute uri rfl
  · rw [linePath_plain hfile] at h
    obtain ⟨hslash, hpath⟩ := Option.ite_none_right_eq_some.mp h
    obtain rfl := Option.some.inj hpath
    refine ⟨fun _ uri heq => (hfile ⟨uri, heq.symm⟩).elim, fun _ => head_utf8 hslash⟩

theorem parse_none {text : List Char}
    (h : ∃ line ∈ remainingLines text, linePath decoder line = none) :
    parseFilePathsFromClipboardText decoder text = [] := by
  obtain ⟨line, hmem, hnone⟩ := h
  unfold parseFilePathsFromClipboardText
  cases hpaths : (Clipboard.remainingLines text).mapM (linePath decoder) with
  | none => rfl
  | some paths =>
      obtain ⟨path, hpath⟩ := mapM_mem hpaths hmem
      rw [hnone] at hpath
      cases hpath

theorem parse_some {text : List Char}
    (h : ¬∃ line ∈ remainingLines text, linePath decoder line = none) :
    List.Forall₂ (fun line path => linePath decoder line = some path) (remainingLines text)
      (parseFilePathsFromClipboardText decoder text) := by
  obtain ⟨paths, hpaths⟩ := mapM_some h
  rw [parseFilePathsFromClipboardText, hpaths]
  exact mapM_eq_some_iff.mp hpaths

theorem all_absolute_iff {list : List (List Char)} {paths : List PathBuf}
    (h : List.Forall₂ (fun line path => linePath decoder line = some path) list paths) :
    List.Forall₂ (fun line path => linePath decoder line = some path ∧
        isAbsolute .unix path = true) list paths ↔
      ∀ uri, filePrefix ++ uri ∈ list → (decoder.decode (utf8 uri)).head? = some slash := by
  induction h with
  | nil => simp
  | cons hline _ ih =>
      rw [List.forall₂_cons, ih, isAbsolute_iff hline]
      constructor
      · rintro ⟨⟨-, hfirst⟩, hrest⟩ uri hmem
        rcases List.mem_cons.mp hmem with heq | hmem
        · exact hfirst uri heq.symm
        · exact hrest uri hmem
      · intro hall
        refine ⟨⟨hline, ?_⟩, fun uri hmem => hall uri (List.mem_cons_of_mem _ hmem)⟩
        rintro uri rfl
        exact hall uri List.mem_cons_self

theorem exact_iff {text : List Char} : Exact decoder text ↔ AbsoluteUris decoder text := by
  by_cases hnone : ∃ line ∈ remainingLines text, linePath decoder line = none
  · exact ⟨fun _ => .inl hnone, fun _ => .inl (parse_none hnone)⟩
  have hpaths := parse_some hnone
  unfold Exact AbsoluteUris
  rw [all_absolute_iff hpaths]
  constructor
  · rintro (hempty | h)
    · rw [hempty, List.forall₂_nil_right_iff] at hpaths
      rw [hpaths]
      simp
    · exact .inr h
  · rintro (h | h)
    · exact (hnone h).elim
    · exact .inr h

/-- A text is parsed exactly if it has a line that is turned down or all paths of its URIs are
absolute. -/
theorem parses_exactly_iff {text : List Char} :
    ParsesExactly decoder text ↔ AbsoluteUris decoder text := by
  rw [← exact_iff]
  constructor
  · exact ParsesExactly.exact
  · intro h
    constructor
    · exact fun paths hwritten => hwritten.parse
    · intro line hmem hfile hslash
      refine parse_none ⟨line, hmem, ?_⟩
      rw [linePath_plain hfile, if_neg hslash]
    · exact h

end Uris

section Samples

/-- The byte that the beginning of some bytes stands for. -/
def escapedByte : List UInt8 → Option UInt8
  | percent :: high :: low :: _ =>
      if percent = asciiByte '%' then do
        let highValue ← Core.hexValue (Char.ofNat high.toNat)
        let lowValue ← Core.hexValue (Char.ofNat low.toNat)
        return UInt8.ofNat (16 * highValue + lowValue)
      else none
  | _ => none

/-- Decode what follows after some bytes that belong to an escaped one. -/
def percentDecodeFrom : Nat → List UInt8 → List UInt8
  | _, [] => []
  | skip + 1, _ :: rest => percentDecodeFrom skip rest
  | 0, byte :: rest =>
      match escapedByte (byte :: rest) with
      | some value => value :: percentDecodeFrom 2 rest
      | none => byte :: percentDecodeFrom 0 rest

theorem char_asciiByte {ch : Char} (h : ch.toNat < 128) :
    Char.ofNat (asciiByte ch).toNat = ch := by
  unfold asciiByte
  rw [UInt8.toNat_ofNat', Nat.mod_eq_of_lt (by omega), Char.ofNat_toNat]

def percentDecoder : PercentDecoder where
  decode := percentDecodeFrom 0
  decode_nil := rfl
  decode_plain byte rest h := by
    have hnone : escapedByte (byte :: rest) = none := by
      unfold escapedByte
      split
      · rename_i heq
        obtain ⟨rfl, -⟩ := List.cons.inj heq
        exact if_neg h
      · rfl
    rw [percentDecodeFrom, hnone]
  decode_escape high low highValue lowValue rest hhigh hlow := by
    have hsome : escapedByte (asciiByte '%' :: asciiByte high :: asciiByte low :: rest) =
        some (UInt8.ofNat (16 * highValue + lowValue)) := by
      rw [escapedByte, if_pos rfl, char_asciiByte (hexValue_spec hhigh).1,
        char_asciiByte (hexValue_spec hlow).1, hhigh, hlow]
      rfl
    rw [percentDecodeFrom, hsome]
    rfl

/-- A relative path comes out of a URI. -/
theorem relative_uri :
    parseFilePathsFromClipboardText percentDecoder "file://notes.txt".toList =
        [utf8 "notes.txt".toList] ∧
      ¬ParsesExactly percentDecoder "file://notes.txt".toList := by
  have hparse : parseFilePathsFromClipboardText percentDecoder "file://notes.txt".toList =
      [utf8 "notes.txt".toList] := by decide +kernel
  refine ⟨hparse, fun h => ?_⟩
  rcases h.exact with hnone | hall
  · rw [hparse] at hnone
    cases hnone
  · rw [hparse] at hall
    have habsolute : isAbsolute .unix (utf8 "notes.txt".toList) = true := by
      cases hall with
      | cons hline _ => exact hline.2
    revert habsolute
    decide

theorem Encodes.prepend {bytes : List UInt8} {text : List Char} (h : Encodes bytes text)
    (front : List Char) (hfront : front.all isPlain = true) :
    Encodes (front.map asciiByte ++ bytes) (front ++ text) := by
  induction front with
  | nil => exact h
  | cons ch front ih =>
      rw [List.all_cons, Bool.and_eq_true] at hfront
      exact .plain hfront.1 (ih hfront.2)

/-- A path with a space, copied in a file manager. -/
theorem copied_path :
    Written ["/home/a b".toList] "copy\r\n\nfile:///home/a%20b\n".toList ∧
      ParsesExactly percentDecoder "copy\r\n\nfile:///home/a%20b\n".toList := by
  have hencoded : Encodes (utf8 "/home/a b".toList) "/home/a%20b".toList := by
    have hlast : Encodes (utf8 "b".toList) "b".toList := @Encodes.plain 'b' _ _ (by decide) .nil
    have hspace : Encodes (utf8 " b".toList) "%20b".toList := by
      refine @Encodes.escaped _ _ _ 2 0 _ _ rfl rfl rfl ?_ hlast
      intro ch hch
      have hspec := of_ascii (p := fun ch => !isPlain ch || 32 != asciiByte ch)
        (by decide +kernel) (isPlain_spec hch).1
      change (32 : UInt8) ≠ asciiByte ch
      rwa [hch, Bool.not_true, Bool.false_or, bne_iff_ne] at hspec
    exact hspace.prepend "/home/a".toList (by decide)
  refine ⟨⟨by simp, [("copy".toList, ['\r', '\n']), ([], ['\n']),
    ("file:///home/a%20b".toList, ['\n'])], [], ["copy".toList], ["file:///home/a%20b".toList],
    by decide, by decide, by decide, by decide, ?_, by decide⟩, ?_⟩
  · exact .cons ⟨by decide, by decide, _, by decide, hencoded⟩ .nil
  · refine parses_exactly_iff.mpr (.inr fun uri hmem => ?_)
    have hline : filePrefix ++ uri ∈ ["file:///home/a%20b".toList] := by
      have hlines : remainingLines "copy\r\n\nfile:///home/a%20b\n".toList =
          ["file:///home/a%20b".toList] := by decide +kernel
      rwa [hlines] at hmem
    obtain rfl : uri = "/home/a%20b".toList :=
      @List.append_cancel_left _ filePrefix _ _ ((List.mem_singleton.mp hline).trans (by decide))
    decide +kernel

end Samples

end Failsafe.Clipboard
