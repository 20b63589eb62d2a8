import Failsafe.Lib.Paths
import Mathlib.Data.List.TakeWhile

/-!
How the prefix of a Windows path is spelled, and that it is parsed again from its bytes when
something is written after it.
-/

namespace Failsafe.Lib.Paths

variable {platform : Platform} {path : PathBuf}

/-- How a prefix is spelled. -/
inductive Spelled : List UInt8 → Prefix → Prop where
  | disk {drive : UInt8} (hdrive : isAsciiAlphabetic drive) :
      Spelled [drive, colon] (.disk (toAsciiUppercase drive))
  | unc {first second third : UInt8} {server share : List UInt8}
      (hfirst : isSep .windows first) (hsecond : isSep .windows second)
      (hthird : isSep .windows third)
      (hserver : ∀ byte ∈ server, isSep .windows byte = false)
      (hshare : ∀ byte ∈ share, isSep .windows byte = false)
      (hne : server ≠ [] ∧ share ≠ []) (hdevice : server ≠ [dot])
      (hverbatim : server = [question] → slash ∈ [first, second, third]) :
      Spelled (first :: second :: server ++ third :: share) (.unc server share)
  | deviceNs {first second third : UInt8} {device : List UInt8}
      (hfirst : isSep .windows first) (hsecond : isSep .windows second)
      (hthird : isSep .windows third)
      (hdevice : ∀ byte ∈ device, isSep .windows byte = false) :
      Spelled (first :: second :: dot :: third :: device) (.deviceNs device)
  | verbatim {name : List UInt8} (hname : backslash ∉ name)
      (hunc : stripPattern [85, 78, 67, backslash] (name ++ [backslash]) = none)
      (hdisk : parseDriveExact (name ++ [backslash]) = none) :
      Spelled (backslash :: backslash :: question :: backslash :: name) (.verbatim name)
  | verbatimDisk {drive : UInt8} (hdrive : isAsciiAlphabetic drive) :
      Spelled [backslash, backslash, question, backslash, drive, colon]
        (.verbatimDisk (toAsciiUppercase drive))
  | verbatimUnc {third : UInt8} {server share : List UInt8} (hthird : isSep .windows third)
      (hserver : backslash ∉ server) (hshare : backslash ∉ share) (hne : share ≠ []) :
      Spelled (backslash :: backslash :: question :: backslash :: 85 :: 78 :: 67 :: third ::
        server ++ backslash :: share) (.verbatimUnc server share)

section Parsing

variable {sep : UInt8 → Bool} {comp pattern rest : List UInt8} {byte first : UInt8}

theorem nextComponent_append (rest : List UInt8) (hcomp : ∀ byte ∈ comp, sep byte = false)
    (hsep : sep byte) :
    nextComponent sep (comp ++ byte :: rest) = (comp, rest) := by
  have htake : ∀ other ∈ comp, (!sep other) = true := fun other hother => by
    simp [hcomp other hother]
  simp [nextComponent, List.takeWhile_append_of_pos htake, List.dropWhile_append_of_pos htake,
    hsep]

theorem nextComponent_free (sep : UInt8 → Bool) (path : List UInt8) :
    ∀ byte ∈ (nextComponent sep path).1, sep byte = false := fun byte hbyte => by
  simpa using List.mem_takeWhile_imp hbyte

theorem nextComponent_split (sep : UInt8 → Bool) (path : List UInt8) :
    (path = (nextComponent sep path).1 ∧ (nextComponent sep path).2 = []) ∨
      ∃ byte, sep byte = true ∧
        path = (nextComponent sep path).1 ++ byte :: (nextComponent sep path).2 := by
  have hpath := List.takeWhile_append_dropWhile (p := (!sep ·)) (l := path)
  cases hdrop : path.dropWhile (!sep ·) with
  | nil =>
      left
      rw [hdrop, List.append_nil] at hpath
      exact ⟨hpath.symm, by simp [nextComponent, hdrop]⟩
  | cons byte rest =>
      right
      refine ⟨byte, ?_, ?_⟩
      · simpa [hdrop] using List.head_dropWhile_not (!sep ·) (l := path) (by simp [hdrop])
      · rw [hdrop] at hpath
        simpa [nextComponent, hdrop] using hpath.symm

theorem stripPattern_backslash :
    stripPattern (backslash :: pattern) (byte :: rest) =
      if isSep .windows byte then stripPattern pattern rest else none := by
  by_cases h : byte = slash <;> simp [stripPattern, isSep, h]

theorem stripPattern_plain (hsep : isSep .windows first = false) :
    stripPattern (first :: pattern) (byte :: rest) =
      if byte = first then stripPattern pattern rest else none := by
  have hne : first ≠ slash ∧ first ≠ backslash := by simpa [isSep] using hsep
  by_cases h : byte = slash
  · simp [stripPattern, h, hne.1.symm, hne.2.symm]
  · simp [stripPattern, h]

theorem stripPattern_backslash_some :
    stripPattern (backslash :: pattern) path = some rest ↔
      ∃ byte after, path = byte :: after ∧ isSep .windows byte ∧
        stripPattern pattern after = some rest := by
  cases path with
  | nil => simp [stripPattern]
  | cons byte after =>
      rw [stripPattern_backslash]
      constructor
      · intro h
        by_cases hsep : isSep .windows byte
        · exact ⟨byte, after, rfl, hsep, by rwa [if_pos hsep] at h⟩
        · rw [if_neg hsep] at h
          cases h
      · rintro ⟨byte, after, ⟨⟩, hsep, h⟩
        rwa [if_pos hsep]

theorem stripPattern_plain_some (hsep : isSep .windows first = false) :
    stripPattern (first :: pattern) path = some rest ↔
      ∃ after, path = first :: after ∧ stripPattern pattern after = some rest := by
  cases path with
  | nil => simp [stripPattern]
  | cons byte after =>
      rw [stripPattern_plain hsep]
      constructor
      · intro h
        by_cases hbyte : byte = first
        · exact ⟨after, by rw [hbyte], by rwa [if_pos hbyte] at h⟩
        · rw [if_neg hbyte] at h
          cases h
      · rintro ⟨after, ⟨⟩, h⟩
        rwa [if_pos rfl]

theorem stripPattern_seps {second : UInt8} (hfirst : isSep .windows first)
    (hsecond : isSep .windows second) :
    stripPattern [backslash, backslash] (first :: second :: rest) = some rest := by
  rw [stripPattern_backslash, if_pos hfirst, stripPattern_backslash, if_pos hsecond,
    stripPattern]

theorem stripPattern_component (rest : List UInt8) (hfirst : isSep .windows first = false)
    (hcomp : ∀ byte ∈ comp, isSep .windows byte = false) (hbyte : isSep .windows byte) :
    stripPattern [first, backslash] (comp ++ byte :: rest) =
      if comp = [first] then some rest else none := by
  rcases comp with _ | ⟨head, _ | ⟨next, comp⟩⟩
  · have hne : byte ≠ first := by
      rintro rfl
      rw [hfirst] at hbyte
      cases hbyte
    simp [stripPattern_plain hfirst, hne]
  · rw [List.singleton_append, stripPattern_plain hfirst, stripPattern_backslash, if_pos hbyte,
      stripPattern]
    simp
  · have hnext : isSep .windows next = false := hcomp next (by simp)
    rw [List.cons_append, List.cons_append, stripPattern_plain hfirst, stripPattern_backslash,
      hnext]
    simp

theorem isSep_of_alphabetic (h : isAsciiAlphabetic byte) : isSep .windows byte = false := by
  by_contra hsep
  have hcases : byte = slash ∨ byte = backslash := by
    simpa [isSep, or_iff_not_imp_left] using hsep
  rcases hcases with rfl | rfl <;> exact absurd h (by decide)

end Parsing

theorem Spelled.length {raw : List UInt8} {pre : Prefix} (h : Spelled raw pre) :
    raw.length = pre.len := by
  cases h with
  | disk hdrive => rfl
  | unc hfirst hsecond hthird hserver hshare hne hdevice hverbatim =>
      simp [Prefix.len, Prefix.shareLen, hne.2]
      omega
  | deviceNs hfirst hsecond hthird hdevice =>
      simp [Prefix.len]
      omega
  | verbatim hname hunc hdisk =>
      simp [Prefix.len]
      omega
  | verbatimDisk hdrive => rfl
  | verbatimUnc hthird hserver hshare hne =>
      simp [Prefix.len, Prefix.shareLen, hne]
      omega

/-- What may follow a prefix for it to stay what it is. -/
def Follows (pre : Prefix) (tail : List UInt8) : Prop :=
  pre.isDrive ∨ ∃ byte rest, tail = byte :: rest ∧ isSep .windows byte ∧
    (pre.isVerbatim → byte = backslash)

theorem Follows.sep {pre : Prefix} {tail : List UInt8} (h : Follows pre tail)
    (hdrive : pre.isDrive = false) :
    ∃ byte rest, tail = byte :: rest ∧ isSep .windows byte ∧
      (pre.isVerbatim → byte = backslash) := by
  rcases h with h | h
  · rw [hdrive] at h
    cases h
  · exact h

theorem unc_ended_iff {name rest : List UInt8} :
    stripPattern [85, 78, 67, backslash] (name ++ backslash :: rest) = none ↔
      stripPattern [85, 78, 67, backslash] (name ++ [backslash]) = none := by
  rcases name with _ | ⟨first, _ | ⟨second, _ | ⟨third, _ | ⟨fourth, name⟩⟩⟩⟩
  · exact ⟨fun _ => rfl, fun _ => rfl⟩
  · have hbyte : backslash ≠ 78 := by decide
    simp [stripPattern, hbyte]
  · have hbyte : backslash ≠ 67 := by decide
    simp [stripPattern, hbyte]
  · simp [stripPattern]
  · simp [stripPattern]

theorem drive_ended_iff {name rest : List UInt8} :
    parseDriveExact (name ++ backslash :: rest) = none ↔
      parseDriveExact (name ++ [backslash]) = none := by
  rcases name with _ | ⟨first, _ | ⟨second, _ | ⟨third, name⟩⟩⟩
  · rcases rest with _ | ⟨next, rest⟩
    · rfl
    · have hdrive : isAsciiAlphabetic backslash = false := by decide
      simp [parseDriveExact, parseDrive, hdrive]
  · have hcolon : backslash ≠ colon := by decide
    simp [parseDriveExact, parseDrive, hcolon]
  · simp [parseDriveExact, parseDrive]
  · simp [parseDriveExact, parseDrive]

theorem free_of_not_mem {name : List UInt8} (h : backslash ∉ name) :
    ∀ byte ∈ name, isVerbatimSep byte = false := fun byte hbyte => by
  simpa [isVerbatimSep] using ne_of_mem_of_not_mem hbyte h

theorem parsePrefix_verbatim (parser : List UInt8) :
    parsePrefix .windows (backslash :: backslash :: question :: backslash :: parser) =
      some (parseVerbatim parser) := by
  have hslash : slash ∉ [backslash, backslash, question, backslash] := by decide
  change (if slash ∉ [backslash, backslash, question, backslash] then
    some (parseVerbatim parser) else parseNetwork (question :: backslash :: parser)) = _
  rw [if_pos hslash]

theorem parsePrefix_network {first second : UInt8} (parser : List UInt8)
    (hfirst : isSep .windows first) (hsecond : isSep .windows second)
    (h : ∀ rest, stripPattern [question, backslash] parser = some rest →
      slash ∈ (first :: second :: parser).take 4) :
    parsePrefix .windows (first :: second :: parser) = parseNetwork parser := by
  simp only [parsePrefix, stripPattern_seps hfirst hsecond]
  cases hstrip : stripPattern [question, backslash] parser with
  | some rest => exact if_neg (not_not.mpr (h rest hstrip))
  | none => rfl

theorem Spelled.parse {raw : List UInt8} {pre : Prefix} (h : Spelled raw pre)
    (tail : List UInt8) (hfollows : Follows pre tail) :
    parsePrefix .windows (raw ++ tail) = some pre := by
  cases h with
  | disk hdrive =>
      have hstrip : ∀ rest, stripPattern [backslash, backslash] (_ :: rest) = none :=
        fun rest => stripPattern_backslash.trans (by rw [isSep_of_alphabetic hdrive]; rfl)
      simp [parsePrefix, hstrip, parseDrive, hdrive]
  | @unc first second third server share hfirst hsecond hthird hserver hshare hne hdevice
      hverbatim =>
      obtain ⟨byte, rest, rfl, hbyte, -⟩ := hfollows.sep rfl
      have hnext := nextComponent_append (share ++ byte :: rest) hserver hthird
      have hshare' := nextComponent_append rest hshare hbyte
      have hquestion := stripPattern_component (share ++ byte :: rest)
        (show isSep .windows question = false by rfl) hserver hthird
      have hdot := stripPattern_component (share ++ byte :: rest)
        (show isSep .windows dot = false by rfl) hserver hthird
      rw [if_neg hdevice] at hdot
      have hparse := parsePrefix_network (server ++ third :: (share ++ byte :: rest))
        hfirst hsecond (by
          intro after hafter
          by_cases hserver' : server = [question]
          · have hslash : slash = first ∨ slash = second ∨ slash = third := by
              simpa using hverbatim hserver'
            rcases hslash with rfl | rfl | rfl <;> simp [hserver']
          · rw [hquestion, if_neg hserver'] at hafter
            cases hafter)
      simpa [parseNetwork, hdot, hnext, hshare', hne] using hparse
  | @deviceNs first second third device hfirst hsecond hthird hdevice =>
      obtain ⟨byte, rest, rfl, hbyte, -⟩ := hfollows.sep rfl
      have hnext := nextComponent_append rest hdevice hbyte
      have hdot : stripPattern [dot, backslash] (dot :: third :: (device ++ byte :: rest)) =
          some (device ++ byte :: rest) := by
        rw [stripPattern_plain rfl, if_pos rfl, stripPattern_backslash, if_pos hthird,
          stripPattern]
      have hparse := parsePrefix_network (dot :: third :: (device ++ byte :: rest))
        hfirst hsecond (fun after hafter => by cases hafter)
      simpa [parseNetwork, hdot, hnext] using hparse
  | @verbatim name hname hunc hdisk =>
      obtain ⟨byte, rest, rfl, -, hbyte⟩ := hfollows.sep rfl
      obtain rfl := hbyte rfl
      have hnext := nextComponent_append rest (free_of_not_mem hname)
        (show isVerbatimSep backslash by rfl)
      simpa [parseVerbatim, unc_ended_iff.mpr hunc, drive_ended_iff.mpr hdisk, hnext]
        using parsePrefix_verbatim (name ++ backslash :: rest)
  | @verbatimDisk drive hdrive =>
      obtain ⟨byte, rest, rfl, -, hbyte⟩ := hfollows.sep rfl
      obtain rfl := hbyte rfl
      have hunc : stripPattern [85, 78, 67, backslash] (drive :: colon :: backslash :: rest) =
          none := by
        rw [stripPattern_plain rfl]
        split <;> rfl
      have hexact : parseDriveExact (drive :: colon :: backslash :: rest) =
          some (toAsciiUppercase drive) := by
        have hsep : isSep .windows backslash := rfl
        simp [parseDriveExact, parseDrive, hdrive, hsep]
      simpa [parseVerbatim, hunc, hexact]
        using parsePrefix_verbatim (drive :: colon :: backslash :: rest)
  | @verbatimUnc third server share hthird hserver hshare hne =>
      obtain ⟨byte, rest, rfl, -, hbyte⟩ := hfollows.sep rfl
      obtain rfl := hbyte rfl
      have hnext := nextComponent_append (share ++ backslash :: rest)
        (free_of_not_mem hserver) (show isVerbatimSep backslash by rfl)
      have hshare' := nextComponent_append rest (free_of_not_mem hshare)
        (show isVerbatimSep backslash by rfl)
      have hunc : stripPattern [85, 78, 67, backslash]
          (85 :: 78 :: 67 :: third :: (server ++ backslash :: (share ++ backslash :: rest))) =
            some (server ++ backslash :: (share ++ backslash :: rest)) := by
        rw [stripPattern_plain rfl, if_pos rfl, stripPattern_plain rfl, if_pos rfl,
          stripPattern_plain rfl, if_pos rfl, stripPattern_backslash, if_pos hthird,
          stripPattern]
      simpa [parseVerbatim, hunc, hnext, hshare'] using parsePrefix_verbatim
        (85 :: 78 :: 67 :: third :: (server ++ backslash :: (share ++ backslash :: rest)))

/-- What stands after the prefix of a settled path. -/
def Continued (raw : List UInt8) (pre : Prefix) (after : List UInt8) : Prop :=
  pre.isDrive ∨ (∃ byte rest, after = byte :: rest ∧ isSep .windows byte) ∨
    (after = [] ∧ pre.isVerbatim = false ∧ raw.getLast?.any (!isSep .windows ·))

theorem getLast_free {sep : UInt8 → Bool} {comp : List UInt8} (before : List UInt8)
    (hne : comp ≠ []) (hcomp : ∀ byte ∈ comp, sep byte = false) :
    (before ++ comp).getLast?.any (!sep ·) := by
  rw [List.getLast?_append, List.getLast?_eq_some_getLast hne]
  simp [hcomp _ (List.getLast_mem hne)]

theorem Spelled.afterPrefix {raw : List UInt8} {pre : Prefix} (h : Spelled raw pre)
    (after : List UInt8)
    (hparse : parsePrefix .windows (raw ++ after) = some pre) :
    afterPrefix .windows (raw ++ after) = after := by
  rw [Paths.afterPrefix, prefixLen, hparse, Option.map_some, Option.getD_some, ← h.length,
    List.drop_left]

theorem isVerbatimSep_isSep {byte : UInt8} (h : isVerbatimSep byte) : isSep .windows byte := by
  obtain rfl : byte = backslash := by simpa [isVerbatimSep] using h
  rfl

theorem not_mem_of_free {name : List UInt8} (h : ∀ byte ∈ name, isVerbatimSep byte = false) :
    backslash ∉ name := fun hmem => by
  cases h backslash hmem

theorem nextComponent_ended {sep : UInt8 → Bool} {path comp rest : List UInt8}
    (h : nextComponent sep path = (comp, rest)) :
    (∀ byte ∈ comp, sep byte = false) ∧
      ((path = comp ∧ rest = []) ∨ ∃ byte, sep byte = true ∧ path = comp ++ byte :: rest) := by
  have hfree := nextComponent_free sep path
  have hsplit := nextComponent_split sep path
  rw [h] at hfree hsplit
  exact ⟨hfree, hsplit⟩

theorem spelled_of_parseVerbatim {parser : List UInt8}
    (hsettled : isSettled .windows
      (backslash :: backslash :: question :: backslash :: parser)) :
    ∃ raw after, backslash :: backslash :: question :: backslash :: parser = raw ++ after ∧
      Spelled raw (parseVerbatim parser) ∧ Continued raw (parseVerbatim parser) after := by
  have hparse := parsePrefix_verbatim parser
  cases hunc : stripPattern [85, 78, 67, backslash] parser with
  | some path =>
      obtain ⟨third, hthird, rfl⟩ : ∃ third, isSep .windows third ∧
          parser = 85 :: 78 :: 67 :: third :: path := by
        rw [stripPattern_plain_some rfl] at hunc
        obtain ⟨_, rfl, hunc⟩ := hunc
        rw [stripPattern_plain_some rfl] at hunc
        obtain ⟨_, rfl, hunc⟩ := hunc
        rw [stripPattern_plain_some rfl] at hunc
        obtain ⟨_, rfl, hunc⟩ := hunc
        rw [stripPattern_backslash_some] at hunc
        obtain ⟨third, after, rfl, hthird, hafter⟩ := hunc
        rw [stripPattern, Option.some.injEq] at hafter
        exact ⟨third, hthird, by rw [hafter]⟩
      cases hserver : nextComponent isVerbatimSep path with
      | mk server rest =>
      cases hshare : nextComponent isVerbatimSep rest with
      | mk share after =>
      have hpre : parseVerbatim (85 :: 78 :: 67 :: third :: path) = .verbatimUnc server share := by
        simp [parseVerbatim, hunc, hserver, hshare]
      rw [hpre] at hparse ⊢
      obtain ⟨hshare_ne, hafter⟩ : share ≠ [] ∧ afterPrefix .windows _ ≠ [] := by
        simpa [isSettled, hparse] using hsettled
      obtain ⟨hserver_free, ⟨-, rfl⟩ | ⟨byte, hbyte, rfl⟩⟩ := nextComponent_ended hserver
      · simp [nextComponent] at hshare
        exact absurd hshare.1 hshare_ne
      obtain ⟨hshare_free, hrest⟩ := nextComponent_ended hshare
      have hspelled : Spelled _ (.verbatimUnc server share) := .verbatimUnc hthird
        (not_mem_of_free hserver_free) (not_mem_of_free hshare_free) hshare_ne
      obtain rfl : byte = backslash := by simpa [isVerbatimSep] using hbyte
      obtain ⟨rfl, rfl⟩ | ⟨byte, hbyte, rfl⟩ := hrest
      · exfalso
        apply hafter
        have := hspelled.afterPrefix [] (by simpa using hparse)
        simpa using this
      · exact ⟨_, byte :: after, by simp, hspelled,
          .inr (.inl ⟨byte, after, rfl, isVerbatimSep_isSep hbyte⟩)⟩
  | none =>
      cases hdrive : parseDriveExact parser with
      | some drive =>
          have hpre : parseVerbatim parser = .verbatimDisk drive := by
            simp [parseVerbatim, hunc, hdrive]
          rw [hpre] at hparse ⊢
          have hafter : afterPrefix .windows
              (backslash :: backslash :: question :: backslash :: parser) ≠ [] := by
            simpa [isSettled, hparse] using hsettled
          unfold parseDriveExact at hdrive
          split at hdrive
          · next hexact =>
              rcases parser with _ | ⟨first, _ | ⟨second, after⟩⟩
              · cases hdrive
              · cases hdrive
              · obtain ⟨⟨hfirst, rfl⟩, rfl⟩ : (isAsciiAlphabetic first = true ∧
                    second = colon) ∧ toAsciiUppercase first = drive := by
                  simpa [parseDrive] using hdrive
                have hspelled := Spelled.verbatimDisk hfirst
                refine ⟨_, after, rfl, hspelled, .inr (.inl ?_)⟩
                rcases after with _ | ⟨byte, rest⟩
                · exact absurd (hspelled.afterPrefix [] hparse) hafter
                · exact ⟨byte, rest, rfl, by simpa using hexact⟩
          · cases hdrive
      | none =>
          cases hname : nextComponent isVerbatimSep parser with
          | mk name rest =>
          have hpre : parseVerbatim parser = .verbatim name := by
            simp [parseVerbatim, hunc, hdrive, hname]
          rw [hpre] at hparse ⊢
          have hafter : afterPrefix .windows
              (backslash :: backslash :: question :: backslash :: parser) ≠ [] := by
            simpa [isSettled, hparse] using hsettled
          obtain ⟨hfree, ⟨rfl, -⟩ | ⟨byte, hbyte, rfl⟩⟩ := nextComponent_ended hname
          · refine absurd ?_ hafter
            rw [afterPrefix, prefixLen, hparse]
            exact List.drop_eq_nil_of_le (by simp [Prefix.len]; omega)
          · obtain rfl : byte = backslash := by simpa [isVerbatimSep] using hbyte
            have hspelled : Spelled _ (.verbatim name) := .verbatim (not_mem_of_free hfree)
              (unc_ended_iff.mp hunc) (drive_ended_iff.mp hdrive)
            exact ⟨_, backslash :: rest, rfl, hspelled, .inr (.inl ⟨backslash, rest, rfl, rfl⟩)⟩

theorem spelled_of_parseNetwork {first second : UInt8} {parser : List UInt8} {pre : Prefix}
    (hfirst : isSep .windows first) (hsecond : isSep .windows second)
    (hquestion : ∀ rest, stripPattern [question, backslash] parser = some rest →
      slash ∈ (first :: second :: parser).take 4)
    (h : parseNetwork parser = some pre)
    (hsettled : isSettled .windows (first :: second :: parser)) :
    ∃ raw after, first :: second :: parser = raw ++ after ∧
      Spelled raw pre ∧ Continued raw pre after := by
  have hparse := (parsePrefix_network parser hfirst hsecond hquestion).trans h
  unfold parseNetwork at h
  cases hdot : stripPattern [dot, backslash] parser with
  | some path =>
      obtain ⟨third, hthird, rfl⟩ : ∃ third, isSep .windows third ∧
          parser = dot :: third :: path := by
        rw [stripPattern_plain_some rfl] at hdot
        obtain ⟨_, rfl, hdot⟩ := hdot
        rw [stripPattern_backslash_some] at hdot
        obtain ⟨third, after, rfl, hthird, hafter⟩ := hdot
        rw [stripPattern, Option.some.injEq] at hafter
        exact ⟨third, hthird, by rw [hafter]⟩
      cases hdevice : nextComponent (isSep .windows) path with
      | mk device rest =>
      simp only [hdot, hdevice, Option.some.injEq] at h
      subst h
      obtain ⟨hfree, ⟨rfl, -⟩ | ⟨byte, hbyte, rfl⟩⟩ := nextComponent_ended hdevice
      · have hspelled := Spelled.deviceNs hfirst hsecond hthird hfree
        refine ⟨_, [], (List.append_nil _).symm, hspelled, .inr (.inr ⟨rfl, rfl, ?_⟩)⟩
        have hne : path ≠ [] := by
          have hafter := hspelled.afterPrefix [] (by simpa using hparse)
          rw [List.append_nil] at hafter
          simpa [isSettled, hparse, hafter] using hsettled
        exact getLast_free [first, second, dot, third] hne hfree
      · exact ⟨_, byte :: rest, rfl, .deviceNs hfirst hsecond hthird hfree,
          .inr (.inl ⟨byte, rest, rfl, hbyte⟩)⟩
  | none =>
      cases hserver : nextComponent (isSep .windows) parser with
      | mk server rest =>
      cases hshare : nextComponent (isSep .windows) rest with
      | mk share after =>
      simp only [hdot, hserver, hshare, Option.ite_none_right_eq_some, Option.some.injEq] at h
      obtain ⟨hne, rfl⟩ := h
      obtain ⟨hserver_free, ⟨-, rfl⟩ | ⟨third, hthird, rfl⟩⟩ := nextComponent_ended hserver
      · simp [nextComponent] at hshare
        exact absurd hshare.1 hne.2
      obtain ⟨hshare_free, hrest⟩ := nextComponent_ended hshare
      have hspelled : Spelled _ (.unc server share) := .unc hfirst hsecond hthird hserver_free
        hshare_free hne (by
          intro heq
          rw [stripPattern_component _ rfl hserver_free hthird, if_pos heq] at hdot
          cases hdot) (by
          intro heq
          have hslash := hquestion rest (by
            rw [stripPattern_component _ rfl hserver_free hthird, if_pos heq])
          have hne : slash ≠ question := by decide
          simpa [heq, hne] using hslash)
      obtain ⟨rfl, rfl⟩ | ⟨byte, hbyte, rfl⟩ := hrest
      · have hlast := getLast_free (first :: second :: server ++ [third]) hne.2
          hshare_free
        rw [List.append_assoc, List.singleton_append] at hlast
        exact ⟨_, [], by simp, hspelled, .inr (.inr ⟨rfl, rfl, hlast⟩)⟩
      · exact ⟨_, byte :: after, by simp, hspelled, .inr (.inl ⟨byte, after, rfl, hbyte⟩)⟩

/-- A settled path is its prefix as it is spelled, and then what goes on after it. -/
theorem spelled_of_parse {path : PathBuf} {pre : Prefix}
    (h : parsePrefix .windows path = some pre) (hsettled : isSettled .windows path) :
    ∃ raw after, path = raw ++ after ∧ Spelled raw pre ∧ Continued raw pre after := by
  cases hstrip : stripPattern [backslash, backslash] path with
  | none =>
      obtain ⟨drive, hdrive, rfl⟩ : ∃ drive, parseDrive path = some drive ∧ .disk drive = pre := by
        simpa [parsePrefix, hstrip] using h
      rcases path with _ | ⟨first, _ | ⟨second, after⟩⟩
      · cases hdrive
      · cases hdrive
      · obtain ⟨⟨hfirst, rfl⟩, rfl⟩ : (isAsciiAlphabetic first = true ∧ second = colon) ∧
            toAsciiUppercase first = drive := by
          simpa [parseDrive] using hdrive
        exact ⟨_, after, rfl, .disk hfirst, .inl rfl⟩
  | some parser =>
      obtain ⟨first, second, hfirst, hsecond, rfl⟩ : ∃ first second, isSep .windows first ∧
          isSep .windows second ∧ path = first :: second :: parser := by
        rw [stripPattern_backslash_some] at hstrip
        obtain ⟨first, _, rfl, hfirst, hstrip⟩ := hstrip
        rw [stripPattern_backslash_some] at hstrip
        obtain ⟨second, _, rfl, hsecond, hstrip⟩ := hstrip
        rw [stripPattern, Option.some.injEq] at hstrip
        exact ⟨first, second, hfirst, hsecond, by rw [hstrip]⟩
      by_cases hquestion : ∀ rest, stripPattern [question, backslash] parser = some rest →
        slash ∈ (first :: second :: parser).take 4
      · rw [parsePrefix_network parser hfirst hsecond hquestion] at h
        exact spelled_of_parseNetwork hfirst hsecond hquestion h hsettled
      · obtain ⟨rest, hrest⟩ := not_forall.mp hquestion
        obtain ⟨hpair, hslash⟩ := Classical.not_imp.mp hrest
        rw [stripPattern_plain_some rfl] at hpair
        obtain ⟨_, rfl, hpair⟩ := hpair
        rw [stripPattern_backslash_some] at hpair
        obtain ⟨third, _, rfl, hthird, hpair⟩ := hpair
        have hback : ∀ {byte}, isSep .windows byte → byte ≠ slash → byte = backslash :=
          fun {byte} hsep hne => by simpa [isSep, hne] using hsep
        obtain ⟨hne, hne', -, hne''⟩ : first ≠ slash ∧ second ≠ slash ∧ question ≠ slash ∧
            third ≠ slash := by
          simpa [eq_comm] using hslash
        obtain rfl := hback hfirst hne
        obtain rfl := hback hsecond hne'
        obtain rfl := hback hthird hne''
        rw [parsePrefix_verbatim, Option.some.injEq] at h
        subst h
        exact spelled_of_parseVerbatim hsettled

end Failsafe.Lib.Paths
