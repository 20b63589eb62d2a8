import Failsafe.Lib.PathPrefix

/-!
Pushing a relative part onto a settled path adds the part's components and changes nothing else.
-/

namespace Failsafe.Lib.Paths

variable {platform : Platform} {path part : PathBuf}

section Segments

variable {sep : UInt8 → Bool} {isVerbatim : Bool} {body more : List UInt8} {byte : UInt8}

@[simp] theorem segments_nil : segments sep isVerbatim [] = [] := by
  simp [segments, List.splitOnP_nil, parseSingleComponent]

theorem segments_append_sep (hsep : sep byte) :
    segments sep isVerbatim (body ++ byte :: more) =
      segments sep isVerbatim body ++ segments sep isVerbatim more := by
  rw [segments, List.splitOnP_append_cons _ _ hsep, List.filterMap_append]
  rfl

theorem segments_append (h : body = [] ∨ ∃ before byte, body = before ++ [byte] ∧ sep byte) :
    segments sep isVerbatim (body ++ more) =
      segments sep isVerbatim body ++ segments sep isVerbatim more := by
  rcases h with rfl | ⟨before, byte, rfl, hsep⟩
  · simp
  · rw [List.append_assoc, List.singleton_append, segments_append_sep hsep,
      segments_append_sep hsep, segments_nil, List.append_nil]

theorem not_sep_of_mem_splitOnP {piece : List UInt8} (hpiece : piece ∈ body.splitOnP sep) :
    ∀ byte ∈ piece, sep byte = false := by
  induction body generalizing piece with
  | nil =>
      rw [List.splitOnP_nil, List.mem_singleton] at hpiece
      simp [hpiece]
  | cons first body ih =>
      rw [List.splitOnP_cons_eq_if_modifyHead] at hpiece
      split at hpiece
      · rcases List.mem_cons.mp hpiece with rfl | hpiece
        · simp
        · exact ih hpiece
      · next hfirst =>
          cases hsplit : body.splitOnP sep with
          | nil => exact absurd hsplit (List.splitOnP_ne_nil _ _)
          | cons head pieces =>
              rw [hsplit] at hpiece ih
              rcases List.mem_cons.mp hpiece with rfl | hpiece
              · intro byte hbyte
                rcases List.mem_cons.mp hbyte with rfl | hbyte
                · simpa using hfirst
                · exact ih List.mem_cons_self byte hbyte
              · exact ih (List.mem_cons_of_mem _ hpiece)

theorem mem_segments {comp : Component} (h : comp ∈ segments sep isVerbatim body) :
    comp = .parentDir ∨ (comp = .curDir ∧ isVerbatim = true) ∨
      ∃ name, comp = .normal name ∧ name ≠ [] ∧ name ≠ [dot] ∧ name ≠ [dot, dot] ∧
        ∀ byte ∈ name, sep byte = false := by
  obtain ⟨piece, hpiece, hcomp⟩ := List.mem_filterMap.mp h
  unfold parseSingleComponent at hcomp
  split at hcomp
  · split at hcomp
    · next hverbatim => exact .inr (.inl ⟨(Option.some.inj hcomp).symm, hverbatim⟩)
    · cases hcomp
  · next hdot =>
      split at hcomp
      · exact .inl (Option.some.inj hcomp).symm
      · next hdots =>
          split at hcomp
          · cases hcomp
          · next hne =>
              refine .inr (.inr ⟨piece, (Option.some.inj hcomp).symm, hne, hdot, hdots,
                not_sep_of_mem_splitOnP hpiece⟩)

end Segments

section Shape

variable {pre : Prefix} {body : List UInt8} {byte : UInt8}

theorem isSepByte_plain (h : prefixVerbatim platform path = false) :
    isSepByte platform path = isSep platform := by
  funext byte
  simp [isSepByte, h]

theorem isSepByte_verbatim (h : prefixVerbatim platform path = true) :
    isSepByte platform path = isVerbatimSep := by
  funext byte
  simp [isSepByte, h]

theorem components_rooted (hafter : afterPrefix platform path = byte :: body)
    (hsep : isSep platform byte) :
    components platform path =
      ((parsePrefix platform path).map .prefixed).toList ++ .rootDir ::
        segments (isSepByte platform path) (prefixVerbatim platform path) body := by
  simp [components, hasPhysicalRoot, hafter, hsep]

theorem components_implicit (hparse : parsePrefix platform path = some pre)
    (hafter : afterPrefix platform path = []) (hdrive : pre.isDrive = false)
    (hverbatim : pre.isVerbatim = false) :
    components platform path = [.prefixed pre, .rootDir] := by
  simp [components, hasPhysicalRoot, hparse, hafter, Prefix.hasImplicitRoot, hdrive, hverbatim]

theorem components_drive {drive : UInt8} (hparse : parsePrefix platform path = some (.disk drive))
    (hhead : (afterPrefix platform path).head?.any (isSep platform) = false) :
    components platform path =
      .prefixed (.disk drive) :: segments (isSep platform) false (afterPrefix platform path) := by
  have hverbatim : prefixVerbatim platform path = false := by
    simp [prefixVerbatim, hparse, Prefix.isVerbatim]
  simp [components, hasPhysicalRoot, hparse, hhead, Prefix.hasImplicitRoot, Prefix.isDrive,
    hverbatim, isSepByte_plain hverbatim]

theorem components_plain (hparse : parsePrefix platform path = none)
    (hhead : path.head?.any (isSep platform) = false) :
    components platform path =
      (if includeCurDir platform path then [.curDir] else []) ++
        segments (isSep platform) false path := by
  have hverbatim : prefixVerbatim platform path = false := by simp [prefixVerbatim, hparse]
  have hafter : afterPrefix platform path = path := by simp [afterPrefix, prefixLen, hparse]
  simp [components, hasPhysicalRoot, hparse, hafter, hhead, hverbatim, isSepByte_plain hverbatim]

end Shape

theorem not_sep_of_relative (h : isRelative platform part) :
    parsePrefix platform part = none ∧ part.head?.any (isSep platform) = false := by
  obtain ⟨hnone, hroot⟩ : parsePrefix platform part = none ∧ hasRoot platform part = false := by
    simpa [isRelative] using h
  refine ⟨hnone, ?_⟩
  simpa [hasRoot, hasPhysicalRoot, afterPrefix, prefixLen, hnone] using hroot

/-- What `push` writes between a path and a relative part. -/
def glue (platform : Platform) (path : PathBuf) : List UInt8 :=
  if needSep platform path then [mainSep platform] else []

theorem glue_nil (h : path.getLast?.any (isSep platform)) : glue platform path = [] := by
  cases hlast : path.getLast? with
  | none =>
      rw [hlast] at h
      cases h
  | some byte =>
      have hsep : isSep platform byte := by simpa [hlast] using h
      simp [glue, needSep, hlast, hsep]

theorem glue_sep (h : path.getLast?.any (!isSep platform ·))
    (hdrive : (parsePrefix platform path).any Prefix.isDrive = false) :
    glue platform path = [mainSep platform] := by
  have hbare : (parsePrefix platform path).any
      (fun pre => pre.isDrive && decide (pre.len = path.length)) = false := by
    cases hparse : parsePrefix platform path with
    | none => rfl
    | some pre =>
        rw [hparse, Option.any_some] at hdrive
        simp [hdrive]
  simp [glue, needSep, h, hbare]

theorem push_relative (hrelative : isRelative platform part)
    (hverbatim : prefixVerbatim platform path = false) :
    push platform path part = path ++ (glue platform path ++ part) := by
  obtain ⟨hnone, hroot⟩ : parsePrefix platform part = none ∧ hasRoot platform part = false := by
    simpa [isRelative] using hrelative
  unfold push glue
  rw [if_neg (by simp [isAbsolute, hnone, hroot]), if_neg (by simp [hverbatim]),
    if_neg (by simp [hroot])]
  split <;> rfl

theorem stripPattern_extend (more : List UInt8)
    (hstrip : stripPattern [backslash, backslash] path = none) (hne : path ≠ [])
    (hmore : path.getLast?.any (isSep .windows) → more.head?.any (isSep .windows) = false) :
    stripPattern [backslash, backslash] (path ++ more) = none := by
  rcases path with _ | ⟨first, _ | ⟨second, rest⟩⟩
  · exact absurd rfl hne
  · by_cases hfirst : isSep .windows first
    · rcases more with _ | ⟨byte, more⟩
      · exact hstrip
      · have hbyte : isSep .windows byte = false := by simpa using hmore (by simpa using hfirst)
        rw [List.singleton_append, stripPattern_backslash, if_pos hfirst, stripPattern_backslash,
          hbyte]
        rfl
    · rw [List.singleton_append, stripPattern_backslash, if_neg hfirst]
  · simp only [List.cons_append, stripPattern_backslash] at hstrip ⊢
    split
    · next hfirst =>
        rw [if_pos hfirst] at hstrip
        split
        · next hsecond =>
            rw [if_pos hsecond] at hstrip
            cases hstrip
        · rfl
    · rfl

theorem parseDrive_extend (more : List UInt8) (hdrive : parseDrive path = none) (hne : path ≠ [])
    (hmore : path.getLast?.any (!isSep .windows ·) → more.head? = some backslash) :
    parseDrive (path ++ more) = none := by
  rcases path with _ | ⟨first, _ | ⟨second, rest⟩⟩
  · exact absurd rfl hne
  · rcases more with _ | ⟨byte, more⟩
    · rfl
    · by_cases hfirst : isSep .windows first
      · have halpha : isAsciiAlphabetic first = false := by
          by_contra h
          rw [isSep_of_alphabetic (by simpa using h)] at hfirst
          cases hfirst
        simp [parseDrive, halpha]
      · obtain rfl : byte = backslash := by simpa using hmore (by simpa using hfirst)
        have hcolon : backslash ≠ colon := by decide
        simp [parseDrive, hcolon]
  · simpa [parseDrive] using hdrive

theorem parseNetwork_extend {first second : UInt8} {parser more : List UInt8}
    (hfirst : isSep .windows first) (hsecond : isSep .windows second)
    (hnone : parsePrefix .windows (first :: second :: parser) = none)
    (hfinished : unfinishedUnc .windows (first :: second :: parser) = false) :
    parsePrefix .windows (first :: second :: (parser ++ more)) = none ∧
      unfinishedUnc .windows (first :: second :: (parser ++ more)) = false := by
  have hquestion : ∀ rest, stripPattern [question, backslash] parser = some rest →
      slash ∈ (first :: second :: parser).take 4 := fun rest hrest => by
    by_contra hslash
    simp only [parsePrefix, stripPattern_seps hfirst hsecond, hrest, if_pos hslash] at hnone
    cases hnone
  by_cases hhead : parser.head?.any (isSep .windows)
  · -- an empty server
    rcases parser with _ | ⟨third, rest⟩
    · cases hhead
    · have hthird : isSep .windows third := by simpa using hhead
      have hempty : ∀ more, nextComponent (isSep .windows) (third :: more) = ([], more) :=
        fun more => @nextComponent_append _ [] _ more (by simp) hthird
      have hstrip : ∀ {byte} more, isSep .windows byte = false →
          stripPattern [byte, backslash] (third :: more) = none := fun {byte} more hbyte => by
        have hne : third ≠ byte := by
          rintro rfl
          rw [hbyte] at hthird
          cases hthird
        rw [stripPattern_plain hbyte, if_neg hne]
      constructor
      · rw [List.cons_append, parsePrefix_network _ hfirst hsecond (fun after hafter => by
          rw [hstrip _ rfl] at hafter
          cases hafter)]
        simp [parseNetwork, hstrip _ (show isSep .windows dot = false by rfl), hempty]
      · simp [unfinishedUnc, stripPattern_seps hfirst hsecond, hthird]
  · -- a server, and a share that is empty for good
    cases hserver : nextComponent (isSep .windows) parser with
    | mk server rest =>
    have hrest : rest ≠ [] := by
      simpa [unfinishedUnc, stripPattern_seps hfirst hsecond, hhead, hserver] using hfinished
    obtain ⟨hfree, ⟨-, hnil⟩ | ⟨third, hthird, rfl⟩⟩ := nextComponent_ended hserver
    · exact absurd hnil hrest
    have hserver_ne : server ≠ [] := by
      rintro rfl
      exact hhead (by simpa using hthird)
    rw [parsePrefix_network _ hfirst hsecond hquestion] at hnone
    have hdot : server ≠ [dot] := fun heq => by
      rw [parseNetwork, stripPattern_component _ rfl hfree hthird, if_pos heq] at hnone
      cases hnone
    have hdot' : ∀ more, stripPattern [dot, backslash] (server ++ third :: more) = none :=
      fun more => by rw [stripPattern_component _ rfl hfree hthird, if_neg hdot]
    obtain ⟨fourth, rest, rfl, hfourth⟩ : ∃ fourth rest', rest = fourth :: rest' ∧
        isSep .windows fourth := by
      cases hshare : nextComponent (isSep .windows) rest with
      | mk share after =>
      have hempty : share = [] := by
        simpa [parseNetwork, hdot', hserver, hshare, hserver_ne] using hnone
      obtain ⟨-, ⟨hnil, -⟩ | ⟨fourth, hfourth, heq⟩⟩ := nextComponent_ended hshare
      · exact absurd (hnil.trans hempty) hrest
      · exact ⟨fourth, after, by rw [heq, hempty, List.nil_append], hfourth⟩
    have hnext := nextComponent_append (fourth :: (rest ++ more)) hfree hthird
    have hshare := @nextComponent_append (isSep .windows) [] _ (rest ++ more) (by simp) hfourth
    rw [List.nil_append] at hshare
    have happend : server ++ third :: fourth :: rest ++ more =
        server ++ third :: fourth :: (rest ++ more) := by simp
    rw [happend]
    constructor
    · rw [parsePrefix_network _ hfirst hsecond (fun after hafter => by
        rw [stripPattern_component _ rfl hfree hthird] at hafter
        split at hafter
        · next heq =>
            have hslash := hquestion _ (by
              rw [stripPattern_component _ rfl hfree hthird, if_pos heq])
            simpa [heq] using hslash
        · cases hafter)]
      simp [parseNetwork, hdot', hnext, hshare]
    · simp [unfinishedUnc, stripPattern_seps hfirst hsecond, hnext]

theorem parsePrefix_push_none (hnone : parsePrefix .windows path = none)
    (hsettled : isSettled .windows path) (hne : path ≠ [])
    (hpart : part.head?.any (isSep .windows) = false) :
    parsePrefix .windows (path ++ (glue .windows path ++ part)) = none ∧
      unfinishedUnc .windows (path ++ (glue .windows path ++ part)) = false := by
  have hfinished : unfinishedUnc .windows path = false := by
    simpa [isSettled, hnone] using hsettled
  cases hstrip : stripPattern [backslash, backslash] path with
  | none =>
      have hdrive : parseDrive path = none := by simpa [parsePrefix, hstrip] using hnone
      have hstrip' := stripPattern_extend (glue .windows path ++ part) hstrip hne
        fun hlast => by rwa [glue_nil hlast, List.nil_append]
      have hdrive' := parseDrive_extend (glue .windows path ++ part) hdrive hne
        fun hlast => by rw [glue_sep hlast (by simp [hnone])]; rfl
      simp [parsePrefix, unfinishedUnc, hstrip', hdrive']
  | some parser =>
      rw [stripPattern_backslash_some] at hstrip
      obtain ⟨first, _, rfl, hfirst, hstrip⟩ := hstrip
      rw [stripPattern_backslash_some] at hstrip
      obtain ⟨second, rest, rfl, hsecond, -⟩ := hstrip
      exact parseNetwork_extend hfirst hsecond hnone hfinished

theorem Spelled.afterPrefix_append {raw after more : List UInt8} {pre : Prefix}
    (h : Spelled raw pre) (hparse : parsePrefix .windows (raw ++ after) = some pre)
    (hparse' : parsePrefix .windows (raw ++ after ++ more) = some pre) :
    Paths.afterPrefix .windows (raw ++ after ++ more) =
      Paths.afterPrefix .windows (raw ++ after) ++ more := by
  rw [List.append_assoc] at hparse' ⊢
  rw [h.afterPrefix _ hparse, h.afterPrefix _ hparse']

theorem parsePrefix_push (hsettled : isSettled platform path) (hne : path ≠ [])
    (hverbatim : prefixVerbatim platform path = false)
    (hpart : part.head?.any (isSep platform) = false) :
    parsePrefix platform (path ++ (glue platform path ++ part)) = parsePrefix platform path ∧
      afterPrefix platform (path ++ (glue platform path ++ part)) =
        afterPrefix platform path ++ (glue platform path ++ part) ∧
      isSettled platform (path ++ (glue platform path ++ part)) := by
  cases platform with
  | unix => exact ⟨rfl, rfl, rfl⟩
  | windows =>
      cases hparse : parsePrefix .windows path with
      | none =>
          obtain ⟨hnone, hfinished⟩ := parsePrefix_push_none hparse hsettled hne hpart
          refine ⟨hnone, ?_, ?_⟩
          · simp [afterPrefix, prefixLen, hparse, hnone]
          · simp [isSettled, hnone, hfinished]
      | some pre =>
          obtain ⟨raw, after, rfl, hspelled, hcontinued⟩ := spelled_of_parse hparse hsettled
          have hplain : pre.isVerbatim = false := by simpa [prefixVerbatim, hparse] using hverbatim
          have hparse' : parsePrefix .windows (raw ++ after ++ (glue .windows (raw ++ after) ++
              part)) = some pre := by
            rw [List.append_assoc]
            apply hspelled.parse _
            rcases hcontinued with hdrive | ⟨byte, rest, rfl, hsep⟩ | ⟨rfl, -, hlast⟩
            · exact .inl hdrive
            · exact .inr ⟨byte, _, rfl, hsep, by simp [hplain]⟩
            · by_cases hdrive : pre.isDrive
              · exact .inl hdrive
              · rw [List.append_nil] at hparse ⊢
                rw [glue_sep hlast (by simpa [hparse] using hdrive)]
                exact .inr ⟨backslash, part, rfl, rfl, by simp [hplain]⟩
          have hafter := hspelled.afterPrefix_append hparse hparse'
          refine ⟨hparse', hafter, ?_⟩
          rw [isSettled, hparse] at hsettled
          rw [isSettled, hparse', hafter]
          cases pre with
          | deviceNs device =>
              have hcases : device ≠ [] ∨ afterPrefix .windows (raw ++ after) ≠ [] := by
                simpa using hsettled
              rcases hcases with hdevice | hafter_ne
              · simp [hdevice]
              · simp [hafter_ne]
          | disk drive | unc server share => rfl
          | verbatim name | verbatimDisk drive | verbatimUnc server share => cases hplain

/-- The components of a part, without a leading `.`. -/
def inner (platform : Platform) (part : PathBuf) : List Component :=
  segments (isSep platform) false part

theorem isSep_mainSep : isSep platform (mainSep platform) := by
  cases platform <;> rfl

theorem segments_glue {body : List UInt8} (h : glue platform path = [mainSep platform] ∨
      (glue platform path = [] ∧
        (body = [] ∨ ∃ before byte, body = before ++ [byte] ∧ isSep platform byte))) :
    segments (isSep platform) false (body ++ (glue platform path ++ part)) =
      segments (isSep platform) false body ++ inner platform part := by
  rcases h with hglue | ⟨hglue, hbody⟩
  · rw [hglue, List.singleton_append, segments_append_sep isSep_mainSep]
    rfl
  · rw [hglue, List.nil_append, segments_append hbody]
    rfl

theorem glue_body {before body : List UInt8} (hpath : path = before ++ body)
    (hbare : afterPrefix platform path = [] → body = []) :
    glue platform path = [mainSep platform] ∨ (glue platform path = [] ∧
      (body = [] ∨ ∃ start byte, body = start ++ [byte] ∧ isSep platform byte)) := by
  by_cases hneed : needSep platform path
  · exact .inl (if_pos hneed)
  · refine .inr ⟨if_neg hneed, ?_⟩
    rcases List.eq_nil_or_concat body with hnil | ⟨start, byte, rfl⟩
    · exact .inl hnil
    · refine .inr ⟨start, byte, by simp, ?_⟩
      have hlast : path.getLast? = some byte := by simp [hpath]
      by_contra hsep
      apply hneed
      have hdrive : (parsePrefix platform path).any
          (fun pre => pre.isDrive && decide (pre.len = path.length)) = false := by
        cases hparse : parsePrefix platform path with
        | none => rfl
        | some pre =>
            rw [Option.any_some, Bool.and_eq_false_iff, decide_eq_false_iff_not]
            refine .inr fun hlen => ?_
            have hnil : afterPrefix platform path = [] := by
              simp [afterPrefix, prefixLen, hparse, hlen]
            simpa using hbare hnil
      simpa [needSep, hlast, hdrive] using hsep

theorem includeCurDir_plain : parsePrefix platform path = none →
    includeCurDir platform path = (!path.head?.any (isSep platform) &&
      match path with
      | [first] => first = dot
      | first :: second :: _ => first = dot && isSep platform second
      | [] => false) := by
  intro hnone
  have hverbatim : prefixVerbatim platform path = false := by simp [prefixVerbatim, hnone]
  have hafter : afterPrefix platform path = path := by simp [afterPrefix, prefixLen, hnone]
  simp only [includeCurDir, hasRoot, hasPhysicalRoot, hafter, hnone, isSepByte_plain hverbatim,
    Option.any_none, Bool.or_false]
  rcases path with _ | ⟨first, _ | ⟨second, rest⟩⟩ <;> rfl

theorem includeCurDir_append {more : List UInt8} (hnone : parsePrefix platform path = none)
    (hnone' : parsePrefix platform (path ++ more) = none) (hne : path ≠ [])
    (hmore : ∀ byte, path = [byte] → ∃ rest, more = mainSep platform :: rest) :
    includeCurDir platform (path ++ more) = includeCurDir platform path := by
  rw [includeCurDir_plain hnone, includeCurDir_plain hnone']
  rcases path with _ | ⟨first, _ | ⟨second, rest⟩⟩
  · exact absurd rfl hne
  · obtain ⟨rest, rfl⟩ := hmore first rfl
    simp [isSep_mainSep]
  · rfl

theorem glue_drive {pre : Prefix} (hparse : parsePrefix platform path = some pre)
    (hsettled : isSettled platform path) (hdrive : pre.isDrive)
    (hnil : afterPrefix platform path = []) : glue platform path = [] := by
  cases platform with
  | unix => cases hparse
  | windows =>
      obtain ⟨raw, after, rfl, hspelled, -⟩ := spelled_of_parse hparse hsettled
      rw [hspelled.afterPrefix _ hparse] at hnil
      subst hnil
      rw [List.append_nil] at hparse ⊢
      simp [glue, needSep, hparse, hdrive, ← hspelled.length]

theorem glue_implicit {pre : Prefix} (hparse : parsePrefix platform path = some pre)
    (hsettled : isSettled platform path) (hdrive : pre.isDrive = false)
    (hroot : (afterPrefix platform path).head?.any (isSep platform) = false) :
    afterPrefix platform path = [] ∧ glue platform path = [mainSep platform] := by
  cases platform with
  | unix => cases hparse
  | windows =>
      obtain ⟨raw, after, rfl, hspelled, hcontinued⟩ := spelled_of_parse hparse hsettled
      rw [hspelled.afterPrefix _ hparse] at hroot ⊢
      rcases hcontinued with h | ⟨byte, rest, rfl, hsep⟩ | ⟨rfl, -, hlast⟩
      · rw [hdrive] at h
        cases h
      · simp [hsep] at hroot
      · rw [List.append_nil] at hparse ⊢
        exact ⟨rfl, glue_sep hlast (by simpa [hparse] using hdrive)⟩

/-- What is pushed onto a path that is no verbatim one comes after its components. -/
theorem components_push (hsettled : isSettled platform path) (hne : path ≠ [])
    (hverbatim : prefixVerbatim platform path = false) (hrelative : isRelative platform part) :
    components platform (push platform path part) =
      components platform path ++ inner platform part := by
  obtain ⟨hnone, hpart⟩ := not_sep_of_relative hrelative
  obtain ⟨hparse, hafter, -⟩ := parsePrefix_push hsettled hne hverbatim hpart
  rw [push_relative hrelative hverbatim]
  generalize hpushed : path ++ (glue platform path ++ part) = pushed at hparse hafter ⊢
  have hverbatim' : prefixVerbatim platform pushed = false := by
    rwa [prefixVerbatim, hparse, ← prefixVerbatim]
  have hpath : path = path.take (prefixLen platform path) ++ afterPrefix platform path :=
    (List.take_append_drop _ _).symm
  by_cases hroot : (afterPrefix platform path).head?.any (isSep platform)
  · -- a root that is written out
    cases hbody : afterPrefix platform path with
    | nil =>
        rw [hbody] at hroot
        cases hroot
    | cons byte body =>
        have hsep : isSep platform byte := by simpa [hbody] using hroot
        rw [hbody, List.cons_append] at hafter
        rw [hbody, List.append_cons] at hpath
        rw [components_rooted hbody hsep, components_rooted hafter hsep, hparse, hverbatim,
          hverbatim', isSepByte_plain hverbatim, isSepByte_plain hverbatim',
          segments_glue (glue_body hpath fun hnil => by
            rw [hbody] at hnil
            cases hnil)]
        simp
  · have hroot' : (afterPrefix platform path).head?.any (isSep platform) = false := by
      simpa using hroot
    have hglue := glue_body hpath id
    have hhead : (afterPrefix platform path ++ (glue platform path ++ part)).head?.any
        (isSep platform) = false ∨
          (afterPrefix platform path = [] ∧ glue platform path = [mainSep platform]) := by
      cases hbody : afterPrefix platform path with
      | nil =>
          rcases hglue with hglue | ⟨hglue, -⟩
          · exact .inr ⟨rfl, hglue⟩
          · left
            simpa [hglue] using hpart
      | cons byte body =>
          left
          simpa [hbody] using hroot'
    cases hpre : parsePrefix platform path with
    | none =>
        have hself : afterPrefix platform path = path := by simp [afterPrefix, prefixLen, hpre]
        rw [hself] at hroot' hglue hhead
        rw [hpre] at hparse
        have hhead' : pushed.head?.any (isSep platform) = false := by
          rw [← hpushed]
          exact hhead.resolve_right fun h => hne h.1
        rw [components_plain hpre hroot', components_plain hparse hhead', List.append_assoc,
          ← segments_glue hglue, hpushed]
        rw [← hpushed, includeCurDir_append hpre (by rwa [hpushed]) hne (by
          intro byte hbyte
          have hlast : path.getLast?.any (!isSep platform ·) := by simpa [hbyte] using hroot'
          exact ⟨_, by rw [glue_sep hlast (by simp [hpre])]; rfl⟩)]
    | some pre =>
        rw [hpre] at hparse
        by_cases hdrive : pre.isDrive
        · -- a path relative to a drive
          obtain ⟨drive, rfl⟩ : ∃ drive, pre = .disk drive := by
            cases pre <;> first | exact ⟨_, rfl⟩ | cases hdrive
          have hhead' : (afterPrefix platform pushed).head?.any (isSep platform) = false := by
            rw [hafter]
            refine hhead.resolve_right fun hboth => ?_
            have hglue' := hboth.2
            rw [glue_drive hpre hsettled rfl hboth.1] at hglue'
            cases hglue'
          rw [components_drive hpre hroot', components_drive hparse hhead', hafter,
            segments_glue hglue, List.cons_append]
        · -- a root that is implied
          obtain ⟨hnil, hglue'⟩ : afterPrefix platform path = [] ∧
              glue platform path = [mainSep platform] :=
            glue_implicit hpre hsettled (by simpa using hdrive) hroot'
          have hplain : pre.isVerbatim = false := by simpa [prefixVerbatim, hpre] using hverbatim
          rw [hnil, hglue', List.nil_append, List.singleton_append] at hafter
          rw [components_implicit hpre hnil (by simpa using hdrive) hplain,
            components_rooted hafter isSep_mainSep, hparse, hverbatim',
            isSepByte_plain hverbatim']
          rfl

/-- A component that stands between the separators of a verbatim path. -/
def Component.IsSegment (comp : Component) : Prop :=
  comp = .parentDir ∨ comp = .curDir ∨ ∃ name, comp = .normal name ∧ name ≠ [] ∧
    name ≠ [dot] ∧ name ≠ [dot, dot] ∧ ∀ byte ∈ name, isVerbatimSep byte = false

section Verbatim

variable {raw : List UInt8} {comp : Component} {comps : List Component}

theorem render_segment (h : comp.IsSegment) :
    render .windows raw false (comp :: comps) =
      comp.asOsStr .windows raw ++ render .windows raw true comps ∧
    render .windows raw true (comp :: comps) =
      backslash :: render .windows raw false (comp :: comps) := by
  rcases h with rfl | rfl | ⟨name, rfl, -⟩ <;> simp [render, mainSep]

theorem segments_asOsStr (h : comp.IsSegment) :
    segments isVerbatimSep true (comp.asOsStr .windows raw) = [comp] := by
  rcases h with rfl | rfl | ⟨name, rfl, hne, hdot, hdots, hfree⟩
  · rfl
  · rfl
  · rw [segments, Component.asOsStr, List.splitOnP_eq_singleton hfree]
    simp [parseSingleComponent, hne, hdot, hdots]

theorem segments_render (h : ∀ comp ∈ comps, comp.IsSegment) :
    segments isVerbatimSep true (render .windows raw false comps) = comps := by
  induction comps with
  | nil => rfl
  | cons comp comps ih =>
      have hcomp := h comp List.mem_cons_self
      have hrest := ih fun other hother => h other (List.mem_cons_of_mem _ hother)
      rw [(render_segment hcomp).1]
      rcases comps with _ | ⟨next, comps⟩
      · rw [render, List.append_nil, segments_asOsStr hcomp]
      · rw [(render_segment (h next (by simp))).2, segments_append_sep rfl, hrest,
          segments_asOsStr hcomp, List.singleton_append]

theorem foldl_pushVerbatim {buf : List Component}
    (h : ∀ comp ∈ comps, ∃ name, comp = .normal name) :
    comps.foldl pushVerbatim buf = buf ++ comps := by
  induction comps generalizing buf with
  | nil => simp
  | cons comp comps ih =>
      obtain ⟨name, rfl⟩ := h comp List.mem_cons_self
      rw [List.foldl_cons, ih fun other hother => h other (List.mem_cons_of_mem _ hother)]
      simp [pushVerbatim]

end Verbatim

theorem normal_of_mem_inner {comp : Component} (h : comp ∈ inner platform part)
    (hparent : .parentDir ∉ inner platform part) :
    ∃ name, comp = .normal name ∧ name ≠ [] ∧ name ≠ [dot] ∧ name ≠ [dot, dot] ∧
      ∀ byte ∈ name, isSep platform byte = false := by
  rcases mem_segments h with rfl | ⟨-, hfalse⟩ | hnormal
  · exact absurd h hparent
  · cases hfalse
  · exact hnormal

/-- What is pushed onto a verbatim path comes after its components, when it has no `..`. -/
theorem components_push_verbatim (hsettled : isSettled platform path)
    (hverbatim : prefixVerbatim platform path) (hrelative : isRelative platform part)
    (hne : part ≠ []) (hparent : .parentDir ∉ inner platform part) :
    components platform (push platform path part) =
        components platform path ++ inner platform part ∧
      parsePrefix platform (push platform path part) = parsePrefix platform path ∧
      isSettled platform (push platform path part) := by
  cases platform with
  | unix => cases hverbatim
  | windows =>
      obtain ⟨pre, hparse, hpre⟩ : ∃ pre, parsePrefix .windows path = some pre ∧
          pre.isVerbatim := by
        cases hparse : parsePrefix .windows path with
        | none => simp [prefixVerbatim, hparse] at hverbatim
        | some pre => exact ⟨pre, rfl, by simpa [prefixVerbatim, hparse] using hverbatim⟩
      have hdrive : pre.isDrive = false := by cases pre <;> first | rfl | cases hpre
      obtain ⟨hnone, hpart⟩ := not_sep_of_relative hrelative
      have hroot : hasRoot .windows part = false := by
        simpa [isRelative, hnone] using hrelative
      obtain ⟨raw, after, rfl, hspelled, hcontinued⟩ := spelled_of_parse hparse hsettled
      obtain ⟨byte, body, rfl, hsep⟩ : ∃ byte body, after = byte :: body ∧
          isSep .windows byte := by
        rcases hcontinued with h | h | ⟨-, h, -⟩
        · rw [hdrive] at h
          cases h
        · exact h
        · rw [hpre] at h
          cases h
      have hafter := hspelled.afterPrefix _ hparse
      have hcomponents := components_rooted hafter hsep
      rw [hparse, hverbatim, isSepByte_verbatim hverbatim] at hcomponents
      have hraw : (raw ++ byte :: body).take (prefixLen .windows (raw ++ byte :: body)) = raw := by
        rw [prefixLen, hparse, Option.map_some, Option.getD_some, ← hspelled.length,
          List.take_left]
      have hfold : (components .windows part).foldl pushVerbatim
          (components .windows (raw ++ byte :: body)) =
            components .windows (raw ++ byte :: body) ++ inner .windows part := by
        rw [components_plain hnone hpart, List.foldl_append]
        have hcur : (if includeCurDir .windows part then [Component.curDir] else []).foldl
            pushVerbatim (components .windows (raw ++ byte :: body)) =
              components .windows (raw ++ byte :: body) := by
          split <;> rfl
        rw [hcur]
        exact foldl_pushVerbatim fun comp hcomp =>
          (normal_of_mem_inner hcomp hparent).imp fun name h => h.1
      have hpush : push .windows (raw ++ byte :: body) part =
          raw ++ backslash :: render .windows raw false
            (segments isVerbatimSep true body ++ inner .windows part) := by
        unfold push
        rw [if_neg (by simp [isAbsolute, hnone, hroot]), if_pos (by simp [hverbatim, hne]),
          hfold, hraw, hcomponents]
        simp [render, Component.asOsStr, mainSep]
      have hparse' := hspelled.parse (backslash :: render .windows raw false
        (segments isVerbatimSep true body ++ inner .windows part))
        (.inr ⟨backslash, _, rfl, rfl, fun _ => rfl⟩)
      have hafter' := hspelled.afterPrefix _ hparse'
      rw [hpush]
      refine ⟨?_, hparse'.trans hparse.symm, ?_⟩
      · have hverbatim' : prefixVerbatim .windows (raw ++ backslash :: render .windows raw false
            (segments isVerbatimSep true body ++ inner .windows part)) = true := by
          simp [prefixVerbatim, hparse', hpre]
        rw [components_rooted hafter' rfl, hparse', hverbatim', isSepByte_verbatim hverbatim',
          segments_render, hcomponents]
        · simp
        · intro comp hcomp
          rcases List.mem_append.mp hcomp with hcomp | hcomp
          · rcases mem_segments hcomp with h | ⟨h, -⟩ | h
            · exact .inl h
            · exact .inr (.inl h)
            · exact .inr (.inr h)
          · obtain ⟨name, rfl, hname, hdot, hdots, hfree⟩ := normal_of_mem_inner hcomp hparent
            refine .inr (.inr ⟨name, rfl, hname, hdot, hdots, fun byte hbyte => ?_⟩)
            by_contra hback
            have hsep := hfree byte hbyte
            rw [isVerbatimSep_isSep (by simpa using hback)] at hsep
            cases hsep
      · rw [isSettled, hparse] at hsettled
        rw [isSettled, hparse', hafter']
        cases pre with
        | verbatim name | verbatimDisk drive => simp
        | verbatimUnc server share => simpa [hafter] using hsettled
        | disk drive | deviceNs device | unc server share => cases hpre

/-- A part that replaces nothing, and has a name at all. -/
structure Pushable (platform : Platform) (part : PathBuf) : Prop where
  relative : isRelative platform part
  nonempty : part ≠ []

theorem isSettled_of_relative (h : isRelative platform part) : isSettled platform part := by
  obtain ⟨hnone, hhead⟩ := not_sep_of_relative h
  rw [isSettled, hnone]
  cases platform with
  | unix => rfl
  | windows =>
      rcases part with _ | ⟨first, rest⟩
      · rfl
      · have hfirst : isSep .windows first = false := by simpa using hhead
        simp [unfinishedUnc, stripPattern_backslash, hfirst]

theorem push_adds (hsettled : isSettled platform path) (hpart : Pushable platform part)
    (hok : prefixVerbatim platform path = false ∨ .parentDir ∉ inner platform part) :
    (∃ lead, components platform (push platform path part) =
        components platform path ++ (lead ++ inner platform part) ∧
          ∀ comp ∈ lead, comp = .curDir) ∧
      parsePrefix platform (push platform path part) = parsePrefix platform path ∧
      isSettled platform (push platform path part) := by
  obtain ⟨hnone, hhead⟩ := not_sep_of_relative hpart.relative
  by_cases hverbatim : prefixVerbatim platform path
  · obtain ⟨hcomponents, hrest⟩ := components_push_verbatim hsettled hverbatim hpart.relative
      hpart.nonempty (hok.resolve_left (by simp [hverbatim]))
    exact ⟨⟨[], by simpa using hcomponents, by simp⟩, hrest⟩
  · have hplain : prefixVerbatim platform path = false := by simpa using hverbatim
    rcases eq_or_ne path [] with rfl | hne
    · -- the first part of all is the path
      have hpush : push platform [] part = part := by
        rw [push_relative hpart.relative hplain, glue]
        rfl
      have hempty : parsePrefix platform [] = none ∧ components platform [] = [] := by
        cases platform <;> exact ⟨rfl, rfl⟩
      simp only [hpush, hempty, List.nil_append]
      refine ⟨⟨_, components_plain hnone hhead, ?_⟩, hnone, isSettled_of_relative hpart.relative⟩
      intro comp hcomp
      split at hcomp
      · simpa using hcomp
      · cases hcomp
    · obtain ⟨hparse, -, hsettled'⟩ := parsePrefix_push hsettled hne hplain hhead
      rw [← push_relative hpart.relative hplain] at hparse hsettled'
      exact ⟨⟨[], by simpa using components_push hsettled hne hplain hpart.relative, by simp⟩,
        hparse, hsettled'⟩

def pushAll (platform : Platform) (path : PathBuf) (parts : List PathBuf) : PathBuf :=
  parts.foldl (push platform) path

theorem pushAll_adds {parts : List PathBuf} (hsettled : isSettled platform path)
    (hparts : ∀ part ∈ parts, Pushable platform part)
    (hok : prefixVerbatim platform path = false ∨
      ∀ part ∈ parts, .parentDir ∉ inner platform part) :
    (∃ rest, components platform (pushAll platform path parts) =
        components platform path ++ rest ∧
      ∀ comp, comp ≠ .curDir → (comp ∈ rest ↔ ∃ part ∈ parts, comp ∈ inner platform part)) ∧
      parsePrefix platform (pushAll platform path parts) = parsePrefix platform path := by
  induction parts generalizing path with
  | nil => exact ⟨⟨[], by simp [pushAll], by simp⟩, rfl⟩
  | cons part parts ih =>
      obtain ⟨⟨lead, hcomponents, hlead⟩, hparse, hsettled'⟩ := push_adds hsettled
        (hparts part List.mem_cons_self) (hok.imp_right fun h => h part List.mem_cons_self)
      have hverbatim : prefixVerbatim platform (push platform path part) =
          prefixVerbatim platform path := by rw [prefixVerbatim, hparse, ← prefixVerbatim]
      obtain ⟨⟨rest, hrest, hmem⟩, hparse'⟩ := ih hsettled'
        (fun other hother => hparts other (List.mem_cons_of_mem _ hother))
        (by
          rw [hverbatim]
          exact hok.imp_right fun h other hother => h other (List.mem_cons_of_mem _ hother))
      refine ⟨⟨lead ++ inner platform part ++ rest, ?_, ?_⟩, hparse'.trans hparse⟩
      · rw [pushAll, List.foldl_cons, ← pushAll, hrest, hcomponents]
        simp
      · intro comp hcur
        have hlead' : comp ∉ lead := fun hcomp => hcur (hlead comp hcomp)
        simp [hlead', hmem comp hcur]

/-- A strict descendant of a directory, by its components. -/
def IsBelow (platform : Platform) (base target : PathBuf) : Prop :=
  ∃ rest, components platform target = components platform base ++ rest ∧
    (∀ comp ∈ rest, comp = .curDir ∨ ∃ name, comp = .normal name) ∧
      ∃ name, .normal name ∈ rest

/-- Parts that stay below whatever they are pushed onto. -/
structure Descending (platform : Platform) (parts : List PathBuf) : Prop where
  relative : ∀ part ∈ parts, isRelative platform part
  downward : ∀ part ∈ parts, .parentDir ∉ components platform part
  named : ∃ part ∈ parts, ∃ name, .normal name ∈ components platform part

theorem mem_inner_iff {comp : Component} (hrelative : isRelative platform part)
    (hcur : comp ≠ .curDir) : comp ∈ inner platform part ↔ comp ∈ components platform part := by
  obtain ⟨hnone, hhead⟩ := not_sep_of_relative hrelative
  rw [components_plain hnone hhead]
  split
  · simp [inner, hcur]
  · simp [inner]

/-- Descending parts stay below every settled path. -/
theorem isBelow_pushAll {parts : List PathBuf} (hsettled : isSettled platform path)
    (hne : ∀ part ∈ parts, part ≠ []) (h : Descending platform parts) :
    IsBelow platform path (pushAll platform path parts) := by
  have hinner : ∀ part ∈ parts, .parentDir ∉ inner platform part := fun part hpart => by
    rw [mem_inner_iff (h.relative part hpart) (by simp)]
    exact h.downward part hpart
  obtain ⟨⟨rest, hrest, hmem⟩, -⟩ := pushAll_adds hsettled
    (fun part hpart => ⟨h.relative part hpart, hne part hpart⟩) (.inr hinner)
  refine ⟨rest, hrest, ?_, ?_⟩
  · intro comp hcomp
    by_cases hcur : comp = .curDir
    · exact .inl hcur
    · obtain ⟨part, hpart, hcomp⟩ := (hmem comp hcur).mp hcomp
      exact .inr ((normal_of_mem_inner hcomp (hinner part hpart)).imp fun name h => h.1)
  · obtain ⟨part, hpart, name, hname⟩ := h.named
    refine ⟨name, (hmem _ (by simp)).mpr ⟨part, hpart, ?_⟩⟩
    rwa [mem_inner_iff (h.relative part hpart) (by simp)]

theorem push_replaces (hpath : parsePrefix platform path = none)
    (hpart : isRelative platform part = false) : push platform path part = part := by
  unfold push
  split
  · rfl
  · next hkeep =>
      have hverbatim : prefixVerbatim platform path = false := by simp [prefixVerbatim, hpath]
      have hnone : parsePrefix platform part = none := by
        cases hparse : parsePrefix platform part with
        | none => rfl
        | some pre => simp [hparse] at hkeep
      have hroot : hasRoot platform part := by simpa [isRelative, hnone] using hpart
      rw [if_neg (by simp [hverbatim]), if_pos hroot]
      simp [prefixLen, hpath]

theorem pushAll_forgets {parts : List PathBuf} {other : PathBuf}
    (hpath : parsePrefix platform path = none) (hsettled : isSettled platform path)
    (hother : parsePrefix platform other = none) (hsettled' : isSettled platform other)
    (hne : ∀ part ∈ parts, part ≠ []) (h : ∃ part ∈ parts, isRelative platform part = false) :
    pushAll platform path parts = pushAll platform other parts := by
  induction parts generalizing path other with
  | nil =>
      obtain ⟨part, hpart, -⟩ := h
      cases hpart
  | cons part parts ih =>
      have hpart_ne := hne part List.mem_cons_self
      have hparts_ne : ∀ part ∈ parts, part ≠ [] :=
        fun other hother => hne other (List.mem_cons_of_mem _ hother)
      simp only [pushAll, List.foldl_cons]
      by_cases hrelative : isRelative platform part
      · have hkept : ∀ {path}, parsePrefix platform path = none → isSettled platform path →
            parsePrefix platform (push platform path part) = none ∧
              isSettled platform (push platform path part) := fun {path} hnone hsettled => by
          obtain ⟨-, hparse, hsettled'⟩ := push_adds hsettled ⟨hrelative, hpart_ne⟩
            (.inl (by simp [prefixVerbatim, hnone]))
          exact ⟨hparse.trans hnone, hsettled'⟩
        obtain ⟨hnone, hset⟩ := hkept hpath hsettled
        obtain ⟨hnone', hset'⟩ := hkept hother hsettled'
        apply ih hnone hset hnone' hset' hparts_ne
        obtain ⟨found, hfound, hreplaces⟩ := h
        rcases List.mem_cons.mp hfound with rfl | hfound
        · rw [hrelative] at hreplaces
          cases hreplaces
        · exact ⟨found, hfound, hreplaces⟩
      · have hreplaces : isRelative platform part = false := by simpa using hrelative
        rw [push_replaces hpath hreplaces, push_replaces hother hreplaces]

theorem descending_of_isBelow {parts : List PathBuf} (hne : ∀ part ∈ parts, part ≠ [])
    (h : ∀ base, isSettled platform base → IsBelow platform base (pushAll platform base parts)) :
    Descending platform parts := by
  -- two directories with nothing in common
  have hbase : ∀ byte ∈ [(114 : UInt8), 115], isSettled platform [byte] ∧
      parsePrefix platform [byte] = none ∧ components platform [byte] = [.normal [byte]] := by
    cases platform <;> decide +kernel
  obtain ⟨hsettled, hnone, hcomponents⟩ := hbase 114 (by simp)
  obtain ⟨hsettled', hnone', hcomponents'⟩ := hbase 115 (by simp)
  have hrelative : ∀ part ∈ parts, isRelative platform part := by
    by_contra hall
    have hreplaces : ∃ part ∈ parts, isRelative platform part = false := by simpa using hall
    have hsame := pushAll_forgets hnone hsettled hnone' hsettled' hne hreplaces
    obtain ⟨rest, hrest, -⟩ := h [114] hsettled
    obtain ⟨rest', hrest', -⟩ := h [115] hsettled'
    rw [← hsame, hrest, hcomponents, hcomponents'] at hrest'
    simp at hrest'
  obtain ⟨⟨rest, hrest, hmem⟩, -⟩ := pushAll_adds hsettled
    (fun part hpart => ⟨hrelative part hpart, hne part hpart⟩)
    (.inl (by simp [prefixVerbatim, hnone]))
  obtain ⟨rest', hrest', hplain, name, hname⟩ := h [114] hsettled
  obtain rfl := List.append_cancel_left (hrest.symm.trans hrest')
  refine ⟨hrelative, fun part hpart hparent => ?_, ?_⟩
  · have hin : .parentDir ∈ rest := (hmem _ (by simp)).mpr ⟨part, hpart, by
      rwa [mem_inner_iff (hrelative part hpart) (by simp)]⟩
    rcases hplain _ hin with hcur | ⟨other, hother⟩
    · cases hcur
    · cases hother
  · obtain ⟨part, hpart, hin⟩ := (hmem _ (by simp)).mp hname
    exact ⟨part, hpart, name, by rwa [← mem_inner_iff (hrelative part hpart) (by simp)]⟩

/-- A name of a file on Unix. -/
structure IsName (part : PathBuf) : Prop where
  nonempty : part ≠ []
  undotted : part ≠ [dot] ∧ part ≠ [dot, dot]
  slashless : ∀ byte ∈ part, isSep .unix byte = false

theorem IsName.relative (h : IsName part) : isRelative .unix part := by
  have hhead : part.head?.any (isSep .unix) = false := by
    cases part with
    | nil => rfl
    | cons first rest => simpa using h.slashless first (by simp)
  simpa [isRelative, hasRoot, hasPhysicalRoot, afterPrefix, prefixLen, parsePrefix] using hhead

theorem IsName.inner (h : IsName part) : inner .unix part = [.normal part] := by
  rw [Paths.inner, segments, List.splitOnP_eq_singleton h.slashless]
  simp [parseSingleComponent, h.nonempty, h.undotted.1, h.undotted.2]

theorem IsName.components (h : IsName part) : components .unix part = [.normal part] := by
  have hcur : includeCurDir .unix part = false := by
    rw [includeCurDir_plain rfl]
    rcases part with _ | ⟨first, _ | ⟨second, rest⟩⟩
    · rfl
    · have hfirst : first ≠ dot := fun heq => h.undotted.1 (by rw [heq])
      simp [hfirst]
    · simp [h.slashless second (by simp)]
  rw [components_plain rfl (not_sep_of_relative h.relative).2, hcur]
  exact h.inner

theorem IsName.components_push (h : IsName part) (path : PathBuf) :
    Paths.components .unix (push .unix path part) =
      Paths.components .unix path ++ [.normal part] := by
  rcases eq_or_ne path [] with rfl | hne
  · have hpush : push .unix [] part = part := push_relative h.relative rfl
    rw [hpush, h.components]
    rfl
  · rw [Paths.components_push rfl hne rfl h.relative, h.inner]

theorem isName_of_mem {name : List UInt8} (h : .normal name ∈ components .unix path) :
    IsName name := by
  have hverbatim : prefixVerbatim .unix path = false := rfl
  have hsegment : .normal name ∈ segments (isSep .unix) false
      (if hasPhysicalRoot .unix path then (afterPrefix .unix path).tail
        else afterPrefix .unix path) := by
    rw [components, isSepByte_plain hverbatim, hverbatim] at h
    rcases List.mem_append.mp h with h | h
    · exfalso
      -- on Unix there is a root or a leading `.` at most
      have hlead : ∀ rooted leading : Bool, .normal name ∉ (if rooted then [Component.rootDir]
          else if leading then [.curDir] else []) := by
        intro rooted leading
        cases rooted <;> cases leading <;> simp
      exact hlead _ _ (by simpa [parsePrefix] using h)
    · exact h
  rcases mem_segments hsegment with h | ⟨h, -⟩ | ⟨other, hother, hne, hdot, hdots, hfree⟩
  · cases h
  · cases h
  · obtain rfl := Component.normal.inj hother
    exact ⟨hne, ⟨hdot, hdots⟩, hfree⟩

end Failsafe.Lib.Paths
