import Failsafe.Lib.DirTree
import Failsafe.Lib.Fallible
import Failsafe.Transport.Export
import Mathlib.Data.List.Sort

/-!
What a send names its files: `prepare_send_paths` and `collect_import_sources`
(`failsafe-send/src/files.rs`), on Unix with names in UTF-8, so that `to_str` never fails and
`to_string_lossy` changes nothing.
-/

namespace Failsafe.Send.Files

open Failsafe.Lib Failsafe.Lib.Paths Failsafe.Transport

def text (message : String) : Text :=
  message.toUTF8.toList

/-- A name in a directory of Unix. -/
structure EntryName where
  bytes : Text
  nonempty : bytes ≠ []
  slashless : slash ∉ bytes
  nulless : (0 : UInt8) ∉ bytes
  named : bytes ≠ [dot] ∧ bytes ≠ [dot, dot]
deriving DecidableEq, Repr

/-- A canonical path: the names below the root. -/
abbrev LocalPath := List EntryName

def joinNames (parts : List Text) : Text :=
  [slash].intercalate parts

def relativePath (names : List EntryName) : Text :=
  joinNames (names.map EntryName.bytes)

def display (localPath : LocalPath) : Text :=
  slash :: relativePath localPath

/-- The tree of files, which nobody changes, and how paths are resolved in it. -/
structure FileSystem where
  root : Listing EntryName Text
  distinct : root.Distinct
  currentDir : Except Text PathBuf
  canonicalize : PathBuf → Except Text LocalPath

namespace FileSystem

def node (fs : FileSystem) (localPath : LocalPath) : Option (Node EntryName Text) :=
  (Node.dir fs.root).lookup localPath

end FileSystem

structure SendPathSpec where
  localPath : LocalPath
  label : Text

/-- The loop of `normalize_path_label`. -/
def addComponent (parts : List Text) : Component → List Text
  | .normal part => parts ++ [part]
  | .parentDir => parts.dropLast
  | .curDir | .rootDir | .prefixed _ => parts

def labelParts (path : PathBuf) : List Text :=
  (components .unix path).foldl addComponent []

def normalizePathLabel (path : PathBuf) : Text :=
  joinNames (labelParts path)

section

variable (fs : FileSystem)

def resolveSendPath (path : PathBuf) : Except Text LocalPath := do
  let resolved ←
    if isAbsolute .unix path then .ok path
    else
      match fs.currentDir with
      | .error error => .error (text "failed to get current directory: " ++ error)
      | .ok current => .ok (push .unix current path)
  match fs.canonicalize resolved with
  | .error error => .error (text "failed to resolve " ++ path ++ text ": " ++ error)
  | .ok localPath => .ok localPath

def prepareSendPaths (paths : List PathBuf) : Except Text (List SendPathSpec) :=
  paths.mapM fun path => do
    let localPath ← resolveSendPath fs path
    return { localPath, label := normalizePathLabel path }

/-- A name in the collection, and the file it is for. -/
abbrev Source := Text × LocalPath

/-- The loop over the entries that `WalkDir` gives. -/
def collectWalked (localPath : LocalPath) (nameOf : List EntryName → Except Text Text) :
    List (Except Text (List EntryName × Bool)) → Except Text (List Source)
  | [] => .ok []
  | .error error :: _ =>
      .error (text "failed to walk " ++ display localPath ++ text ": " ++ error)
  | .ok (_, false) :: items => collectWalked localPath nameOf items
  | .ok (relative, true) :: items => do
      let name ← nameOf relative
      let sources ← collectWalked localPath nameOf items
      return (name, localPath ++ relative) :: sources

def replaceBackslash (name : Text) : Text :=
  name.map fun byte => if byte = backslash then slash else byte

def trimStartSlashes (name : Text) : Text :=
  name.dropWhile (· = slash)

def joinArchivePath (label : Text) (relative : List EntryName) : Except Text Text :=
  let relative := trimStartSlashes (replaceBackslash (relativePath relative))
  if relative = [] then .error (text "encountered empty relative path while walking directory")
  else if label = [] then .ok relative
  else .ok (label ++ slash :: relative)

/-- `collect_path_sources_legacy`, for a path whose label is empty. -/
def collectPathSourcesLegacy (localPath : LocalPath) : Except Text (List Source) :=
  match fs.node localPath with
  | none => .error (text "path does not exist: " ++ display localPath)
  | some .file =>
      .ok [((localPath.getLast?.map EntryName.bytes).getD (text "file"), localPath)]
  | some (.dir entries) =>
      match localPath.getLast? with
      | none => .error (text "directory has no parent: " ++ display localPath)
      | some last =>
          collectWalked localPath
            (fun relative => .ok (trimStartSlashes (relativePath (last :: relative))))
            (entries.walk [])
  | some .other => .ok []

def collectPathSources (spec : SendPathSpec) : Except Text (List Source) :=
  if spec.label = [] then collectPathSourcesLegacy fs spec.localPath
  else
    match fs.node spec.localPath with
    | none => .error (text "path does not exist: " ++ display spec.localPath)
    | some .file => .ok [(spec.label, spec.localPath)]
    | some (.dir entries) =>
        collectWalked spec.localPath (joinArchivePath spec.label) (entries.walk [])
    | some .other => .ok []

def sortSources (sources : List Source) : List Source :=
  sources.insertionSort fun left right => left.1 ≤ right.1

def collectImportSources (specs : List SendPathSpec) : Except Text (List Source) := do
  let sources := (← specs.mapM (collectPathSources fs)).flatten
  if sources = [] then .error (text "no files to send") else .ok (sortSources sources)

/-- What a send of these paths is made of. -/
def sendSources (paths : List PathBuf) : Except Text (List Source) := do
  collectImportSources fs (← prepareSendPaths fs paths)

end

section Parts

variable {name other label : Text} {parts : List Text} {relative : List EntryName}

theorem nameParts_eq (name : Text) : nameParts name = name.splitOn slash := by
  rw [nameParts, List.splitOn_eq_splitOnP]
  congr 1

theorem joinNames_nameParts (name : Text) : joinNames (nameParts name) = name := by
  rw [nameParts_eq, joinNames, List.intercalate_splitOn]

theorem nameParts_injective (h : nameParts name = nameParts other) : name = other := by
  rw [← joinNames_nameParts name, h, joinNames_nameParts]

theorem nameParts_joinNames (hne : parts ≠ []) (h : ∀ part ∈ parts, slash ∉ part) :
    nameParts (joinNames parts) = parts := by
  rw [nameParts_eq, joinNames, List.splitOn_intercalate _ h hne]

theorem nameParts_append :
    nameParts (label ++ slash :: name) = nameParts label ++ nameParts name := by
  rw [nameParts, List.splitOnP_append_cons _ _ (by simp)]
  rfl

theorem nameParts_replaceBackslash (name : Text) :
    nameParts (replaceBackslash name) = name.splitOnP (isSep .windows) := by
  induction name with
  | nil => simp [nameParts, replaceBackslash, List.splitOnP_nil]
  | cons byte name ih =>
      have hcons : replaceBackslash (byte :: name) =
          (if byte = backslash then slash else byte) :: replaceBackslash name := rfl
      rw [hcons, nameParts, List.splitOnP_cons_eq_if_modifyHead, ← nameParts, ih,
        List.splitOnP_cons_eq_if_modifyHead]
      by_cases hback : byte = backslash
      · simp [hback, isSep]
      · simp [hback, isSep]

theorem nameParts_trimStartSlashes (h : trimStartSlashes name ≠ []) :
    nameParts (trimStartSlashes name) = (nameParts name).dropWhile (· = []) := by
  induction name with
  | nil => exact absurd rfl h
  | cons byte name ih =>
      by_cases hslash : byte = slash
      · have htrim : trimStartSlashes (byte :: name) = trimStartSlashes name := by
          simp [trimStartSlashes, hslash]
        rw [htrim] at h ⊢
        rw [ih h, nameParts, nameParts, List.splitOnP_cons_eq_if_modifyHead]
        simp [hslash]
      · have htrim : trimStartSlashes (byte :: name) = byte :: name := by
          simp [trimStartSlashes, hslash]
        rw [htrim, nameParts, List.splitOnP_cons_eq_if_modifyHead]
        cases hparts : name.splitOnP (· = slash) with
        | nil => exact absurd hparts (List.splitOnP_ne_nil _ _)
        | cons part parts => simp [hslash]

/-- The pieces of a relative path between separators of either kind, from the first that is not
empty. -/
def tidyPieces (relative : List EntryName) : List Text :=
  ((relativePath relative).splitOnP (isSep .windows)).dropWhile (· = [])

theorem nameParts_joinArchivePath (hlabel : label ≠ [])
    (h : joinArchivePath label relative = .ok name) :
    nameParts name = nameParts label ++ tidyPieces relative := by
  unfold joinArchivePath at h
  dsimp only at h
  split at h
  · cases h
  · next hne =>
      rw [Except.ok.injEq] at h
      rw [← h, nameParts_append, nameParts_trimStartSlashes hne, nameParts_replaceBackslash]
      rfl

end Parts

section Sources

variable {fs : FileSystem} {localPath : LocalPath} {parts : List Text} {sources : List Source}
  {source : Source} {relative : List EntryName}

theorem mem_collectWalked {nameOf : List EntryName → Except Text Text}
    {items : List (Except Text (List EntryName × Bool))}
    (h : collectWalked localPath nameOf items = .ok sources) :
    source ∈ sources ↔ ∃ relative, .ok (relative, true) ∈ items ∧
      nameOf relative = .ok source.1 ∧ source.2 = localPath ++ relative := by
  induction items generalizing sources with
  | nil =>
      obtain rfl := Except.ok.inj h
      simp
  | cons item items ih =>
      rcases item with error | ⟨walked, _ | _⟩
      · cases h
      · rw [ih h]
        simp
      · obtain ⟨name, hname, h⟩ := bind_ok h
        obtain ⟨later, hlater, h⟩ := bind_ok h
        obtain rfl := Except.ok.inj h
        rw [List.mem_cons, ih hlater]
        constructor
        · rintro (rfl | ⟨found, hfound, hrest⟩)
          · exact ⟨walked, List.mem_cons_self, hname, rfl⟩
          · exact ⟨found, List.mem_cons_of_mem _ hfound, hrest⟩
        · rintro ⟨found, hfound, hname', hlocal⟩
          rcases List.mem_cons.mp hfound with heq | hfound
          · obtain ⟨rfl, -⟩ := Prod.mk.inj (Except.ok.inj heq)
            left
            rw [hname, Except.ok.injEq] at hname'
            exact Prod.ext hname'.symm hlocal
          · exact .inr ⟨found, hfound, hname', hlocal⟩

theorem named_of_collectWalked {nameOf : List EntryName → Except Text Text}
    {items : List (Except Text (List EntryName × Bool))}
    (h : collectWalked localPath nameOf items = .ok sources)
    (hitem : .ok (relative, true) ∈ items) : ∃ name, nameOf relative = .ok name := by
  induction items generalizing sources with
  | nil => cases hitem
  | cons item items ih =>
      rcases item with error | ⟨walked, _ | _⟩
      · cases h
      · rcases List.mem_cons.mp hitem with heq | hitem
        · cases (Prod.mk.inj (Except.ok.inj heq)).2
        · exact ih h hitem
      · obtain ⟨name, hname, h⟩ := bind_ok h
        obtain ⟨later, hlater, -⟩ := bind_ok h
        rcases List.mem_cons.mp hitem with heq | hitem
        · obtain ⟨rfl, -⟩ := Prod.mk.inj (Except.ok.inj heq)
          exact ⟨name, hname⟩
        · exact ih hlater hitem

/-- Where in the collection the files of a path stand. -/
def archiveRoot (parts : List Text) (localPath : LocalPath) : List Text :=
  if parts = [] then (localPath.getLast?.map EntryName.bytes).toList else parts

/-- Where a file stands below that, given its path below the listed one. -/
def tidy (parts : List Text) (relative : List EntryName) : List Text :=
  if parts = [] then relative.map EntryName.bytes else tidyPieces relative

theorem nameParts_relativePath (hne : relative ≠ []) :
    nameParts (relativePath relative) = relative.map EntryName.bytes := by
  apply nameParts_joinNames (by simpa using hne)
  intro part hpart
  obtain ⟨name, -, rfl⟩ := List.mem_map.mp hpart
  exact name.slashless

theorem relativePath_trimmed (name : EntryName) :
    trimStartSlashes (relativePath (name :: relative)) = relativePath (name :: relative) := by
  obtain ⟨first, rest, hbytes⟩ := List.exists_cons_of_ne_nil name.nonempty
  have hfirst : first ≠ slash := by
    rintro rfl
    exact name.slashless (by simp [hbytes])
  have hhead : ∃ more, relativePath (name :: relative) = first :: more := by
    cases relative with
    | nil => exact ⟨rest, by simp [relativePath, joinNames, hbytes]⟩
    | cons next relative => exact ⟨_, by simp [relativePath, joinNames, hbytes]; rfl⟩
  obtain ⟨more, hmore⟩ := hhead
  simp [trimStartSlashes, hmore, hfirst]

theorem joinNames_eq_nil_iff (h : ∀ part ∈ parts, part ≠ []) :
    joinNames parts = [] ↔ parts = [] := by
  rcases parts with _ | ⟨first, _ | ⟨second, rest⟩⟩
  · simp [joinNames]
  · simpa [joinNames] using h first (by simp)
  · simp [joinNames]

theorem mem_single_iff {name : Text} {place : List EntryName → List Text}
    (hname : nameParts name = place []) :
    source ∈ [(name, localPath)] ↔ ∃ relative ∈ (Node.file : Node EntryName Text).files,
      source.2 = localPath ++ relative ∧ nameParts source.1 = place relative := by
  simp only [List.mem_singleton, Node.files, exists_eq_left, List.append_nil]
  constructor
  · rintro rfl
    exact ⟨rfl, hname⟩
  · rintro ⟨hlocal, hplace⟩
    exact Prod.ext (nameParts_injective (hplace.trans hname.symm)) hlocal

theorem mem_walked_iff {entries : Listing EntryName Text}
    {nameOf : List EntryName → Except Text Text} {place : List EntryName → List Text}
    (h : collectWalked localPath nameOf (entries.walk []) = .ok sources)
    (hplace : ∀ relative name, relative ∈ (Node.dir entries).files →
      nameOf relative = .ok name → nameParts name = place relative) :
    source ∈ sources ↔ ∃ relative ∈ (Node.dir entries).files,
      source.2 = localPath ++ relative ∧ nameParts source.1 = place relative := by
  rw [mem_collectWalked h]
  constructor
  · rintro ⟨relative, hwalked, hname, hlocal⟩
    have hfiles := Node.mem_files_dir.mpr hwalked
    exact ⟨relative, hfiles, hlocal, hplace _ _ hfiles hname⟩
  · rintro ⟨relative, hfiles, hlocal, hparts⟩
    have hwalked := Node.mem_files_dir.mp hfiles
    obtain ⟨name, hname⟩ := named_of_collectWalked h hwalked
    have hsame := nameParts_injective ((hplace _ _ hfiles hname).trans hparts.symm)
    exact ⟨relative, hwalked, by rw [hname, hsame], hlocal⟩

theorem mem_collectPathSourcesLegacy (h : collectPathSourcesLegacy fs localPath = .ok sources) :
    source ∈ sources ↔ ∃ found, fs.node localPath = some found ∧ ∃ relative ∈ found.files,
      source.2 = localPath ++ relative ∧
        nameParts source.1 = archiveRoot [] localPath ++ tidy [] relative := by
  unfold collectPathSourcesLegacy at h
  cases hnode : fs.node localPath with
  | none =>
      rw [hnode] at h
      cases h
  | some found =>
      simp only [Option.some.injEq, exists_eq_left']
      cases found with
      | file =>
          cases hlast : localPath.getLast? with
          | none =>
              obtain rfl := List.getLast?_eq_none_iff.mp hlast
              cases hnode
          | some last =>
              simp only [hnode, hlast, Option.map_some, Option.getD_some, Except.ok.injEq] at h
              rw [← h]
              apply mem_single_iff
              have hname : relativePath [last] = last.bytes := by simp [relativePath, joinNames]
              rw [← hname, nameParts_relativePath (by simp)]
              simp [archiveRoot, tidy, hlast]
      | dir entries =>
          cases hlast : localPath.getLast? with
          | none =>
              rw [hnode] at h
              simp [hlast] at h
          | some last =>
              simp only [hnode, hlast] at h
              apply mem_walked_iff h
              intro relative name _ hname
              rw [Except.ok.injEq, relativePath_trimmed] at hname
              rw [← hname, nameParts_relativePath (by simp)]
              simp [archiveRoot, tidy, hlast]
      | other =>
          simp only [hnode, Except.ok.injEq] at h
          simp [← h, Node.files]

theorem mem_collectPathSources (hparts : ∀ part ∈ parts, part ≠ [] ∧ slash ∉ part)
    (h : collectPathSources fs { localPath, label := joinNames parts } = .ok sources) :
    source ∈ sources ↔ ∃ found, fs.node localPath = some found ∧ ∃ relative ∈ found.files,
      source.2 = localPath ++ relative ∧
        nameParts source.1 = archiveRoot parts localPath ++ tidy parts relative := by
  have hnil := joinNames_eq_nil_iff fun part hpart => (hparts part hpart).1
  unfold collectPathSources at h
  by_cases hempty : parts = []
  · subst hempty
    exact mem_collectPathSourcesLegacy (by simpa [joinNames] using h)
  · rw [if_neg (by simpa [hnil] using hempty)] at h
    have hroot : nameParts (joinNames parts) = parts :=
      nameParts_joinNames hempty fun part hpart => (hparts part hpart).2
    simp only [archiveRoot, tidy, if_neg hempty]
    cases hnode : fs.node localPath with
    | none =>
        simp only [hnode] at h
        cases h
    | some found =>
        simp only [Option.some.injEq, exists_eq_left']
        cases found with
        | file =>
            simp only [hnode, Except.ok.injEq] at h
            rw [← h]
            apply mem_single_iff
            rw [hroot]
            simp [tidyPieces, relativePath, joinNames, List.splitOnP_nil]
        | dir entries =>
            simp only [hnode] at h
            apply mem_walked_iff h
            intro relative name _ hname
            rw [nameParts_joinArchivePath (by simpa [hnil] using hempty) hname, hroot]
        | other =>
            simp only [hnode, Except.ok.injEq] at h
            simp [← h, Node.files]

theorem mem_sortSources : source ∈ sortSources sources ↔ source ∈ sources :=
  List.mem_insertionSort _

theorem component_valid {path : PathBuf} {name : Text}
    (h : .normal name ∈ components .unix path) :
    name ≠ [] ∧ slash ∉ name ∧ name ≠ [dot] ∧ name ≠ [dot, dot] := by
  have hname := isName_of_mem h
  refine ⟨hname.nonempty, fun hslash => ?_, hname.undotted⟩
  cases hname.slashless slash hslash

theorem labelParts_valid {path : PathBuf} {part : Text} (h : part ∈ labelParts path) :
    part ≠ [] ∧ slash ∉ part ∧ part ≠ [dot] ∧ part ≠ [dot, dot] := by
  have hfold : ∀ (comps : List Component) (parts : List Text),
      part ∈ comps.foldl addComponent parts → part ∈ parts ∨ .normal part ∈ comps := by
    intro comps
    induction comps with
    | nil => exact fun parts h => .inl h
    | cons comp comps ih =>
        intro parts h
        rcases ih _ h with h | h
        · cases comp with
          | normal name =>
              rcases List.mem_append.mp h with h | h
              · exact .inl h
              · obtain rfl := List.mem_singleton.mp h
                exact .inr List.mem_cons_self
          | parentDir => exact .inl (List.dropLast_subset _ h)
          | curDir | rootDir | prefixed pre => exact .inl h
        · exact .inr (List.mem_cons_of_mem _ h)
  rcases hfold _ _ h with h | h
  · cases h
  · exact component_valid h

theorem mem_sendSources {paths : List PathBuf} (h : sendSources fs paths = .ok sources) :
    source ∈ sources ↔ ∃ path ∈ paths, ∃ localPath, resolveSendPath fs path = .ok localPath ∧
      ∃ found, fs.node localPath = some found ∧ ∃ relative ∈ found.files,
        source.2 = localPath ++ relative ∧ nameParts source.1 =
          archiveRoot (labelParts path) localPath ++ tidy (labelParts path) relative := by
  obtain ⟨specs, hspecs, h⟩ := bind_ok h
  obtain ⟨collected, hcollected, h⟩ := bind_ok h
  dsimp only at h
  split at h
  · cases h
  obtain rfl := Except.ok.inj h
  have hvalid : ∀ path, ∀ part ∈ labelParts path, part ≠ [] ∧ slash ∉ part :=
    fun path part hpart => ⟨(labelParts_valid hpart).1, (labelParts_valid hpart).2.1⟩
  rw [mem_sortSources, List.mem_flatten]
  constructor
  · rintro ⟨found, hfound, hsource⟩
    obtain ⟨spec, hspec, hcollect⟩ := (mem_mapM hcollected).mp hfound
    obtain ⟨path, hpath, hprepare⟩ := (mem_mapM hspecs).mp hspec
    obtain ⟨localPath, hlocal, hprepare⟩ := bind_ok hprepare
    obtain rfl := Except.ok.inj hprepare
    exact ⟨path, hpath, localPath, hlocal,
      (mem_collectPathSources (hvalid path) hcollect).mp hsource⟩
  · rintro ⟨path, hpath, localPath, hlocal, hsource⟩
    obtain ⟨spec, hspec, hprepare⟩ := mapM_answered hspecs hpath
    rw [hlocal] at hprepare
    obtain rfl := Except.ok.inj hprepare
    obtain ⟨found, hfound, hcollect⟩ := mapM_answered hcollected hspec
    exact ⟨found, hfound, (mem_collectPathSources (hvalid path) hcollect).mpr hsource⟩

theorem place_slashless {path : PathBuf} {part : Text}
    (h : part ∈ archiveRoot (labelParts path) localPath ++ tidy (labelParts path) relative) :
    slash ∉ part := by
  rcases List.mem_append.mp h with h | h
  · unfold archiveRoot at h
    split at h
    · obtain ⟨last, -, rfl⟩ := by simpa using h
      exact last.slashless
    · exact (labelParts_valid h).2.1
  · unfold tidy at h
    split at h
    · obtain ⟨name, -, rfl⟩ := List.mem_map.mp h
      exact name.slashless
    · intro hslash
      have hpiece := (List.dropWhile_sublist _).subset h
      cases not_sep_of_mem_splitOnP hpiece slash hslash

theorem place_nonempty {path : PathBuf} {found : Node EntryName Text}
    (hnode : fs.node localPath = some found) (hrelative : relative ∈ found.files) :
    archiveRoot (labelParts path) localPath ++ tidy (labelParts path) relative ≠ [] := by
  by_cases hlabel : labelParts path = []
  · cases hlast : localPath.getLast? with
    | some last => simp [archiveRoot, hlabel, hlast]
    | none =>
        -- the root is a directory, and its files have names
        obtain rfl := List.getLast?_eq_none_iff.mp hlast
        obtain rfl := Option.some.inj hnode
        obtain ⟨name, more, rfl, -⟩ := Listing.walk_shape (Node.mem_files_dir.mp hrelative)
        simp [tidy, hlabel]
  · simp [archiveRoot, hlabel]

theorem source_of_file {paths : List PathBuf} (h : sendSources fs paths = .ok sources)
    {path : PathBuf} (hpath : path ∈ paths) (hresolve : resolveSendPath fs path = .ok localPath)
    {found : Node EntryName Text} (hnode : fs.node localPath = some found)
    (hrelative : relative ∈ found.files) :
    ∃ source ∈ sources, source.2 = localPath ++ relative ∧ nameParts source.1 =
      archiveRoot (labelParts path) localPath ++ tidy (labelParts path) relative := by
  have hne := @place_nonempty fs localPath relative path found hnode hrelative
  have hparts := nameParts_joinNames hne fun part => place_slashless
  exact ⟨(joinNames _, localPath ++ relative), (mem_sendSources h).mpr ⟨path, hpath, localPath,
    hresolve, found, hnode, relative, hrelative, rfl, hparts⟩, rfl, hparts⟩

end Sources

end Failsafe.Send.Files
