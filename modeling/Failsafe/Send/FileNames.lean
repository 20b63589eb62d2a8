import Failsafe.Send.Files

/-!
The names of a send: when the receiver accepts them all, and when each is of one file alone.
-/

namespace Failsafe.Send.Files

open Failsafe.Lib Failsafe.Lib.Paths Failsafe.Transport

/-- A relative path whose pieces, between separators of either kind, can be names of files. -/
def Presentable (relative : List EntryName) : Prop :=
  ∀ piece ∈ tidyPieces relative, piece ≠ [] ∧ piece ≠ [dot] ∧ piece ≠ [dot, dot]

section Accepted

variable {fs : FileSystem} {paths : List PathBuf} {sources : List Source} {name : Text}

theorem nameAccepted_iff : nameAccepted name ↔
    ∀ part ∈ nameParts name, part ≠ [] ∧ part ≠ [dot] ∧ part ≠ [dot, dot] := by
  simp [nameAccepted, and_assoc]

theorem exportTarget_accepts_iff : (∀ platform base, ∃ target,
    exportTarget platform base name = .ok target) ↔ nameAccepted name := by
  constructor
  · intro h
    obtain ⟨target, htarget⟩ := h .unix []
    exact (exportTarget_ok_iff.mp htarget).1
  · intro h platform base
    exact ⟨_, exportTarget_ok_iff.mpr ⟨h, rfl⟩⟩

theorem archiveRoot_valid {path : PathBuf} {localPath : LocalPath} {part : Text}
    (h : part ∈ archiveRoot (labelParts path) localPath) :
    part ≠ [] ∧ part ≠ [dot] ∧ part ≠ [dot, dot] := by
  unfold archiveRoot at h
  split at h
  · obtain ⟨last, -, rfl⟩ := by simpa using h
    exact ⟨last.nonempty, last.named⟩
  · obtain ⟨hne, -, hdots⟩ := labelParts_valid h
    exact ⟨hne, hdots⟩

/-- Every name of a send passes the receiver's check exactly when the files below each listed
directory with a label have presentable paths. -/
theorem names_accepted_iff (h : sendSources fs paths = .ok sources) :
    (∀ source ∈ sources, ∀ platform base, ∃ target,
      exportTarget platform base source.1 = .ok target) ↔
        ∀ path ∈ paths, labelParts path ≠ [] → ∀ localPath entries,
          resolveSendPath fs path = .ok localPath → fs.node localPath = some (.dir entries) →
            ∀ relative ∈ (Node.dir entries).files, Presentable relative := by
  constructor
  · intro hall path hpath hlabel localPath entries hresolve hnode relative hrelative piece hpiece
    obtain ⟨source, hsource, -, hparts⟩ := source_of_file h hpath hresolve hnode hrelative
    have haccepted := nameAccepted_iff.mp (exportTarget_accepts_iff.mp (hall source hsource))
    exact haccepted piece (by simp [hparts, tidy, hlabel, hpiece])
  · intro hall source hsource
    rw [exportTarget_accepts_iff, nameAccepted_iff]
    intro part hpart
    obtain ⟨path, hpath, localPath, hresolve, found, hnode, relative, hrelative, -, hparts⟩ :=
      (mem_sendSources h).mp hsource
    rw [hparts] at hpart
    rcases List.mem_append.mp hpart with hpart | hpart
    · exact archiveRoot_valid hpart
    · unfold tidy at hpart
      split at hpart
      · obtain ⟨entry, -, rfl⟩ := List.mem_map.mp hpart
        exact ⟨entry.nonempty, entry.named⟩
      · next hlabel =>
          cases found with
          | file =>
              obtain rfl : relative = [] := by simpa [Node.files] using hrelative
              simp [tidyPieces, relativePath, joinNames, List.splitOnP_nil] at hpart
          | dir entries =>
              exact hall path hpath hlabel localPath entries hresolve hnode relative hrelative
                part hpart
          | other => cases hrelative

end Accepted

section Shelf

def shelf : EntryName :=
  { bytes := text "shelf"
    nonempty := by decide +kernel
    slashless := by decide +kernel
    nulless := by decide +kernel
    named := by decide +kernel }

def plain : EntryName :=
  { bytes := text "plain"
    nonempty := by decide +kernel
    slashless := by decide +kernel
    nulless := by decide +kernel
    named := by decide +kernel }

/-- A name of Unix that ends in a backslash. -/
def slanted : EntryName :=
  { bytes := text "slanted\\"
    nonempty := by decide +kernel
    slashless := by decide +kernel
    nulless := by decide +kernel
    named := by decide +kernel }

/-- The root with one directory, and a file in that. -/
def shelfOf (name : EntryName) : FileSystem where
  root := .dir shelf (.file name .nil) .nil
  distinct := by simp [Listing.Distinct, Listing.names]
  currentDir := .ok (text "/")
  canonicalize path := if path = text "/shelf" then .ok [shelf] else .error (text "not found")

theorem plain_shelf_accepted :
    sendSources (shelfOf plain) [text "shelf"] =
        .ok [(text "shelf/plain", [shelf, plain])] ∧
      ∀ platform base, ∃ target,
        exportTarget platform base (text "shelf/plain") = .ok target := by
  have hsources : sendSources (shelfOf plain) [text "shelf"] =
      .ok [(text "shelf/plain", [shelf, plain])] := by decide +kernel
  refine ⟨hsources, (names_accepted_iff hsources).mpr ?_ _ List.mem_cons_self⟩
  intro path hpath _ localPath entries hresolve hnode relative hrelative
  obtain rfl := List.mem_singleton.mp hpath
  have hlocal : resolveSendPath (shelfOf plain) (text "shelf") = .ok [shelf] := by decide +kernel
  obtain rfl := Except.ok.inj (hlocal.symm.trans hresolve)
  have hdir : (shelfOf plain).node [shelf] = some (.dir (.file plain .nil)) := by decide +kernel
  obtain rfl := Node.dir.inj (Option.some.inj (hdir.symm.trans hnode))
  obtain rfl : relative = [plain] := List.mem_singleton.mp hrelative
  have hpieces : tidyPieces [plain] = [text "plain"] := by decide +kernel
  intro piece hpiece
  rw [hpieces, List.mem_singleton] at hpiece
  rw [hpiece]
  decide +kernel

/-- A file whose name ends in a backslash is sent under a name that no receiver takes. -/
theorem slanted_shelf_rejected :
    sendSources (shelfOf slanted) [text "shelf"] =
        .ok [(text "shelf/slanted/", [shelf, slanted])] ∧
      ∀ base, exportTarget .unix base (text "shelf/slanted/") =
        .error (invalidComponent []) := by
  constructor
  · decide +kernel
  · intro base
    have hparts : nameParts (text "shelf/slanted/") = [text "shelf", text "slanted", []] := by
      decide +kernel
    rw [exportTarget, hparts, exportParts, if_neg (by decide +kernel), exportParts,
      if_neg (by decide +kernel), exportParts, if_pos (by decide)]

end Shelf

section Overlap

/-- A path of the send: the parts of its label, and what it leads to. -/
structure Listed where
  parts : List Text
  localPath : LocalPath
  found : Node EntryName Text

namespace Listed

/-- Where in the collection its files stand. -/
def root (listed : Listed) : List Text :=
  archiveRoot listed.parts listed.localPath

/-- Where a file stands below that. -/
def place (listed : Listed) (relative : List EntryName) : List Text :=
  tidy listed.parts relative

/-- No file below it has a backslash that is rewritten. -/
def Unrewritten (listed : Listed) : Prop :=
  listed.parts ≠ [] → ∀ relative ∈ listed.found.files, ∀ name ∈ relative, backslash ∉ name.bytes

/-- Paths that are nested on the disk as they are in the collection, without renamed files. -/
structure Aligned (listed other : Listed) (below : List Text) : Prop where
  nested : other.localPath.map EntryName.bytes = listed.localPath.map EntryName.bytes ++ below
  unrewritten : listed.Unrewritten
  other_unrewritten : other.Unrewritten

end Listed

open Listed

variable {fs : FileSystem} {paths : List PathBuf} {sources : List Source}

/-- A name that is that of a directory above the other. -/
def IsProperPathPrefix (name other : Text) : Prop :=
  nameParts name <+: nameParts other ∧ name ≠ other

def note : EntryName :=
  { bytes := text "note"
    nonempty := by decide +kernel
    slashless := by decide +kernel
    nulless := by decide +kernel
    named := by decide +kernel }

end Overlap

end Failsafe.Send.Files
