import Failsafe.Lib.Directory
import Failsafe.Send.FileNames
import Failsafe.Send.Import

/-!
A send from end to end: what stands in the directory of the receiver when the files of a send
were imported (`import_sources`) and exported (`export_collection`,
`failsafe-transport/src/blobs/iroh.rs`), on a file system of Unix without links.
-/

namespace Failsafe.Send.Files

open Failsafe.Lib Failsafe.Lib.Paths Failsafe.Transport

def componentName : Component → Option Text
  | .normal name => some name
  | _ => none

/-- Where a path leads that does not climb. -/
def placeOf (path : PathBuf) : List Text :=
  (components .unix path).filterMap componentName

/-- The files that an export asks the store for, with what the store has for them. -/
def fetchAll (fetch : Text → Option Text) :
    List (Text × PathBuf) → Option (List (List Text × Text))
  | [] => some []
  | (hash, target) :: exports =>
      (fetch hash).bind fun bytes =>
        (fetchAll fetch exports).map fun files => (placeOf target, bytes) :: files

/-- `export_collection` on a tree of files: what it leaves there, unless something fails. -/
def received (fetch : Text → Option Text) (before : Directory Text Text) (base : PathBuf)
    (collection : List (Text × Text)) : Option (Directory Text Text) :=
  (before.createDirAll (placeOf base)).bind fun made =>
    let exported := Transport.exportCollection .unix willing base collection
    match exported.result with
    | .error _ => none
    | .ok _ => (fetchAll fetch exported.exports).bind made.writeFiles

section Export

variable {base : PathBuf} {collection : List (Text × Text)} {fetch : Text → Option Text}
  {before tree : Directory Text Text}

/-- Where a file of a send comes to stand, with its content. -/
def placed (base : PathBuf) (contentOf : LocalPath → Text) (source : Source) : List Text × Text :=
  (placeOf base ++ nameParts source.1, contentOf source.2)

variable {contentOf : LocalPath → Text} {sources : List Source}

end Export

section RoundTrip

variable {fs : FileSystem} {paths : List PathBuf} {sources : List Source} {base : PathBuf}
  {before : Directory Text Text} {fetch : Text → Option Text} {contentOf : LocalPath → Text}
  {collection : List (Text × Text)}

/-- A directory for the files of a send: its path does not climb, nothing is in the way to it, and
below it there is at most what an earlier export of these files has left. -/
structure Ready (sources : List Source) (base : PathBuf) (before : Directory Text Text) :
    Prop where
  descends : .parentDir ∉ components .unix base
  way : ∃ made, before.createDirAll (placeOf base) = some made
  files : ∀ place content, place ≠ [] →
    before.entry (placeOf base ++ place) = some (.file content) →
      ∃ source ∈ sources, nameParts source.1 = place
  dirs : ∀ place, place ≠ [] → before.entry (placeOf base ++ place) = some .dir →
    ∃ source ∈ sources, place <+: nameParts source.1 ∧ place ≠ nameParts source.1

/-- Names that the receiver takes, each for one content, and none on the way to another. -/
structure Deliverable (contentOf : LocalPath → Text) (sources : List Source) : Prop where
  accepted : ∀ source ∈ sources, nameAccepted source.1
  distinct : ∀ source ∈ sources, ∀ other ∈ sources, source.1 = other.1 →
    contentOf source.2 = contentOf other.2
  apart : ∀ source ∈ sources, ∀ other ∈ sources, ¬IsProperPathPrefix source.1 other.1

theorem mem_placed {place : List Text} {bytes : Text} :
    (placeOf base ++ place, bytes) ∈ sources.map (placed base contentOf) ↔
      ∃ source ∈ sources, place = nameParts source.1 ∧ bytes = contentOf source.2 := by
  rw [List.mem_map]
  constructor
  · rintro ⟨source, hsource, hplaced⟩
    obtain ⟨hplace, hbytes⟩ := Prod.mk.inj hplaced
    exact ⟨source, hsource, (List.append_cancel_left hplace).symm, hbytes.symm⟩
  · rintro ⟨source, hsource, rfl, rfl⟩
    exact ⟨source, hsource, rfl⟩

theorem nameParts_ne_nil {name : Text} : nameParts name ≠ [] :=
  List.splitOnP_ne_nil _ _

theorem made_below {made : Directory Text Text}
    (hmade : before.createDirAll (placeOf base) = some made) {place : List Text}
    (hne : place ≠ []) :
    made.entry (placeOf base ++ place) = before.entry (placeOf base ++ place) := by
  apply (Directory.createDirAll_made hmade).kept
  exact Directory.append_not_above hne

theorem made_file {made : Directory Text Text}
    (hmade : before.createDirAll (placeOf base) = some made) {place : List Text} {content : Text}
    (hfile : made.entry (placeOf base ++ place) = some (.file content)) :
    place ≠ [] ∧ before.entry (placeOf base ++ place) = some (.file content) := by
  have hne : place ≠ [] := by
    rintro rfl
    have hdir := (Directory.createDirAll_made hmade).dirs _ List.prefix_rfl
    rw [List.append_nil] at hfile
    rw [hfile] at hdir
    cases hdir
  rw [made_below hmade hne] at hfile
  exact ⟨hne, hfile⟩

theorem Ready.room (hready : Ready sources base before) (h : Deliverable contentOf sources)
    {made : Directory Text Text} (hmade : before.createDirAll (placeOf base) = some made)
    {source : Source} (hsource : source ∈ sources) :
    made.Room (placeOf base ++ nameParts source.1) := by
  constructor
  · intro hdir
    rw [made_below hmade nameParts_ne_nil] at hdir
    obtain ⟨other, hother, hway, hne⟩ := hready.dirs _ nameParts_ne_nil hdir
    exact h.apart source hsource other hother ⟨hway, fun heq => hne (by rw [heq])⟩
  · intro above hway hne content hfile
    rcases List.prefix_or_prefix_of_prefix hway (List.prefix_append _ _) with hup | hdown
    · have hdir := (Directory.createDirAll_made hmade).dirs above hup
      rw [hfile] at hdir
      cases hdir
    · obtain ⟨place, rfl⟩ := hdown
      obtain ⟨hplace, hold⟩ := made_file hmade hfile
      obtain ⟨other, hother, rfl⟩ := hready.files place content hplace hold
      rw [List.prefix_append_right_inj] at hway
      exact h.apart other hother source hsource ⟨hway, fun heq => hne (by rw [heq])⟩

theorem Ready.after (hready : Ready sources base before) {made tree : Directory Text Text}
    {sent : List Source} (hsent : sent ⊆ sources)
    (hmade : before.createDirAll (placeOf base) = some made)
    (hwritten : made.writeFiles (sent.map (placed base contentOf)) = some tree) :
    Ready sources base tree := by
  have hspec := Directory.createDirAll_made hmade
  have hall := Directory.writeFiles_written hwritten
  refine ⟨hready.descends, ?_, ?_, ?_⟩
  · refine Directory.createDirsFrom_isSome tree.root fun path hway content hfile => ?_
    rw [List.nil_append] at hway
    rcases hall.old path content hfile with hmem | hold
    · obtain ⟨source, -, hplaced⟩ := List.mem_map.mp hmem
      rw [← (Prod.mk.inj hplaced).1] at hway
      exact absurd hway (Directory.append_not_above nameParts_ne_nil)
    · rw [hspec.dirs path hway] at hold
      cases hold
  · intro place content hplace hfile
    rcases hall.old _ content hfile with hmem | hold
    · obtain ⟨source, hsource, hname, -⟩ := mem_placed.mp hmem
      exact ⟨source, hsent hsource, hname.symm⟩
    · rw [made_below hmade hplace] at hold
      exact hready.files place content hplace hold
  · intro place hplace hdir
    rcases hall.dirs _ hdir with hdir | ⟨file, hfile, hway, hne⟩
    · rw [made_below hmade hplace] at hdir
      exact hready.dirs place hplace hdir
    · obtain ⟨source, hsource, rfl⟩ := List.mem_map.mp hfile
      exact ⟨source, hsent hsource, (List.prefix_append_right_inj _).mp hway,
        fun hname => hne (by rw [hname]; rfl)⟩

end RoundTrip

section Shelf

end Shelf

end Failsafe.Send.Files
