import Failsafe.Lib.PathPush
import Failsafe.Lib.Utf8
import Mathlib.Data.List.Induction
import Mathlib.Data.List.Nodup
import Mathlib.Logic.Function.Basic

/-!
Writing named files into a directory, on Unix (`failsafe-core/src/path.rs`), and the names that
copied files are given (`failsafe-clipboard/src/feature/outbound.rs`).
-/

namespace Failsafe.Core

open Failsafe.Lib Failsafe.Lib.Paths

/-- `Path::file_name`: the last component, when that is a name. -/
def fileName (path : PathBuf) : Option (List UInt8) :=
  match (components .unix path).getLast? with
  | some (.normal name) => some name
  | _ => none

/-- `unwrap_or("file")`. -/
def baseName (path : PathBuf) : String :=
  ((fileName path).bind Utf8.ofBytes).getD "file"

def sanitizeFilename (name : String) : String :=
  let candidate := baseName name.toUTF8.toList
  if candidate = "" then "file" else candidate

/-- `Path::join` of a name. -/
def joinName (base : PathBuf) (name : String) : PathBuf :=
  push .unix base name.toUTF8.toList

/-- The contents of the files: two paths of the same components lead to one file. -/
abbrev DiskFiles := List Component → Option (List UInt8)

def DiskFiles.write (disk : DiskFiles) (path : PathBuf) (data : List UInt8) : DiskFiles :=
  Function.update disk (components .unix path) (some data)

/-- What creating the directory, and each write in turn, answer. -/
structure WriteAnswers where
  createDir : Except String Unit
  writeFile : Nat → Except String Unit

section

variable (answers : WriteAnswers) (base : PathBuf)

/-- The loop of `write_named_files`. -/
def writeFilesFrom (paths : List PathBuf) :
    Nat → List (String × List UInt8) → DiskFiles → Except String (List PathBuf) × DiskFiles
  | _, [], disk => (.ok paths, disk)
  | index, (name, data) :: files, disk =>
      let path := joinName base (sanitizeFilename name)
      match answers.writeFile index with
      | .error error => (.error error, disk)
      | .ok () => writeFilesFrom (paths ++ [path]) (index + 1) files (disk.write path data)

def writeNamedFiles (files : List (String × List UInt8)) (disk : DiskFiles) :
    Except String (List PathBuf) × DiskFiles :=
  match answers.createDir with
  | .error error => (.error error, disk)
  | .ok () => writeFilesFrom answers base [] 0 files disk

end

section Names

variable {name : String}

theorem isName_file : IsName "file".toUTF8.toList := by
  refine ⟨by decide +kernel, by decide +kernel, by decide +kernel⟩

theorem isName_of_fileName {path : PathBuf} {found : List UInt8} (h : fileName path = some found) :
    IsName found := by
  unfold fileName at h
  split at h
  · next hlast =>
      obtain rfl := Option.some.inj h
      exact isName_of_mem (List.mem_of_getLast? hlast)
  · cases h

theorem isName_baseName (path : PathBuf) : IsName (baseName path).toUTF8.toList := by
  unfold baseName
  cases hname : (fileName path).bind Utf8.ofBytes with
  | none => exact isName_file
  | some text =>
      obtain ⟨found, hfile, hstr⟩ := Option.bind_eq_some_iff.mp hname
      rw [Option.getD_some, Utf8.ofBytes_eq_some_iff.mp hstr]
      exact isName_of_fileName hfile

theorem sanitizeFilename_eq (name : String) :
    sanitizeFilename name = baseName name.toUTF8.toList := by
  refine if_neg fun hempty => (isName_baseName name.toUTF8.toList).nonempty ?_
  rw [hempty]
  decide +kernel

theorem baseName_joinName (base : PathBuf) (h : IsName name.toUTF8.toList) :
    baseName (joinName base name) = name := by
  have hfile : fileName (joinName base name) = some name.toUTF8.toList := by
    rw [fileName, joinName, h.components_push, List.getLast?_concat]
  rw [baseName, hfile, Option.bind_some, Utf8.ofBytes_toList, Option.getD_some]

theorem baseName_baseName (path : PathBuf) :
    sanitizeFilename (baseName path) = baseName path := by
  have hname := isName_baseName path
  have hfile : fileName (baseName path).toUTF8.toList = some (baseName path).toUTF8.toList := by
    rw [fileName, hname.components, List.getLast?_singleton]
  rw [sanitizeFilename_eq, baseName, hfile, Option.bind_some, Utf8.ofBytes_toList,
    Option.getD_some]

end Names

section Written

variable {answers : WriteAnswers} {base : PathBuf} {files : List (String × List UInt8)}
  {disk disk' : DiskFiles} {paths written : List PathBuf} {index : Nat}

/-- Where a file of this name goes. -/
def targetOf (base : PathBuf) (name : String) : PathBuf :=
  joinName base (sanitizeFilename name)

theorem components_targetOf (base : PathBuf) (name : String) :
    components .unix (targetOf base name) =
      components .unix base ++ [.normal (sanitizeFilename name).toUTF8.toList] := by
  rw [targetOf, sanitizeFilename_eq]
  exact (isName_baseName _).components_push base

/-- The writes, one after the other. -/
def writeAll (base : PathBuf) (files : List (String × List UInt8)) (disk : DiskFiles) :
    DiskFiles :=
  files.foldl (fun disk file => disk.write (targetOf base file.1) file.2) disk

theorem writeFilesFrom_ok
    (h : writeFilesFrom answers base paths index files disk = (.ok written, disk')) :
    written = paths ++ files.map (fun file => targetOf base file.1) ∧
      disk' = writeAll base files disk := by
  induction files generalizing paths index disk with
  | nil =>
      obtain ⟨hpaths, rfl⟩ := Prod.mk.inj h
      obtain rfl := Except.ok.inj hpaths
      exact ⟨by simp, rfl⟩
  | cons file files ih =>
      unfold writeFilesFrom at h
      dsimp only at h
      split at h
      · cases (Prod.mk.inj h).1
      · obtain ⟨hwritten, hdisk⟩ := ih h
        exact ⟨by rw [hwritten]; simp [targetOf], hdisk⟩

theorem writeNamedFiles_ok (h : writeNamedFiles answers base files disk = (.ok written, disk')) :
    written = files.map (fun file => targetOf base file.1) ∧ disk' = writeAll base files disk := by
  unfold writeNamedFiles at h
  split at h
  · cases (Prod.mk.inj h).1
  · simpa using writeFilesFrom_ok h

/-- Every file is in the directory, at a path of its own and with its data. -/
structure Kept (base : PathBuf) (files : List (String × List UInt8)) (paths : List PathBuf)
    (disk : DiskFiles) : Prop where
  length : paths.length = files.length
  distinct : (paths.map (components .unix)).Nodup
  children : ∀ path ∈ paths, ∃ name,
    components .unix path = components .unix base ++ [.normal name]
  contents : List.Forall₂ (fun file path => disk (components .unix path) = some file.2) files paths

theorem writeAll_other {key : List Component}
    (h : ∀ file ∈ files, key ≠ components .unix (targetOf base file.1)) :
    writeAll base files disk key = disk key := by
  induction files generalizing disk with
  | nil => rfl
  | cons file files ih =>
      rw [writeAll, List.foldl_cons, ← writeAll,
        ih fun other hother => h other (List.mem_cons_of_mem _ hother)]
      exact Function.update_of_ne (h file List.mem_cons_self) _ _

theorem writeAll_contents
    (h : (files.map fun file => components .unix (targetOf base file.1)).Nodup) :
    List.Forall₂ (fun file path => writeAll base files disk (components .unix path) = some file.2)
      files (files.map fun file => targetOf base file.1) := by
  induction files generalizing disk with
  | nil => exact .nil
  | cons file files ih =>
      rw [List.map_cons, List.nodup_cons] at h
      constructor
      · rw [writeAll, List.foldl_cons, ← writeAll, writeAll_other]
        · exact Function.update_self _ _ _
        · intro other hother heq
          exact h.1 (List.mem_map.mpr ⟨other, hother, heq.symm⟩)
      · exact ih h.2

theorem child_injective (base : PathBuf) : Function.Injective fun name : String =>
    components .unix base ++ [Component.normal name.toUTF8.toList] := by
  intro name other heq
  have hlast := List.append_cancel_left heq
  rw [List.cons.injEq, Component.normal.injEq] at hlast
  exact Utf8.toList_injective hlast.1

theorem components_targetOf_inj {name other : String}
    (h : components .unix (targetOf base name) = components .unix (targetOf base other)) :
    sanitizeFilename name = sanitizeFilename other := by
  rw [components_targetOf, components_targetOf] at h
  exact child_injective base h

theorem exists_written (base : PathBuf) (disk : DiskFiles) {file : String × List UInt8}
    (h : file ∈ files) :
    ∃ other ∈ files, sanitizeFilename other.1 = sanitizeFilename file.1 ∧
      writeAll base files disk (components .unix (targetOf base file.1)) = some other.2 := by
  induction files using List.reverseRecOn with
  | nil => cases h
  | append_singleton files last ih =>
      rw [writeAll, List.foldl_append, ← writeAll]
      by_cases hsame : sanitizeFilename last.1 = sanitizeFilename file.1
      · refine ⟨last, List.mem_append_right _ (List.mem_singleton_self last), hsame, ?_⟩
        rw [targetOf, ← hsame]
        exact Function.update_self _ _ _
      · have hfile : file ∈ files := by
          rcases List.mem_append.mp h with hfile | hlast
          · exact hfile
          · rw [List.mem_singleton.mp hlast] at hsame
            exact absurd rfl hsame
        obtain ⟨other, hother, hname, hwritten⟩ := ih hfile
        refine ⟨other, List.mem_append_left _ hother, hname, ?_⟩
        rw [← hwritten]
        exact Function.update_of_ne (fun heq => hsame (components_targetOf_inj heq).symm) _ _

theorem nodup_targets_iff (base : PathBuf) :
    (files.map fun file => components .unix (targetOf base file.1)).Nodup ↔
      (files.map fun file => sanitizeFilename file.1).Nodup := by
  have hmap : (files.map fun file => components .unix (targetOf base file.1)) =
      (files.map fun file => sanitizeFilename file.1).map fun name =>
        components .unix base ++ [.normal name.toUTF8.toList] := by
    simp [components_targetOf]
  rw [hmap, List.nodup_map_iff (child_injective base)]

theorem kept_iff (h : writeNamedFiles answers base files disk = (.ok written, disk')) :
    Kept base files written disk' ↔ (files.map fun file => sanitizeFilename file.1).Nodup := by
  obtain ⟨rfl, rfl⟩ := writeNamedFiles_ok h
  rw [← nodup_targets_iff base]
  constructor
  · intro hkept
    have hdistinct := hkept.distinct
    rwa [List.map_map, Function.comp_def] at hdistinct
  · intro hnodup
    refine ⟨List.length_map _, ?_, ?_, writeAll_contents hnodup⟩
    · rwa [List.map_map, Function.comp_def]
    · intro path hpath
      obtain ⟨file, -, rfl⟩ := List.mem_map.mp hpath
      exact ⟨_, components_targetOf base file.1⟩

/-- The files of `content_to_payload`, by the paths that were copied. -/
def copiedFiles (copied : List (PathBuf × List UInt8)) : List (String × List UInt8) :=
  copied.map fun file => (baseName file.1, file.2)

theorem names_copiedFiles (copied : List (PathBuf × List UInt8)) :
    ((copiedFiles copied).map fun file => sanitizeFilename file.1) =
      copied.map fun file => baseName file.1 := by
  rw [copiedFiles, List.map_map]
  refine List.map_congr_left fun file _ => ?_
  exact baseName_baseName file.1

/-- Files that were written are kept exactly if no two of them have the same base name, and so
for files that were copied elsewhere. -/
theorem files_kept_iff (answers : WriteAnswers) (base : PathBuf) (disk disk' : DiskFiles)
    (paths : List PathBuf) :
    (∀ files, writeNamedFiles answers base files disk = (.ok paths, disk') →
      (Kept base files paths disk' ↔ (files.map fun file => sanitizeFilename file.1).Nodup)) ∧
    (∀ copied, writeNamedFiles answers base (copiedFiles copied) disk = (.ok paths, disk') →
      (Kept base (copiedFiles copied) paths disk' ↔
        (copied.map fun file => baseName file.1).Nodup)) := by
  constructor
  · intro files hwrite
    exact kept_iff hwrite
  · intro copied hwrite
    rw [← names_copiedFiles]
    exact kept_iff hwrite

/-- A disk on which everything can be written. -/
def roomy : WriteAnswers where
  createDir := .ok ()
  writeFile _ := .ok ()

/-- Two files of one name, copied from two directories. -/
def namesakes : List (PathBuf × List UInt8) :=
  [("/a/x.txt".toUTF8.toList, [1]), ("/b/x.txt".toUTF8.toList, [2])]

/-- Two files with names of their own. -/
def neighbours : List (PathBuf × List UInt8) :=
  [("/a/x.txt".toUTF8.toList, [1]), ("/a/y.txt".toUTF8.toList, [2])]

theorem neighbours_kept :
    ∃ paths disk', writeNamedFiles roomy "/cache".toUTF8.toList (copiedFiles neighbours)
        (fun _ => none) = (.ok paths, disk') ∧
      (Kept "/cache".toUTF8.toList (copiedFiles neighbours) paths disk' ↔
        ((copiedFiles neighbours).map fun file => sanitizeFilename file.1).Nodup) ∧
      (Kept "/cache".toUTF8.toList (copiedFiles neighbours) paths disk' ↔
        (neighbours.map fun file => baseName file.1).Nodup) :=
  ⟨_, _, rfl, (files_kept_iff roomy _ _ _ _).1 _ rfl, (files_kept_iff roomy _ _ _ _).2 _ rfl⟩

/-- The second file is written over the first. -/
theorem namesake_overwritten :
    ∃ paths disk', writeNamedFiles roomy "/cache".toUTF8.toList (copiedFiles namesakes)
        (fun _ => none) = (.ok paths, disk') ∧
      paths = ["/cache/x.txt".toUTF8.toList, "/cache/x.txt".toUTF8.toList] ∧
      disk' (components .unix "/cache/x.txt".toUTF8.toList) = some [2] ∧
      ¬Kept "/cache".toUTF8.toList (copiedFiles namesakes) paths disk' := by
  have hpaths : (writeNamedFiles roomy "/cache".toUTF8.toList (copiedFiles namesakes)
      (fun _ => none)).1 = .ok ["/cache/x.txt".toUTF8.toList, "/cache/x.txt".toUTF8.toList] := by
    decide +kernel
  refine ⟨["/cache/x.txt".toUTF8.toList, "/cache/x.txt".toUTF8.toList], _,
    Prod.ext hpaths rfl, rfl, by decide +kernel, ?_⟩
  intro hkept
  exact absurd hkept.distinct (by decide +kernel)

end Written

end Failsafe.Core
