import Mathlib.Data.List.Infix
import Mathlib.Data.List.Induction
import Mathlib.Logic.Function.Basic

/-!
A tree of directories that files are written into, with the directories on their way.
-/

namespace Failsafe.Lib

inductive Entry (β : Type) where
  | dir
  | file (content : β)
deriving DecidableEq, Repr

/-- What stands at each path. Whatever there is stands in a directory. -/
structure Directory (ν β : Type) where
  entry : List ν → Option (Entry β)
  root : entry [] = some .dir
  closed : ∀ above name, entry (above ++ [name]) ≠ none → entry above = some .dir

namespace Directory

variable {ν β : Type}

def isDir (tree : Directory ν β) (path : List ν) : Bool :=
  match tree.entry path with
  | some .dir => true
  | _ => false

theorem isDir_iff {tree : Directory ν β} {path : List ν} :
    tree.isDir path = true ↔ tree.entry path = some .dir := by
  unfold isDir
  split
  · next hdir => simp [hdir]
  · next hother => simpa using hother

/-- The root alone. -/
def empty : Directory ν β where
  entry path := if path.isEmpty then some .dir else none
  root := rfl
  closed above name h := by
    rw [if_neg (by simp)] at h
    exact absurd rfl h

theorem entry_above (tree : Directory ν β) {above path : List ν} (hway : above <+: path)
    (hne : above ≠ path) (hpath : tree.entry path ≠ none) : tree.entry above = some .dir := by
  induction path using List.reverseRecOn with
  | nil => exact absurd (List.prefix_nil.mp hway) hne
  | append_singleton path name ih =>
      have hdir := tree.closed path name hpath
      rcases List.prefix_concat_iff.mp hway with heq | hway
      · exact absurd heq hne
      · by_cases hsame : above = path
        · rw [hsame, hdir]
        · exact ih hway hsame (by rw [hdir]; simp)

variable [DecidableEq ν]

section Put

variable {tree : Directory ν β} {above : List ν} {name : ν} {entry : Entry β}

theorem put_root (htree : tree.entry [] = some .dir) :
    Function.update tree.entry (above ++ [name]) (some entry) [] = some .dir := by
  rw [Function.update_of_ne (by simp), htree]

theorem put_closed (hparent : tree.isDir above = true)
    (hfree : ¬tree.isDir (above ++ [name]) = true) (path : List ν) (other : ν)
    (h : Function.update tree.entry (above ++ [name]) (some entry) (path ++ [other]) ≠ none) :
    Function.update tree.entry (above ++ [name]) (some entry) path = some .dir := by
  have hpath : tree.entry path = some .dir := by
    by_cases hsame : path ++ [other] = above ++ [name]
    · obtain ⟨rfl, -⟩ := List.append_inj' hsame rfl
      exact isDir_iff.mp hparent
    · rw [Function.update_of_ne hsame] at h
      exact tree.closed path other h
  rw [Function.update_of_ne, hpath]
  rintro rfl
  exact hfree (isDir_iff.mpr hpath)

/-- An entry where no directory stands, in a directory. -/
def put (tree : Directory ν β) (above : List ν) (name : ν) (entry : Entry β)
    (hparent : tree.isDir above = true) (hfree : ¬tree.isDir (above ++ [name]) = true) :
    Directory ν β where
  entry := Function.update tree.entry (above ++ [name]) (some entry)
  root := put_root tree.root
  closed := put_closed hparent hfree

end Put

/-- Make a directory, unless it is there. -/
def createDir (tree : Directory ν β) (above : List ν) (name : ν) : Option (Directory ν β) :=
  if h : tree.isDir above = true ∧ ¬tree.isDir (above ++ [name]) = true then
    if (tree.entry (above ++ [name])).isNone then some (tree.put above name .dir h.1 h.2)
    else none
  else if tree.isDir (above ++ [name]) then some tree
  else none

/-- Create or replace a file. -/
def write (tree : Directory ν β) (above : List ν) (name : ν) (content : β) :
    Option (Directory ν β) :=
  if h : tree.isDir above = true ∧ ¬tree.isDir (above ++ [name]) = true then
    some (tree.put above name (.file content) h.1 h.2)
  else none

def createDirsFrom (tree : Directory ν β) (above : List ν) : List ν → Option (Directory ν β)
  | [] => some tree
  | name :: rest =>
      (tree.createDir above name).bind fun made => made.createDirsFrom (above ++ [name]) rest

/-- Make a directory, and those above it. -/
def createDirAll (tree : Directory ν β) (path : List ν) : Option (Directory ν β) :=
  tree.createDirsFrom [] path

/-- Make the directories on the way to a file, and write it. -/
def writeFile (tree : Directory ν β) (place : List ν) (content : β) : Option (Directory ν β) :=
  match place.getLast? with
  | none => none
  | some name =>
      (tree.createDirAll place.dropLast).bind fun made => made.write place.dropLast name content

def writeFiles (tree : Directory ν β) : List (List ν × β) → Option (Directory ν β)
  | [] => some tree
  | (place, content) :: files =>
      (tree.writeFile place content).bind fun written => written.writeFiles files

variable {tree tree' made : Directory ν β} {above path place rest : List ν} {name : ν}
  {content : β} {files : List (List ν × β)}

theorem createDir_entry (h : tree.createDir above name = some made) (path : List ν) :
    made.entry path = if path = above ++ [name] then some .dir else tree.entry path := by
  unfold createDir at h
  split at h
  · split at h
    · obtain rfl := Option.some.inj h
      simp [put, Function.update_apply]
    · cases h
  · split at h
    · next hdir =>
        obtain rfl := Option.some.inj h
        split
        · next hsame => rw [hsame, isDir_iff.mp hdir]
        · rfl
    · cases h

theorem createDir_isSome_iff (habove : tree.entry above = some .dir) :
    (∃ made, tree.createDir above name = some made) ↔
      ∀ content, tree.entry (above ++ [name]) ≠ some (.file content) := by
  have hparent := isDir_iff.mpr habove
  unfold createDir
  cases hentry : tree.entry (above ++ [name]) with
  | none =>
      have hfree : ¬tree.isDir (above ++ [name]) = true := by simp [isDir_iff, hentry]
      simp [hparent, hfree]
  | some entry =>
      cases entry with
      | dir =>
          have hdir : tree.isDir (above ++ [name]) = true := isDir_iff.mpr hentry
          simp [hdir]
      | file content =>
          have hfree : ¬tree.isDir (above ++ [name]) = true := by simp [isDir_iff, hentry]
          simp [hparent, hfree]

/-- What making directories comes to: they are there, where no file stood, and nothing else has
changed. -/
structure Made (tree : Directory ν β) (path : List ν) (made : Directory ν β) : Prop where
  dirs : ∀ above, above <+: path → made.entry above = some .dir
  unfiled : ∀ above, above <+: path → ∀ content, tree.entry above ≠ some (.file content)
  kept : ∀ other, ¬other <+: path → made.entry other = tree.entry other

omit [DecidableEq ν] in
theorem made_self (hpath : tree.entry path = some .dir) : Made tree path tree := by
  have hdirs : ∀ above, above <+: path → tree.entry above = some .dir := by
    intro above hway
    by_cases hsame : above = path
    · rw [hsame, hpath]
    · exact tree.entry_above hway hsame (by rw [hpath]; simp)
  refine ⟨hdirs, fun above hway content hfile => ?_, fun _ _ => rfl⟩
  rw [hdirs above hway] at hfile
  cases hfile

theorem createDirsFrom_made (habove : tree.entry above = some .dir)
    (h : tree.createDirsFrom above rest = some made) : Made tree (above ++ rest) made := by
  induction rest generalizing tree above with
  | nil =>
      obtain rfl := Option.some.inj h
      rw [List.append_nil]
      exact made_self habove
  | cons name rest ih =>
      obtain ⟨next, hnext, h⟩ := Option.bind_eq_some_iff.mp h
      have hentry := createDir_entry hnext
      have hlater := ih (by rw [hentry, if_pos rfl]) h
      rw [List.append_assoc, List.singleton_append] at hlater
      have hunfiled := (createDir_isSome_iff habove).mp ⟨next, hnext⟩
      refine ⟨hlater.dirs, fun other hway content hfile => ?_, fun other hother => ?_⟩
      · by_cases hsame : other = above ++ [name]
        · exact hunfiled content (hsame ▸ hfile)
        · apply hlater.unfiled other hway content
          rw [hentry, if_neg hsame, hfile]
      · rw [hlater.kept other hother, hentry, if_neg]
        rintro rfl
        exact hother ⟨rest, by simp⟩

theorem createDirsFrom_isSome (habove : tree.entry above = some .dir)
    (hunfiled : ∀ path, path <+: above ++ rest → ∀ content,
      tree.entry path ≠ some (.file content)) :
    ∃ made, tree.createDirsFrom above rest = some made := by
  induction rest generalizing tree above with
  | nil => exact ⟨tree, rfl⟩
  | cons name rest ih =>
      obtain ⟨next, hnext⟩ := (createDir_isSome_iff habove).mpr
        (hunfiled (above ++ [name]) ⟨rest, by simp⟩)
      have hentry := createDir_entry hnext
      obtain ⟨made, hmade⟩ := @ih next (above ++ [name]) (by rw [hentry, if_pos rfl]) (by
        intro path hway content hfile
        rw [hentry] at hfile
        split at hfile
        · cases hfile
        · exact hunfiled path (by simpa using hway) content hfile)
      exact ⟨made, by rw [createDirsFrom, hnext]; exact hmade⟩

theorem createDirAll_made (h : tree.createDirAll path = some made) : Made tree path made :=
  createDirsFrom_made tree.root h

/-- A file can be written to this place. -/
structure Room (tree : Directory ν β) (place : List ν) : Prop where
  undirected : tree.entry place ≠ some .dir
  unfiled : ∀ above, above <+: place → above ≠ place → ∀ content,
    tree.entry above ≠ some (.file content)

/-- What writing a file comes to. -/
structure Written (tree : Directory ν β) (place : List ν) (content : β)
    (tree' : Directory ν β) : Prop where
  room : tree.Room place
  file : tree'.entry place = some (.file content)
  dirs : ∀ above, above <+: place → above ≠ place → tree'.entry above = some .dir
  kept : ∀ other, ¬other <+: place → tree'.entry other = tree.entry other

theorem write_entry (h : tree.write above name content = some tree') (path : List ν) :
    tree'.entry path =
      if path = above ++ [name] then some (.file content) else tree.entry path := by
  unfold write at h
  split at h
  · obtain rfl := Option.some.inj h
    simp [put, Function.update_apply]
  · cases h

theorem write_isSome_iff (habove : tree.entry above = some .dir) :
    (∃ tree', tree.write above name content = some tree') ↔
      tree.entry (above ++ [name]) ≠ some .dir := by
  have hparent := isDir_iff.mpr habove
  unfold write
  by_cases hdir : tree.isDir (above ++ [name]) = true
  · simp [hdir, isDir_iff.mp hdir]
  · have hentry : tree.entry (above ++ [name]) ≠ some .dir := fun h => hdir (isDir_iff.mpr h)
    simp [hparent, hdir, hentry]

omit [DecidableEq ν] in
theorem append_not_above (hrest : rest ≠ []) : ¬above ++ rest <+: above := by
  intro hway
  have hlength := hway.length_le
  have hpositive := List.length_pos_iff.mpr hrest
  rw [List.length_append] at hlength
  omega

omit [DecidableEq ν] in
theorem concat_not_above : ¬above ++ [name] <+: above :=
  append_not_above (List.cons_ne_nil name [])

omit [DecidableEq ν] in
theorem proper_prefix_concat :
    path <+: above ++ [name] ∧ path ≠ above ++ [name] ↔ path <+: above := by
  constructor
  · rintro ⟨hway, hne⟩
    exact (List.prefix_concat_iff.mp hway).resolve_left hne
  · intro hway
    refine ⟨hway.trans (List.prefix_append _ _), ?_⟩
    rintro rfl
    exact concat_not_above hway

theorem writeFile_written (h : tree.writeFile place content = some tree') :
    Written tree place content tree' := by
  induction place using List.reverseRecOn with
  | nil => cases h
  | append_singleton above name =>
      simp only [writeFile, List.getLast?_append, List.getLast?_singleton, Option.some_or,
        List.dropLast_concat] at h
      obtain ⟨made, hmade, hwrite⟩ := Option.bind_eq_some_iff.mp h
      have hspec := createDirAll_made hmade
      have hentry := write_entry hwrite
      have hfree := (write_isSome_iff (hspec.dirs above List.prefix_rfl)).mp ⟨tree', hwrite⟩
      rw [hspec.kept _ concat_not_above] at hfree
      refine ⟨⟨hfree, fun other hway hne => ?_⟩, ?_, fun other hway hne => ?_,
        fun other hother => ?_⟩
      · exact hspec.unfiled other (proper_prefix_concat.mp ⟨hway, hne⟩)
      · rw [hentry, if_pos rfl]
      · rw [hentry, if_neg hne, hspec.dirs other (proper_prefix_concat.mp ⟨hway, hne⟩)]
      · have hne : other ≠ above ++ [name] := by
          rintro rfl
          exact hother List.prefix_rfl
        rw [hentry, if_neg hne, hspec.kept other]
        exact fun hway => hother (hway.trans (List.prefix_append _ _))

theorem Written.entry (h : Written tree place content tree') (path : List ν) :
    tree'.entry path =
      if path = place then some (.file content)
      else if path <+: place then some .dir else tree.entry path := by
  split
  · next hsame => rw [hsame, h.file]
  · next hne =>
      split
      · next hway => exact h.dirs path hway hne
      · next hother => exact h.kept path hother

theorem Written.file_stays (h : Written tree place content tree') {path : List ν} {old : β}
    (hfile : tree.entry path = some (.file old)) : ∃ later, tree'.entry path = some (.file later) ∧
      (later = old ∨ path = place ∧ later = content) := by
  rw [h.entry]
  split
  · next hsame => exact ⟨content, rfl, .inr ⟨hsame, rfl⟩⟩
  · next hne =>
      split
      · next hway => exact absurd hfile (h.room.unfiled path hway hne old)
      · exact ⟨old, hfile, .inl rfl⟩

/-- Files are where they were written, with what was written there, or where they were, and
directories are on the way to them. -/
structure AllWritten (tree : Directory ν β) (files : List (List ν × β))
    (tree' : Directory ν β) : Prop where
  written : ∀ file ∈ files, ∃ content, tree'.entry file.1 = some (.file content) ∧
    (file.1, content) ∈ files
  old : ∀ path content, tree'.entry path = some (.file content) →
    (path, content) ∈ files ∨ tree.entry path = some (.file content)
  stays : ∀ path content, tree.entry path = some (.file content) →
    ∃ later, tree'.entry path = some (.file later) ∧ (later = content ∨ (path, later) ∈ files)
  dirs : ∀ path, tree'.entry path = some .dir →
    tree.entry path = some .dir ∨ ∃ file ∈ files, path <+: file.1 ∧ path ≠ file.1
  kept : ∀ path, (∀ file ∈ files, ¬path <+: file.1) → tree'.entry path = tree.entry path

omit [DecidableEq ν] in
theorem AllWritten.nil : AllWritten tree [] tree :=
  ⟨fun _ hfile => absurd hfile List.not_mem_nil, fun _ _ => .inr,
    fun _ content hfile => ⟨content, hfile, .inl rfl⟩, fun _ => .inl, fun _ _ => rfl⟩

theorem AllWritten.cons {next : Directory ν β} (hfirst : Written tree place content next)
    (hlater : AllWritten next files tree') :
    AllWritten tree ((place, content) :: files) tree' := by
  refine ⟨?_, ?_, ?_, ?_, ?_⟩
  · intro file hfile
    rcases List.mem_cons.mp hfile with rfl | hfile
    · obtain ⟨later, hentry, hsame | hmem⟩ := hlater.stays place content hfirst.file
      · exact ⟨later, hentry, by rw [hsame]; exact List.mem_cons_self⟩
      · exact ⟨later, hentry, List.mem_cons_of_mem _ hmem⟩
    · obtain ⟨later, hentry, hmem⟩ := hlater.written file hfile
      exact ⟨later, hentry, List.mem_cons_of_mem _ hmem⟩
  · intro path found hfound
    rcases hlater.old path found hfound with hmem | hold
    · exact .inl (List.mem_cons_of_mem _ hmem)
    · rw [hfirst.entry] at hold
      split at hold
      · next hsame =>
          obtain rfl := Entry.file.inj (Option.some.inj hold)
          exact .inl (by rw [hsame]; exact List.mem_cons_self)
      · split at hold
        · cases hold
        · exact .inr hold
  · intro path found hfound
    obtain ⟨next', hnext', hsame⟩ := hfirst.file_stays hfound
    obtain ⟨later, hentry, hlast⟩ := hlater.stays path next' hnext'
    refine ⟨later, hentry, ?_⟩
    rcases hlast with rfl | hmem
    · rcases hsame with rfl | ⟨rfl, rfl⟩
      · exact .inl rfl
      · exact .inr List.mem_cons_self
    · exact .inr (List.mem_cons_of_mem _ hmem)
  · intro path hdir
    rcases hlater.dirs path hdir with hdir | ⟨file, hfile, habove⟩
    · rw [hfirst.entry] at hdir
      split at hdir
      · cases hdir
      · next hne =>
          split at hdir
          · next hway => exact .inr ⟨_, List.mem_cons_self, hway, hne⟩
          · exact .inl hdir
    · exact .inr ⟨file, List.mem_cons_of_mem _ hfile, habove⟩
  · intro path hpath
    rw [hlater.kept path fun file hfile => hpath file (List.mem_cons_of_mem _ hfile)]
    exact hfirst.kept path (hpath _ List.mem_cons_self)

theorem writeFiles_written (h : tree.writeFiles files = some tree') :
    AllWritten tree files tree' := by
  induction files generalizing tree with
  | nil =>
      obtain rfl := Option.some.inj h
      exact .nil
  | cons file files ih =>
      obtain ⟨next, hnext, h⟩ := Option.bind_eq_some_iff.mp h
      exact .cons (writeFile_written hnext) (ih h)

end Directory

end Failsafe.Lib
