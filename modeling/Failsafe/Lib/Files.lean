import Mathlib.Data.List.TakeDrop
import Mathlib.Logic.Function.Basic

/-!
Files with names, as a program sees them: a file is opened by its name and then written
through its inode, which keeps its content when the name goes to another file.
-/

namespace Failsafe.Lib

abbrev Inode := Nat

structure Files (ν β : Type) where
  names : ν → Option Inode
  contents : Inode → List β
  next : Inode

namespace Files

variable {ν β : Type}

def empty : Files ν β :=
  { names := fun _ => none, contents := fun _ => [], next := 0 }

/-- Open a file for writing: truncate it, or create it. -/
def create [DecidableEq ν] (files : Files ν β) (name : ν) : Inode × Files ν β :=
  match files.names name with
  | some inode =>
      (inode, { files with contents := Function.update files.contents inode [] })
  | none =>
      (files.next,
        { names := Function.update files.names name (some files.next)
          contents := Function.update files.contents files.next []
          next := files.next + 1 })

/-- Write bytes at an offset; a gap before them is filled. -/
def splice (fill : β) (content : List β) (offset : Nat) (bytes : List β) : List β :=
  (content ++ List.replicate (offset - content.length) fill).take offset ++ bytes ++
    content.drop (offset + bytes.length)

def writeAt (files : Files ν β) (fill : β) (inode : Inode) (offset : Nat) (bytes : List β) :
    Files ν β :=
  { files with
    contents := Function.update files.contents inode
      (splice fill (files.contents inode) offset bytes) }

/-- The name `target` becomes that of the file behind `source`; an error when there is none. -/
def rename [DecidableEq ν] (files : Files ν β) (source target : ν) : Option (Files ν β) :=
  (files.names source).map fun inode =>
    { files with
      names := Function.update (Function.update files.names source none) target (some inode) }

def remove [DecidableEq ν] (files : Files ν β) (name : ν) : Files ν β :=
  { files with names := Function.update files.names name none }

/-- Every name has a file of its own. -/
structure Sound (files : Files ν β) : Prop where
  bounded : ∀ name inode, files.names name = some inode → inode < files.next
  injective : ∀ name other inode, files.names name = some inode →
    files.names other = some inode → name = other

variable {files : Files ν β} {name other : ν} {inode : Inode}

theorem sound_empty : (empty : Files ν β).Sound where
  bounded _ _ h := by cases h
  injective _ _ _ h := by cases h

theorem Sound.writeAt (h : files.Sound) (fill : β) (inode : Inode) (offset : Nat)
    (bytes : List β) : (files.writeAt fill inode offset bytes).Sound :=
  ⟨h.bounded, h.injective⟩

theorem writeAt_contents_ne {fill : β} {offset : Nat} {bytes : List β} {written : Inode}
    (hne : inode ≠ written) :
    (files.writeAt fill written offset bytes).contents inode = files.contents inode := by
  simp [writeAt, hne]

theorem writeAt_contents {fill : β} {offset : Nat} {bytes : List β} :
    (files.writeAt fill inode offset bytes).contents inode =
      splice fill (files.contents inode) offset bytes := by
  simp [writeAt]

theorem splice_take (fill : β) (bytes : List β) {offset count : Nat}
    (hoffset : offset ≤ bytes.length) :
    splice fill (bytes.take offset) offset ((bytes.drop offset).take count) =
      bytes.take (offset + count) := by
  have hlength : (bytes.take offset).length = offset := by simp [hoffset]
  have hdrop : (bytes.take offset).drop (offset + ((bytes.drop offset).take count).length) = [] :=
    List.drop_eq_nil_of_le (by omega)
  rw [splice, hdrop, hlength, Nat.sub_self, List.replicate_zero, List.append_nil,
    List.append_nil, List.take_take, Nat.min_self, List.take_add]

variable [DecidableEq ν]

theorem create_name : (files.create name).2.names name = some (files.create name).1 := by
  cases h : files.names name with
  | some inode => simp [create, h]
  | none => simp [create, h]

theorem create_names_ne (hne : other ≠ name) :
    (files.create name).2.names other = files.names other := by
  cases h : files.names name with
  | some inode => simp [create, h]
  | none => simp [create, h, hne]

theorem create_contents : (files.create name).2.contents inode =
    if inode = (files.create name).1 then [] else files.contents inode := by
  cases h : files.names name with
  | some found => simp [create, h, Function.update_apply]
  | none => simp [create, h, Function.update_apply]

theorem Sound.create_ne (h : files.Sound) (hne : other ≠ name)
    (hother : files.names other = some inode) : inode ≠ (files.create name).1 := by
  rintro rfl
  cases hname : files.names name with
  | some found =>
      simp only [Files.create, hname] at hother
      exact hne (h.injective _ _ _ hother hname)
  | none =>
      simp only [Files.create, hname] at hother
      exact Nat.lt_irrefl _ (h.bounded _ _ hother)

theorem Sound.create (h : files.Sound) (name : ν) : (files.create name).2.Sound := by
  have hnew : ∀ other, other ≠ name → ∀ inode, files.names other = some inode →
      inode ≠ (files.create name).1 := fun other hne inode => h.create_ne hne
  have hnext : files.next ≤ (files.create name).2.next ∧
      (files.create name).1 < (files.create name).2.next := by
    cases hname : files.names name with
    | some inode => simpa [Files.create, hname] using h.bounded _ _ hname
    | none => simp [Files.create, hname]
  constructor
  · intro other inode hother
    by_cases hsame : other = name
    · subst hsame
      rw [create_name] at hother
      exact Option.some.inj hother ▸ hnext.2
    · rw [create_names_ne hsame] at hother
      exact Nat.lt_of_lt_of_le (h.bounded _ _ hother) hnext.1
  · intro first second inode hfirst hsecond
    by_cases hsame : first = name <;> by_cases hsame' : second = name
    · rw [hsame, hsame']
    · rw [hsame, create_name] at hfirst
      rw [create_names_ne hsame'] at hsecond
      exact absurd (Option.some.inj hfirst).symm (hnew _ hsame' _ hsecond)
    · rw [hsame', create_name] at hsecond
      rw [create_names_ne hsame] at hfirst
      exact absurd (Option.some.inj hsecond).symm (hnew _ hsame _ hfirst)
    · rw [create_names_ne hsame] at hfirst
      rw [create_names_ne hsame'] at hsecond
      exact h.injective _ _ _ hfirst hsecond

theorem rename_names {files' : Files ν β} {source target : ν}
    (h : files.rename source target = some files') :
    ∃ inode, files.names source = some inode ∧ files'.names target = some inode ∧
      files'.contents = files.contents ∧ files'.next = files.next ∧
      (source ≠ target → files'.names source = none) ∧
      ∀ name, name ≠ source → name ≠ target → files'.names name = files.names name := by
  obtain ⟨inode, hsource, rfl⟩ := Option.map_eq_some_iff.mp h
  refine ⟨inode, hsource, by simp, rfl, rfl, fun hne => by simp [hne], fun name hne hne' => ?_⟩
  simp [hne, hne']

theorem Sound.rename {files' : Files ν β} {source target : ν} (h : files.Sound)
    (hrename : files.rename source target = some files') : files'.Sound := by
  obtain ⟨moved, hsource, rfl⟩ := Option.map_eq_some_iff.mp hrename
  have hcases : ∀ name inode,
      Function.update (Function.update files.names source none) target (some moved) name =
        some inode → name = target ∧ inode = moved ∨
          name ≠ target ∧ name ≠ source ∧ files.names name = some inode := by
    intro name inode hname
    simp only [Function.update_apply] at hname
    split at hname
    · next hsame => exact .inl ⟨hsame, (Option.some.inj hname).symm⟩
    · next hne =>
        split at hname
        · cases hname
        · next hne' => exact .inr ⟨hne, hne', hname⟩
  constructor
  · intro name inode hname
    rcases hcases name inode hname with ⟨-, rfl⟩ | ⟨-, -, hname⟩
    · exact h.bounded _ _ hsource
    · exact h.bounded _ _ hname
  · intro first second inode hfirst hsecond
    rcases hcases first inode hfirst with ⟨rfl, rfl⟩ | ⟨-, hne, hfirst'⟩
    · rcases hcases second _ hsecond with ⟨rfl, -⟩ | ⟨-, hne, hsecond'⟩
      · rfl
      · exact absurd (h.injective _ _ _ hsecond' hsource) hne
    · rcases hcases second inode hsecond with ⟨-, rfl⟩ | ⟨-, -, hsecond'⟩
      · exact absurd (h.injective _ _ _ hfirst' hsource) hne
      · exact h.injective _ _ _ hfirst' hsecond'

theorem Sound.remove (h : files.Sound) (name : ν) : (files.remove name).Sound := by
  have hkept : ∀ other inode, (files.remove name).names other = some inode →
      files.names other = some inode := by
    intro other inode hother
    simp only [Files.remove, Function.update_apply] at hother
    split at hother
    · cases hother
    · exact hother
  exact ⟨fun other inode hother => h.bounded _ _ (hkept _ _ hother),
    fun first second inode hfirst hsecond =>
      h.injective _ _ _ (hkept _ _ hfirst) (hkept _ _ hsecond)⟩

end Files

end Failsafe.Lib
