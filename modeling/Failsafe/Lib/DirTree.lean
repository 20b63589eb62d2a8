import Mathlib.Data.List.Basic

/-!
Trees of directories as a program walks them: what stands at a path, and what a walk reports.
-/

namespace Failsafe.Lib

/-- The entries of a directory, in the order in which they are read. -/
inductive Listing (ν ε : Type) where
  | nil
  | file (name : ν) (rest : Listing ν ε)
  | dir (name : ν) (entries rest : Listing ν ε)
  -- a link, a socket, and so on
  | other (name : ν) (rest : Listing ν ε)
  | unreadable (error : ε) (rest : Listing ν ε)
deriving DecidableEq, Repr

/-- What a path leads to. -/
inductive Node (ν ε : Type) where
  | file
  | dir (entries : Listing ν ε)
  | other
deriving DecidableEq, Repr

namespace Listing

variable {ν ε : Type}

def names : Listing ν ε → List ν
  | nil => []
  | file name rest | other name rest | dir name _ rest => name :: rest.names
  | unreadable _ rest => rest.names

/-- No directory has two entries of one name. -/
def Distinct : Listing ν ε → Prop
  | nil => True
  | file name rest | other name rest => name ∉ rest.names ∧ rest.Distinct
  | dir name entries rest => name ∉ rest.names ∧ entries.Distinct ∧ rest.Distinct
  | unreadable _ rest => rest.Distinct

def find [DecidableEq ν] (wanted : ν) : Listing ν ε → Option (Node ν ε)
  | nil => none
  | file name rest => if name = wanted then some .file else rest.find wanted
  | other name rest => if name = wanted then some .other else rest.find wanted
  | dir name entries rest => if name = wanted then some (.dir entries) else rest.find wanted
  | unreadable _ rest => rest.find wanted

/-- A walk: for every entry its path and whether it is a regular file, a directory before what
is in it. -/
def walk (above : List ν) : Listing ν ε → List (Except ε (List ν × Bool))
  | nil => []
  | file name rest => .ok (above ++ [name], true) :: rest.walk above
  | other name rest => .ok (above ++ [name], false) :: rest.walk above
  | dir name entries rest =>
      .ok (above ++ [name], false) :: (entries.walk (above ++ [name]) ++ rest.walk above)
  | unreadable error rest => .error error :: rest.walk above

end Listing

namespace Node

variable {ν ε : Type}

def lookup [DecidableEq ν] : Node ν ε → List ν → Option (Node ν ε)
  | node, [] => some node
  | .dir entries, name :: names => (entries.find name).bind (lookup · names)
  | .file, _ :: _ | .other, _ :: _ => none

/-- The regular files of a node, by their paths below it. -/
def files : Node ν ε → List (List ν)
  | .file => [[]]
  | .dir entries => (entries.walk []).filterMap fun item =>
      match item with
      | .ok (path, true) => some path
      | _ => none
  | .other => []

variable [DecidableEq ν]

end Node

namespace Listing

variable {ν ε : Type} {entries : Listing ν ε} {above path : List ν} {isFile : Bool}

/-- What a walk reports begins with an entry of the directory it starts in. -/
theorem walk_shape (h : .ok (path, isFile) ∈ entries.walk above) :
    ∃ name more, path = above ++ name :: more ∧ name ∈ entries.names := by
  induction entries generalizing above with
  | nil => cases h
  | file name rest ih | other name rest ih =>
      rcases List.mem_cons.mp h with h | h
      · obtain ⟨rfl, -⟩ := Prod.mk.inj (Except.ok.inj h)
        exact ⟨name, [], rfl, List.mem_cons_self⟩
      · obtain ⟨other, more, heq, hother⟩ := ih h
        exact ⟨other, more, heq, List.mem_cons_of_mem _ hother⟩
  | dir name entries rest ih_entries ih_rest =>
      rcases List.mem_cons.mp h with h | h
      · obtain ⟨rfl, -⟩ := Prod.mk.inj (Except.ok.inj h)
        exact ⟨name, [], rfl, List.mem_cons_self⟩
      · rcases List.mem_append.mp h with h | h
        · obtain ⟨other, more, heq, -⟩ := ih_entries h
          exact ⟨name, other :: more, by rw [heq]; simp, List.mem_cons_self⟩
        · obtain ⟨other, more, heq, hother⟩ := ih_rest h
          exact ⟨other, more, heq, List.mem_cons_of_mem _ hother⟩
  | unreadable error rest ih =>
      rcases List.mem_cons.mp h with h | h
      · cases h
      · exact ih h

variable [DecidableEq ν]

end Listing

namespace Node

variable {ν ε : Type} {node : Node ν ε} {path below : List ν}

def Distinct : Node ν ε → Prop
  | .dir entries => entries.Distinct
  | _ => True

theorem mem_files_dir {entries : Listing ν ε} :
    below ∈ (Node.dir entries).files ↔ .ok (below, true) ∈ entries.walk [] := by
  simp only [files, List.mem_filterMap]
  constructor
  · rintro ⟨item, hitem, heq⟩
    rcases item with error | ⟨other, _ | _⟩
    · cases heq
    · cases heq
    · obtain rfl := Option.some.inj heq
      exact hitem
  · intro h
    exact ⟨_, h, rfl⟩

variable [DecidableEq ν]

theorem distinct_find {entries : Listing ν ε} (h : entries.Distinct) {name : ν}
    {found : Node ν ε} (hfound : entries.find name = some found) : found.Distinct := by
  induction entries with
  | nil => cases hfound
  | file other rest ih =>
      rw [Listing.find] at hfound
      split at hfound
      · obtain rfl := Option.some.inj hfound
        trivial
      · exact ih h.2 hfound
  | other other rest ih =>
      rw [Listing.find] at hfound
      split at hfound
      · obtain rfl := Option.some.inj hfound
        trivial
      · exact ih h.2 hfound
  | dir other entries rest _ ih =>
      rw [Listing.find] at hfound
      split at hfound
      · obtain rfl := Option.some.inj hfound
        exact h.2.1
      · exact ih h.2.2 hfound
  | unreadable error rest ih => exact ih h hfound

theorem Distinct.lookup (h : node.Distinct) {found : Node ν ε}
    (hfound : node.lookup path = some found) : found.Distinct := by
  induction path generalizing node with
  | nil =>
      obtain rfl := Option.some.inj hfound
      exact h
  | cons name path ih =>
      cases node with
      | file | other => cases hfound
      | dir entries =>
          obtain ⟨next, hnext, hfound⟩ := Option.bind_eq_some_iff.mp hfound
          exact ih (distinct_find h hnext) hfound

end Node

end Failsafe.Lib
