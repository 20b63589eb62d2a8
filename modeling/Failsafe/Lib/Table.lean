import Mathlib.Data.List.Induction
import Mathlib.Data.List.Nodup
import Mathlib.Data.List.Perm.Basic

/-!
Tables that keep the last value inserted for a key, and tables filled from a list of rows.
-/

namespace Failsafe.Lib

abbrev Table (κ α : Type) := List (κ × α)

namespace Table

variable {κ α : Type}

/-- No two rows give one key different values. -/
def Agree (rows : List (κ × α)) : Prop :=
  ∀ row ∈ rows, ∀ other ∈ rows, row.1 = other.1 → row.2 = other.2

theorem Agree.perm {rows rows' : List (κ × α)} (h : Agree rows)
    (hperm : rows'.Perm rows) : Agree rows' :=
  fun row hrow other hother => h row (hperm.mem_iff.mp hrow) other (hperm.mem_iff.mp hother)

variable [BEq κ]

def insert (table : Table κ α) (key : κ) (value : α) : Table κ α :=
  table.filter (fun row => row.1 != key) ++ [(key, value)]

def remove (table : Table κ α) (key : κ) : Table κ α :=
  table.filter fun row => row.1 != key

def find (table : Table κ α) (key : κ) : Option α :=
  (table.find? fun row => row.1 == key).map Prod.snd

/-- The table after inserting these rows in turn. -/
def ofRows (rows : List (κ × α)) : Table κ α :=
  rows.foldl (fun table row => Table.insert table row.1 row.2) []

/-- No key has two rows. -/
def Keyed (table : Table κ α) : Prop :=
  (table.map Prod.fst).Nodup

variable {table : Table κ α} {rows rows' : List (κ × α)} {row : κ × α} {key other : κ} {value : α}

@[simp] theorem ofRows_nil : ofRows ([] : List (κ × α)) = [] := rfl

theorem ofRows_snoc : ofRows (rows ++ [row]) = Table.insert (ofRows rows) row.1 row.2 := by
  simp [ofRows]

variable [LawfulBEq κ]

theorem mem_insert :
    row ∈ Table.insert table key value ↔ row ∈ table ∧ row.1 ≠ key ∨ row = (key, value) := by
  simp [Table.insert]

theorem find_insert_self : Table.find (Table.insert table key value) key = some value := by
  unfold Table.find Table.insert
  have hnone : (table.filter fun row => row.1 != key).find? (fun row => row.1 == key) = none := by
    rw [List.find?_eq_none]
    intro row hrow
    simpa using (List.mem_filter.mp hrow).2
  rw [List.find?_append, hnone]
  simp

theorem find_remove (h : other ≠ key) :
    Table.find (Table.remove table key) other = Table.find table other := by
  have hsame : (fun row : κ × α => decide ((row.1 != key) = true ∧ (row.1 == other) = true)) =
      fun row => row.1 == other := by
    funext row
    cases hrow : row.1 == other with
    | false => simp
    | true =>
        rw [eq_of_beq hrow]
        simpa using h
  unfold Table.find Table.remove
  rw [List.find?_filter, hsame]

theorem find_insert (h : other ≠ key) :
    Table.find (Table.insert table key value) other = Table.find table other := by
  have hnone : [(key, value)].find? (fun row => row.1 == other) = none := by
    simpa using h.symm
  have hremove : Table.find (Table.remove table key) other = Table.find table other :=
    find_remove h
  rw [← hremove]
  unfold Table.find Table.insert Table.remove
  rw [List.find?_append, hnone, Option.or_none]

theorem find_remove_self : Table.find (Table.remove table key) key = none := by
  unfold Table.find Table.remove
  rw [Option.map_eq_none_iff, List.find?_eq_none]
  intro row hrow
  simpa using (List.mem_filter.mp hrow).2

theorem mem_keys_of_find (h : Table.find table key = some value) : key ∈ table.map Prod.fst := by
  unfold Table.find at h
  obtain ⟨row, hrow, -⟩ := Option.map_eq_some_iff.mp h
  have hkey : row.1 = key := by simpa using List.find?_some hrow
  exact List.mem_map.mpr ⟨row, List.mem_of_find?_eq_some hrow, hkey⟩

theorem Keyed.insert (h : Keyed table) : Keyed (Table.insert table key value) := by
  unfold Keyed Table.insert
  rw [List.map_append, List.nodup_append]
  refine ⟨?_, by simp, ?_⟩
  · exact h.sublist (List.filter_sublist.map Prod.fst)
  · rintro other hother last hlast rfl
    obtain ⟨row, hrow, rfl⟩ := List.mem_map.mp hother
    obtain ⟨-, hne⟩ := List.mem_filter.mp hrow
    simp_all

theorem keyed_ofRows : Keyed (ofRows rows) := by
  induction rows using List.reverseRecOn with
  | nil => exact List.nodup_nil
  | append_singleton rows row ih =>
      rw [ofRows_snoc]
      exact ih.insert

theorem find_eq_some_iff (h : Keyed table) :
    Table.find table key = some value ↔ (key, value) ∈ table := by
  unfold Table.find
  induction table with
  | nil => simp
  | cons first table ih =>
      obtain ⟨hnew, hrest⟩ := List.nodup_cons.mp h
      rw [List.find?_cons]
      split
      · rename_i hfirst
        have hkey : first.1 = key := by simpa using hfirst
        subst hkey
        constructor
        · intro hvalue
          obtain rfl := Option.some.inj hvalue
          exact List.mem_cons_self
        · intro hmem
          rcases List.mem_cons.mp hmem with hhead | hmem
          · exact congrArg (fun row => some row.2) hhead.symm
          · exact absurd (List.mem_map_of_mem (f := Prod.fst) hmem) hnew
      · rename_i hfirst
        rw [ih hrest, List.mem_cons]
        constructor
        · exact Or.inr
        · rintro (rfl | hmem)
          · simp at hfirst
          · exact hmem

theorem mem_of_mem_ofRows (h : row ∈ ofRows rows) : row ∈ rows := by
  induction rows using List.reverseRecOn with
  | nil => exact h
  | append_singleton rows last ih =>
      rw [ofRows_snoc, mem_insert] at h
      rcases h with ⟨hrow, -⟩ | rfl
      · exact List.mem_append_left _ (ih hrow)
      · exact List.mem_append_right _ List.mem_cons_self

theorem exists_mem_ofRows (h : row ∈ rows) : ∃ value, (row.1, value) ∈ ofRows rows := by
  induction rows using List.reverseRecOn with
  | nil => cases h
  | append_singleton rows last ih =>
      simp only [ofRows_snoc, mem_insert]
      by_cases hlast : row.1 = last.1
      · exact ⟨last.2, Or.inr (by rw [hlast])⟩
      · have hrow : row ∈ rows := by
          rcases List.mem_append.mp h with hrow | hrow
          · exact hrow
          · exact absurd (congrArg Prod.fst (List.mem_singleton.mp hrow)) hlast
        obtain ⟨value, hvalue⟩ := ih hrow
        exact ⟨value, Or.inl ⟨hvalue, hlast⟩⟩

theorem mem_of_find_ofRows (h : Table.find (ofRows rows) key = some value) :
    (key, value) ∈ rows :=
  mem_of_mem_ofRows ((find_eq_some_iff keyed_ofRows).mp h)

/-- A table gives every row its value back if and only if the rows agree. -/
theorem find_ofRows_iff_agree :
    (∀ row ∈ rows, Table.find (ofRows rows) row.1 = some row.2) ↔ Agree rows := by
  constructor
  · intro hfind row hrow other hother hkey
    have hfound := hfind row hrow
    rw [hkey, hfind other hother] at hfound
    exact (Option.some.inj hfound).symm
  · intro hagree row hrow
    obtain ⟨value, hvalue⟩ := exists_mem_ofRows hrow
    have hsame : value = row.2 := hagree _ (mem_of_mem_ofRows hvalue) row hrow rfl
    rw [← hsame]
    exact (find_eq_some_iff keyed_ofRows).mpr hvalue

theorem find_ofRows_iff (h : Agree rows) :
    Table.find (ofRows rows) key = some value ↔ (key, value) ∈ rows := by
  constructor
  · exact mem_of_find_ofRows
  · exact find_ofRows_iff_agree.mpr h (key, value)

theorem find_ofRows_perm (h : Agree rows) (hperm : rows'.Perm rows) :
    Table.find (ofRows rows') key = Table.find (ofRows rows) key := by
  refine Option.ext fun value => ?_
  rw [find_ofRows_iff h, find_ofRows_iff (h.perm hperm)]
  exact hperm.mem_iff

end Table

end Failsafe.Lib
