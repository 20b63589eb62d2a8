import Mathlib.Data.List.Nodup

/-!
Rows with a key and an owner: what a change to the rows of one owner leaves of the rows of
another.
-/

namespace Failsafe.Lib

section Owners

variable {ρ κ ω : Type} {key : ρ → κ} {owner : ρ → ω} {rows rows' rows'' : List ρ}

/-- Rows stay, under their key and their owner. -/
def OwnersKept (key : ρ → κ) (owner : ρ → ω) (rows rows' : List ρ) : Prop :=
  ∀ row ∈ rows, ∃ row' ∈ rows', key row' = key row ∧ owner row' = owner row

theorem OwnersKept.refl : OwnersKept key owner rows rows :=
  fun row hmem => ⟨row, hmem, rfl, rfl⟩

theorem OwnersKept.of_mem {row : ρ} (h : row ∈ rows) : OwnersKept key owner [row] rows := by
  intro row' hmem
  obtain rfl := List.mem_singleton.mp hmem
  exact ⟨row', h, rfl, rfl⟩

theorem OwnersKept.trans (h : OwnersKept key owner rows rows')
    (h' : OwnersKept key owner rows' rows'') : OwnersKept key owner rows rows'' := by
  intro row hmem
  obtain ⟨row', hmem', hkey, howner⟩ := h row hmem
  obtain ⟨row'', hmem'', hkey', howner'⟩ := h' row' hmem'
  exact ⟨row'', hmem'', hkey'.trans hkey, howner'.trans howner⟩

theorem OwnersKept.append {new : ρ} : OwnersKept key owner rows (rows ++ [new]) :=
  fun row hmem => ⟨row, List.mem_append_left _ hmem, rfl, rfl⟩

theorem OwnersKept.map {f : ρ → ρ} (h : ∀ row, key (f row) = key row ∧ owner (f row) = owner row) :
    OwnersKept key owner rows (rows.map f) :=
  fun row hmem => ⟨f row, List.mem_map_of_mem hmem, h row⟩

theorem OwnersKept.owner_eq {row row' : ρ} (h : OwnersKept key owner [row] rows)
    (hunique : (rows.map key).Nodup) (hmem : row' ∈ rows) (hkey : key row' = key row) :
    owner row' = owner row := by
  obtain ⟨found, hfound, hfoundKey, howner⟩ := h row (List.mem_singleton_self row)
  obtain rfl := List.inj_on_of_nodup_map hunique hmem hfound (hkey.trans hfoundKey.symm)
  exact howner

variable [DecidableEq ω] {id : ω}

theorem filter_owner_append {new : ρ} (hne : owner new ≠ id) :
    ((rows ++ [new]).filter fun row => owner row == id) =
      rows.filter fun row => owner row == id := by
  simp [List.filter_append, hne]

theorem filter_owner_map {f : ρ → ρ} (howner : ∀ row, owner (f row) = owner row)
    (hsame : ∀ row ∈ rows, owner row = id → f row = row) :
    ((rows.map f).filter fun row => owner row == id) =
      rows.filter fun row => owner row == id := by
  rw [List.filter_map, show (fun row => owner row == id) ∘ f = fun row => owner row == id from
    funext fun row => by rw [Function.comp_apply, howner]]
  refine (List.map_congr_left fun row hmem => ?_).trans (List.map_id _)
  obtain ⟨hrow, hid⟩ := List.mem_filter.mp hmem
  exact hsame row hrow (by simpa using hid)

theorem filter_owner_filter {p : ρ → Bool} (hkept : ∀ row ∈ rows, owner row = id → p row = true) :
    ((rows.filter p).filter fun row => owner row == id) =
      rows.filter fun row => owner row == id := by
  rw [List.filter_filter]
  refine List.filter_congr fun row hmem => ?_
  by_cases hid : owner row = id
  · simp [hid, hkept row hmem hid]
  · simp [hid]

end Owners

end Failsafe.Lib
