import Mathlib.Data.List.Forall2

/-!
Computations that stop at the first error.
-/

namespace Failsafe.Lib

section

variable {ε α β : Type}

theorem bind_ok {x : Except ε α} {f : α → Except ε β} {b : β}
    (h : (x >>= f) = .ok b) : ∃ a, x = .ok a ∧ f a = .ok b := by
  cases x with
  | error error => cases h
  | ok a => exact ⟨a, rfl, h⟩

theorem mem_mapM {f : α → Except ε β} {items : List α} {results : List β}
    (h : items.mapM f = .ok results) {result : β} :
    result ∈ results ↔ ∃ item ∈ items, f item = .ok result := by
  induction items generalizing results with
  | nil =>
      obtain rfl := Except.ok.inj h
      simp
  | cons item items ih =>
      rw [List.mapM_cons] at h
      obtain ⟨first, hfirst, h⟩ := bind_ok h
      obtain ⟨rest, hrest, h⟩ := bind_ok h
      obtain rfl := Except.ok.inj h
      rw [List.mem_cons, ih hrest]
      simp [hfirst, eq_comm]

theorem mapM_eq_ok {f : α → Except ε β} {items : List α} {results : List β}
    (h : List.Forall₂ (fun item result => f item = .ok result) items results) :
    items.mapM f = .ok results := by
  induction h with
  | nil => rfl
  | cons hitem _ ih =>
      rw [List.mapM_cons, hitem, ih]
      rfl

theorem mapM_answered {f : α → Except ε β} {items : List α} {results : List β}
    (h : items.mapM f = .ok results) {item : α} (hitem : item ∈ items) :
    ∃ result ∈ results, f item = .ok result := by
  induction items generalizing results with
  | nil => cases hitem
  | cons first items ih =>
      rw [List.mapM_cons] at h
      obtain ⟨head, hhead, h⟩ := bind_ok h
      obtain ⟨rest, hrest, h⟩ := bind_ok h
      obtain rfl := Except.ok.inj h
      rcases List.mem_cons.mp hitem with rfl | hitem
      · exact ⟨head, List.mem_cons_self, hhead⟩
      · obtain ⟨result, hresult, hok⟩ := ih hrest hitem
        exact ⟨result, List.mem_cons_of_mem _ hresult, hok⟩

end

section Optional

variable {α β : Type}

theorem mapM_eq_some_iff {f : α → Option β} {items : List α} {results : List β} :
    items.mapM f = some results ↔
      List.Forall₂ (fun item result => f item = some result) items results := by
  induction items generalizing results with
  | nil =>
      rw [List.mapM_nil, List.forall₂_nil_left_iff]
      constructor
      · intro h
        exact (Option.some.inj h).symm
      · rintro rfl
        rfl
  | cons item items ih =>
      rw [List.mapM_cons]
      constructor
      · intro h
        obtain ⟨result, hitem, hrest⟩ := Option.bind_eq_some_iff.mp h
        obtain ⟨rest, hitems, hresults⟩ := Option.bind_eq_some_iff.mp hrest
        obtain rfl := Option.some.inj hresults
        exact .cons hitem (ih.mp hitems)
      · intro h
        cases h with
        | cons hitem hrest =>
            rw [hitem, ih.mpr hrest]
            rfl

theorem mapM_mem {f : α → Option β} {items : List α} {results : List β}
    (h : items.mapM f = some results) {item : α} (hmem : item ∈ items) :
    ∃ result, f item = some result := by
  have hall := mapM_eq_some_iff.mp h
  clear h
  induction hall with
  | nil => cases hmem
  | cons hitem _ ih =>
      rcases List.mem_cons.mp hmem with rfl | hmem
      · exact ⟨_, hitem⟩
      · exact ih hmem

theorem mapM_some {f : α → Option β} {items : List α}
    (h : ¬∃ item ∈ items, f item = none) : ∃ results, items.mapM f = some results := by
  induction items with
  | nil => exact ⟨[], rfl⟩
  | cons item items ih =>
      obtain ⟨results, hresults⟩ := ih fun ⟨other, hmem, hnone⟩ =>
        h ⟨other, List.mem_cons_of_mem _ hmem, hnone⟩
      obtain ⟨result, hresult⟩ := Option.ne_none_iff_exists'.mp fun hnone =>
        h ⟨item, List.mem_cons_self, hnone⟩
      refine ⟨result :: results, ?_⟩
      rw [List.mapM_cons, hresult, hresults]
      rfl

end Optional

end Failsafe.Lib
