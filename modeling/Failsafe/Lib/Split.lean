import Mathlib.Tactic.Basic

/-!
Places in a list: an element, with what comes before and after it.
-/

namespace Failsafe.Lib

variable {α : Type}

theorem eq_of_split {first last first' last' : List α} {a a' : α}
    (h : first ++ a :: last = first' ++ a' :: last')
    (hbefore : ∀ middle, first' ≠ first ++ a :: middle)
    (hafter : ∀ middle, first ≠ first' ++ a' :: middle) :
    first = first' ∧ a = a' ∧ last = last' := by
  rcases List.append_eq_append_iff.mp h with ⟨middle, rfl, hrest⟩ | ⟨middle, rfl, hrest⟩
  · cases middle with
    | nil =>
        obtain ⟨rfl, rfl⟩ := List.cons.inj hrest
        simp
    | cons b middle =>
        obtain ⟨rfl, -⟩ := List.cons.inj hrest
        exact (hbefore middle rfl).elim
  · cases middle with
    | nil =>
        obtain ⟨rfl, rfl⟩ := List.cons.inj hrest
        simp
    | cons b middle =>
        obtain ⟨rfl, -⟩ := List.cons.inj hrest
        exact (hafter middle rfl).elim

theorem concat_eq_split {list before after : List α} {last a : α}
    (h : list ++ [last] = before ++ a :: after) :
    (before = list ∧ a = last) ∨ ∃ middle, list = before ++ a :: middle := by
  rcases List.eq_nil_or_concat after with rfl | ⟨middle, final, rfl⟩
  · obtain ⟨rfl, hlast⟩ := List.append_inj' h rfl
    exact .inl ⟨rfl, (List.cons.inj hlast).1.symm⟩
  · rw [List.concat_eq_append, ← List.cons_append, ← List.append_assoc] at h
    exact .inr ⟨middle, (List.append_inj' h rfl).1⟩

theorem exists_split_concat {P : List α → α → Prop} {list : List α} {last : α} :
    (∃ before a after, list ++ [last] = before ++ a :: after ∧ P before a) ↔
      (∃ before a after, list = before ++ a :: after ∧ P before a) ∨ P list last := by
  constructor
  · rintro ⟨before, a, after, hsplit, hP⟩
    rcases concat_eq_split hsplit with ⟨rfl, rfl⟩ | ⟨middle, rfl⟩
    · exact .inr hP
    · exact .inl ⟨before, a, middle, rfl, hP⟩
  · rintro (⟨before, a, after, rfl, hP⟩ | hP)
    · exact ⟨before, a, after ++ [last], by simp, hP⟩
    · exact ⟨list, last, [], rfl, hP⟩

end Failsafe.Lib
