import Failsafe.Server.Rules

/-!
A handler that runs while no other request is in progress, with every call to the
database free to fail.
-/

namespace Failsafe.Server

open Failsafe.Core Failsafe.Lib

variable {τ : Type} [DecidableEq τ] {ext : Externals} {isolation : Isolation} {task : τ}

/-- A program runs to its end in a state, makes these exchanges, and leaves a state. -/
abbrev Performs {α : Type} (ext : Externals) (isolation : Isolation) (task : τ)
    (p : ServerProg α) (state : ServerState τ) (log : Log) (value : α) (state' : ServerState τ) :
    Prop :=
  Prog.Exec (S := ServerSig) (fun request response before after =>
    perform ext isolation task request response before = some after) p state log value state'

abbrev Alone {α : Type} (ext : Externals) (isolation : Isolation) (task : τ)
    (handler : ServerTry α) (state : ServerState τ) (log : Log) (result : Except ServerError α)
    (state' : ServerState τ) : Prop :=
  Performs ext isolation task handler.run state log result state'

/-- A state is reached by the exchanges of a log. -/
inductive Passes (ext : Externals) (isolation : Isolation) (task : τ)
    (state : ServerState τ) : Log → ServerState τ → Prop
  | nil : Passes ext isolation task state [] state
  | snoc {log : Log} {middle state' : ServerState τ} {request : ServerRequest}
      {response : request.Response} : Passes ext isolation task state log middle →
      perform ext isolation task request response middle = some state' →
      Passes ext isolation task state (log ++ [⟨request, response⟩]) state'

theorem Passes.exec {α : Type} {p : ServerProg α} {state middle state' : ServerState τ}
    {log log' : Log} {value : α} (h : Passes ext isolation task state log middle)
    (hexec : Performs ext isolation task p middle log' value state') :
    Passes ext isolation task state (log ++ log') state' := by
  induction hexec generalizing log with
  | ret => simpa using h
  | call hperform _ ih =>
      rw [← List.singleton_append, ← List.append_assoc]
      exact ih (h.snoc hperform)

theorem Alone.passes {α : Type} {handler : ServerTry α} {state state' : ServerState τ}
    {log : Log} {result : Except ServerError α}
    (h : Alone ext isolation task handler state log result state') :
    Passes ext isolation task state log state' :=
  Passes.exec .nil h

theorem Alone.handles {α : Type} {handler : ServerTry α} {state state' : ServerState τ}
    {log : Log} {error : ServerError} {guard : Log → ServerRequest → Prop}
    {post : α → Log → Prop} {fails : ServerError → Log → Prop}
    (h : Alone ext isolation task handler state log (.error error) state')
    (hhandles : Handles guard handler post fails []) : fails error log :=
  Prog.Ensures.told hhandles h

theorem Passes.append {state middle state' : ServerState τ} {log log' : Log}
    (h : Passes ext isolation task state log middle)
    (h' : Passes ext isolation task middle log' state') :
    Passes ext isolation task state (log ++ log') state' := by
  induction h' with
  | nil => simpa using h
  | snoc _ hperform ih =>
      rw [← List.append_assoc]
      exact ih.snoc hperform

theorem Passes.last {state state' : ServerState τ} {log : Log} {exchange : Exchange ServerSig}
    (h : Passes ext isolation task state (log ++ [exchange]) state') :
    ∃ middle, Passes ext isolation task state log middle ∧
      perform ext isolation task exchange.request exchange.response middle = some state' := by
  generalize hlog : log ++ [exchange] = log' at h
  cases h with
  | nil => simp at hlog
  | snoc hbefore hperform =>
      obtain ⟨rfl, hexchange⟩ := List.append_inj' hlog rfl
      obtain rfl := List.singleton_inj.mp hexchange
      exact ⟨_, hbefore, hperform⟩

theorem Passes.split {state state' : ServerState τ} {before after : Log}
    {exchange : Exchange ServerSig}
    (h : Passes ext isolation task state (before ++ exchange :: after) state') :
    ∃ first second, Passes ext isolation task state before first ∧
      perform ext isolation task exchange.request exchange.response first = some second ∧
      Passes ext isolation task second after state' := by
  induction after using List.reverseRecOn generalizing state' with
  | nil =>
      obtain ⟨first, hfirst, hperform⟩ := h.last
      exact ⟨first, state', hfirst, hperform, .nil⟩
  | append_singleton after last ih =>
      rw [← List.cons_append, ← List.append_assoc] at h
      obtain ⟨middle, hmiddle, hlast⟩ := h.last
      obtain ⟨first, second, hfirst, hstep, hrest⟩ := ih hmiddle
      exact ⟨first, second, hfirst, hstep, hrest.snoc hlast⟩

theorem Passes.signed {state state' : ServerState τ} {log : Log} {claims : Claims}
    {token : String} (h : Passes ext isolation task state log state')
    (hmem : ⟨.encodeJwt claims, .ok token⟩ ∈ log) : ext.openJwt token = some claims := by
  obtain ⟨before, after, rfl⟩ := List.append_of_mem hmem
  obtain ⟨first, second, -, hperform, -⟩ := h.split
  simp only [perform, Option.ite_none_right_eq_some] at hperform
  exact hperform.1

theorem Passes.pending {state state' : ServerState τ} {log : Log}
    (h : Passes ext isolation task state log state') (hnone : state.database.pending task = none) :
    state'.database.pending task = pendingAfter log := by
  induction h with
  | nil => exact hnone
  | snoc _ hperform ih =>
      rw [perform_pending hperform, Function.update_self, ih, pendingAfter_append]

theorem Passes.pending_other {state state' : ServerState τ} {log : Log}
    (h : Passes ext isolation task state log state') {task' : τ} (hne : task' ≠ task) :
    state'.database.pending task' = state.database.pending task' := by
  induction h with
  | nil => rfl
  | snoc _ hperform ih => rw [perform_pending hperform, Function.update_of_ne hne, ih]

theorem Passes.every {state state' : ServerState τ} {log : Log}
    (h : Passes ext isolation task state log state') {R : Tables → Tables → Prop}
    (hrefl : ∀ tables, R tables tables)
    (htrans : ∀ tables₁ tables₂ tables₃, R tables₁ tables₂ → R tables₂ tables₃ →
      R tables₁ tables₃)
    (hrun : ∀ (statement : Statement) result tables tables',
      statement.run tables = .ok (result, tables') → R tables tables') :
    R state.database.committed state'.database.committed := by
  induction h with
  | nil => exact hrefl _
  | snoc _ hperform ih =>
      refine htrans _ _ _ ih ?_
      rcases perform_committed hperform with
        hsame | ⟨statement, result, -, hstatement⟩ | ⟨-, entries, -, hreplay⟩
      · rw [hsame]
        exact hrefl _
      · exact hrun _ _ _ _ hstatement
      · exact Schema.replay_induction hrefl htrans (fun _ _ _ _ _ h _ => hrun _ _ _ _ h) hreplay

theorem Passes.unique {state state' : ServerState τ} {log : Log}
    (h : Passes ext isolation task state log state')
    (hunique : state.database.committed.Unique) : state'.database.committed.Unique :=
  h.every (R := fun tables tables' => tables.Unique → tables'.Unique) (fun _ => id)
    (fun _ _ _ h₁ h₂ h => h₂ (h₁ h)) (fun _ _ _ _ => run_unique) hunique

end Failsafe.Server
