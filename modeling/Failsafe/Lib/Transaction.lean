import Mathlib.Logic.Function.Basic

/-!
A store that tasks query directly or in transactions.

A transaction is a log of the statements it has made.  The statements are not
applied to the store before the commit, which makes all of them at once: it is
possible as long as the firm statements of the log still return what they
returned before.  With no firm statement but the writes this is a store that reads
committed data; with every statement firm, transactions are serializable.
-/

namespace Failsafe.Lib

/-- The statements of a store: what they return and what they do. -/
structure Schema (σ : Type) where
  Statement : Type
  Result : Statement → Type
  run : (statement : Statement) → σ → Except String (Result statement × σ)

/-- A statement together with what it returned. -/
structure Schema.Entry {σ : Type} (S : Schema σ) where
  statement : S.Statement
  result : S.Result statement

namespace Schema

variable {σ : Type} (S : Schema σ) [∀ statement, DecidableEq (S.Result statement)]
  (firm : S.Statement → Bool)

/-- Make the statements of a log once more. -/
def replay : List S.Entry → σ → Option σ
  | [], state => some state
  | entry :: entries, state =>
      match S.run entry.statement state with
      | .error _ => none
      | .ok (result, state') =>
          if firm entry.statement = true → result = entry.result then replay entries state'
          else none

variable {S firm}

theorem replay_cons {entry : S.Entry} {entries : List S.Entry} {state state' : σ} :
    S.replay firm (entry :: entries) state = some state' ↔
      ∃ result middle, S.run entry.statement state = .ok (result, middle) ∧
        (firm entry.statement = true → result = entry.result) ∧
        S.replay firm entries middle = some state' := by
  simp only [replay]
  cases hrun : S.run entry.statement state with
  | error error => simp
  | ok outcome =>
      obtain ⟨result, middle⟩ := outcome
      simp only [Option.ite_none_right_eq_some, Except.ok.injEq, Prod.mk.injEq]
      constructor
      · rintro ⟨hfirm, hrest⟩
        exact ⟨result, middle, ⟨rfl, rfl⟩, hfirm, hrest⟩
      · rintro ⟨_, _, ⟨rfl, rfl⟩, hfirm, hrest⟩
        exact ⟨hfirm, hrest⟩

theorem replay_append {entries entries' : List S.Entry} {state : σ} :
    S.replay firm (entries ++ entries') state =
      (S.replay firm entries state).bind (S.replay firm entries') := by
  induction entries generalizing state with
  | nil => rfl
  | cons entry entries ih =>
      simp only [List.cons_append, replay]
      cases S.run entry.statement state with
      | error error => rfl
      | ok outcome =>
          dsimp only
          split
          · exact ih
          · rfl

theorem replay_split {entries entries' : List S.Entry} {entry : S.Entry} {state state' : σ}
    (h : S.replay firm (entries ++ entry :: entries') state = some state') :
    ∃ before result after, S.replay firm entries state = some before ∧
      S.run entry.statement before = .ok (result, after) ∧
      (firm entry.statement = true → result = entry.result) ∧
      S.replay firm entries' after = some state' := by
  rw [replay_append] at h
  obtain ⟨before, hbefore, hrest⟩ := Option.bind_eq_some_iff.mp h
  obtain ⟨result, after, hrun, hfirm, hafter⟩ := replay_cons.mp hrest
  exact ⟨before, result, after, hbefore, hrun, hfirm, hafter⟩

/-- What every statement of a log carries on, the log carries on to its end. -/
theorem replay_each {I : List S.Entry → σ → Prop} {entries : List S.Entry}
    (hstep : ∀ done, ∀ entry ∈ entries, ∀ state result state', I done state →
      S.run entry.statement state = .ok (result, state') →
      (firm entry.statement = true → result = entry.result) → I (done ++ [entry]) state')
    (done : List S.Entry) {state state' : σ} (h : S.replay firm entries state = some state')
    (hstart : I done state) : I (done ++ entries) state' := by
  induction entries generalizing done state with
  | nil =>
      cases h
      rwa [List.append_nil]
  | cons entry entries ih =>
      obtain ⟨result, middle, hrun, hfirm, hrest⟩ := replay_cons.mp h
      rw [← List.singleton_append, ← List.append_assoc]
      exact ih (fun done entry' hmem => hstep done entry' (List.mem_cons_of_mem _ hmem)) _ hrest
        (hstep done entry List.mem_cons_self _ _ _ hstart hrun hfirm)

theorem replay_induction {R : σ → σ → Prop} (hrefl : ∀ state, R state state)
    (htrans : ∀ state₁ state₂ state₃, R state₁ state₂ → R state₂ state₃ → R state₁ state₃)
    {entries : List S.Entry}
    (hstep : ∀ entry ∈ entries, ∀ state result state',
      S.run entry.statement state = .ok (result, state') →
      (firm entry.statement = true → result = entry.result) → R state state')
    {state state' : σ} (h : S.replay firm entries state = some state') : R state state' :=
  replay_each (I := fun _ => R state)
    (fun _ entry hmem _ _ _ hreached hrun hfirm =>
      htrans _ _ _ hreached (hstep entry hmem _ _ _ hrun hfirm)) [] h (hrefl state)

end Schema

/-- Whether a statement is made directly or in the transaction of the task. -/
inductive Conn where
  | db
  | txn
deriving DecidableEq, Repr

/-- The committed state and the logs of the open transactions. -/
structure Database {σ : Type} (S : Schema σ) (τ : Type) where
  committed : σ
  pending : τ → Option (List S.Entry)

namespace Database

variable {σ τ : Type} {S : Schema σ} [∀ statement, DecidableEq (S.Result statement)]
  [DecidableEq τ] (firm : S.Statement → Bool)

def «begin» (database : Database S τ) (task : τ) : Except String Unit → Database S τ
  | .ok () => { database with pending := Function.update database.pending task (some []) }
  | .error _ => database

def rollback (database : Database S τ) (task : τ) : Database S τ :=
  { database with pending := Function.update database.pending task none }

/-- A commit that fails gives up the transaction. -/
def commit (database : Database S τ) (task : τ) :
    Except String Unit → Option (Database S τ)
  | .ok () =>
      match database.pending task with
      | none => none
      | some entries =>
          (S.replay firm entries database.committed).map fun committed =>
            { committed, pending := Function.update database.pending task none }
  | .error _ => some (database.rollback task)

/-- A statement may fail at any time, and then does nothing. -/
def query (database : Database S τ) (task : τ) (conn : Conn) (statement : S.Statement) :
    Except String (S.Result statement) → Option (Database S τ)
  | .error _ => some database
  | .ok result =>
      match conn with
      | .db =>
          match S.run statement database.committed with
          | .error _ => none
          | .ok (result', committed) =>
              if result = result' then some { database with committed } else none
      | .txn =>
          match database.pending task with
          | none => none
          | some entries =>
              match S.replay firm entries database.committed with
              | none => none
              | some view =>
                  match S.run statement view with
                  | .error _ => none
                  | .ok (result', _) =>
                      if result = result' then
                        some { database with
                          pending := Function.update database.pending task
                            (some (entries ++ [⟨statement, result⟩])) }
                      else none

variable {firm} {database database' : Database S τ} {task : τ}

theorem query_db {statement : S.Statement} {result : S.Result statement}
    (h : database.query firm task .db statement (.ok result) = some database') :
    ∃ committed, S.run statement database.committed = .ok (result, committed) ∧
      database' = { database with committed } := by
  simp only [query] at h
  split at h
  · cases h
  · rename_i result' committed hrun
    simp only [Option.ite_none_right_eq_some, Option.some.injEq] at h
    obtain ⟨rfl, rfl⟩ := h
    exact ⟨committed, hrun, rfl⟩

theorem query_txn {statement : S.Statement} {result : S.Result statement}
    (h : database.query firm task .txn statement (.ok result) = some database') :
    ∃ entries view view', database.pending task = some entries ∧
      S.replay firm entries database.committed = some view ∧
      S.run statement view = .ok (result, view') ∧
      database' = { database with
        pending := Function.update database.pending task
          (some (entries ++ [⟨statement, result⟩])) } := by
  simp only [query] at h
  split at h
  · cases h
  · rename_i entries hpending
    split at h
    · cases h
    · rename_i view hview
      split at h
      · cases h
      · rename_i result' view' hrun
        simp only [Option.ite_none_right_eq_some, Option.some.injEq] at h
        obtain ⟨rfl, rfl⟩ := h
        exact ⟨entries, view, view', hpending, hview, hrun, rfl⟩

theorem commit_ok (h : database.commit firm task (.ok ()) = some database') :
    ∃ entries committed, database.pending task = some entries ∧
      S.replay firm entries database.committed = some committed ∧
      database' = { committed, pending := Function.update database.pending task none } := by
  simp only [commit] at h
  split at h
  · cases h
  · rename_i entries hpending
    obtain ⟨committed, hreplay, rfl⟩ := Option.map_eq_some_iff.mp h
    exact ⟨entries, committed, hpending, hreplay, rfl⟩

end Database

end Failsafe.Lib
