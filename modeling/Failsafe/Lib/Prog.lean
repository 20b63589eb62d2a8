import Mathlib.Control.Basic
import Mathlib.Tactic.Basic

/-!
Effectful programs as trees of requests.

A program is either done or asks its surroundings one thing and goes on with the
answer.  What a request does to the surroundings is not fixed here, so one
program can be run alone, interleaved with others, or against oracles.
-/

namespace Failsafe.Lib

/-- What a program may ask for, and what it is told in return. -/
structure Signature where
  Request : Type
  Response : Request → Type

/-- One request together with its answer. -/
structure Exchange (S : Signature) where
  request : S.Request
  response : S.Response request

inductive Prog (S : Signature) (α : Type) where
  | ret (value : α)
  | call (request : S.Request) (next : S.Response request → Prog S α)

namespace Prog

variable {S : Signature} {α β γ : Type}

def bind : Prog S α → (α → Prog S β) → Prog S β
  | .ret value, f => f value
  | .call request next, f => .call request fun response => (next response).bind f

instance : Monad (Prog S) where
  pure := .ret
  bind := bind

/-- Ask once and return the answer. -/
def ask (request : S.Request) : Prog S (S.Response request) :=
  .call request .ret

@[simp] theorem pure_eq (value : α) : (pure value : Prog S α) = .ret value := rfl

@[simp] theorem ret_bind (value : α) (f : α → Prog S β) :
    (Prog.ret value >>= f) = f value := rfl

@[simp] theorem call_bind (request : S.Request)
    (next : S.Response request → Prog S α) (f : α → Prog S β) :
    (Prog.call request next >>= f) =
      .call request fun response => next response >>= f := rfl

@[simp] theorem ask_bind (request : S.Request)
    (f : S.Response request → Prog S β) :
    (ask request >>= f) = .call request f := rfl

theorem bind_ret (p : Prog S α) : (p >>= Prog.ret) = p := by
  induction p with
  | ret value => rfl
  | call request next ih => exact congrArg (Prog.call request) (funext ih)

theorem bind_assoc (p : Prog S α) (f : α → Prog S β) (g : β → Prog S γ) :
    (p >>= f >>= g) = (p >>= fun value => f value >>= g) := by
  induction p with
  | ret value => rfl
  | call request next ih => exact congrArg (Prog.call request) (funext ih)

instance : LawfulMonad (Prog S) :=
  LawfulMonad.mk' (Prog S) bind_ret (fun _ _ => rfl) bind_assoc

variable {σ : Type}

/-- Running a program alone, against surroundings where a request may be
answered and change the state as `act` says. -/
inductive Exec (act : (request : S.Request) → S.Response request → σ → σ → Prop) :
    Prog S α → σ → List (Exchange S) → α → σ → Prop
  | ret {value : α} {state : σ} : Exec act (.ret value) state [] value state
  | call {request : S.Request} {next : S.Response request → Prog S α}
      {response : S.Response request} {state state' state'' : σ}
      {log : List (Exchange S)} {value : α} :
      act request response state state' →
      Exec act (next response) state' log value state'' →
      Exec act (.call request next) state (⟨request, response⟩ :: log) value state''

theorem Exec.mono {act act' : (request : S.Request) → S.Response request → σ → σ → Prop}
    (hact : ∀ request response state state',
      act request response state state' → act' request response state state')
    {p : Prog S α} {state state' : σ} {log : List (Exchange S)} {value : α}
    (h : Exec act p state log value state') : Exec act' p state log value state' := by
  induction h with
  | ret => exact .ret
  | call hcall _ ih => exact .call (hact _ _ _ _ hcall) ih

theorem Exec.map {τ : Type} {act : (request : S.Request) → S.Response request → σ → σ → Prop}
    {act' : (request : S.Request) → S.Response request → τ → τ → Prop} (view : σ → τ)
    {I : σ → Prop}
    (hact : ∀ request response state state', I state → act request response state state' →
      I state' ∧ act' request response (view state) (view state'))
    {p : Prog S α} {state state' : σ} {log : List (Exchange S)} {value : α}
    (h : Exec act p state log value state') (hI : I state) :
    Exec act' p (view state) log value (view state') := by
  induction h with
  | ret => exact .ret
  | call hcall _ ih =>
      obtain ⟨hI', hcall'⟩ := hact _ _ _ _ hI hcall
      exact .call hcall' (ih hI')

/-- Run a program alone, with the answers that an oracle gives. -/
def drive (perform : (request : S.Request) → S.Response request → σ → Option σ)
    (oracle : σ → (request : S.Request) → Option (S.Response request)) :
    Prog S α → σ → Option (List (Exchange S) × α × σ)
  | .ret value, state => some ([], value, state)
  | .call request next, state =>
      (oracle state request).bind fun response =>
        (perform request response state).bind fun state' =>
          (drive perform oracle (next response) state').map fun (log, rest) =>
            (⟨request, response⟩ :: log, rest)

theorem exec_of_oracle
    {perform : (request : S.Request) → S.Response request → σ → Option σ}
    {oracle : σ → (request : S.Request) → Option (S.Response request)}
    {p : Prog S α} {log : List (Exchange S)} {state state' : σ} {value : α}
    (h : drive perform oracle p state = some (log, value, state')) :
    Exec (fun request response state state' => oracle state request = some response ∧
      perform request response state = some state') p state log value state' := by
  induction p generalizing state log with
  | ret value' =>
      simp only [drive, Option.some.injEq, Prod.mk.injEq] at h
      obtain ⟨rfl, rfl, rfl⟩ := h
      exact .ret
  | call request next ih =>
      simp only [drive, Option.bind_eq_some_iff, Option.map_eq_some_iff, Prod.mk.injEq,
        Prod.exists] at h
      obtain ⟨response, horacle, middle, hperform, log', value', last, hrest, rfl, rfl, rfl⟩ := h
      exact .call ⟨horacle, hperform⟩ (ih _ hrest)

theorem exec_of_drive
    {perform : (request : S.Request) → S.Response request → σ → Option σ}
    {oracle : σ → (request : S.Request) → Option (S.Response request)}
    {p : Prog S α} {log : List (Exchange S)} {state state' : σ} {value : α}
    (h : drive perform oracle p state = some (log, value, state')) :
    Exec (fun request response state state' =>
      perform request response state = some state') p state log value state' :=
  (exec_of_oracle h).mono fun _ _ _ _ hcall => hcall.2

/-- The result of a program, from answers that do not change. -/
def eval (answer : (request : S.Request) → Option (S.Response request)) : Prog S α → Option α
  | .ret value => some value
  | .call request next => (answer request).bind fun response => (next response).eval answer

/-- Every request that the program can make is of the given kind. -/
def All (kind : S.Request → Prop) : Prog S α → Prop
  | .ret _ => True
  | .call request next => kind request ∧ ∀ response, (next response).All kind

variable {kind : S.Request → Prop}

@[simp] theorem all_ret (value : α) : (Prog.ret value : Prog S α).All kind := trivial

@[simp] theorem all_call (request : S.Request) (next : S.Response request → Prog S α) :
    (Prog.call request next).All kind ↔
      kind request ∧ ∀ response, (next response).All kind := Iff.rfl

theorem All.mono {kind' : S.Request → Prop} (h : ∀ request, kind request → kind' request)
    {p : Prog S α} (hp : p.All kind) : p.All kind' := by
  induction p with
  | ret value => trivial
  | call request next ih =>
      exact ⟨h request hp.1, fun response => ih response (hp.2 response)⟩

theorem Exec.of_all {act : (request : S.Request) → S.Response request → σ → σ → Prop}
    {p : Prog S α} {log : List (Exchange S)} {state state' : σ} {value : α}
    (h : Exec act p state log value state') (hp : p.All kind) :
    Exec (fun request response state state' => kind request ∧ act request response state state')
      p state log value state' := by
  induction h with
  | ret => exact .ret
  | call hcall _ ih => exact .call ⟨hp.1, hcall⟩ (ih (hp.2 _))

theorem All.bind {p : Prog S α} {f : α → Prog S β} (hp : p.All kind)
    (hf : ∀ value, (f value).All kind) : (p >>= f).All kind := by
  induction p with
  | ret value => exact hf value
  | call request next ih => exact ⟨hp.1, fun response => ih response (hp.2 response)⟩

theorem All.tryBind {ε : Type} {p : ExceptT ε (Prog S) α} {f : α → ExceptT ε (Prog S) β}
    (hp : p.run.All kind) (hf : ∀ value, (f value).run.All kind) :
    (p >>= f).run.All kind := by
  refine All.bind hp fun result => ?_
  cases result with
  | ok value => exact hf value
  | error error => trivial

theorem All.lift {ε : Type} {p : Prog S α} (hp : p.All kind) :
    (liftM p : ExceptT ε (Prog S) α).run.All kind := by
  rw [ExceptT.run_liftM, map_eq_pure_bind]
  exact hp.bind fun _ => trivial

end Prog

end Failsafe.Lib
