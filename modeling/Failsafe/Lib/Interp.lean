import Failsafe.Lib.Ensures

/-!
Programs over one signature as programs over another: each request becomes a program that
answers it.

What a program ensures is carried over by a relation between the two histories
(`Prog.Ensures.interp`).
-/

namespace Failsafe.Lib

namespace Prog

variable {S T : Signature} {α β ε : Type}

/-- Run a program where each of its requests is answered by a program. -/
def interp (f : (request : S.Request) → Prog T (S.Response request)) : Prog S α → Prog T α
  | .ret value => .ret value
  | .call request next => f request >>= fun response => interp f (next response)

variable {f : (request : S.Request) → Prog T (S.Response request)}

@[simp] theorem interp_ret (value : α) : (Prog.ret value : Prog S α).interp f = .ret value := rfl

@[simp] theorem interp_call (request : S.Request) (next : S.Response request → Prog S α) :
    (Prog.call request next).interp f =
      f request >>= fun response => (next response).interp f := rfl

theorem interp_bind (p : Prog S α) (g : α → Prog S β) :
    (p >>= g).interp f = p.interp f >>= fun value => (g value).interp f := by
  induction p with
  | ret value => rfl
  | call request next ih =>
      rw [call_bind, interp_call, interp_call, bind_assoc]
      exact congrArg (f request >>= ·) (funext ih)

variable {kind : S.Request → Prop} {kind' : T.Request → Prop}

theorem All.interp {p : Prog S α} (hp : p.All kind)
    (hf : ∀ request, kind request → (f request).All kind') : (p.interp f).All kind' := by
  induction p with
  | ret value => trivial
  | call request next ih =>
      exact (hf request hp.1).bind fun response => ih response (hp.2 response)

/-- Where every answer keeps two histories related, what a program ensures of the one is known
of the other. -/
theorem Ensures.interp {guard : List (Exchange S) → S.Request → Prop}
    {guard' : List (Exchange T) → T.Request → Prop}
    {R : List (Exchange S) → List (Exchange T) → Prop} {p : Prog S α}
    {post : α → List (Exchange S) → Prop} {log : List (Exchange S)} {log' : List (Exchange T)}
    (h : p.Ensures guard heard post log) (hR : R log log')
    (hstep : ∀ request log log', guard log request → R log log' →
      (f request).Ensures guard' heard
        (fun response log'' => R (log ++ [⟨request, response⟩]) log'') log') :
    (p.interp f).Ensures guard' heard
      (fun value log'' => ∃ told, post value told ∧ R told log'') log' := by
  induction p generalizing log log' with
  | ret value => exact ⟨log, h, hR⟩
  | call request next ih =>
      refine ensures_bind.mpr ((hstep request log log' h.1 hR).mono ?_)
      intro response log'' hresponse
      exact ih response (h.2 response _ rfl) hresponse

theorem ensures_interp_tryBind {σ : Type} {guard : σ → T.Request → Prop}
    {act : (request : T.Request) → T.Response request → σ → σ → Prop}
    {p : ExceptT ε (Prog S) α} {g : α → ExceptT ε (Prog S) β} {post : Except ε β → σ → Prop}
    {state : σ} :
    ((p >>= g).run.interp f).Ensures guard act post state ↔
      (p.run.interp f).Ensures guard act (fun result state' => match result with
        | .ok value => ((g value).run.interp f).Ensures guard act post state'
        | .error error => post (.error error) state') state := by
  rw [ExceptT.run_bind, interp_bind, ensures_bind]
  constructor
  · intro h
    refine h.mono fun result state' hresult => ?_
    cases result <;> exact hresult
  · intro h
    refine h.mono fun result state' hresult => ?_
    cases result <;> exact hresult

theorem ensures_interp_lift {σ : Type} {guard : σ → T.Request → Prop}
    {act : (request : T.Request) → T.Response request → σ → σ → Prop} {p : Prog S α}
    {post : Except ε α → σ → Prop} {state : σ} :
    ((liftM p : ExceptT ε (Prog S) α).run.interp f).Ensures guard act post state ↔
      (p.interp f).Ensures guard act (fun value => post (.ok value)) state := by
  rw [ExceptT.run_liftM, map_eq_pure_bind, interp_bind, ensures_bind]
  exact Iff.rfl

end Prog

end Failsafe.Lib
