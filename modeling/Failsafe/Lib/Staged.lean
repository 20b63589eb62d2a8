import Failsafe.Lib.Ensures
import Failsafe.Lib.Split

/-!
Tasks that go through stages: how far a task is, read off its exchanges so far.

Each program is checked alone, against what it may ask for at which stage; an invariant over
the state and the stages of all tasks then holds over a whole run (`World.Run.staged`).
-/

namespace Failsafe.Lib

variable {S : Signature} {α β ε τ σ γ : Type}

/-- Where some exchanges lead from a stage. -/
def stageAfter (note : γ → Exchange S → γ) (stage : γ) (log : List (Exchange S)) : γ :=
  log.foldl note stage

theorem stageAfter_append (note : γ → Exchange S → γ) (stage : γ) (log log' : List (Exchange S)) :
    stageAfter note stage (log ++ log') = stageAfter note (stageAfter note stage log) log' :=
  List.foldl_append

namespace Prog

/-- From this stage on, the program asks only for what each stage permits. -/
def Staged (permits : γ → S.Request → Prop) (note : γ → Exchange S → γ) (p : Prog S α)
    (post : α → γ → Prop) (stage : γ) : Prop :=
  p.Ensures permits (fun request response stage stage' => stage' = note stage ⟨request, response⟩)
    post stage

variable {permits : γ → S.Request → Prop} {note : γ → Exchange S → γ} {stage : γ}

theorem staged_ret {value : α} {post : α → γ → Prop} :
    (Prog.ret value).Staged permits note post stage ↔ post value stage := Iff.rfl

theorem staged_call {request : S.Request} {next : S.Response request → Prog S α}
    {post : α → γ → Prop} :
    (Prog.call request next).Staged permits note post stage ↔
      permits stage request ∧ ∀ response,
        (next response).Staged permits note post (note stage ⟨request, response⟩) :=
  and_congr_right fun _ =>
    ⟨fun h response => h response _ rfl, fun h response _ hnote => hnote ▸ h response⟩

theorem staged_bind {p : Prog S α} {f : α → Prog S β} {post : β → γ → Prop} :
    (p >>= f).Staged permits note post stage ↔
      p.Staged permits note (fun value => (f value).Staged permits note post) stage :=
  ensures_bind

theorem staged_ask {request : S.Request} {f : S.Response request → Prog S β}
    {post : β → γ → Prop} :
    (ask request >>= f).Staged permits note post stage ↔
      permits stage request ∧ ∀ response,
        (f response).Staged permits note post (note stage ⟨request, response⟩) :=
  staged_call

theorem Staged.mono {p : Prog S α} {post post' : α → γ → Prop}
    (h : p.Staged permits note post stage)
    (hpost : ∀ value stage', post value stage' → post' value stage') :
    p.Staged permits note post' stage :=
  Ensures.mono h hpost

theorem Staged.of_all {kind : S.Request → Prop} {p : Prog S α} (hp : p.All kind)
    (hpermits : ∀ request, kind request → permits stage request)
    (hnote : ∀ request response, kind request → note stage ⟨request, response⟩ = stage) :
    p.Staged permits note (fun _ stage' => stage' = stage) stage := by
  refine Ensures.of_all (I := (· = stage)) hp ?_ ?_ (fun _ _ h => h) rfl
  · rintro _ request rfl hkind
    exact hpermits request hkind
  · rintro request response _ _ hkind rfl rfl
    exact hnote request response hkind

theorem staged_tryBind {p : ExceptT ε (Prog S) α} {f : α → ExceptT ε (Prog S) β}
    {post : Except ε β → γ → Prop} :
    (p >>= f).run.Staged permits note post stage ↔
      p.run.Staged permits note (fun result stage' => match result with
        | .ok value => (f value).run.Staged permits note post stage'
        | .error error => post (.error error) stage') stage :=
  ensures_tryBind

theorem staged_lift {p : Prog S α} {post : Except ε α → γ → Prop} :
    (liftM p : ExceptT ε (Prog S) α).run.Staged permits note post stage ↔
      p.Staged permits note (fun value => post (.ok value)) stage :=
  ensures_lift

theorem Staged.trace {allowed : (request : S.Request) → S.Response request → Prop}
    {p : Prog S α} {post : α → γ → Prop} {log : List (Exchange S)} {value : α}
    (h : p.Staged permits note post stage) (htrace : p.Trace allowed log value) :
    post value (stageAfter note stage log) := by
  induction p generalizing stage log with
  | ret value =>
      cases htrace
      exact h
  | call request next ih =>
      cases htrace with
      | @call _ _ response _ _ _ log _ _ hrest =>
          have hnext := (staged_call.mp h).2 response
          change post value (stageAfter note (note stage ⟨request, response⟩) log)
          exact ih response hnext hrest

theorem Staged.follows {allowed : (request : S.Request) → S.Response request → Prop}
    {first p : Prog S α} {post : α → γ → Prop} {log : List (Exchange S)}
    (h : first.Staged permits note post stage) (hfollows : first.Follows allowed log p) :
    p.Staged permits note post (stageAfter note stage log) := by
  induction hfollows with
  | refl => exact h
  | snoc _ _ ih =>
      rw [stageAfter_append]
      exact (staged_call.mp ih).2 _

theorem Staged.permitted {allowed : (request : S.Request) → S.Response request → Prop}
    {first p : Prog S α} {post : α → γ → Prop} {log before after : List (Exchange S)}
    {exchange : Exchange S} (h : first.Staged permits note post stage)
    (hfollows : first.Follows allowed log p) (hsplit : log = before ++ exchange :: after) :
    permits (stageAfter note stage before) exchange.request := by
  induction hfollows generalizing after with
  | refl => simp at hsplit
  | snoc hbefore _ ih =>
      rcases concat_eq_split hsplit with ⟨rfl, rfl⟩ | ⟨middle, hlog⟩
      · exact (staged_call.mp (h.follows hbefore)).1
      · exact ih hlog

theorem Exec.noted {act : (request : S.Request) → S.Response request → σ → σ → Prop}
    {p : Prog S α} {state state' : σ} {log : List (Exchange S)} {value : α}
    (h : Exec act p state log value state') (note : γ → Exchange S → γ) (stage : γ) :
    Exec (fun request response (before after : σ × γ) =>
        act request response before.1 after.1 ∧ after.2 = note before.2 ⟨request, response⟩)
      p (state, stage) log value (state', stageAfter note stage log) := by
  induction h generalizing stage with
  | ret => exact .ret
  | @call request _ response _ middle _ log _ hcall _ ih =>
      have hrest := ih (note stage ⟨request, response⟩)
      exact .call ⟨hcall, rfl⟩ hrest

end Prog

section Pools

variable [DecidableEq τ] {world : World S τ ε σ} {cond : σ → Label S τ ε → Prop}
  {pool pool' : Pool S τ σ} {labels : List (Label S τ ε)}
  {permits : γ → S.Request → Prop} {note : γ → Exchange S → γ} {first : γ}
  {I : σ → (τ → γ) → Prop}

/-- The stages of the tasks that run, after some steps. -/
def stages (note : γ → Exchange S → γ) (first : γ) (labels : List (Label S τ ε)) (task : τ) : γ :=
  stageAfter note first (trace task labels)

theorem stages_snoc_call (task : τ) (request : S.Request) (response : S.Response request) :
    stages note first (labels ++ [.call task request response]) =
      Function.update (stages note first labels) task
        (note (stages note first labels task) ⟨request, response⟩) := by
  funext other
  by_cases hself : other = task
  · subst hself
    simp [stages, stageAfter, trace, Label.exchange]
  · simp [stages, stageAfter, trace, Label.exchange, hself, Ne.symm hself]

theorem stages_snoc_event (event : ε) :
    stages note first (labels ++ [(.event event : Label S τ ε)]) = stages note first labels := by
  funext other
  have hnone : trace other [(.event event : Label S τ ε)] = [] := rfl
  rw [stages, trace_append, hnone, List.append_nil, stages]

/-- What the requests of each stage keep holds over every run from a pool without tasks. -/
theorem World.Run.staged [DecidableEq S.Request] (h : world.Run cond pool labels pool')
    (hidle : ∀ task, pool.tasks task = none) (hI : I pool.state fun _ => first)
    (hcall : ∀ task request response state state' (at_ : τ → γ), I state at_ →
      permits (at_ task) request → world.perform task request response state = some state' →
        I state' (Function.update at_ task (note (at_ task) ⟨request, response⟩)))
    (hevent : ∀ event state state' started (at_ : τ → γ), I state at_ →
      world.event event state = some (state', started) →
        I state' at_ ∧ ∀ task program, started = some (task, program) →
          program.Staged permits note (fun _ _ => True) first) :
    I pool'.state (stages note first labels) ∧
      (∀ task, pool'.tasks task = none → stages note first labels task = first) ∧
      ∀ task program, pool'.tasks task = some program →
        program.Staged permits note (fun _ _ => True) (stages note first labels task) := by
  induction h with
  | nil => exact ⟨hI, fun _ _ => rfl, fun task program htask => by simp [hidle] at htask⟩
  | @snoc middle last labels label _ _ hstep ih =>
      obtain ⟨hmiddle, hnew, hstaged⟩ := ih
      cases label with
      | call task request response =>
          obtain ⟨next, state, hpending, hperform, rfl⟩ := World.step_call hstep
          obtain ⟨hpermits, hnext⟩ := Prog.staged_call.mp (hstaged task _ hpending)
          rw [stages_snoc_call]
          refine ⟨hcall _ _ _ _ _ _ hmiddle hpermits hperform, ?_, ?_⟩
          · intro other hother
            by_cases hself : other = task
            · subst hself
              simp at hother
            · rw [Pool.put_tasks_of_ne _ _ hself] at hother
              rw [Function.update_of_ne hself]
              exact hnew other hother
          · intro other program hother
            by_cases hself : other = task
            · subst hself
              rw [Pool.put_tasks_self] at hother
              obtain rfl := Option.some.inj hother
              rw [Function.update_self]
              exact hnext response
            · rw [Pool.put_tasks_of_ne _ _ hself] at hother
              rw [Function.update_of_ne hself]
              exact hstaged other program hother
      | event event =>
          obtain ⟨state, started, hhappened, hstarted⟩ := World.step_event hstep
          obtain ⟨hstate, hprogram⟩ := hevent _ _ _ _ _ hmiddle hhappened
          rw [stages_snoc_event]
          rcases hstarted with ⟨-, rfl⟩ | ⟨task, program, hnamed, hfree, rfl⟩
          · exact ⟨hstate, hnew, hstaged⟩
          · refine ⟨hstate, ?_, ?_⟩
            · intro other hother
              by_cases hself : other = task
              · subst hself
                simp at hother
              · rw [Pool.put_tasks_of_ne _ _ hself] at hother
                exact hnew other hother
            · intro other program' hother
              by_cases hself : other = task
              · subst hself
                rw [Pool.put_tasks_self] at hother
                obtain rfl := Option.some.inj hother
                rw [hnew other hfree]
                exact hprogram other program hnamed
              · rw [Pool.put_tasks_of_ne _ _ hself] at hother
                exact hstaged other program' hother

end Pools

end Failsafe.Lib
