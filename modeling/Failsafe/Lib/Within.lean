import Failsafe.Lib.Ensures

/-!
What a program can still ask for: the requests that it makes as long as it is told nothing but
what can be told.

Where the requests of the tasks decide what can be told, and what is told decides what the
tasks ask for, both hold over a whole run (`World.Run.within_all`).
-/

namespace Failsafe.Lib

namespace Prog

variable {S : Signature} {α β ε : Type}

/-- Told only what is allowed, the program makes only requests that are guarded. -/
def Within (guard : S.Request → Prop)
    (allowed : (request : S.Request) → S.Response request → Prop) (p : Prog S α)
    (post : α → Prop) : Prop :=
  p.Ensures (fun (_ : Unit) => guard) (fun request response _ _ => allowed request response)
    (fun value _ => post value) ()

variable {guard guard' : S.Request → Prop}
  {allowed : (request : S.Request) → S.Response request → Prop}

theorem within_ret {value : α} {post : α → Prop} :
    (Prog.ret value).Within guard allowed post ↔ post value := Iff.rfl

theorem within_call {request : S.Request} {next : S.Response request → Prog S α}
    {post : α → Prop} :
    (Prog.call request next).Within guard allowed post ↔
      guard request ∧ ∀ response, allowed request response →
        (next response).Within guard allowed post :=
  and_congr_right fun _ => forall_congr' fun _ =>
    ⟨fun h hallowed => h () hallowed, fun h _ hallowed => h hallowed⟩

theorem within_bind {p : Prog S α} {f : α → Prog S β} {post : β → Prop} :
    (p >>= f).Within guard allowed post ↔
      p.Within guard allowed fun value => (f value).Within guard allowed post :=
  ensures_bind

theorem Within.mono {p : Prog S α} {post post' : α → Prop}
    (h : p.Within guard allowed post) (hpost : ∀ value, post value → post' value) :
    p.Within guard allowed post' :=
  Ensures.mono h fun value _ => hpost value

theorem Within.weaken {p : Prog S α} {post : α → Prop} (h : p.Within guard allowed post)
    (hguard : ∀ request, guard request → guard' request) : p.Within guard' allowed post :=
  Ensures.weaken h fun _ => hguard

theorem Within.of_all {kind : S.Request → Prop} {p : Prog S α} (hp : p.All kind)
    (hguard : ∀ request, kind request → guard request) :
    p.Within guard allowed fun _ => True :=
  Ensures.of_all hp (fun _ request _ => hguard request) (fun _ _ _ _ _ _ _ => trivial)
    (fun _ _ _ => trivial) trivial

theorem Within.restrict {allowed' : (request : S.Request) → S.Response request → Prop}
    {p : Prog S α} {post : α → Prop} (h : p.Within guard allowed post)
    (hallowed : ∀ request response, allowed' request response → allowed request response) :
    p.Within guard allowed' post := by
  induction p with
  | ret value => exact h
  | call request next ih =>
      obtain ⟨hguard, hnext⟩ := within_call.mp h
      exact within_call.mpr ⟨hguard, fun response hresponse =>
        ih response (hnext response (hallowed request response hresponse))⟩

theorem Within.follows {p q : Prog S α} {log : List (Exchange S)} {post : α → Prop}
    (h : p.Within guard allowed post) (hfollows : p.Follows allowed log q) :
    q.Within guard allowed post := by
  induction hfollows with
  | refl => exact h
  | snoc _ hallowed ih => exact (within_call.mp ih).2 _ hallowed

theorem within_tryBind {p : ExceptT ε (Prog S) α} {f : α → ExceptT ε (Prog S) β}
    {post : Except ε β → Prop} :
    (p >>= f).run.Within guard allowed post ↔
      p.run.Within guard allowed fun result => match result with
        | .ok value => (f value).run.Within guard allowed post
        | .error error => post (.error error) := by
  rw [ExceptT.run_bind, within_bind]
  constructor
  · intro h
    refine h.mono fun result hresult => ?_
    cases result <;> exact hresult
  · intro h
    refine h.mono fun result hresult => ?_
    cases result <;> exact hresult

theorem within_try {p : ExceptT ε (Prog S) α} {f : α → ExceptT ε (Prog S) β}
    {post : Except ε β → Prop} (hp : p.run.All guard) (herror : ∀ error, post (.error error))
    (hf : ∀ value, (f value).run.Within guard allowed post) :
    (p >>= f).run.Within guard allowed post := by
  refine within_tryBind.mpr ((Within.of_all hp fun _ h => h).mono fun result _ => ?_)
  cases result with
  | ok value => exact hf value
  | error error => exact herror error

theorem Within.all {p : Prog S α} {post : α → Prop}
    (h : p.Within guard (fun _ _ => True) post) : p.All guard := by
  induction p with
  | ret value => trivial
  | call request next ih =>
      obtain ⟨hguard, hnext⟩ := within_call.mp h
      exact ⟨hguard, fun response => ih response (hnext response trivial)⟩

theorem within_lift {p : Prog S α} {post : Except ε α → Prop} :
    (liftM p : ExceptT ε (Prog S) α).run.Within guard allowed post ↔
      p.Within guard allowed fun value => post (.ok value) :=
  ensures_lift

end Prog

section Pools

variable {S : Signature} {τ ε σ : Type} [DecidableEq τ] [DecidableEq S.Request]
  {world : World S τ ε σ} {cond : σ → Label S τ ε → Prop} {I : σ → Prop}
  {guard : S.Request → Prop} {allowed : (request : S.Request) → S.Response request → Prop}
  {pool pool' : Pool S τ σ} {labels : List (Label S τ ε)}

theorem World.Run.state_inv (h : world.Run cond pool labels pool') (hI : I pool.state)
    (hcall : ∀ task request response state state', I state →
      world.perform task request response state = some state' → I state')
    (hevent : ∀ event state state' started, I state →
      world.event event state = some (state', started) → I state') : I pool'.state := by
  induction h with
  | nil => exact hI
  | @snoc middle last labels label _ _ hstep ih =>
      cases label with
      | call task request response =>
          obtain ⟨_, _, -, hperform, rfl⟩ := World.step_call hstep
          exact hcall _ _ _ _ _ ih hperform
      | event event =>
          obtain ⟨_, _, hhappened, ⟨-, rfl⟩ | ⟨_, _, -, -, rfl⟩⟩ := World.step_event hstep
          · exact hevent _ _ _ _ ih hhappened
          · exact hevent _ _ _ _ ih hhappened

theorem World.Run.alive (h : world.Run cond pool labels pool') {task : τ}
    (hbusy : pool.tasks task ≠ none) : pool'.tasks task ≠ none := by
  induction h with
  | nil => exact hbusy
  | @snoc middle last labels label _ _ hstep ih =>
      have hput : ∀ (middle : Pool S τ σ) state other program, middle.tasks task ≠ none →
          (middle.put state other program).tasks task ≠ none := by
        intro middle state other program hmiddle
        by_cases hself : task = other
        · subst hself
          simp
        · rwa [Pool.put_tasks_of_ne _ _ hself]
      cases label with
      | call task' request response =>
          obtain ⟨_, _, -, -, rfl⟩ := World.step_call hstep
          exact hput _ _ _ _ ih
      | event event =>
          obtain ⟨_, _, -, ⟨-, rfl⟩ | ⟨_, _, -, -, rfl⟩⟩ := World.step_event hstep
          · exact ih
          · exact hput _ _ _ _ ih

theorem World.Run.started_at (h : world.Run cond pool labels pool') {task : τ}
    (hidle : pool.tasks task = none) {program : Prog S Unit}
    (htask : pool'.tasks task = some program) :
    ∃ before event after earlier state first, labels = before ++ .event event :: after ∧
      world.Run cond pool before earlier ∧ cond earlier.state (.event event) ∧
      world.event event earlier.state = some (state, some (task, first)) ∧
      world.Run cond (earlier.put state task first) after pool' := by
  induction h generalizing program with
  | nil => cases hidle.symm.trans htask
  | @snoc middle last labels label hbefore hcond hstep ih =>
      have hrunning : ∀ {running}, middle.tasks task = some running →
          ∃ before event after earlier state first,
            labels ++ [label] = before ++ .event event :: after ∧
            world.Run cond pool before earlier ∧ cond earlier.state (.event event) ∧
            world.event event earlier.state = some (state, some (task, first)) ∧
            world.Run cond (earlier.put state task first) after last := by
        intro running hrunning
        obtain ⟨before, event, after, earlier, state, first, rfl, hearlier, hmet, hevent, hrest⟩ :=
          ih hrunning
        exact ⟨before, event, after ++ [label], earlier, state, first, by simp, hearlier, hmet,
          hevent, .snoc hrest hcond hstep⟩
      cases label with
      | call task' request response =>
          obtain ⟨next, state, hpending, -, rfl⟩ := World.step_call hstep
          by_cases hself : task = task'
          · subst hself
            exact hrunning hpending
          · rw [Pool.put_tasks_of_ne _ _ hself] at htask
            exact hrunning htask
      | event event =>
          obtain ⟨state, _, hevent, ⟨-, rfl⟩ | ⟨task', first, rfl, -, rfl⟩⟩ :=
            World.step_event hstep
          · exact hrunning htask
          · by_cases hself : task = task'
            · subst hself
              exact ⟨labels, event, [], middle, state, first, rfl, hbefore, hcond, hevent, .nil⟩
            · rw [Pool.put_tasks_of_ne _ _ hself] at htask
              exact hrunning htask

theorem World.Run.within (h : world.Run cond pool labels pool') (hI : I pool.state)
    (hcall : ∀ task request response state state', I state →
      world.perform task request response state = some state' →
        I state' ∧ allowed request response)
    (hevent : ∀ event state state' started, I state →
      world.event event state = some (state', started) → I state')
    {task : τ} {program : Prog S Unit} {post : Unit → Prop}
    (htask : pool.tasks task = some program) (hwithin : program.Within guard allowed post) :
    (∃ program', pool'.tasks task = some program' ∧ program'.Within guard allowed post) ∧
      ∀ exchange ∈ trace task labels, guard exchange.request := by
  induction h with
  | nil => exact ⟨⟨program, htask, hwithin⟩, by simp [trace]⟩
  | @snoc middle last labels label hbefore _ hstep ih =>
      obtain ⟨⟨program', htask', hwithin'⟩, hguarded⟩ := ih
      have hmiddle := hbefore.state_inv hI (fun _ _ _ _ _ h hp => (hcall _ _ _ _ _ h hp).1) hevent
      have hquiet : label.exchange task = none →
          ∀ exchange ∈ trace task (labels ++ [label]), guard exchange.request := by
        intro hnone
        simpa [trace, hnone] using hguarded
      cases label with
      | call task' request response =>
          obtain ⟨next, state, hpending, hperform, rfl⟩ := World.step_call hstep
          by_cases hself : task' = task
          · subst hself
            obtain rfl := Option.some.inj (hpending.symm.trans htask')
            obtain ⟨hguard, hnext⟩ := Prog.within_call.mp hwithin'
            refine ⟨⟨_, Pool.put_tasks_self _ _ _ _,
              hnext response (hcall _ _ _ _ _ hmiddle hperform).2⟩, fun exchange hmem => ?_⟩
            rw [trace_append] at hmem
            rcases List.mem_append.mp hmem with hmem | hmem
            · exact hguarded exchange hmem
            · obtain rfl : exchange = ⟨request, response⟩ := by
                simpa [trace, Label.exchange] using hmem
              exact hguard
          · refine ⟨⟨program', ?_, hwithin'⟩, hquiet (by simp [Label.exchange, hself])⟩
            rwa [Pool.put_tasks_of_ne _ _ (Ne.symm hself)]
      | event event =>
          refine ⟨⟨program', ?_, hwithin'⟩, hquiet rfl⟩
          obtain ⟨_, _, -, ⟨-, rfl⟩ | ⟨task', _, -, hfree, rfl⟩⟩ := World.step_event hstep
          · exact htask'
          · have hother : task ≠ task' := by
              rintro rfl
              cases hfree.symm.trans htask'
            rwa [Pool.put_tasks_of_ne _ _ hother]

/-- All tasks together: guarded requests keep what the allowed answers come from. -/
theorem World.Run.within_all (h : world.Run cond pool labels pool') (hI : I pool.state)
    (hcall : ∀ task request response state state', I state → guard request →
      world.perform task request response state = some state' →
        I state' ∧ allowed request response)
    (hevent : ∀ event state state' started, I state → cond state (.event event) →
      world.event event state = some (state', started) →
        I state' ∧ ∀ task program, started = some (task, program) →
          program.Within guard allowed fun _ => True)
    (hall : ∀ task program, pool.tasks task = some program →
      program.Within guard allowed fun _ => True) :
    I pool'.state ∧ ∀ task program, pool'.tasks task = some program →
      program.Within guard allowed fun _ => True := by
  induction h with
  | nil => exact ⟨hI, hall⟩
  | @snoc middle last labels label _ hcond hstep ih =>
      obtain ⟨hmiddle, hwithin⟩ := ih
      have hput : ∀ state task program, program.Within guard allowed (fun _ => True) →
          ∀ other program', (middle.put state task program).tasks other = some program' →
            program'.Within guard allowed fun _ => True := by
        intro state task program hprogram other program' hother
        by_cases hself : other = task
        · subst hself
          rw [Pool.put_tasks_self] at hother
          exact Option.some.inj hother ▸ hprogram
        · rw [Pool.put_tasks_of_ne _ _ hself] at hother
          exact hwithin other program' hother
      cases label with
      | call task request response =>
          obtain ⟨next, state, hpending, hperform, rfl⟩ := World.step_call hstep
          obtain ⟨hguard, hnext⟩ := Prog.within_call.mp (hwithin task _ hpending)
          obtain ⟨hstate, hallowed⟩ := hcall _ _ _ _ _ hmiddle hguard hperform
          exact ⟨hstate, hput _ _ _ (hnext response hallowed)⟩
      | event event =>
          obtain ⟨state, started, hhappened, hstarted⟩ := World.step_event hstep
          obtain ⟨hstate, hprogram⟩ := hevent _ _ _ _ hmiddle hcond hhappened
          rcases hstarted with ⟨-, rfl⟩ | ⟨task, program, hnew, -, rfl⟩
          · exact ⟨hstate, hwithin⟩
          · exact ⟨hstate, hput _ _ _ (hprogram task program hnew)⟩

end Pools

end Failsafe.Lib
