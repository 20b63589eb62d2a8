import Failsafe.Lib.Prog
import Mathlib.Data.List.Induction
import Mathlib.Logic.Function.Basic

/-!
Pools of concurrent programs over one shared state, and a proof rule for them.

A pool takes one step at a time: a task is answered its pending request, or an
event from outside changes the state and may start a task.  A `Protocol` says
what every step keeps (`inv`) and what each task may count on while others run
(`rely`).  Programs are checked against it one by one (`Keeps`), and together
they then keep the invariant over every run (`Run.inv`).
-/

namespace Failsafe.Lib

variable {S : Signature} {τ ε σ : Type}

/-- A step of a pool: a task gets an answer, or something happens outside. -/
inductive Label (S : Signature) (τ ε : Type) where
  | call (task : τ) (request : S.Request) (response : S.Response request)
  | event (event : ε)

/-- The surroundings of a pool: which answers are possible in a state and what
they do to it, and what may happen from outside. -/
structure World (S : Signature) (τ ε σ : Type) where
  perform : τ → (request : S.Request) → S.Response request → σ → Option σ
  event : ε → σ → Option (σ × Option (τ × Prog S Unit))

/-- A script for a run: an event, or the next request of a task. -/
inductive Move (τ ε : Type) where
  | event (event : ε)
  | tick (task : τ)

structure Pool (S : Signature) (τ σ : Type) where
  state : σ
  tasks : τ → Option (Prog S Unit)

/-- A pool in a new state where one task has the given program left to run. -/
def Pool.put [DecidableEq τ] (pool : Pool S τ σ) (state : σ) (task : τ)
    (program : Prog S Unit) : Pool S τ σ :=
  { state, tasks := Function.update pool.tasks task (some program) }

@[simp] theorem Pool.put_state [DecidableEq τ] (pool : Pool S τ σ) (state : σ) (task : τ)
    (program : Prog S Unit) : (pool.put state task program).state = state := rfl

@[simp] theorem Pool.put_tasks_self [DecidableEq τ] (pool : Pool S τ σ) (state : σ)
    (task : τ) (program : Prog S Unit) :
    (pool.put state task program).tasks task = some program := by
  simp [Pool.put]

theorem Pool.put_tasks_of_ne [DecidableEq τ] (pool : Pool S τ σ) (state : σ)
    {task other : τ} (h : other ≠ task) (program : Prog S Unit) :
    (pool.put state task program).tasks other = pool.tasks other := by
  simp [Pool.put, h]

def Pool.finished (pool : Pool S τ σ) (task : τ) : Bool :=
  match pool.tasks task with
  | some (.ret _) => true
  | _ => false

theorem Pool.finished_iff {pool : Pool S τ σ} {task : τ} :
    pool.finished task = true ↔ pool.tasks task = some (.ret ()) := by
  unfold Pool.finished
  split
  · rename_i htask
    simp [htask]
  · rename_i hnone
    exact ⟨fun h => (Bool.false_ne_true h).elim, fun h => (hnone () h).elim⟩

namespace World

variable [DecidableEq S.Request] [DecidableEq τ]

def step (world : World S τ ε σ) (pool : Pool S τ σ) :
    Label S τ ε → Option (Pool S τ σ)
  | .call task request response =>
      match pool.tasks task with
      | some (.call request' next) =>
          if h : request = request' then
            (world.perform task request response pool.state).map fun state =>
              pool.put state task (next (h ▸ response))
          else none
      | _ => none
  | .event event =>
      match world.event event pool.state with
      | none => none
      | some (state, none) => some { pool with state }
      | some (state, some (task, program)) =>
          match pool.tasks task with
          | some _ => none
          | none => some (pool.put state task program)

theorem step_call {world : World S τ ε σ} {pool pool' : Pool S τ σ} {task : τ}
    {request : S.Request} {response : S.Response request}
    (h : world.step pool (.call task request response) = some pool') :
    ∃ next state, pool.tasks task = some (.call request next) ∧
      world.perform task request response pool.state = some state ∧
      pool' = pool.put state task (next response) := by
  simp only [step] at h
  split at h
  · rename_i request' next htask
    split at h
    · rename_i heq
      subst heq
      obtain ⟨state, hperform, rfl⟩ := Option.map_eq_some_iff.mp h
      exact ⟨next, state, htask, hperform, rfl⟩
    · cases h
  · cases h

theorem step_event {world : World S τ ε σ} {pool pool' : Pool S τ σ} {event : ε}
    (h : world.step pool (.event event) = some pool') :
    ∃ state started, world.event event pool.state = some (state, started) ∧
      (started = none ∧ pool' = { pool with state } ∨
        ∃ task program, started = some (task, program) ∧ pool.tasks task = none ∧
          pool' = pool.put state task program) := by
  simp only [step] at h
  split at h
  · cases h
  · rename_i state hevent
    exact ⟨state, none, hevent, .inl ⟨rfl, (Option.some.inj h).symm⟩⟩
  · rename_i state task program hevent
    split at h
    · cases h
    · rename_i hfree
      exact ⟨state, _, hevent, .inr ⟨task, program, rfl, hfree, (Option.some.inj h).symm⟩⟩

/-- Runs whose every step meets a condition on the state before it. -/
inductive Run (world : World S τ ε σ) (cond : σ → Label S τ ε → Prop) :
    Pool S τ σ → List (Label S τ ε) → Pool S τ σ → Prop
  | nil {pool : Pool S τ σ} : Run world cond pool [] pool
  | snoc {pool pool' pool'' : Pool S τ σ} {labels : List (Label S τ ε)}
      {label : Label S τ ε} :
      Run world cond pool labels pool' → cond pool'.state label →
      world.step pool' label = some pool'' →
      Run world cond pool (labels ++ [label]) pool''

theorem Run.append {world : World S τ ε σ} {cond : σ → Label S τ ε → Prop}
    {first middle last : Pool S τ σ} {labels labels' : List (Label S τ ε)}
    (h : world.Run cond first labels middle) (h' : world.Run cond middle labels' last) :
    world.Run cond first (labels ++ labels') last := by
  induction h' with
  | nil => simpa using h
  | snoc _ hcond hstep ih =>
      rw [← List.append_assoc]
      exact .snoc ih hcond hstep

theorem Run.mono {world : World S τ ε σ} {cond cond' : σ → Label S τ ε → Prop}
    {first last : Pool S τ σ} {labels : List (Label S τ ε)}
    (h : world.Run cond first labels last)
    (hcond : ∀ state label, cond state label → cond' state label) :
    world.Run cond' first labels last := by
  induction h with
  | nil => exact .nil
  | snoc _ hlabel hstep ih => exact .snoc ih (hcond _ _ hlabel) hstep

theorem Run.nil_inv {world : World S τ ε σ} {cond : σ → Label S τ ε → Prop}
    {first last : Pool S τ σ} (h : world.Run cond first [] last) : last = first := by
  generalize hlabels : ([] : List (Label S τ ε)) = labels at h
  cases h with
  | nil => rfl
  | snoc => simp at hlabels

theorem Run.snoc_inv {world : World S τ ε σ} {cond : σ → Label S τ ε → Prop}
    {first last : Pool S τ σ} {labels : List (Label S τ ε)} {label : Label S τ ε}
    (h : world.Run cond first (labels ++ [label]) last) :
    ∃ middle, world.Run cond first labels middle ∧ cond middle.state label ∧
      world.step middle label = some last := by
  generalize hlabels : labels ++ [label] = all at h
  cases h with
  | nil => simp at hlabels
  | snoc hbefore hcond hstep =>
      obtain ⟨rfl, hlabel⟩ := List.append_inj' hlabels rfl
      obtain rfl := List.singleton_inj.mp hlabel
      exact ⟨_, hbefore, hcond, hstep⟩

theorem Run.append_inv {world : World S τ ε σ} {cond : σ → Label S τ ε → Prop}
    {first last : Pool S τ σ} {labels labels' : List (Label S τ ε)}
    (h : world.Run cond first (labels ++ labels') last) :
    ∃ middle, world.Run cond first labels middle ∧ world.Run cond middle labels' last := by
  induction labels' using List.reverseRecOn generalizing last with
  | nil => exact ⟨last, by simpa using h, .nil⟩
  | append_singleton labels' label ih =>
      rw [← List.append_assoc] at h
      obtain ⟨before, hbefore, hcond, hstep⟩ := h.snoc_inv
      obtain ⟨middle, hfirst, hrest⟩ := ih hbefore
      exact ⟨middle, hfirst, .snoc hrest hcond hstep⟩

theorem Run.unique {world : World S τ ε σ} {cond : σ → Label S τ ε → Prop}
    {first last last' : Pool S τ σ} {labels : List (Label S τ ε)}
    (h : world.Run cond first labels last) (h' : world.Run cond first labels last') :
    last = last' := by
  induction h generalizing last' with
  | nil => exact h'.nil_inv.symm
  | snoc _ _ hstep ih =>
      obtain ⟨middle, hbefore, -, hstep'⟩ := h'.snoc_inv
      obtain rfl := ih hbefore
      exact Option.some.inj (hstep.symm.trans hstep')

theorem Run.split_inv {world : World S τ ε σ} {cond : σ → Label S τ ε → Prop}
    {first last : Pool S τ σ} {labels labels' : List (Label S τ ε)} {label : Label S τ ε}
    (h : world.Run cond first (labels ++ label :: labels') last) :
    ∃ before after, world.Run cond first labels before ∧ cond before.state label ∧
      world.step before label = some after ∧ world.Run cond after labels' last := by
  rw [← List.singleton_append, ← List.append_assoc] at h
  obtain ⟨after, hfirst, hrest⟩ := h.append_inv
  obtain ⟨before, hbefore, hcond, hstep⟩ := hfirst.snoc_inv
  exact ⟨before, after, hbefore, hcond, hstep, hrest⟩

theorem Run.at_split {world : World S τ ε σ} {cond : σ → Label S τ ε → Prop}
    {first middle last : Pool S τ σ} {labels labels' : List (Label S τ ε)} {label : Label S τ ε}
    (h : world.Run cond first (labels ++ label :: labels') last)
    (hbefore : world.Run cond first labels middle) : cond middle.state label := by
  obtain ⟨before, _, hbefore', hcond, -, -⟩ := h.split_inv
  obtain rfl := hbefore.unique hbefore'
  exact hcond

section Follow

variable (world : World S τ ε σ) (cond : σ → Label S τ ε → Prop)
  [∀ state label, Decidable (cond state label)]
  (oracle : τ → σ → (request : S.Request) → Option (S.Response request))

/-- Take the step that a move stands for, with the answer that the oracle gives. -/
def move (pool : Pool S τ σ) : Move τ ε → Option (Label S τ ε × Pool S τ σ)
  | .event event =>
      if cond pool.state (.event event) then
        (world.step pool (.event event)).map fun pool' => (.event event, pool')
      else none
  | .tick task =>
      match pool.tasks task with
      | some (.call request next) =>
          (oracle task pool.state request).bind fun response =>
            if cond pool.state (.call task request response) then
              (world.perform task request response pool.state).map fun state =>
                (.call task request response, pool.put state task (next response))
            else none
      | _ => none

/-- Follow a script as long as every step meets the condition. -/
def follow : List (Move τ ε) → Pool S τ σ → Option (List (Label S τ ε) × Pool S τ σ)
  | [], pool => some ([], pool)
  | next :: moves, pool =>
      (world.move cond oracle pool next).bind fun (label, pool') =>
        (follow moves pool').map fun (labels, pool'') => (label :: labels, pool'')

variable {world cond oracle}

theorem step_of_move {next : Move τ ε} {pool pool' : Pool S τ σ} {label : Label S τ ε}
    (h : world.move cond oracle pool next = some (label, pool')) :
    cond pool.state label ∧ world.step pool label = some pool' := by
  cases next with
  | event event =>
      simp only [move, Option.ite_none_right_eq_some, Option.map_eq_some_iff,
        Prod.mk.injEq] at h
      obtain ⟨hcond, _, hstep, rfl, rfl⟩ := h
      exact ⟨hcond, hstep⟩
  | tick task =>
      simp only [move] at h
      split at h
      · rename_i request next htask
        simp only [Option.bind_eq_some_iff, Option.ite_none_right_eq_some,
          Option.map_eq_some_iff, Prod.mk.injEq] at h
        obtain ⟨response, -, hcond, state, hperform, rfl, rfl⟩ := h
        exact ⟨hcond, by simp [step, htask, hperform]⟩
      · cases h

theorem run_of_follow {moves : List (Move τ ε)} {pool pool' : Pool S τ σ}
    {labels : List (Label S τ ε)}
    (h : world.follow cond oracle moves pool = some (labels, pool')) :
    world.Run cond pool labels pool' := by
  induction moves generalizing pool labels with
  | nil =>
      obtain ⟨rfl, rfl⟩ := Prod.mk.inj (Option.some.inj h)
      exact .nil
  | cons next moves ih =>
      simp only [follow, Option.bind_eq_some_iff, Option.map_eq_some_iff, Prod.exists,
        Prod.mk.injEq] at h
      obtain ⟨label, middle, hmove, labels', last, hrest, rfl, rfl⟩ := h
      obtain ⟨hcond, hstep⟩ := step_of_move hmove
      have hfirst : world.Run cond pool [label] middle := .snoc .nil hcond hstep
      exact hfirst.append (ih hrest)

theorem event_of_follow {moves : List (Move τ ε)} {pool pool' : Pool S τ σ}
    {labels : List (Label S τ ε)} {event : ε}
    (h : world.follow cond oracle moves pool = some (labels, pool'))
    (hmem : .event event ∈ moves) : .event event ∈ labels := by
  induction moves generalizing pool labels with
  | nil => cases hmem
  | cons next moves ih =>
      simp only [follow, Option.bind_eq_some_iff, Option.map_eq_some_iff, Prod.exists,
        Prod.mk.injEq] at h
      obtain ⟨label, middle, hmove, labels', last, hrest, rfl, rfl⟩ := h
      rcases List.mem_cons.mp hmem with rfl | hmem
      · simp only [move, Option.ite_none_right_eq_some, Option.map_eq_some_iff,
          Prod.mk.injEq] at hmove
        obtain ⟨-, _, -, rfl, -⟩ := hmove
        exact List.mem_cons_self
      · exact List.mem_cons_of_mem _ (ih hrest hmem)

end Follow

end World

/-- What all tasks of a pool keep to. -/
structure Protocol (S : Signature) (τ σ : Type) where
  inv : σ → Prop
  rely : τ → σ → σ → Prop
  act : τ → (request : S.Request) → S.Response request → σ → σ → Prop
  rely_refl : ∀ task state, rely task state state
  rely_trans : ∀ task state₁ state₂ state₃,
    rely task state₁ state₂ → rely task state₂ state₃ → rely task state₁ state₃

namespace Protocol

variable {α β : Type} (P : Protocol S τ σ) (task : τ)

/-- A step of `task` that keeps the invariant and what the other tasks rely on. -/
structure Fair (state state' : σ) : Prop where
  inv : P.inv state'
  rely : ∀ other, other ≠ task → P.rely other state state'

/-- The assertion survives the steps of the other tasks. -/
def Stable (A : σ → Prop) : Prop :=
  ∀ state state', A state → P.rely task state state' → A state'

/-- From this state on, every step of the program is fair whatever the others do
in between, and `post` holds of its result. -/
def Keeps : Prog S α → (α → σ → Prop) → σ → Prop
  | .ret value, post, state =>
      ∀ state', P.rely task state state' → P.inv state' → post value state'
  | .call request next, post, state =>
      ∀ state₁, P.rely task state state₁ → P.inv state₁ →
        ∀ response state₂, P.act task request response state₁ state₂ →
          P.Fair task state₁ state₂ ∧ Keeps (next response) post state₂

variable {P task}

theorem Stable.and {A B : σ → Prop} (hA : P.Stable task A) (hB : P.Stable task B) :
    P.Stable task fun state => A state ∧ B state :=
  fun state state' h hrely => ⟨hA state state' h.1 hrely, hB state state' h.2 hrely⟩

theorem Stable.const (A : Prop) : P.Stable task fun _ => A :=
  fun _ _ h _ => h

theorem Stable.imp {A : σ → Prop} (hA : P.Stable task A) {condition : Prop} :
    P.Stable task fun state => condition → A state :=
  fun state state' h hrely hcondition => hA state state' (h hcondition) hrely

theorem Keeps.ret {A : σ → Prop} (hA : P.Stable task A) {value : α}
    {post : α → σ → Prop} {state : σ} (h : A state)
    (hpost : ∀ state', A state' → P.inv state' → post value state') :
    P.Keeps task (.ret value) post state :=
  fun state' hrely hinv => hpost state' (hA _ _ h hrely) hinv

theorem Keeps.call {A : σ → Prop} (hA : P.Stable task A) {request : S.Request}
    {next : S.Response request → Prog S α} {post : α → σ → Prop} {state : σ}
    (h : A state)
    (hstep : ∀ state₁ response state₂, A state₁ → P.inv state₁ →
      P.act task request response state₁ state₂ →
      P.Fair task state₁ state₂ ∧ P.Keeps task (next response) post state₂) :
    P.Keeps task (.call request next) post state :=
  fun state₁ hrely hinv response state₂ hact =>
    hstep state₁ response state₂ (hA _ _ h hrely) hinv hact

theorem Keeps.ask {A : σ → Prop} (hA : P.Stable task A) {request : S.Request}
    {post : S.Response request → σ → Prop} (hpost : ∀ response, P.Stable task (post response))
    {state : σ} (h : A state)
    (hstep : ∀ state₁ response state₂, A state₁ → P.inv state₁ →
      P.act task request response state₁ state₂ →
      P.Fair task state₁ state₂ ∧ post response state₂) :
    P.Keeps task (.call request .ret) post state := by
  refine Keeps.call hA h fun state₁ response state₂ hstate₁ hinv hact => ?_
  obtain ⟨hfair, hresult⟩ := hstep state₁ response state₂ hstate₁ hinv hact
  exact ⟨hfair, Keeps.ret (hpost response) hresult fun _ h' _ => h'⟩

theorem Keeps.mono {p : Prog S α} {post post' : α → σ → Prop} {state : σ}
    (h : P.Keeps task p post state)
    (hpost : ∀ value state', P.inv state' → post value state' → post' value state') :
    P.Keeps task p post' state := by
  induction p generalizing state with
  | ret value => exact fun state' hrely hinv => hpost _ _ hinv (h state' hrely hinv)
  | call request next ih =>
      intro state₁ hrely hinv response state₂ hact
      obtain ⟨hfair, hnext⟩ := h state₁ hrely hinv response state₂ hact
      exact ⟨hfair, ih response hnext⟩

theorem Keeps.weaken {p : Prog S α} {post : α → σ → Prop} {state state' : σ}
    (h : P.Keeps task p post state) (hrely : P.rely task state state') :
    P.Keeps task p post state' := by
  cases p with
  | ret value => exact fun state'' h' => h state'' (P.rely_trans _ _ _ _ hrely h')
  | call request next => exact fun state₁ h' => h state₁ (P.rely_trans _ _ _ _ hrely h')

theorem Keeps.bind {p : Prog S α} {f : α → Prog S β} {post : β → σ → Prop} {state : σ}
    (hinv : P.inv state)
    (h : P.Keeps task p (fun value state' => P.Keeps task (f value) post state') state) :
    P.Keeps task (p >>= f) post state := by
  induction p generalizing state with
  | ret value => exact h state (P.rely_refl _ _) hinv
  | call request next ih =>
      intro state₁ hrely hinv₁ response state₂ hact
      obtain ⟨hfair, hnext⟩ := h state₁ hrely hinv₁ response state₂ hact
      exact ⟨hfair, ih response hfair.inv hnext⟩

theorem Keeps.of_all {A : σ → Prop} (hA : P.Stable task A) {kind : S.Request → Prop}
    (hstep : ∀ request, kind request → ∀ state₁ response state₂, A state₁ → P.inv state₁ →
      P.act task request response state₁ state₂ → P.Fair task state₁ state₂ ∧ A state₂)
    {p : Prog S α} (hp : p.All kind) {state : σ} (h : A state) :
    P.Keeps task p (fun _ => A) state := by
  induction p generalizing state with
  | ret value => exact .ret hA h fun _ h' _ => h'
  | call request next ih =>
      refine .call hA h fun state₁ response state₂ h₁ hinv hact => ?_
      obtain ⟨hfair, h₂⟩ := hstep request hp.1 state₁ response state₂ h₁ hinv hact
      exact ⟨hfair, ih response (hp.2 response) h₂⟩

theorem Keeps.tryBind {ε' : Type} {p : ExceptT ε' (Prog S) α}
    {f : α → ExceptT ε' (Prog S) β} {post : Except ε' β → σ → Prop} {state : σ}
    (hinv : P.inv state)
    (h : P.Keeps task p.run (fun result state' =>
      match result with
      | .ok value => P.Keeps task (f value).run post state'
      | .error error => P.Keeps task (.ret (.error error)) post state') state) :
    P.Keeps task (p >>= f).run post state := by
  refine Keeps.bind hinv (h.mono fun result state' _ hresult => ?_)
  cases result with
  | ok value => exact hresult
  | error error => exact hresult

theorem Keeps.liftBind {ε' : Type} {p : Prog S α} {f : α → ExceptT ε' (Prog S) β}
    {post : Except ε' β → σ → Prop} {state : σ} (hinv : P.inv state)
    (h : P.Keeps task p (fun value state' => P.Keeps task (f value).run post state') state) :
    P.Keeps task ((liftM p : ExceptT ε' (Prog S) α) >>= f).run post state := by
  have hrun : ((liftM p : ExceptT ε' (Prog S) α) >>= f).run =
      p >>= fun value => (f value).run := by
    rw [ExceptT.run_bind, ExceptT.run_liftM, map_eq_pure_bind, bind_assoc]
    rfl
  rw [hrun]
  exact Keeps.bind hinv h

theorem Keeps.lift {ε' : Type} {p : Prog S α} {post : Except ε' α → σ → Prop} {state : σ}
    (hinv : P.inv state) (hstable : ∀ value, P.Stable task (post (.ok value)))
    (h : P.Keeps task p (fun value => post (.ok value)) state) :
    P.Keeps task (liftM p : ExceptT ε' (Prog S) α).run post state := by
  rw [ExceptT.run_liftM, map_eq_pure_bind]
  exact Keeps.bind hinv (h.mono fun value state' _ h' =>
    .ret (hstable value) h' fun _ h'' _ => h'')

/-- A program that runs alone keeps its promises too. -/
theorem Keeps.exec {p : Prog S α} {post : α → σ → Prop} {state state' : σ}
    {log : List (Exchange S)} {value : α}
    (h : P.Keeps task p post state) (hinv : P.inv state)
    (hexec : Prog.Exec (P.act task) p state log value state') :
    P.inv state' ∧ post value state' := by
  induction hexec with
  | ret => exact ⟨hinv, h _ (P.rely_refl _ _) hinv⟩
  | call hact _ ih =>
      obtain ⟨hfair, hnext⟩ := h _ (P.rely_refl _ _) hinv _ _ hact
      exact ih hnext hfair.inv

/-- Every pending task keeps to the protocol from here on. -/
def Holds (P : Protocol S τ σ) (pool : Pool S τ σ) : Prop :=
  P.inv pool.state ∧
    ∀ task program, pool.tasks task = some program →
      P.Keeps task program (fun _ _ => True) pool.state

theorem holds_idle {pool : Pool S τ σ} (hinv : P.inv pool.state)
    (hidle : ∀ task, pool.tasks task = none) : P.Holds pool :=
  ⟨hinv, fun task program hprogram => by simp [hidle task] at hprogram⟩

theorem Holds.put [DecidableEq τ] {pool : Pool S τ σ} (h : P.Holds pool) {state : σ}
    {task : τ} {program : Prog S Unit} (hfair : P.Fair task pool.state state)
    (hprogram : P.Keeps task program (fun _ _ => True) state) :
    P.Holds (pool.put state task program) := by
  refine ⟨hfair.inv, fun other program' hother => ?_⟩
  by_cases heq : other = task
  · subst heq
    rw [Pool.put_tasks_self] at hother
    rw [← Option.some.inj hother]
    exact hprogram
  · rw [pool.put_tasks_of_ne state heq] at hother
    exact (h.2 other program' hother).weaken (hfair.rely other heq)

/-- The protocol of a program that runs alone. -/
def alone (inv : σ → Prop)
    (act : (request : S.Request) → S.Response request → σ → σ → Prop) :
    Protocol S Unit σ where
  inv
  rely _ := Eq
  act _ := act
  rely_refl _ _ := rfl
  rely_trans _ _ _ _ := Eq.trans

section Alone

variable {inv : σ → Prop} {act : (request : S.Request) → S.Response request → σ → σ → Prop}

theorem stable_alone (A : σ → Prop) : (alone inv act).Stable () A :=
  fun _ _ h heq => heq ▸ h

theorem fair_alone {state state' : σ} (h : inv state') :
    (alone inv act).Fair () state state' :=
  ⟨h, fun _ hne => (hne rfl).elim⟩

end Alone

variable [DecidableEq S.Request] [DecidableEq τ]

/-- The surroundings keep to the protocol in the steps that meet the condition. -/
structure Admits (P : Protocol S τ σ) (world : World S τ ε σ)
    (cond : σ → Label S τ ε → Prop) : Prop where
  act : ∀ task request response state state',
    cond state (.call task request response) →
    world.perform task request response state = some state' →
    P.act task request response state state'
  event : ∀ event state state' started, P.inv state → cond state (.event event) →
    world.event event state = some (state', started) →
    P.inv state' ∧ (∀ task, P.rely task state state') ∧
      ∀ task program, started = some (task, program) →
        P.Keeps task program (fun _ _ => True) state'

theorem Holds.step {world : World S τ ε σ} {cond : σ → Label S τ ε → Prop}
    (hworld : P.Admits world cond) {pool pool' : Pool S τ σ} {label : Label S τ ε}
    (h : P.Holds pool) (hcond : cond pool.state label)
    (hstep : world.step pool label = some pool') : P.Holds pool' := by
  cases label with
  | call task request response =>
      obtain ⟨next, state', htask, hperform, rfl⟩ := World.step_call hstep
      have hact := hworld.act _ _ _ _ _ hcond hperform
      obtain ⟨hfair, hnext⟩ := h.2 task _ htask _ (P.rely_refl _ _) h.1 _ _ hact
      exact h.put hfair hnext
  | event event =>
      obtain ⟨state', started, hevent, hstarted⟩ := World.step_event hstep
      obtain ⟨hinv, hrely, hkeeps⟩ := hworld.event _ _ _ _ h.1 hcond hevent
      rcases hstarted with ⟨rfl, rfl⟩ | ⟨task, program, rfl, -, rfl⟩
      · exact ⟨hinv, fun other program hprogram =>
          (h.2 other program hprogram).weaken (hrely other)⟩
      · exact h.put ⟨hinv, fun other _ => hrely other⟩ (hkeeps task program rfl)

/-- The pool rule: what each task keeps alone, all of them keep together. -/
theorem Holds.run {world : World S τ ε σ} {cond : σ → Label S τ ε → Prop}
    (hworld : P.Admits world cond) {pool pool' : Pool S τ σ}
    {labels : List (Label S τ ε)} (h : P.Holds pool)
    (hrun : world.Run cond pool labels pool') : P.Holds pool' := by
  induction hrun with
  | nil => exact h
  | snoc _ hcond hstep ih => exact ih.step hworld hcond hstep

end Protocol

end Failsafe.Lib
