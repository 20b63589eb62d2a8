import Failsafe.Lib.Trace

/-!
What a program ensures when it runs alone: every request that it makes is
allowed in the state that it is made in, and a condition holds in the end.

With the history of the program as its state, this says what a task has been told
before it makes a request, whatever else runs at the same time.
-/

namespace Failsafe.Lib

namespace Prog

variable {S : Signature} {α β ε σ : Type}

section Ensures

variable (guard : σ → S.Request → Prop)
  (act : (request : S.Request) → S.Response request → σ → σ → Prop)

def Ensures : Prog S α → (α → σ → Prop) → σ → Prop
  | .ret value, post, state => post value state
  | .call request next, post, state =>
      guard state request ∧ ∀ response state', act request response state state' →
        Ensures (next response) post state'

variable {guard act}

@[simp] theorem ensures_ret {value : α} {post : α → σ → Prop} {state : σ} :
    Ensures guard act (.ret value) post state ↔ post value state := Iff.rfl

@[simp] theorem ensures_call {request : S.Request} {next : S.Response request → Prog S α}
    {post : α → σ → Prop} {state : σ} :
    Ensures guard act (.call request next) post state ↔
      guard state request ∧ ∀ response state', act request response state state' →
        Ensures guard act (next response) post state' := Iff.rfl

theorem ensures_bind {p : Prog S α} {f : α → Prog S β} {post : β → σ → Prop} {state : σ} :
    Ensures guard act (p >>= f) post state ↔
      Ensures guard act p (fun value => Ensures guard act (f value) post) state := by
  induction p generalizing state with
  | ret value => exact Iff.rfl
  | call request next ih =>
      constructor
      · rintro ⟨hguard, hnext⟩
        exact ⟨hguard, fun response state' hact => (ih response).mp (hnext response state' hact)⟩
      · rintro ⟨hguard, hnext⟩
        exact ⟨hguard, fun response state' hact => (ih response).mpr (hnext response state' hact)⟩

theorem Ensures.mono {p : Prog S α} {post post' : α → σ → Prop} {state : σ}
    (h : Ensures guard act p post state)
    (hpost : ∀ value state', post value state' → post' value state') :
    Ensures guard act p post' state := by
  induction p generalizing state with
  | ret value => exact hpost _ _ h
  | call request next ih =>
      exact ⟨h.1, fun response state' hact => ih response (h.2 response state' hact)⟩

theorem Ensures.weaken {guard' : σ → S.Request → Prop} {p : Prog S α} {post : α → σ → Prop}
    {state : σ} (h : Ensures guard act p post state)
    (hguard : ∀ state request, guard state request → guard' state request) :
    Ensures guard' act p post state := by
  induction p generalizing state with
  | ret value => exact h
  | call request next ih =>
      exact ⟨hguard _ _ h.1, fun response state' hact => ih response (h.2 response state' hact)⟩

theorem Ensures.weaken_all {guard' : σ → S.Request → Prop} {kind : S.Request → Prop}
    {p : Prog S α} {post : α → σ → Prop} {state : σ} (h : Ensures guard act p post state)
    (hp : p.All kind)
    (hguard : ∀ state request, kind request → guard state request → guard' state request) :
    Ensures guard' act p post state := by
  induction p generalizing state with
  | ret value => exact h
  | call request next ih =>
      refine ⟨hguard _ _ hp.1 h.1, fun response state' hact => ?_⟩
      exact ih response (h.2 response state' hact) (hp.2 response)

theorem Ensures.of_all {I : σ → Prop} {kind : S.Request → Prop} {p : Prog S α}
    {post : α → σ → Prop} {state : σ} (hp : p.All kind)
    (hguard : ∀ state request, I state → kind request → guard state request)
    (hact : ∀ request response state state', kind request → I state →
      act request response state state' → I state')
    (hpost : ∀ value state', I state' → post value state') (h : I state) :
    Ensures guard act p post state := by
  induction p generalizing state with
  | ret value => exact hpost _ _ h
  | call request next ih =>
      refine ⟨hguard _ _ h hp.1, fun response state' hstep => ?_⟩
      exact ih response (hp.2 response) (hact _ _ _ _ hp.1 h hstep)

theorem Ensures.keeping {I : σ → Prop} {kind : S.Request → Prop} {p : Prog S α}
    {post : α → σ → Prop} {state : σ} (h : Ensures guard act p post state) (hp : p.All kind)
    (hact : ∀ request response state state', kind request → I state →
      act request response state state' → I state') (hI : I state) :
    Ensures guard act p (fun value state' => post value state' ∧ I state') state := by
  induction p generalizing state with
  | ret value => exact ⟨h, hI⟩
  | call request next ih =>
      refine ⟨h.1, fun response state' hstep => ?_⟩
      exact ih response (h.2 response state' hstep) (hp.2 response) (hact _ _ _ _ hp.1 hI hstep)

theorem Ensures.eval {kind : S.Request → Prop}
    {answer : (request : S.Request) → Option (S.Response request)} {p : Prog S α} {state : σ}
    (hp : p.All kind) (hguard : ∀ request, kind request → guard state request)
    (hact : ∀ request response state', kind request → act request response state state' →
      answer request = some response ∧ state' = state) :
    Ensures guard act p (fun value state' => p.eval answer = some value ∧ state' = state)
      state := by
  induction p with
  | ret value => exact ⟨rfl, rfl⟩
  | call request next ih =>
      refine ⟨hguard request hp.1, fun response state' hstep => ?_⟩
      obtain ⟨hanswer, rfl⟩ := hact request response state' hp.1 hstep
      refine (ih response (hp.2 response)).mono fun value state'' hvalue => ?_
      exact ⟨by rw [Prog.eval, hanswer]; exact hvalue.1, hvalue.2⟩

theorem Ensures.exec {p : Prog S α} {post : α → σ → Prop} {state state' : σ}
    {log : List (Exchange S)} {value : α} (h : Ensures guard act p post state)
    (hexec : Exec act p state log value state') : post value state' := by
  induction hexec with
  | ret => exact h
  | call hact _ ih => exact ih (h.2 _ _ hact)

section Fallible

theorem ensures_tryBind {p : ExceptT ε (Prog S) α} {f : α → ExceptT ε (Prog S) β}
    {post : Except ε β → σ → Prop} {state : σ} :
    Ensures guard act (p >>= f).run post state ↔
      Ensures guard act p.run (fun result state' => match result with
        | .ok value => Ensures guard act (f value).run post state'
        | .error error => post (.error error) state') state := by
  rw [ExceptT.run_bind, ensures_bind]
  constructor
  · intro h
    refine h.mono fun result state' hresult => ?_
    cases result <;> exact hresult
  · intro h
    refine h.mono fun result state' hresult => ?_
    cases result <;> exact hresult

theorem ensures_lift {p : Prog S α} {post : Except ε α → σ → Prop} {state : σ} :
    Ensures guard act (liftM p : ExceptT ε (Prog S) α).run post state ↔
      Ensures guard act p (fun value => post (.ok value)) state := by
  rw [ExceptT.run_liftM, map_eq_pure_bind, ensures_bind]
  exact Iff.rfl

end Fallible

end Ensures

/-- The history of a program grows by what it is told. -/
def heard (request : S.Request) (response : S.Response request)
    (log log' : List (Exchange S)) : Prop :=
  log' = log ++ [⟨request, response⟩]

/-- The history grows by answers of this kind only. -/
def heardOf (sound : Exchange S → Prop) (request : S.Request) (response : S.Response request)
    (log log' : List (Exchange S)) : Prop :=
  log' = log ++ [⟨request, response⟩] ∧ sound ⟨request, response⟩

/-- What a program ensures on answers of a kind holds of every history of such answers. -/
theorem Ensures.of_sound {sound : Exchange S → Prop}
    {guard : List (Exchange S) → S.Request → Prop} {p : Prog S α}
    {post : α → List (Exchange S) → Prop} {log : List (Exchange S)}
    (h : (∀ exchange ∈ log, sound exchange) → Ensures guard (heardOf sound) p post log) :
    Ensures (fun log request => (∀ exchange ∈ log, sound exchange) → guard log request) heard p
      (fun value log => (∀ exchange ∈ log, sound exchange) → post value log) log := by
  induction p generalizing log with
  | ret value => exact h
  | call request next ih =>
      refine ⟨fun hlog => (h hlog).1, ?_⟩
      rintro response _ rfl
      refine ih response fun hlog => ?_
      obtain ⟨hbefore, hlast⟩ := List.forall_mem_append.mp hlog
      exact (h hbefore).2 response _ ⟨rfl, hlast _ (List.mem_singleton_self _)⟩

theorem all_any (p : Prog S α) : p.All fun _ => True := by
  induction p with
  | ret value => trivial
  | call request next ih => exact ⟨trivial, ih⟩

theorem Ensures.grows {guard : List (Exchange S) → S.Request → Prop} {p : Prog S α}
    {post : α → List (Exchange S) → Prop} {log : List (Exchange S)}
    (h : Ensures guard heard p post log) :
    Ensures guard heard p (fun value log' => post value log' ∧ log <+: log') log := by
  refine h.keeping (all_any p) ?_ List.prefix_rfl
  rintro request response middle log' - hahead rfl
  exact hahead.trans (List.prefix_append _ _)

/-- What a program of one kind of requests adds to a history. -/
def Adds (kind : S.Request → Prop) (log log' : List (Exchange S)) : Prop :=
  ∃ added, log' = log ++ added ∧ ∀ exchange ∈ added, kind exchange.request

theorem Adds.refl {kind : S.Request → Prop} (log : List (Exchange S)) : Adds kind log log :=
  ⟨[], (List.append_nil log).symm, by simp⟩

theorem Adds.snoc {kind : S.Request → Prop} {log log' : List (Exchange S)} {request : S.Request}
    (h : Adds kind log log') (hkind : kind request) (response : S.Response request) :
    Adds kind log (log' ++ [⟨request, response⟩]) := by
  obtain ⟨added, rfl, hadded⟩ := h
  refine ⟨added ++ [⟨request, response⟩], by simp, fun exchange hmem => ?_⟩
  rcases List.mem_append.mp hmem with hmem | hmem
  · exact hadded exchange hmem
  · obtain rfl := List.mem_singleton.mp hmem
    exact hkind

theorem Ensures.adds {guard : List (Exchange S) → S.Request → Prop} {kind : S.Request → Prop}
    {p : Prog S α} {post : α → List (Exchange S) → Prop} {log : List (Exchange S)}
    (h : Ensures guard heard p post log) (hp : p.All kind) :
    Ensures guard heard p (fun value log' => post value log' ∧ Adds kind log log') log := by
  refine h.keeping hp ?_ (Adds.refl log)
  rintro request response middle _ hkind hadds rfl
  exact hadds.snoc hkind response

theorem Ensures.of_kind {guard : List (Exchange S) → S.Request → Prop}
    {kind : S.Request → Prop} {p : Prog S α} {log : List (Exchange S)} (hp : p.All kind)
    (hguard : ∀ log request, kind request → guard log request) :
    Ensures guard heard p (fun _ log' => Adds kind log log') log := by
  refine Ensures.of_all hp (fun _ request _ => hguard _ request) ?_ (fun _ _ h => h)
    (Adds.refl log)
  rintro request response middle _ hkind hadds rfl
  exact hadds.snoc hkind response

variable {allowed : (request : S.Request) → S.Response request → Prop}

theorem Ensures.told {guard : List (Exchange S) → S.Request → Prop}
    {act : (request : S.Request) → S.Response request → σ → σ → Prop} {p : Prog S α}
    {post : α → List (Exchange S) → Prop} {log log' : List (Exchange S)} {value : α}
    {state state' : σ} (h : Ensures guard heard p post log)
    (hexec : Exec act p state log' value state') : post value (log ++ log') := by
  induction hexec generalizing log with
  | ret => simpa using h
  | call _ _ ih =>
      rw [← List.singleton_append, ← List.append_assoc]
      exact ih (h.2 _ _ rfl)

theorem Ensures.guarded {guard : List (Exchange S) → S.Request → Prop}
    {act : (request : S.Request) → S.Response request → σ → σ → Prop} {p : Prog S α}
    {post : α → List (Exchange S) → Prop} {log log' : List (Exchange S)} {value : α}
    {state state' : σ} (h : Ensures guard heard p post log)
    (hexec : Exec act p state log' value state') {before after : List (Exchange S)}
    {exchange : Exchange S} (hsplit : log' = before ++ exchange :: after) :
    guard (log ++ before) exchange.request := by
  induction hexec generalizing log before with
  | ret => simp at hsplit
  | call _ _ ih =>
      cases before with
      | nil =>
          obtain ⟨rfl, -⟩ := List.cons.inj hsplit
          simpa using h.1
      | cons first before =>
          obtain ⟨rfl, hrest⟩ := List.cons.inj hsplit
          have hguard := ih (h.2 _ _ rfl) hrest
          rwa [List.append_assoc, List.singleton_append] at hguard

theorem Exec.all {act : (request : S.Request) → S.Response request → σ → σ → Prop}
    {kind : S.Request → Prop} {p : Prog S α} {log : List (Exchange S)} {value : α}
    {state state' : σ} (hexec : Exec act p state log value state') (hp : p.All kind) :
    ∀ exchange ∈ log, kind exchange.request := by
  induction hexec with
  | ret => simp
  | call _ _ ih =>
      intro exchange hmem
      rcases List.mem_cons.mp hmem with rfl | hmem
      · exact hp.1
      · exact ih (hp.2 _) exchange hmem

theorem Ensures.follows {guard : List (Exchange S) → S.Request → Prop} {first p : Prog S α}
    {post : α → List (Exchange S) → Prop} {log log' : List (Exchange S)}
    (h : Ensures guard heard first post log) (hfollows : first.Follows allowed log' p) :
    Ensures guard heard p post (log ++ log') := by
  induction hfollows with
  | refl => simpa using h
  | snoc _ _ ih =>
      rw [← List.append_assoc]
      exact ih.2 _ _ rfl

end Prog

section Pools

variable {S : Signature} {τ ε σ : Type}

/-- The protocol that asks nothing of anyone. -/
def Protocol.any : Protocol S τ σ where
  inv _ := True
  rely _ _ _ := True
  act _ _ _ _ _ := True
  rely_refl _ _ := trivial
  rely_trans _ _ _ _ _ _ := trivial

theorem Protocol.keeps_any {α : Type} {task : τ} {p : Prog S α} {state : σ} :
    (Protocol.any : Protocol S τ σ).Keeps task p (fun _ _ => True) state := by
  induction p generalizing state with
  | ret value => exact fun _ _ _ => trivial
  | call request next ih =>
      exact fun _ _ _ response _ _ => ⟨⟨trivial, fun _ _ => trivial⟩, ih response⟩

variable [DecidableEq τ] [DecidableEq S.Request] {world : World S τ ε σ}
  {cond : σ → Label S τ ε → Prop}

theorem World.Run.started {pool pool' : Pool S τ σ} {labels : List (Label S τ ε)}
    (h : world.Run cond pool labels pool') (hidle : ∀ task, pool.tasks task = none) (task : τ) :
    (pool'.tasks task = none → trace task labels = []) ∧
      ∀ program, pool'.tasks task = some program →
        Started world (fun _ _ => True) labels task program := by
  have hholds : (Protocol.any : Protocol S τ σ).Holds pool :=
    Protocol.holds_idle trivial hidle
  have hadmits : (Protocol.any : Protocol S τ σ).Admits world cond := by
    constructor
    · exact fun _ _ _ _ _ _ _ => trivial
    · exact fun _ _ _ _ _ _ _ =>
        ⟨trivial, fun _ => trivial, fun _ _ _ => Protocol.keeps_any⟩
  exact hholds.traced hadmits (fun _ _ _ _ _ _ _ => trivial) h (hidle task)

theorem World.Run.trace_before {pool pool' : Pool S τ σ} {before after : List (Label S τ ε)}
    {task : τ} {event : ε} (h : world.Run cond pool (before ++ .event event :: after) pool')
    (hidle : ∀ task, pool.tasks task = none)
    (hstarts : ∀ state state' started, world.event event state = some (state', started) →
      started.map Prod.fst = some task) :
    trace task before = [] := by
  obtain ⟨middle, _, hrun, -, hstep, -⟩ := h.split_inv
  obtain ⟨_, _, hevent, hstarted⟩ := World.step_event hstep
  refine (hrun.started hidle task).1 ?_
  have hname := hstarts _ _ _ hevent
  rcases hstarted with ⟨rfl, -⟩ | ⟨task', _, rfl, hfree, -⟩
  · cases hname
  · rwa [← Option.some.inj hname]

theorem World.Run.start_before {pool pool' : Pool S τ σ}
    {before after earlier later : List (Label S τ ε)} {task : τ} {event : ε}
    {request : S.Request} {response : S.Response request}
    (h : world.Run cond pool (before ++ .event event :: after) pool')
    (hidle : ∀ task, pool.tasks task = none)
    (hstarts : ∀ state state' started, world.event event state = some (state', started) →
      started.map Prod.fst = some task)
    (hsplit : before ++ .event event :: after = earlier ++ .call task request response :: later) :
    before <+: earlier := by
  have hnone := h.trace_before hidle hstarts
  rcases List.append_eq_append_iff.mp hsplit with ⟨rest, rfl, -⟩ | ⟨rest, rfl, hrest⟩
  · exact List.prefix_append _ _
  · cases rest with
    | nil => cases (List.cons.inj hrest).1
    | cons label rest =>
        obtain ⟨rfl, -⟩ := List.cons.inj hrest
        simp [trace, Label.exchange] at hnone

theorem World.Run.asked {pool pool₁ pool₂ : Pool S τ σ} {labels : List (Label S τ ε)}
    (h : world.Run cond pool labels pool₁) (hidle : ∀ task, pool.tasks task = none)
    {task : τ} {request : S.Request} {response : S.Response request}
    (hstep : world.step pool₁ (.call task request response) = some pool₂) :
    ∃ event state state' first, .event event ∈ labels ∧
      world.event event state = some (state', some (task, first)) ∧
      ∀ guard post, Prog.Ensures guard Prog.heard first post [] →
        guard (trace task labels) request := by
  obtain ⟨next, _, htask, -, -⟩ := World.step_call hstep
  obtain ⟨event, state, state', first, hmem, hevent, hfollows⟩ :=
    ((h.started hidle task).2 _ htask).follows
  refine ⟨event, state, state', first, hmem, hevent, fun guard post hensures => ?_⟩
  have hpending := hensures.follows hfollows
  rw [List.nil_append] at hpending
  exact hpending.1

end Pools

end Failsafe.Lib
