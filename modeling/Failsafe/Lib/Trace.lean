import Failsafe.Lib.Pool
import Failsafe.Lib.Split

/-!
Traces: what one program asked and was told, alone or as a task of a pool.
-/

namespace Failsafe.Lib

namespace Prog

variable {S : Signature} {α β σ : Type}

theorem Exec.bind_inv {act : (request : S.Request) → S.Response request → σ → σ → Prop}
    {p : Prog S α} {f : α → Prog S β} {state state' : σ} {log : List (Exchange S)} {value : β}
    (h : Exec act (p >>= f) state log value state') :
    ∃ first rest middle state₁, log = first ++ rest ∧ Exec act p state first middle state₁ ∧
      Exec act (f middle) state₁ rest value state' := by
  induction p generalizing state log with
  | ret middle => exact ⟨[], log, middle, state, rfl, .ret, h⟩
  | call request next ih =>
      cases h with
      | call hact hrest =>
          obtain ⟨first, rest, middle, state₁, rfl, hfirst, hlast⟩ := ih _ hrest
          exact ⟨_ :: first, rest, middle, state₁, rfl, .call hact hfirst, hlast⟩

theorem Exec.bind {act : (request : S.Request) → S.Response request → σ → σ → Prop}
    {p : Prog S α} {f : α → Prog S β} {state middle state' : σ} {log log' : List (Exchange S)}
    {value : α} {value' : β} (h : Exec act p state log value middle)
    (h' : Exec act (f value) middle log' value' state') :
    Exec act (p >>= f) state (log ++ log') value' state' := by
  induction h with
  | ret => exact h'
  | call hact _ ih => exact .call hact (ih h')

variable {allowed : (request : S.Request) → S.Response request → Prop}

/-- The exchanges of a program that runs to its end on allowed answers. -/
abbrev Trace (allowed : (request : S.Request) → S.Response request → Prop)
    (p : Prog S α) (log : List (Exchange S)) (value : α) : Prop :=
  Exec (fun request response (_ _ : Unit) => allowed request response) p () log value ()

theorem exists_trace {p : Prog S α}
    (hp : p.All fun request => ∃ response, allowed request response) :
    ∃ log value, p.Trace allowed log value := by
  induction p with
  | ret value => exact ⟨[], value, .ret⟩
  | call request next ih =>
      obtain ⟨response, hresponse⟩ := hp.1
      obtain ⟨log, value, htrace⟩ := ih response (hp.2 response)
      exact ⟨_, value, .call hresponse htrace⟩

theorem Trace.ask_inv {request : S.Request} {f : S.Response request → Prog S α}
    {log : List (Exchange S)} {value : α}
    (h : Trace allowed (.call request .ret >>= f) log value) :
    ∃ response rest, log = ⟨request, response⟩ :: rest ∧ allowed request response ∧
      Trace allowed (f response) rest value := by
  cases h with
  | call hallowed hrest => exact ⟨_, _, rfl, hallowed, hrest⟩

/-- The exchanges by which a program becomes what it still has to do. -/
inductive Follows (allowed : (request : S.Request) → S.Response request → Prop) :
    Prog S α → List (Exchange S) → Prog S α → Prop
  | refl {p : Prog S α} : Follows allowed p [] p
  | snoc {p : Prog S α} {log : List (Exchange S)} {request : S.Request}
      {next : S.Response request → Prog S α} {response : S.Response request} :
      Follows allowed p log (.call request next) → allowed request response →
      Follows allowed p (log ++ [⟨request, response⟩]) (next response)

theorem Follows.append {p q : Prog S α} {log log' : List (Exchange S)} {value : α}
    (h : Follows allowed p log q) (h' : Trace allowed q log' value) :
    Trace allowed p (log ++ log') value := by
  induction h generalizing log' with
  | refl => exact h'
  | snoc _ hallowed ih =>
      rw [List.append_assoc]
      exact ih (.call hallowed h')

theorem Follows.trace {p : Prog S α} {log : List (Exchange S)} {value : α}
    (h : Follows allowed p log (.ret value)) : Trace allowed p log value := by
  simpa using h.append (.ret : Trace allowed (.ret value) [] value)

theorem Trace.all {kind : S.Request → Prop} {p : Prog S α} {log : List (Exchange S)}
    {value : α} (h : Trace allowed p log value) (hp : p.All kind) :
    ∀ exchange ∈ log, kind exchange.request := by
  induction p generalizing log with
  | ret middle =>
      cases h
      simp
  | call request next ih =>
      cases h with
      | call _ hrest =>
          intro exchange hmem
          rcases List.mem_cons.mp hmem with rfl | hmem
          · exact hp.1
          · exact ih _ hrest (hp.2 _) exchange hmem

theorem Follows.all {kind : S.Request → Prop} {p q : Prog S α} {log : List (Exchange S)}
    (h : Follows allowed p log q) (hp : p.All kind) :
    (∀ exchange ∈ log, kind exchange.request) ∧ q.All kind := by
  induction h with
  | refl => exact ⟨by simp, hp⟩
  | snoc _ _ ih =>
      obtain ⟨hlog, hnext⟩ := ih
      refine ⟨fun exchange hmem => ?_, hnext.2 _⟩
      rcases List.mem_append.mp hmem with hmem | hmem
      · exact hlog exchange hmem
      · rw [List.mem_singleton.mp hmem]
        exact hnext.1

theorem Follows.told {p q : Prog S α} {log : List (Exchange S)}
    (h : Follows allowed p log q) :
    ∀ exchange ∈ log, allowed exchange.request exchange.response := by
  induction h with
  | refl => simp
  | snoc _ hallowed ih =>
      intro exchange hmem
      rcases List.mem_append.mp hmem with hmem | hmem
      · exact ih exchange hmem
      · rw [List.mem_singleton.mp hmem]
        exact hallowed

section Fallible

variable {ε : Type}

theorem Trace.tryBind_inv {p : ExceptT ε (Prog S) α} {f : α → ExceptT ε (Prog S) β}
    {log : List (Exchange S)} {result : Except ε β}
    (h : Trace allowed (p >>= f).run log result) :
    (∃ error, Trace allowed p.run log (.error error) ∧ result = .error error) ∨
      ∃ first rest value, log = first ++ rest ∧ Trace allowed p.run first (.ok value) ∧
        Trace allowed (f value).run rest result := by
  obtain ⟨first, rest, middle, _, rfl, hfirst, hrest⟩ := Exec.bind_inv h
  cases middle with
  | ok value => exact .inr ⟨first, rest, value, rfl, hfirst, hrest⟩
  | error error =>
      cases hrest
      rw [List.append_nil]
      exact .inl ⟨error, hfirst, rfl⟩

theorem Trace.lift_inv {p : Prog S α} {log : List (Exchange S)} {result : Except ε α}
    (h : Trace allowed (liftM p : ExceptT ε (Prog S) α).run log result) :
    ∃ value, Trace allowed p log value ∧ result = .ok value := by
  rw [ExceptT.run_liftM, map_eq_pure_bind] at h
  obtain ⟨first, rest, value, _, rfl, hfirst, hrest⟩ := Exec.bind_inv h
  cases hrest
  rw [List.append_nil]
  exact ⟨value, hfirst, rfl⟩

theorem Trace.liftBind_inv {p : Prog S α} {f : α → ExceptT ε (Prog S) β}
    {log : List (Exchange S)} {result : Except ε β}
    (h : Trace allowed ((liftM p : ExceptT ε (Prog S) α) >>= f).run log result) :
    ∃ first rest value, log = first ++ rest ∧ Trace allowed p first value ∧
      Trace allowed (f value).run rest result := by
  rcases Trace.tryBind_inv h with ⟨_, hfirst, -⟩ | ⟨first, rest, value, rfl, hfirst, hrest⟩
  · obtain ⟨_, -, heq⟩ := Trace.lift_inv hfirst
    cases heq
  · obtain ⟨_, hfirst, heq⟩ := Trace.lift_inv hfirst
    cases heq
    exact ⟨first, rest, value, rfl, hfirst, hrest⟩

theorem Trace.liftAsk_inv {request : S.Request}
    {f : S.Response request → ExceptT ε (Prog S) β}
    {log : List (Exchange S)} {result : Except ε β}
    (h : Trace allowed ((liftM (Prog.call request .ret) : ExceptT ε (Prog S) _) >>= f).run
      log result) :
    ∃ response rest, log = ⟨request, response⟩ :: rest ∧ allowed request response ∧
      Trace allowed (f response).run rest result := by
  obtain ⟨first, rest, value, rfl, hfirst, hrest⟩ := Trace.liftBind_inv h
  cases hfirst with
  | call hallowed hdone =>
      cases hdone
      exact ⟨_, rest, rfl, hallowed, hrest⟩

/-- The program fails with this very error just when it gets an answer of this kind. -/
def Relays (allowed : (request : S.Request) → S.Response request → Prop)
    (fails : Exchange S → Prop) (error : ε) (p : ExceptT ε (Prog S) α) : Prop :=
  ∀ log result, Trace allowed p.run log result →
    (result = .error error ↔ ∃ exchange ∈ log, fails exchange)

variable {fails : Exchange S → Prop} {error : ε}

theorem Relays.tryBind {p : ExceptT ε (Prog S) α} {f : α → ExceptT ε (Prog S) β}
    (hp : Relays allowed fails error p) (hf : ∀ value, Relays allowed fails error (f value)) :
    Relays allowed fails error (p >>= f) := by
  intro log result h
  rcases Trace.tryBind_inv h with
    ⟨error', hfirst, rfl⟩ | ⟨first, rest, value, rfl, hfirst, hrest⟩
  · rw [← hp log _ hfirst]
    simp
  · have hnone : ¬∃ exchange ∈ first, fails exchange := by
      rw [← hp first _ hfirst]
      simp
    rw [hf value rest result hrest]
    constructor
    · rintro ⟨exchange, hmem, hfails⟩
      exact ⟨exchange, List.mem_append_right _ hmem, hfails⟩
    · rintro ⟨exchange, hmem, hfails⟩
      rcases List.mem_append.mp hmem with hmem | hmem
      · exact (hnone ⟨exchange, hmem, hfails⟩).elim
      · exact ⟨exchange, hmem, hfails⟩

theorem Relays.call {p : ExceptT ε (Prog S) α} (request : S.Request)
    (convert : S.Response request → Except ε α)
    (hp : p.run = .call request fun response => .ret (convert response))
    (h : ∀ response, allowed request response →
      (convert response = .error error ↔ fails ⟨request, response⟩)) :
    Relays allowed fails error p := by
  intro log result hlog
  rw [hp] at hlog
  cases hlog with
  | call hallowed hdone =>
      cases hdone
      simpa using h _ hallowed

theorem Relays.mk_ret {result : Except ε α} (h : result ≠ .error error) :
    Relays allowed fails error (ExceptT.mk (.ret result)) := by
  intro log result' h'
  cases h'
  simp [h]

theorem Relays.lift {p : Prog S α} {kind : S.Request → Prop}
    (hkind : ∀ exchange, kind exchange.request → ¬fails exchange) (hp : p.All kind) :
    Relays allowed fails error (liftM p) := by
  intro log result h
  obtain ⟨value, htrace, rfl⟩ := Trace.lift_inv h
  constructor
  · exact fun heq => by cases heq
  · rintro ⟨exchange, hmem, hfails⟩
    exact (hkind exchange (htrace.all hp exchange hmem) hfails).elim

end Fallible

end Prog

section Pools

variable {S : Signature} {τ ε σ : Type} [DecidableEq τ]

/-- The exchange of a task in a step, if it is a step of this task. -/
def Label.exchange (task : τ) : Label S τ ε → Option (Exchange S)
  | .call task' request response => if task' = task then some ⟨request, response⟩ else none
  | .event _ => none

/-- The exchanges of one task. -/
def trace (task : τ) (labels : List (Label S τ ε)) : List (Exchange S) :=
  labels.filterMap (Label.exchange task)

@[simp] theorem trace_append (task : τ) (labels labels' : List (Label S τ ε)) :
    trace task (labels ++ labels') = trace task labels ++ trace task labels' :=
  List.filterMap_append

section Snoc

variable {labels : List (Label S τ ε)}

theorem mem_trace {task : τ} {request : S.Request} {response : S.Response request} :
    ⟨request, response⟩ ∈ trace task labels ↔ .call task request response ∈ labels := by
  rw [trace, List.mem_filterMap]
  constructor
  · rintro ⟨label, hmem, hlabel⟩
    cases label with
    | event event => cases hlabel
    | call task' request' response' =>
        simp only [Label.exchange, Option.ite_none_right_eq_some, Option.some.injEq,
          Exchange.mk.injEq] at hlabel
        obtain ⟨rfl, rfl, hresponse⟩ := hlabel
        rw [← eq_of_heq hresponse]
        exact hmem
  · intro hmem
    exact ⟨_, hmem, by simp [Label.exchange]⟩

theorem trace_snoc_event (task : τ) (event : ε) :
    trace task (labels ++ [.event event]) = trace task labels := by
  simp [trace, Label.exchange]

theorem trace_snoc_of_ne {task other : τ} (h : other ≠ task) (request : S.Request)
    (response : S.Response request) :
    trace task (labels ++ [.call other request response]) = trace task labels := by
  simp [trace, Label.exchange, h]

theorem trace_snoc_self (task : τ) (request : S.Request) (response : S.Response request) :
    trace task (labels ++ [.call task request response]) =
      trace task labels ++ [⟨request, response⟩] := by
  simp [trace, Label.exchange]

theorem trace_snoc_cases (task other : τ) (request : S.Request) (response : S.Response request) :
    trace task (labels ++ [.call other request response]) = trace task labels ∨
      task = other ∧ trace task (labels ++ [.call other request response]) =
        trace task labels ++ [⟨request, response⟩] := by
  by_cases heq : other = task
  · subst heq
    exact .inr ⟨rfl, trace_snoc_self _ _ _⟩
  · exact .inl (trace_snoc_of_ne heq _ _)

end Snoc

variable {world : World S τ ε σ} {cond : σ → Label S τ ε → Prop}
  {allowed : (request : S.Request) → S.Response request → Prop}

/-- The task was started by an event, and has come this far. -/
structure Started (world : World S τ ε σ)
    (allowed : (request : S.Request) → S.Response request → Prop)
    (labels : List (Label S τ ε)) (task : τ) (program : Prog S Unit) : Prop where
  follows : ∃ event state state' first, .event event ∈ labels ∧
    world.event event state = some (state', some (task, first)) ∧
    first.Follows allowed (trace task labels) program

theorem Started.snoc {labels : List (Label S τ ε)} {task : τ} {program program' : Prog S Unit}
    {label : Label S τ ε} (h : Started world allowed labels task program)
    (hnext : ∀ first : Prog S Unit, first.Follows allowed (trace task labels) program →
      first.Follows allowed (trace task (labels ++ [label])) program') :
    Started world allowed (labels ++ [label]) task program' := by
  obtain ⟨event, state, state', first, hmem, hevent, hfollows⟩ := h.follows
  exact ⟨event, state, state', first, List.mem_append_left _ hmem, hevent,
    hnext first hfollows⟩

theorem World.Run.split_trace [DecidableEq S.Request] {pool pool' : Pool S τ σ}
    {labels : List (Label S τ ε)} (h : world.Run cond pool labels pool') {task : τ}
    {before after : List (Exchange S)} {exchange : Exchange S}
    (htrace : trace task labels = before ++ exchange :: after) :
    ∃ earlier later pool₁ pool₂,
      labels = earlier ++ .call task exchange.request exchange.response :: later ∧
      trace task earlier = before ∧
      world.Run cond pool earlier pool₁ ∧
      cond pool₁.state (.call task exchange.request exchange.response) ∧
      world.step pool₁ (.call task exchange.request exchange.response) = some pool₂ ∧
      world.Run cond pool₂ later pool' := by
  obtain ⟨earlier, rest, rfl, hearlier, hrest⟩ := List.filterMap_eq_append_iff.mp htrace
  obtain ⟨quiet, label, later, rfl, hquiet, hlabel, -⟩ := List.filterMap_eq_cons_iff.mp hrest
  rw [← List.append_assoc] at h
  obtain ⟨pool₁, pool₂, hbefore, hcond, hstep, hlater⟩ := h.split_inv
  have hlabel : label = .call task exchange.request exchange.response := by
    cases label with
    | event event => cases hlabel
    | call task' request response =>
        simp only [Label.exchange, Option.ite_none_right_eq_some, Option.some.injEq] at hlabel
        obtain ⟨rfl, rfl⟩ := hlabel
        rfl
  subst hlabel
  refine ⟨earlier ++ quiet, later, pool₁, pool₂, by simp, ?_, hbefore, hcond, hstep, hlater⟩
  rw [trace_append, trace, hearlier, trace, List.filterMap_eq_nil_iff.mpr hquiet,
    List.append_nil]

theorem World.Run.of_trace [DecidableEq S.Request] {pool pool' : Pool S τ σ}
    {labels : List (Label S τ ε)} (h : world.Run cond pool labels pool') {task : τ}
    {before after : List (Exchange S)} {exchange : Exchange S}
    (htrace : trace task labels = before ++ exchange :: after) :
    ∃ earlier later pool₁ pool₂, trace task earlier = before ∧
      world.Run cond pool earlier pool₁ ∧
      cond pool₁.state (.call task exchange.request exchange.response) ∧
      world.step pool₁ (.call task exchange.request exchange.response) = some pool₂ ∧
      world.Run cond pool₂ later pool' := by
  obtain ⟨earlier, later, pool₁, pool₂, -, hsplit⟩ := h.split_trace htrace
  exact ⟨earlier, later, pool₁, pool₂, hsplit⟩

theorem World.Run.event_unique [DecidableEq S.Request] {starts : ε → Option τ}
    (hstarts : ∀ event state state' started, world.event event state = some (state', started) →
      started.map Prod.fst = starts event) {pool pool' : Pool S τ σ}
    {labels : List (Label S τ ε)} (h : world.Run cond pool labels pool') {task : τ}
    {event event' : ε} (hevent : .event event ∈ labels) (hevent' : .event event' ∈ labels)
    (htask : starts event = some task) (htask' : starts event' = some task) : event = event' := by
  have hinv : (∀ event, .event event ∈ labels → starts event = some task →
      pool'.tasks task ≠ none) ∧ ∀ event event', .event event ∈ labels →
        .event event' ∈ labels → starts event = some task → starts event' = some task →
        event = event' := by
    clear hevent hevent' htask htask' event event'
    induction h with
    | nil => simp
    | snoc hbefore hcond hstep ih =>
        rename_i middle last labels label
        obtain ⟨hbusy, hunique⟩ := ih
        cases label with
        | call task' request response =>
            obtain ⟨next, state', -, -, rfl⟩ := World.step_call hstep
            refine ⟨fun event hmem htask => ?_, fun event event' hmem hmem' => ?_⟩
            · by_cases hself : task = task'
              · subst hself
                simp
              · rw [Pool.put_tasks_of_ne _ _ hself]
                exact hbusy event (by simpa using hmem) htask
            · exact hunique event event' (by simpa using hmem) (by simpa using hmem')
        | event first =>
            obtain ⟨state', started, hfirst, hstarted⟩ := World.step_event hstep
            have hname := hstarts _ _ _ _ hfirst
            by_cases hself : starts first = some task
            · -- the task is started now, and was not there before
              rcases hstarted with ⟨rfl, -⟩ | ⟨task', program, rfl, hfree, rfl⟩
              · rw [hself] at hname
                cases hname
              obtain rfl : task' = task := Option.some.inj (hname.trans hself)
              have hnew {event : ε} (hmem : .event event ∈ labels ++ [(.event first : Label S τ ε)])
                  (htask : starts event = some task') : event = first := by
                rcases List.mem_append.mp hmem with hold | hlast
                · exact (hbusy event hold htask hfree).elim
                · exact Label.event.inj (List.mem_singleton.mp hlast)
              exact ⟨fun _ _ _ => by simp, fun _ _ hmem hmem' htask htask' =>
                (hnew hmem htask).trans (hnew hmem' htask').symm⟩
            · have hold {event : ε} (hmem : .event event ∈ labels ++ [(.event first : Label S τ ε)])
                  (htask : starts event = some task) : .event event ∈ labels := by
                rcases List.mem_append.mp hmem with hold | hlast
                · exact hold
                · rw [Label.event.inj (List.mem_singleton.mp hlast)] at htask
                  exact (hself htask).elim
              refine ⟨fun event hmem htask => ?_, fun event event' hmem hmem' htask htask' =>
                hunique event event' (hold hmem htask) (hold hmem' htask') htask htask'⟩
              have hbefore := hbusy event (hold hmem htask) htask
              rcases hstarted with ⟨-, rfl⟩ | ⟨task', program, rfl, hfree, rfl⟩
              · exact hbefore
              · rw [Pool.put_tasks_of_ne _ _ fun heq => hself (hname.symm.trans
                  (congrArg some heq.symm))]
                exact hbefore
  exact hinv.2 event event' hevent hevent' htask htask'

namespace Protocol

variable [DecidableEq S.Request] {P : Protocol S τ σ}

theorem Holds.traced (hworld : P.Admits world cond)
    (hallowed : ∀ task request response state state', P.inv state →
      P.act task request response state state' → allowed request response)
    {pool pool' : Pool S τ σ} {labels : List (Label S τ ε)} (h : P.Holds pool)
    (hrun : world.Run cond pool labels pool') {task : τ} (hidle : pool.tasks task = none) :
    (pool'.tasks task = none → trace task labels = []) ∧
      ∀ program, pool'.tasks task = some program →
        Started world allowed labels task program := by
  induction hrun with
  | nil => exact ⟨fun _ => rfl, fun program hprogram => by simp [hidle] at hprogram⟩
  | snoc hbefore hcond hstep ih =>
      rename_i middle last labels label
      obtain ⟨hnone, hsome⟩ := ih
      have hinv := (h.run hworld hbefore).1
      have hkept : ∀ label, Label.exchange task label = none →
          trace task (labels ++ [label]) = trace task labels := by
        intro label hlabel
        simp [trace, hlabel]
      -- Nothing happens to the task.
      have hother : last.tasks task = middle.tasks task → Label.exchange task label = none →
          (last.tasks task = none → trace task (labels ++ [label]) = []) ∧
            ∀ program, last.tasks task = some program →
              Started world allowed (labels ++ [label]) task program := by
        intro hsame hlabel
        rw [hsame, hkept label hlabel]
        refine ⟨hnone, fun program hprogram => (hsome program hprogram).snoc fun _ h' => ?_⟩
        rw [hkept label hlabel]
        exact h'
      cases label with
      | call task' request response =>
          obtain ⟨next, state', htask, hperform, rfl⟩ := World.step_call hstep
          by_cases hself : task' = task
          · subst hself
            refine ⟨fun hlast => by simp at hlast, fun program hprogram => ?_⟩
            rw [Pool.put_tasks_self] at hprogram
            rw [← Option.some.inj hprogram]
            refine (hsome _ htask).snoc fun first hfirst => ?_
            have hact := hworld.act _ _ _ _ _ hcond hperform
            simpa [trace, Label.exchange] using hfirst.snoc (hallowed _ _ _ _ _ hinv hact)
          · exact hother (Pool.put_tasks_of_ne _ _ (Ne.symm hself) _)
              (by simp [Label.exchange, hself])
      | event event =>
          obtain ⟨state', started, hevent, hstarted⟩ := World.step_event hstep
          rcases hstarted with ⟨rfl, rfl⟩ | ⟨task', program', rfl, hfree, rfl⟩
          · exact hother rfl rfl
          · by_cases hself : task' = task
            · subst hself
              refine ⟨fun hlast => by simp at hlast, fun program hprogram => ?_⟩
              rw [Pool.put_tasks_self] at hprogram
              rw [← Option.some.inj hprogram]
              refine ⟨event, _, _, _, by simp, hevent, ?_⟩
              rw [hkept _ rfl, hnone hfree]
              exact .refl
            · exact hother (Pool.put_tasks_of_ne _ _ (Ne.symm hself) _) rfl

end Protocol

end Pools

end Failsafe.Lib
