import Failsafe.Server.Alone

/-!
Requests that are served one after the other, from the header to the response.
-/

namespace Failsafe.Server

open Failsafe.Core Failsafe.Lib

variable {ext : Externals} {isolation : Isolation}

/-- A request, the task that served it and what came of it. -/
structure Visit where
  request : HttpRequest
  task : Nat
  before : ServerState Nat
  log : Log
  response : HttpResponse

/-- The request is served, and leaves a state. -/
abbrev Visit.Leaves (ext : Externals) (isolation : Isolation) (visit : Visit)
    (state' : ServerState Nat) : Prop :=
  Performs ext isolation visit.task (serve ext visit.request) visit.before visit.log
    visit.response state'

/-- Requests that were served one after the other, each under a condition on it and on
those before it.  Every request is a task of its own. -/
inductive Visits (ext : Externals) (isolation : Isolation) (cond : List Visit → Visit → Prop)
    (state : ServerState Nat) : List Visit → ServerState Nat → Prop
  | nil : Visits ext isolation cond state [] state
  | snoc {visits : List Visit} {visit : Visit} {state' : ServerState Nat} :
      Visits ext isolation cond state visits visit.before → visit.task = visits.length →
      cond visits visit →
      Performs ext isolation visit.task (serve ext visit.request) visit.before visit.log
        visit.response state' →
      Visits ext isolation cond state (visits ++ [visit]) state'

/-- A protected route is executed for an account. -/
def Visit.RunsAs (ext : Externals) (isolation : Isolation) (visit : Visit)
    (accountId : AccountId) : Prop :=
  ∃ authorization route log state, visit.request = .protectedly authorization route ∧
    log <+: visit.log ∧ Alone ext isolation visit.task (requireAuth ext authorization)
      visit.before log (.ok accountId) state

/-- The token in the header of a request. -/
def HttpRequest.bearer : HttpRequest → Option String
  | .publicly _ => none
  | .protectedly authorization _ => authorization.bind (stripPrefix "Bearer ")

section Serve

variable {τ : Type} [DecidableEq τ] {task : τ} {state state' : ServerState τ} {log : Log}
  {request : HttpRequest} {response : HttpResponse}

theorem requireAuth_obeys {guard : Log → ServerRequest → Prop} [Lenient guard]
    {authorization : Option String} :
    Obeys guard (requireAuth ext authorization) (fun accountId _ => ∃ token claims,
      authorization.bind (stripPrefix "Bearer ") = some token ∧
        ext.openJwt token = some claims ∧ claims.mfaPending ≠ some true ∧
        claims.accountId = .ok accountId) log := by
  unfold requireAuth
  split
  · exact .throw
  rename_i token htoken
  refine .bind (.bind (.bind (.now fun time => .pure ?_)))
  unfold decode
  cases hopen : (ext.openJwt token).filter fun claims => time / SECOND ≤ claims.exp + LEEWAY with
  | none => exact .throw
  | some claims =>
      refine .ite (fun _ => .throw) fun hpending => .liftExcept fun accountId haccount => ?_
      refine .bind (.read rfl fun account => ?_)
      cases account with
      | none => exact .throw
      | some account =>
          exact .pure
            ⟨token, claims, htoken, (Option.filter_eq_some_iff.mp hopen).1, hpending, haccount⟩

/-- A request of the part before the handlers. -/
def ServerRequest.isLook : ServerRequest → Bool
  | .now | .allow _ _ _ => true
  | .query .db statement => !statement.isWrite
  | _ => false

theorem pendingAfter_looks (hlooks : ∀ exchange ∈ log, exchange.request.isLook = true) :
    pendingAfter log = none := by
  induction log using List.reverseRecOn with
  | nil => rfl
  | append_singleton log exchange ih =>
      rw [pendingAfter_append, ih fun exchange hmem => hlooks exchange (by simp [hmem])]
      obtain ⟨request, response⟩ := exchange
      have hlook : request.isLook = true := hlooks ⟨request, response⟩ (by simp)
      cases request with
      | query conn statement =>
          cases conn with
          | db => rfl
          | txn => cases hlook
      | now | allow => rfl
      | _ => cases hlook

theorem requireAuth_looks {authorization : Option String} :
    (requireAuth ext authorization).run.All fun request : ServerRequest =>
      request.isLook = true := by
  unfold requireAuth
  split
  · trivial
  refine Prog.All.tryBind (Prog.All.tryBind ⟨rfl, fun _ => trivial⟩ fun _ => ?_) fun accountId => ?_
  · split
    · trivial
    · split <;> trivial
  · refine Prog.All.tryBind ⟨rfl, fun _ => trivial⟩ fun account => ?_
    cases account <;> trivial

/-- The part of a request before its handler. -/
inductive Admitted (ext : Externals) (isolation : Isolation) (task : τ) (state : ServerState τ) :
    HttpRequest → Call → Log → ServerState τ → Prop
  | publicly {route : PublicRoute} {log : Log} {state' : ServerState τ} :
      Passes ext isolation task state log state' →
      (∀ exchange ∈ log, exchange.request.isLook = true) →
      Admitted ext isolation task state (.publicly route) (.publicly route) log state'
  | protectedly {authorization : Option String} {route : ProtectedRoute} {accountId : AccountId}
      {log : Log} {state' : ServerState τ} :
      Alone ext isolation task (requireAuth ext authorization) state log (.ok accountId) state' →
      Admitted ext isolation task state (.protectedly authorization route)
        (.protectedly accountId route) log state'

theorem Admitted.passes {call : Call}
    (h : Admitted ext isolation task state request call log state') :
    Passes ext isolation task state log state' ∧
      ∀ exchange ∈ log, exchange.request.isLook = true := by
  cases h with
  | publicly hpasses hlooks => exact ⟨hpasses, hlooks⟩
  | protectedly hauth => exact ⟨hauth.passes, Prog.Exec.all hauth requireAuth_looks⟩

theorem serve_publicly_cases {route : PublicRoute}
    (h : Performs ext isolation task (serve ext (.publicly route)) state log response state') :
    ∃ first second middle, log = first ++ second ∧ Passes ext isolation task state first middle ∧
      (∀ exchange ∈ first, exchange.request.isLook = true) ∧
      (response = rateLimited ∧ second = [] ∧ state' = middle ∨
        Performs ext isolation task (finish (handlePublic ext route)) middle second response
          state') := by
  cases hlimiter : route.limiter with
  | none =>
      rw [serve, hlimiter] at h
      exact ⟨[], log, state, rfl, .nil, by simp, .inr h⟩
  | some limit =>
      rw [serve, hlimiter] at h
      cases h with
      | call hnow h =>
          cases h with
          | call hallow h =>
              rename_i before time middle rest allowed
              have hpasses := (Passes.nil.snoc hnow).snoc hallow
              have hrest : Performs ext isolation task
                  (if (allowed : Bool) = true then finish (handlePublic ext route)
                    else pure rateLimited) middle rest response state' := h
              refine ⟨_, rest, middle, rfl, hpasses, by simp [ServerRequest.isLook], ?_⟩
              split at hrest
              · exact .inr hrest
              · cases hrest
                exact .inl ⟨rfl, rfl, rfl⟩

theorem serve_cases (h : Performs ext isolation task (serve ext request) state log response state') :
    (Passes ext isolation task state log state' ∧
        (∀ exchange ∈ log, exchange.request.isLook = true) ∧
        ∃ error, response.body = .error error ∧ response.status.isSuccess = false) ∨
      ∃ call first second middle, log = first ++ second ∧
        Admitted ext isolation task state request call first middle ∧
        Performs ext isolation task (finish (handle ext call)) middle second response state' := by
  cases request with
  | publicly route =>
      obtain ⟨first, second, middle, rfl, hpasses, hlooks, ⟨rfl, rfl, rfl⟩ | hrun⟩ :=
        serve_publicly_cases h
      · rw [List.append_nil]
        exact .inl ⟨hpasses, hlooks, _, rfl, rfl⟩
      · exact .inr ⟨_, first, second, middle, rfl, .publicly hpasses hlooks, hrun⟩
  | protectedly authorization route =>
      obtain ⟨first, rest, result, middle, rfl, hrun, hfinish⟩ := Prog.Exec.bind_inv h
      rw [ExceptT.run_bind] at hrun
      obtain ⟨auth, second, result', middle', rfl, hauth, hrest⟩ := Prog.Exec.bind_inv hrun
      cases result' with
      | error error =>
          cases hrest
          cases hfinish
          refine .inl ⟨by simpa using Alone.passes hauth, ?_, error.apiError, rfl,
            error.statusCode_isSuccess⟩
          simpa using Prog.Exec.all hauth requireAuth_looks
      | ok accountId =>
          refine .inr ⟨.protectedly accountId route, auth, second ++ rest, middle', by simp,
            .protectedly hauth, ?_⟩
          exact Prog.Exec.bind hrest hfinish

end Serve

section Sequences

variable {cond : List Visit → Visit → Prop} {state state' : ServerState Nat}
  {earlier later visits : List Visit} {visit : Visit}

theorem Visits.snoc_inv (h : Visits ext isolation cond state (visits ++ [visit]) state') :
    Visits ext isolation cond state visits visit.before ∧ visit.task = visits.length ∧
      cond visits visit ∧ visit.Leaves ext isolation state' := by
  generalize hvisits : visits ++ [visit] = visits' at h
  cases h with
  | nil => simp at hvisits
  | snoc hbefore htask hcond hserve =>
      obtain ⟨rfl, hvisit⟩ := List.append_inj' hvisits rfl
      obtain rfl := List.singleton_inj.mp hvisit
      exact ⟨hbefore, htask, hcond, hserve⟩

theorem Visits.split (h : Visits ext isolation cond state (earlier ++ visit :: later) state') :
    ∃ last, Visits ext isolation cond state earlier visit.before ∧
      visit.task = earlier.length ∧ cond earlier visit ∧ visit.Leaves ext isolation last := by
  induction later using List.reverseRecOn generalizing state' with
  | nil => exact ⟨state', h.snoc_inv⟩
  | append_singleton later final ih =>
      rw [← List.cons_append, ← List.append_assoc] at h
      exact ih h.snoc_inv.1

theorem Visits.after {Q : ServerState Nat → Prop}
    (hkept : ∀ visits (visit : Visit) last, Visits ext isolation cond state visits visit.before →
      visit.task = visits.length → visit.Leaves ext isolation last → Q visit.before → Q last)
    (h : Visits ext isolation cond state (earlier ++ visit :: later) state')
    (hfirst : ∀ last, visit.Leaves ext isolation last → Q last) : Q state' := by
  induction later using List.reverseRecOn generalizing state' with
  | nil => exact hfirst state' h.snoc_inv.2.2.2
  | append_singleton later final ih =>
      rw [← List.cons_append, ← List.append_assoc] at h
      obtain ⟨hbefore, htask, -, hserve⟩ := h.snoc_inv
      exact hkept _ final state' hbefore htask hserve (ih hbefore)

theorem Visits.inv {Q : ServerState Nat → Prop} (hstart : Q state)
    (hkept : ∀ visits (visit : Visit) last, Visits ext isolation cond state visits visit.before →
      visit.task = visits.length → visit.Leaves ext isolation last → Q visit.before → Q last)
    (h : Visits ext isolation cond state visits state') : Q state' := by
  induction h with
  | nil => exact hstart
  | snoc hbefore htask _ hserve ih => exact hkept _ _ _ hbefore htask hserve ih

theorem Visits.idle (hidle : ∀ task, state.database.pending task = none)
    (h : Visits ext isolation cond state visits state') {task : Nat}
    (htask : visits.length ≤ task) : state'.database.pending task = none := by
  induction h with
  | nil => exact hidle task
  | snoc hbefore hnumber _ hserve ih =>
      rw [List.length_append, List.length_singleton] at htask
      rw [Passes.pending_other (Passes.exec .nil hserve) (by omega)]
      exact ih (by omega)

theorem Visits.unique (hunique : state.database.committed.Unique)
    (h : Visits ext isolation cond state visits state') : state'.database.committed.Unique := by
  refine h.inv (Q := fun state => state.database.committed.Unique) hunique ?_
  intro visits visit last _ _ hserve hbefore
  exact Passes.unique (Passes.exec .nil hserve) hbefore

/-- Requests served one after the other, where nothing fails that need not. -/
def obligeAll (ext : Externals) (isolation : Isolation) :
    List HttpRequest → Nat → ServerState Nat → Option (List Visit × ServerState Nat)
  | [], _, state => some ([], state)
  | request :: requests, task, state =>
      (Prog.drive (perform ext isolation task) (ServerState.oblige isolation task)
        (serve ext request) state).bind fun (log, response, middle) =>
          (obligeAll ext isolation requests (task + 1) middle).map fun (visits, last) =>
            ({ request, task, before := state, log, response } :: visits, last)

theorem visits_of_obligeAll {start : ServerState Nat} {requests : List HttpRequest}
    (hbefore : Visits ext isolation (fun _ _ => True) start earlier state)
    (h : obligeAll ext isolation requests earlier.length state = some (visits, state')) :
    Visits ext isolation (fun _ _ => True) start (earlier ++ visits) state' ∧
      visits.map Visit.request = requests := by
  induction requests generalizing earlier state visits with
  | nil =>
      obtain ⟨rfl, rfl⟩ := Prod.mk.inj (Option.some.inj h)
      rw [List.append_nil]
      exact ⟨hbefore, rfl⟩
  | cons request requests ih =>
      obtain ⟨⟨log, response, middle⟩, hdrive, hserved⟩ := Option.bind_eq_some_iff.mp h
      obtain ⟨⟨visits', last⟩, hrest, hvisits⟩ := Option.map_eq_some_iff.mp hserved
      obtain ⟨rfl, rfl⟩ := Prod.mk.inj hvisits
      let visit : Visit := { request, task := earlier.length, before := state, log, response }
      have hnext : Visits ext isolation (fun _ _ => True) start (earlier ++ [visit]) middle :=
        .snoc hbefore rfl trivial (Prog.exec_of_drive hdrive)
      obtain ⟨hall, hrequests⟩ := ih hnext (by rw [List.length_append]; exact hrest)
      rw [List.append_assoc] at hall
      exact ⟨hall, congrArg (request :: ·) hrequests⟩

end Sequences

end Failsafe.Server
