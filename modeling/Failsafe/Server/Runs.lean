import Failsafe.Lib.Ensures
import Failsafe.Server.App
import Failsafe.Server.Tables

/-!
Runs of the server: what is pending in the transaction of a task follows from its
exchanges, and the committed tables only change by the statements that were asked.
-/

namespace Failsafe.Server

open Failsafe.Core Failsafe.Lib

/-- What a task has asked and was told. -/
abbrev Log := List (Exchange ServerSig)

/-- A request that neither writes to the database, nor commits, nor answers the client. -/
def ServerRequest.isQuiet : ServerRequest → Bool
  | .query _ statement => !statement.isWrite
  | .commit | .respond _ => false
  | _ => true

/-- What an exchange of a task does to its transaction. -/
def pendingStep (pending : Option (List schema.Entry)) :
    Exchange ServerSig → Option (List schema.Entry)
  | ⟨.begin, .ok ()⟩ => some []
  | ⟨.commit, _⟩ | ⟨.rollback, _⟩ => none
  | ⟨.query .txn statement, .ok result⟩ =>
      pending.map fun entries => entries ++ [⟨statement, result⟩]
  | _ => pending

/-- The open transaction of a task that has made these exchanges. -/
def pendingAfter (log : Log) : Option (List schema.Entry) :=
  log.foldl pendingStep none

@[simp] theorem pendingAfter_nil : pendingAfter [] = none := rfl

@[simp] theorem pendingAfter_append (log : Log)
    (exchange : Exchange ServerSig) :
    pendingAfter (log ++ [exchange]) = pendingStep (pendingAfter log) exchange := by
  simp [pendingAfter]

theorem pendingAfter_mem {log : Log} {entries : List schema.Entry}
    (h : pendingAfter log = some entries) {entry : schema.Entry} (hentry : entry ∈ entries) :
    ∃ before after, log =
      before ++ ⟨.query .txn entry.statement, .ok entry.result⟩ :: after := by
  induction log using List.reverseRecOn generalizing entries with
  | nil => cases h
  | append_singleton log exchange ih =>
      rw [pendingAfter_append] at h
      have hkept {entries' : List schema.Entry} (h' : pendingAfter log = some entries')
          (hmem : entry ∈ entries') : ∃ before after, log ++ [exchange] =
            before ++ ⟨.query .txn entry.statement, .ok entry.result⟩ :: after := by
        obtain ⟨before, after, rfl⟩ := ih h' hmem
        exact ⟨before, after ++ [exchange], by simp⟩
      unfold pendingStep at h
      split at h
      · obtain rfl := Option.some.inj h
        simp at hentry
      · cases h
      · cases h
      · rename_i statement result
        obtain ⟨entries', hlog, rfl⟩ := Option.map_eq_some_iff.mp h
        rcases List.mem_append.mp hentry with hold | hnew
        · exact hkept hlog hold
        · obtain rfl := List.mem_singleton.mp hnew
          exact ⟨log, [], rfl⟩
      · exact hkept h hentry

/-- The transaction of the task, if this is the connection, has only read so far. -/
def Unwritten (conn : Conn) (log : Log) : Prop :=
  conn = .txn → ∀ entries, pendingAfter log = some entries →
    ∀ entry ∈ entries, entry.statement.isWrite = false

theorem unwritten_db {log : Log} : Unwritten .db log :=
  fun h => by cases h

theorem unwritten_begin {conn : Conn} {log : Log} :
    Unwritten conn (log ++ [⟨.begin, .ok ()⟩]) := by
  rintro - entries hentries entry hmem
  rw [pendingAfter_append] at hentries
  obtain rfl := Option.some.inj hentries
  cases hmem

theorem Unwritten.snoc {conn : Conn} {log : Log} {request : ServerRequest}
    {response : request.Response} (h : Unwritten conn log) (hquiet : request.isQuiet = true) :
    Unwritten conn (log ++ [⟨request, response⟩]) := by
  rintro rfl entries hentries
  rw [pendingAfter_append] at hentries
  unfold pendingStep at hentries
  split at hentries
  · obtain rfl := Option.some.inj hentries
    simp
  · cases hentries
  · cases hentries
  · rename_i statement result hexchange
    obtain ⟨rfl, -⟩ := Exchange.mk.inj hexchange
    obtain ⟨entries', hlog, rfl⟩ := Option.map_eq_some_iff.mp hentries
    intro entry hmem
    rcases List.mem_append.mp hmem with hold | hnew
    · exact h rfl entries' hlog entry hold
    · obtain rfl := List.mem_singleton.mp hnew
      simpa [ServerRequest.isQuiet] using hquiet
  · exact h rfl entries hentries

/-- The transaction of a task has been committed. -/
def Committed (log : Log) : Prop :=
  ⟨.commit, .ok ()⟩ ∈ log

theorem Committed.mono {log log' : Log} (h : Committed log) (hlog : log <+: log') :
    Committed log' :=
  hlog.subset h

theorem committed_snoc {log : Log} {exchange : Exchange ServerSig}
    (hne : exchange.request ≠ .commit) :
    Committed (log ++ [exchange]) ↔ Committed log := by
  constructor
  · intro h
    rcases List.mem_append.mp h with hold | hnew
    · exact hold
    · exact (hne (congrArg Exchange.request (List.mem_singleton.mp hnew)).symm).elim
  · exact fun h => List.mem_append_left _ h

/-- What a task was told about committed data: directly, or in a transaction that has
not written yet. -/
def Saw (log : Log) (statement : Statement) (result : statement.Result) : Prop :=
  ∃ conn before after, log = before ++ ⟨.query conn statement, .ok result⟩ :: after ∧
    Unwritten conn before

theorem Saw.read {log : Log} {conn : Conn} {statement : Statement} {result : statement.Result}
    (h : Unwritten conn log) :
    Saw (log ++ [⟨.query conn statement, .ok result⟩]) statement result :=
  ⟨conn, log, [], rfl, h⟩

theorem Saw.mono {log log' : Log} {statement : Statement}
    {result : statement.Result} (h : Saw log statement result) (hlog : log <+: log') :
    Saw log' statement result := by
  obtain ⟨conn, before, after, rfl, hpending⟩ := h
  obtain ⟨rest, rfl⟩ := hlog
  exact ⟨conn, before, after ++ rest, by simp, hpending⟩

variable {τ : Type} [DecidableEq τ] {ext : Externals} {isolation : Isolation}

/-- A pool before the first call. -/
structure Idle (pool : Pool ServerSig τ (ServerState τ)) : Prop where
  tasks : ∀ task, pool.tasks task = none
  pending : ∀ task, pool.state.database.pending task = none

abbrev ServerLabel (τ : Type) := Label ServerSig τ (Arrival τ)

/-- A run of the server in which every step meets a condition. -/
abbrev ServerRun (ext : Externals) (isolation : Isolation)
    (cond : ServerState τ → ServerLabel τ → Prop) :=
  (serverWorld (τ := τ) ext isolation).Run cond

theorem perform_query {task : τ} {conn : Conn} {statement : Statement}
    {result : Except String statement.Result} {state state' : ServerState τ}
    (h : perform ext isolation task (.query conn statement) result state = some state') :
    ∃ database, state.database.query isolation.firm task conn statement result =
      some database ∧ state' = { state with database } := by
  obtain ⟨database, hquery, rfl⟩ := Option.map_eq_some_iff.mp h
  exact ⟨database, hquery, rfl⟩

theorem perform_commit {task : τ} {result : Except String Unit} {state state' : ServerState τ}
    (h : perform ext isolation task .commit result state = some state') :
    ∃ database, state.database.commit isolation.firm task result = some database ∧
      state' = { state with database } := by
  obtain ⟨database, hcommit, rfl⟩ := Option.map_eq_some_iff.mp h
  exact ⟨database, hcommit, rfl⟩

def ServerRequest.isDatabase : ServerRequest → Bool
  | .begin | .commit | .rollback | .query _ _ => true
  | _ => false

theorem perform_database {task : τ} {request : ServerRequest} {response : request.Response}
    {state state' : ServerState τ}
    (h : perform ext isolation task request response state = some state')
    (hother : request.isDatabase = false) :
    state'.database = state.database := by
  cases request with
  | «begin» | commit | rollback | query => cases hother
  | newUuid | generateTotpSecret | respond =>
      obtain rfl := Option.some.inj h
      rfl
  | now | generateRawToken | generateCode | generateRecoveryCodes =>
      simp only [perform, Option.ite_none_right_eq_some, Option.some.injEq] at h
      rw [← h.2]
  | hashPassword | encodeJwt =>
      cases response with
      | ok value =>
          simp only [perform, Option.ite_none_right_eq_some, Option.some.injEq] at h
          rw [← h.2]
      | error error =>
          obtain rfl := Option.some.inj h
          rfl
  | encryptSecret plaintext =>
      cases response with
      | ok stored =>
          simp only [perform] at h
          split at h
          · simp only [Option.ite_none_right_eq_some, Option.some.injEq] at h
            rw [← h.2]
          · cases h
      | error error =>
          obtain rfl := Option.some.inj h
          rfl
  | allow limiter key time =>
      simp only [perform, Option.ite_none_right_eq_some, Option.some.injEq] at h
      rw [← h.2]

theorem perform_now {task : τ} {time : Timestamp} {state state' : ServerState τ}
    (h : perform ext isolation task .now time state = some state') :
    state.clock ≤ time ∧ state' = { state with clock := time } := by
  simp only [perform, Option.ite_none_right_eq_some, Option.some.injEq] at h
  exact ⟨h.1, h.2.symm⟩

theorem perform_pending {task : τ} {request : ServerRequest} {response : request.Response}
    {state state' : ServerState τ}
    (h : perform ext isolation task request response state = some state') :
    state'.database.pending = Function.update state.database.pending task
      (pendingStep (state.database.pending task) ⟨request, response⟩) := by
  have hother (hdatabase : state'.database = state.database)
      (hstep : pendingStep (state.database.pending task) ⟨request, response⟩ =
        state.database.pending task) : state'.database.pending =
        Function.update state.database.pending task
          (pendingStep (state.database.pending task) ⟨request, response⟩) := by
    rw [hdatabase, hstep, Function.update_eq_self]
  cases request with
  | «begin» =>
      obtain rfl := Option.some.inj h
      cases response with
      | ok value => rfl
      | error error => exact hother rfl rfl
  | commit =>
      obtain ⟨database, hcommit, rfl⟩ := perform_commit h
      cases response with
      | ok value =>
          obtain ⟨_, _, -, -, rfl⟩ := Database.commit_ok hcommit
          rfl
      | error error =>
          obtain rfl := Option.some.inj hcommit
          rfl
  | rollback =>
      obtain rfl := Option.some.inj h
      rfl
  | query conn statement =>
      obtain ⟨database, hquery, rfl⟩ := perform_query h
      cases response with
      | error error =>
          obtain rfl := Option.some.inj hquery
          exact hother rfl (by cases conn <;> rfl)
      | ok result =>
          cases conn with
          | db =>
              obtain ⟨committed, -, rfl⟩ := Database.query_db hquery
              rw [show pendingStep (state.database.pending task)
                ⟨.query .db statement, .ok result⟩ = state.database.pending task from rfl,
                Function.update_eq_self]
          | txn =>
              obtain ⟨entries, _, _, hpending, -, -, rfl⟩ := Database.query_txn hquery
              change _ = Function.update state.database.pending task
                ((state.database.pending task).map fun entries => entries ++ [⟨statement, result⟩])
              rw [hpending]
              rfl
  | now | newUuid | generateRawToken | generateCode | generateTotpSecret | generateRecoveryCodes
  | hashPassword | encryptSecret | encodeJwt | allow | respond =>
      exact hother (perform_database h rfl) rfl

theorem perform_committed {task : τ} {request : ServerRequest} {response : request.Response}
    {state state' : ServerState τ}
    (h : perform ext isolation task request response state = some state') :
    state'.database.committed = state.database.committed ∨
      (∃ statement result, (⟨request, response⟩ : Exchange ServerSig) =
          ⟨.query .db statement, .ok result⟩ ∧
        statement.run state.database.committed = .ok (result, state'.database.committed)) ∨
      ((⟨request, response⟩ : Exchange ServerSig) = ⟨.commit, .ok ()⟩ ∧
        ∃ entries, state.database.pending task = some entries ∧
          schema.replay isolation.firm entries state.database.committed =
            some state'.database.committed) := by
  cases request with
  | «begin» =>
      obtain rfl := Option.some.inj h
      cases response <;> exact .inl rfl
  | commit =>
      obtain ⟨database, hcommit, rfl⟩ := perform_commit h
      cases response with
      | ok value =>
          obtain ⟨entries, committed, hpending, hreplay, rfl⟩ := Database.commit_ok hcommit
          exact .inr (.inr ⟨rfl, entries, hpending, hreplay⟩)
      | error error =>
          obtain rfl := Option.some.inj hcommit
          exact .inl rfl
  | rollback =>
      obtain rfl := Option.some.inj h
      exact .inl rfl
  | query conn statement =>
      obtain ⟨database, hquery, rfl⟩ := perform_query h
      cases response with
      | error error =>
          obtain rfl := Option.some.inj hquery
          exact .inl rfl
      | ok result =>
          cases conn with
          | db =>
              obtain ⟨committed, hrun, rfl⟩ := Database.query_db hquery
              exact .inr (.inl ⟨statement, result, rfl, hrun⟩)
          | txn =>
              obtain ⟨_, _, _, -, -, -, rfl⟩ := Database.query_txn hquery
              exact .inl rfl
  | now | newUuid | generateRawToken | generateCode | generateTotpSecret | generateRecoveryCodes
  | hashPassword | encryptSecret | encodeJwt | allow | respond =>
      exact .inl (congrArg Database.committed (perform_database h rfl))

theorem run_read {statement : Statement} {tables tables' : Tables} {result : statement.Result}
    (hread : statement.isWrite = false)
    (h : statement.run tables = .ok (result, tables')) : tables' = tables := by
  cases statement <;> cases hread <;> exact (Prod.mk.inj (Except.ok.inj h)).2.symm

theorem replay_reads {firm : Statement → Bool} {entries : List schema.Entry}
    {tables tables' : Tables} (hread : ∀ entry ∈ entries, entry.statement.isWrite = false)
    (h : schema.replay firm entries tables = some tables') : tables' = tables :=
  Schema.replay_induction (R := fun before after => after = before) (fun _ => rfl)
    (fun _ _ _ h₁ h₂ => h₂.trans h₁)
    (fun entry hmem _ _ _ hrun _ => run_read (hread entry hmem) hrun) h

theorem replay_read {firm : Statement → Bool} {entry : schema.Entry}
    {entries : List schema.Entry} {tables tables' : Tables}
    (h : schema.replay firm (entry :: entries) tables = some tables')
    (hread : entry.statement.isWrite = false) :
    schema.replay firm entries tables = some tables' ∧
      (firm entry.statement = true → entry.statement.run tables = .ok (entry.result, tables)) := by
  obtain ⟨result, middle, hrun, hfirm, hrest⟩ := (Schema.replay_cons (S := schema)).mp h
  obtain rfl := run_read hread hrun
  refine ⟨hrest, fun hentry => ?_⟩
  rw [← hfirm hentry]
  exact hrun

theorem replay_write {firm : Statement → Bool} {entry : schema.Entry}
    {entries : List schema.Entry} {tables tables' : Tables}
    (h : schema.replay firm (entry :: entries) tables = some tables')
    (hfirm : firm entry.statement = true) :
    ∃ middle, entry.statement.run tables = .ok (entry.result, middle) ∧
      schema.replay firm entries middle = some tables' := by
  obtain ⟨result, middle, hrun, hresult, hrest⟩ := (Schema.replay_cons (S := schema)).mp h
  rw [hresult hfirm] at hrun
  exact ⟨middle, hrun, hrest⟩

theorem perform_of_step {pool pool' : Pool ServerSig τ (ServerState τ)} {task : τ}
    {request : ServerRequest} {response : request.Response}
    (h : (serverWorld ext isolation).step pool (.call task request response) = some pool') :
    perform ext isolation task request response pool.state = some pool'.state := by
  obtain ⟨_, state', -, hperform, rfl⟩ := World.step_call h
  exact hperform

theorem state_of_arrival {pool pool' : Pool ServerSig τ (ServerState τ)} {arrival : Arrival τ}
    (h : (serverWorld ext isolation).step pool (.event arrival) = some pool') :
    pool'.state = pool.state := by
  obtain ⟨state', started, hevent, hstarted⟩ := World.step_event h
  obtain ⟨rfl, -⟩ := Prod.mk.inj (Option.some.inj hevent)
  rcases hstarted with ⟨-, rfl⟩ | ⟨_, _, -, -, rfl⟩ <;> rfl

theorem run_of_step {pool pool' : Pool ServerSig τ (ServerState τ)} {task : τ}
    {statement : Statement} {result : statement.Result}
    (h : (serverWorld ext isolation).step pool
      (.call task (.query .db statement) (.ok result)) = some pool') :
    statement.run pool.state.database.committed =
      .ok (result, pool'.state.database.committed) := by
  obtain ⟨database, hquery, hstate⟩ := perform_query (perform_of_step h)
  obtain ⟨committed, hrun, rfl⟩ := Database.query_db hquery
  rw [hstate]
  exact hrun

theorem Isolation.firm_write (isolation : Isolation) (statement : Statement)
    (h : statement.isWrite = true) : isolation.firm statement = true := by
  cases isolation with
  | readCommitted => exact h
  | serializable => rfl

section Runs

variable {cond : ServerState τ → ServerLabel τ → Prop}
  {pool pool' : Pool ServerSig τ (ServerState τ)} {labels : List (ServerLabel τ)}

theorem ServerRun.pending (h : ServerRun ext isolation cond pool labels pool')
    (hidle : Idle pool) (task : τ) :
    pool'.state.database.pending task = pendingAfter (trace task labels) := by
  induction h with
  | nil => exact hidle.pending task
  | snoc _ _ hstep ih =>
      rename_i middle last labels label hbefore hcond
      rw [trace_append]
      cases label with
      | call task' request response =>
          obtain ⟨next, state', -, hperform, rfl⟩ := World.step_call hstep
          rw [Pool.put_state, perform_pending hperform]
          by_cases hself : task' = task
          · subst hself
            simp [trace, Label.exchange, ih]
          · simp [trace, Label.exchange, hself, Ne.symm hself, ih]
      | event event =>
          have hnone : trace task [(.event event : ServerLabel τ)] = [] := rfl
          rw [hnone, List.append_nil, state_of_arrival hstep]
          exact ih

theorem ServerRun.commit_replays {pool₁ pool₂ : Pool ServerSig τ (ServerState τ)}
    (h : ServerRun ext isolation cond pool labels pool₁) (hidle : Idle pool) {task : τ}
    (hstep : (serverWorld ext isolation).step pool₁ (.call task .commit (.ok ())) = some pool₂) :
    ∃ entries, pendingAfter (trace task labels) = some entries ∧
      schema.replay isolation.firm entries pool₁.state.database.committed =
        some pool₂.state.database.committed := by
  obtain ⟨database, hcommit, hstate⟩ := perform_commit (perform_of_step hstep)
  obtain ⟨entries, committed, hpending, hreplay, rfl⟩ := Database.commit_ok hcommit
  rw [ServerRun.pending h hidle] at hpending
  exact ⟨entries, hpending, by rw [hstate, hreplay]⟩

theorem ServerRun.asked {pool₁ pool₂ : Pool ServerSig τ (ServerState τ)}
    (h : ServerRun ext isolation cond pool labels pool₁) (hidle : Idle pool) {task : τ}
    {request : ServerRequest} {response : request.Response}
    (hstep : (serverWorld ext isolation).step pool₁ (.call task request response) = some pool₂) :
    ∃ call, .event ⟨task, call⟩ ∈ labels ∧
      ∀ guard post, (call.run ext).Ensures guard Prog.heard post [] →
        guard (trace task labels) request := by
  obtain ⟨⟨task', call⟩, _, _, first, hmem, hevent, hguard⟩ :=
    World.Run.asked h hidle.tasks hstep
  obtain ⟨-, hstarted⟩ := Prod.mk.inj (Option.some.inj hevent)
  obtain ⟨rfl, rfl⟩ := Prod.mk.inj (Option.some.inj hstarted)
  exact ⟨call, hmem, hguard⟩

theorem ServerRun.call_unique (h : ServerRun ext isolation cond pool labels pool') {task : τ}
    {call call' : Call} (hcall : .event ⟨task, call⟩ ∈ labels)
    (hcall' : .event ⟨task, call'⟩ ∈ labels) : call = call' := by
  have hstarts : ∀ (arrival : Arrival τ) (state state' : ServerState τ) started,
      (serverWorld ext isolation).event arrival state = some (state', started) →
      started.map Prod.fst = some arrival.task := by
    rintro arrival state state' started hevent
    obtain ⟨-, rfl⟩ := Prod.mk.inj (Option.some.inj hevent)
    rfl
  have hsame := World.Run.event_unique hstarts h hcall hcall' rfl rfl
  exact (Arrival.mk.inj hsame).2

theorem ServerRun.asked_by {pool₁ pool₂ : Pool ServerSig τ (ServerState τ)}
    (h : ServerRun ext isolation cond pool labels pool₁) (hidle : Idle pool) {task : τ}
    {call : Call} (hcall : .event ⟨task, call⟩ ∈ labels)
    {request : ServerRequest} {response : request.Response}
    (hstep : (serverWorld ext isolation).step pool₁ (.call task request response) = some pool₂)
    {guard : Log → ServerRequest → Prop} {post : Unit → Log → Prop}
    (hensures : (call.run ext).Ensures guard Prog.heard post []) :
    guard (trace task labels) request := by
  obtain ⟨call', hcall', hguard⟩ := ServerRun.asked h hidle hstep
  obtain rfl := ServerRun.call_unique h hcall hcall'
  exact hguard guard post hensures

theorem ServerRun.asked_before (h : ServerRun ext isolation cond pool labels pool')
    (hidle : Idle pool) {task : τ} {before after : Log}
    {exchange : Exchange ServerSig}
    (htrace : trace task labels = before ++ exchange :: after) :
    ∃ call, .event ⟨task, call⟩ ∈ labels ∧
      ∀ guard post, (call.run ext).Ensures guard Prog.heard post [] →
        guard before exchange.request := by
  obtain ⟨earlier, later, pool₁, pool₂, hlabels, rfl, hearlier, -, hstep, -⟩ :=
    h.split_trace htrace
  obtain ⟨call, hmem, hguard⟩ := ServerRun.asked hearlier hidle hstep
  exact ⟨call, by simp [hlabels, hmem], hguard⟩

theorem ServerRun.call_mem {earlier later : List (ServerLabel τ)}
    (h : ServerRun ext isolation cond pool (earlier ++ later) pool') (hidle : Idle pool)
    {task : τ} {call : Call} (hcall : .event ⟨task, call⟩ ∈ earlier ++ later)
    (htrace : trace task earlier ≠ []) : .event ⟨task, call⟩ ∈ earlier := by
  obtain ⟨pool₁, hearlier, -⟩ := World.Run.append_inv h
  obtain ⟨exchange, rest, hrest⟩ := List.exists_cons_of_ne_nil htrace
  have hsplit : trace task earlier = [] ++ exchange :: rest := hrest
  obtain ⟨call', hcall', -⟩ := ServerRun.asked_before hearlier hidle hsplit
  obtain rfl := ServerRun.call_unique h hcall (List.mem_append_left _ hcall')
  exact hcall'

theorem ServerRun.call_mem_step {earlier later : List (ServerLabel τ)} {task : τ}
    {request : ServerRequest} {response : request.Response}
    (h : ServerRun ext isolation cond pool (earlier ++ .call task request response :: later) pool')
    (hidle : Idle pool) {call : Call}
    (hcall : .event ⟨task, call⟩ ∈ earlier ++ .call task request response :: later) :
    .event ⟨task, call⟩ ∈ earlier := by
  rw [← List.singleton_append, ← List.append_assoc] at h hcall
  have hmem := ServerRun.call_mem h hidle hcall (by simp [trace, Label.exchange])
  simpa using hmem

theorem ServerRun.looked (h : ServerRun ext isolation cond pool labels pool')
    (hidle : Idle pool) {task : τ} {call : Call} (hcall : .event ⟨task, call⟩ ∈ labels)
    {time : Timestamp} (hnow : ⟨.now, time⟩ ∈ trace task labels) :
    ∃ earlier later pool₁, labels = earlier ++ later ∧ .event ⟨task, call⟩ ∈ earlier ∧
      ServerRun ext isolation cond pool earlier pool₁ ∧ pool₁.state.clock = time := by
  obtain ⟨before, after, htrace⟩ := List.append_of_mem hnow
  obtain ⟨earlier, later, pool₁, pool₂, rfl, -, hearlier, hcond, hstep, -⟩ := h.split_trace htrace
  have hstarted := ServerRun.call_mem_step h hidle hcall
  obtain ⟨-, hstate⟩ := perform_now (perform_of_step hstep)
  refine ⟨earlier ++ [.call task .now time], later, pool₂, by simp, by simp [hstarted],
    .snoc hearlier hcond hstep, ?_⟩
  rw [hstate]

theorem ServerRun.read_committed (h : ServerRun ext isolation cond pool labels pool')
    (hidle : Idle pool) {task : τ} {conn : Conn} {statement : Statement}
    {result : statement.Result} {before after : Log}
    (htrace : trace task labels = before ++ ⟨.query conn statement, .ok result⟩ :: after)
    (hread : statement.isWrite = false)
    (hpending : Unwritten conn before) :
    ∃ earlier later pool₁, ServerRun ext isolation cond pool earlier pool₁ ∧
      ServerRun ext isolation cond pool₁ later pool' ∧ trace task earlier = before ∧
      statement.run pool₁.state.database.committed =
        .ok (result, pool₁.state.database.committed) := by
  obtain ⟨earlier, later, pool₁, pool₂, hlabels, rfl, hearlier, hcond, hstep, hlater⟩ :=
    h.split_trace htrace
  obtain ⟨database, hquery, -⟩ := perform_query (perform_of_step hstep)
  refine ⟨earlier, _, pool₁, hearlier, .append (.snoc .nil hcond hstep) hlater, rfl, ?_⟩
  cases conn with
  | db =>
      obtain ⟨committed, hrun, -⟩ := Database.query_db hquery
      rw [run_read hread hrun] at hrun
      exact hrun
  | txn =>
      obtain ⟨entries, view, view', hentries, hview, hrun, -⟩ := Database.query_txn hquery
      rw [ServerRun.pending hearlier hidle] at hentries
      rw [run_read hread hrun, replay_reads (hpending rfl _ hentries) hview] at hrun
      exact hrun

theorem ServerRun.saw (h : ServerRun ext isolation cond pool labels pool')
    (hidle : Idle pool) {task : τ} {statement : Statement} {result : statement.Result}
    (hsaw : Saw (trace task labels) statement result) (hread : statement.isWrite = false) :
    ∃ earlier later pool₁, ServerRun ext isolation cond pool earlier pool₁ ∧
      ServerRun ext isolation cond pool₁ later pool' ∧
      statement.run pool₁.state.database.committed =
        .ok (result, pool₁.state.database.committed) := by
  obtain ⟨conn, before, after, htrace, hpending⟩ := hsaw
  obtain ⟨earlier, later, pool₁, hearlier, hlater, -, hrun⟩ :=
    h.read_committed hidle htrace hread hpending
  exact ⟨earlier, later, pool₁, hearlier, hlater, hrun⟩

theorem ServerRun.commit_step (h : ServerRun ext isolation cond pool labels pool') {task : τ}
    (hcommitted : Committed (trace task labels)) :
    ∃ earlier later pool₁ pool₂, labels = earlier ++ .call task .commit (.ok ()) :: later ∧
      ServerRun ext isolation cond pool earlier pool₁ ∧
      cond pool₁.state (.call task .commit (.ok ())) ∧
      (serverWorld ext isolation).step pool₁ (.call task .commit (.ok ())) = some pool₂ ∧
      ServerRun ext isolation cond pool₂ later pool' := by
  obtain ⟨before, after, htrace⟩ := List.append_of_mem hcommitted
  obtain ⟨earlier, later, pool₁, pool₂, hlabels, -, hearlier, hcond, hstep, hlater⟩ :=
    h.split_trace htrace
  exact ⟨earlier, later, pool₁, pool₂, hlabels, hearlier, hcond, hstep, hlater⟩

theorem ServerRun.relates {pool₁ : Pool ServerSig τ (ServerState τ)}
    {labels' : List (ServerLabel τ)} (h : ServerRun ext isolation cond pool labels pool₁)
    (hrest : ServerRun ext isolation cond pool₁ labels' pool') {R : Tables → Tables → Prop}
    (hrefl : ∀ tables, R tables tables)
    (htrans : ∀ tables₁ tables₂ tables₃, R tables₁ tables₂ → R tables₂ tables₃ →
      R tables₁ tables₃)
    (hstep : ∀ labels middle task (request : ServerRequest) (response : request.Response) last,
      ServerRun ext isolation cond pool labels middle →
      (serverWorld ext isolation).step middle (.call task request response) = some last →
      R middle.state.database.committed last.state.database.committed) :
    R pool₁.state.database.committed pool'.state.database.committed := by
  induction hrest with
  | nil => exact hrefl _
  | snoc hbefore hcond hlast ih =>
      rename_i middle last labels'' label
      refine htrans _ _ _ ih ?_
      cases label with
      | call task request response =>
          exact hstep _ _ task request response _ (h.append hbefore) hlast
      | event event =>
          rw [state_of_arrival hlast]
          exact hrefl _

theorem ServerRun.every (h : ServerRun ext isolation cond pool labels pool')
    {R : Tables → Tables → Prop} (hrefl : ∀ tables, R tables tables)
    (htrans : ∀ tables₁ tables₂ tables₃, R tables₁ tables₂ → R tables₂ tables₃ →
      R tables₁ tables₃)
    (hrun : ∀ (statement : Statement) result tables tables',
      statement.run tables = .ok (result, tables') → R tables tables') :
    R pool.state.database.committed pool'.state.database.committed := by
  refine ServerRun.relates .nil h hrefl htrans ?_
  intro labels middle task request response last _ hstep
  rcases perform_committed (perform_of_step hstep) with
    hsame | ⟨statement, result, -, hstatement⟩ | ⟨-, entries, -, hreplay⟩
  · rw [hsame]
    exact hrefl _
  · exact hrun _ _ _ _ hstatement
  · exact Schema.replay_induction hrefl htrans (fun _ _ _ _ _ h _ => hrun _ _ _ _ h) hreplay

theorem ServerRun.unique (h : ServerRun ext isolation cond pool labels pool')
    (hunique : pool.state.database.committed.Unique) : pool'.state.database.committed.Unique := by
  refine ServerRun.every (R := fun before after => before.Unique → after.Unique) h
    (fun _ => id) (fun _ _ _ h₁ h₂ h => h₂ (h₁ h)) ?_ hunique
  exact fun _ _ _ _ hrun => run_unique hrun

/-- The exchange by which a statement reaches the committed tables. -/
def Statement.reaching : Conn → (statement : Statement) → statement.Result → Exchange ServerSig
  | .db, statement, result => ⟨.query .db statement, .ok result⟩
  | .txn, _, _ => ⟨.commit, .ok ()⟩

/-- The statements that an exchange brings into effect, after the history of its task. -/
def takingEffect (log : Log) : Exchange ServerSig → List Statement
  | ⟨.query .db statement, .ok _⟩ => [statement]
  | ⟨.commit, .ok ()⟩ => ((pendingAfter log).getD []).map Schema.Entry.statement
  | _ => []

/-- What the statements of a call carry on, one after the other, its step carries on. -/
theorem ServerRun.changes_each {pool₁ pool₂ : Pool ServerSig τ (ServerState τ)}
    (h : ServerRun ext isolation cond pool labels pool₁) (hidle : Idle pool) {task : τ}
    {request : ServerRequest} {response : request.Response}
    (hstep : (serverWorld ext isolation).step pool₁ (.call task request response) = some pool₂)
    {I : List Statement → Tables → Prop}
    (hasked : ∀ call log conn (statement : Statement) (result : statement.Result) done tables
        tables', ⟨request, response⟩ = Statement.reaching conn statement result →
      .event ⟨task, call⟩ ∈ labels → log <+: trace task labels →
      (∀ guard post, (call.run ext).Ensures guard Prog.heard post [] →
        guard log (.query conn statement)) →
      I done tables → statement.run tables = .ok (result, tables') →
      I (done ++ [statement]) tables')
    (done : List Statement) (hstart : I done pool₁.state.database.committed) :
    I (done ++ takingEffect (trace task labels) ⟨request, response⟩)
      pool₂.state.database.committed := by
  by_cases hdirect : ∃ (statement : Statement) (result : statement.Result),
      (⟨request, response⟩ : Exchange ServerSig) = ⟨.query .db statement, .ok result⟩
  · obtain ⟨statement, result, ⟨⟩⟩ := hdirect
    obtain ⟨call, hmem, hguard⟩ := ServerRun.asked h hidle hstep
    exact hasked call _ .db statement result _ _ _ rfl hmem (List.prefix_refl _) hguard hstart
      (run_of_step hstep)
  by_cases hcommit : (⟨request, response⟩ : Exchange ServerSig) = ⟨.commit, .ok ()⟩
  · cases hcommit
    obtain ⟨entries, hpending, hreplay⟩ := h.commit_replays hidle hstep
    have hall : I (done ++ ([] ++ entries).map Schema.Entry.statement)
        pool₂.state.database.committed := by
      refine Schema.replay_each (I := fun made => I (done ++ made.map Schema.Entry.statement)) ?_
        [] hreplay (by simpa using hstart)
      intro made entry hentry tables result tables' hmade hrun _
      obtain ⟨before, after, htrace⟩ := pendingAfter_mem hpending hentry
      obtain ⟨call, hmem, hguard⟩ := ServerRun.asked_before h hidle htrace
      have hnext := hasked call before .txn entry.statement result _ _ _ rfl hmem
        ⟨_, htrace.symm⟩ hguard hmade hrun
      simpa using hnext
    simpa [takingEffect, hpending] using hall
  · have hnone : takingEffect (trace task labels) ⟨request, response⟩ = [] := by
      unfold takingEffect
      split
      · exact (hdirect ⟨_, _, ‹_›⟩).elim
      · exact (hcommit ‹_›).elim
      · rfl
    rw [hnone, List.append_nil]
    rcases perform_committed (perform_of_step hstep) with
      hsame | ⟨statement, result, hexchange, -⟩ | ⟨hexchange, -⟩
    · rwa [hsame]
    · exact (hdirect ⟨statement, result, hexchange⟩).elim
    · exact (hcommit hexchange).elim

theorem ServerRun.changes {pool₁ pool₂ : Pool ServerSig τ (ServerState τ)}
    (h : ServerRun ext isolation cond pool labels pool₁) (hidle : Idle pool) {task : τ}
    {request : ServerRequest} {response : request.Response}
    (hstep : (serverWorld ext isolation).step pool₁ (.call task request response) = some pool₂)
    {R : Tables → Tables → Prop} (hrefl : ∀ tables, R tables tables)
    (htrans : ∀ tables₁ tables₂ tables₃, R tables₁ tables₂ → R tables₂ tables₃ →
      R tables₁ tables₃)
    (hasked : ∀ call log conn (statement : Statement) (result : statement.Result) tables tables',
      ⟨request, response⟩ = Statement.reaching conn statement result →
      .event ⟨task, call⟩ ∈ labels → log <+: trace task labels →
      (∀ guard post, (call.run ext).Ensures guard Prog.heard post [] →
        guard log (.query conn statement)) →
      R pool₁.state.database.committed tables →
      statement.run tables = .ok (result, tables') → R tables tables') :
    R pool₁.state.database.committed pool₂.state.database.committed := by
  refine h.changes_each hidle hstep (I := fun _ => R pool₁.state.database.committed) ?_ []
    (hrefl _)
  intro call log conn statement result _ tables tables' hreaching hmem hlog hguard hreached hrun
  exact htrans _ _ _ hreached
    (hasked call log conn statement result _ _ hreaching hmem hlog hguard hreached hrun)

/-- The statements that have taken effect in the labels after others, each with the task that
made it. -/
def inEffectAfter (before : List (ServerLabel τ)) : List (ServerLabel τ) → List (τ × Statement)
  | [] => []
  | .event arrival :: labels => inEffectAfter (before ++ [.event arrival]) labels
  | .call task request response :: labels =>
      (takingEffect (trace task before) ⟨request, response⟩).map (task, ·) ++
        inEffectAfter (before ++ [.call task request response]) labels

/-- The statements that have taken effect, in the order in which they did. -/
def inEffect (labels : List (ServerLabel τ)) : List (τ × Statement) :=
  inEffectAfter [] labels

theorem inEffectAfter_append (before labels labels' : List (ServerLabel τ)) :
    inEffectAfter before (labels ++ labels') =
      inEffectAfter before labels ++ inEffectAfter (before ++ labels) labels' := by
  induction labels generalizing before with
  | nil => simp [inEffectAfter]
  | cons label labels ih => cases label <;> simp [inEffectAfter, ih]

@[simp] theorem inEffect_event (labels : List (ServerLabel τ)) (arrival : Arrival τ) :
    inEffect (labels ++ [.event arrival]) = inEffect labels := by
  simp [inEffect, inEffectAfter_append, inEffectAfter]

@[simp] theorem inEffect_call (labels : List (ServerLabel τ)) (task : τ) (request : ServerRequest)
    (response : request.Response) :
    inEffect (labels ++ [.call task request response]) = inEffect labels ++
      (takingEffect (trace task labels) ⟨request, response⟩).map (task, ·) := by
  simp [inEffect, inEffectAfter_append, inEffectAfter]

end Runs

section Scripts

/-! Surroundings that answer every request of a script, with names in the place of
random values and of digests. -/

/-- The parts of a text between the marks. -/
def splitMarks (mark : Char) : List Char → List (List Char)
  | [] => [[]]
  | ch :: chars =>
      match splitMarks mark chars with
      | part :: parts => if ch = mark then [] :: part :: parts else (ch :: part) :: parts
      | [] => []

def readDigits (digits : List Char) : Nat :=
  digits.foldl (fun value ch => 10 * value + (ch.toNat - '0'.toNat)) 0

def Claims.sign (claims : Claims) : String :=
  String.ofList (claims.sub.toList ++ '|' :: Nat.toDigits 10 claims.exp ++
    '|' :: Nat.toDigits 10 claims.iat ++ '|' ::
    match claims.mfaPending with
    | none => []
    | some false => ['f']
    | some true => ['t'])

def openSigned (token : String) : Option Claims :=
  match splitMarks '|' token.toList with
  | [sub, exp, iat, mfaPending] =>
      some { sub := String.ofList sub, exp := readDigits exp, iat := readDigits iat,
             mfaPending :=
               match mfaPending with
               | [] => none
               | ch :: _ => some (ch == 't') }
  | _ => none

def sampleExternals : Externals where
  toUppercase text := String.ofList (text.toList.map Char.toUpper)
  toLowercase text := String.ofList (text.toList.map Char.toLower)
  sha256Hex text := "sha256:" ++ text
  verifyPassword password passwordHash := passwordHash == "argon2:" ++ password
  base64Decode text := some (text.toList.map fun ch => ch.toNat.toUInt8)
  decrypt _ ciphertext := some (String.ofList (ciphertext.map fun byte => Char.ofNat byte.toNat))
  openJwt := openSigned
  validTotp _ _ := true
  totpUrl email secret := "otpauth://totp/Failsafe:" ++ email ++ "?secret=" ++ secret
  checkTotp _ _ code := code == "123456"
  toRfc3339 time := String.ofList (Nat.toDigits 10 time)
  webAsset _ := none

namespace ServerState

/-- A number that no row has been named after yet. -/
def fresh (state : ServerState τ) (task : τ) : Nat :=
  let tables := state.database.committed
  1 + tables.account.length + tables.device.length + tables.pairingCode.length +
    tables.recoveryCode.length + tables.refreshToken.length +
    ((state.database.pending task).getD []).length

/-- A number as a text of so many characters. -/
def padded (pad : Char) (length n : Nat) : String :=
  let digits := Nat.toDigits 10 n
  String.ofList (List.replicate (length - digits.length) pad ++ digits)

def obligeQuery (isolation : Isolation) (state : ServerState τ) (task : τ) :
    Conn → (statement : Statement) → Option (Except String statement.Result)
  | .db, statement => some ((statement.run state.database.committed).map Prod.fst)
  | .txn, statement =>
      (state.database.pending task).bind fun entries =>
        (schema.replay isolation.firm entries state.database.committed).map fun view =>
          (statement.run view).map Prod.fst

/-- Every request succeeds, unless a constraint of the tables stands against it. -/
def oblige (isolation : Isolation) (task : τ) (state : ServerState τ) :
    (request : ServerRequest) → Option request.Response
  | .begin | .commit => some (.ok ())
  | .rollback => some ()
  | .query conn statement => obligeQuery isolation state task conn statement
  | .now => some state.clock
  | .newUuid => some (BitVec.ofNat 128 (state.fresh task))
  | .generateRawToken => some (padded '0' 64 (state.fresh task))
  | .generateCode => some (padded 'A' CODE_LEN (state.fresh task))
  | .generateTotpSecret => some "JBSWY3DPEHPK3PXP"
  | .generateRecoveryCodes =>
      some ("ABCDEFGHJK".toList.map fun ch => String.ofList (List.replicate 8 ch))
  | .hashPassword password => some (.ok ("argon2:" ++ password))
  | .encryptSecret plaintext => some (.ok ("nonce:" ++ plaintext))
  | .encodeJwt claims => some (.ok claims.sign)
  | .allow limiter key time => some (limiter.allow time (state.history limiter key)).1
  | .respond _ => some ()

/-- A server at a time, with these tables and nothing in progress. -/
def start (tables : Tables) (clock : Timestamp) : ServerState τ :=
  { database := { committed := tables, pending := fun _ => none }, clock,
    history := fun _ _ => [] }

end ServerState

/-- No call in progress. -/
def idleServer (tables : Tables) (clock : Timestamp) : Pool ServerSig τ (ServerState τ) :=
  { state := .start tables clock, tasks := fun _ => none }

theorem idle_idleServer {τ : Type} (tables : Tables) (clock : Timestamp) :
    Idle (idleServer (τ := τ) tables clock) :=
  ⟨fun _ => rfl, fun _ => rfl⟩

end Scripts

end Failsafe.Server
