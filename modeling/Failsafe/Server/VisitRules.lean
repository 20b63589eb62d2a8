import Failsafe.Server.Lineage
import Failsafe.Server.Visits

/-!
What a request that is served alone reads, and what it does to the tables.
-/

namespace Failsafe.Server

open Failsafe.Core Failsafe.Lib

variable {τ : Type} [DecidableEq τ] {ext : Externals} {isolation : Isolation} {task : τ}
  {state state' : ServerState τ} {log : Log}

theorem finish_inv {handler : ServerTry HttpResponse} {response : HttpResponse}
    (h : Performs ext isolation task (finish handler) state log response state') :
    (Alone ext isolation task handler state log (.ok response) state') ∨
      ∃ error, Alone ext isolation task handler state log (.error error) state' ∧
        response = error.intoResponse := by
  obtain ⟨first, rest, result, middle, rfl, hrun, hrest⟩ := Prog.Exec.bind_inv h
  cases result with
  | ok value =>
      cases hrest
      rw [List.append_nil]
      exact .inl hrun
  | error error =>
      cases hrest
      rw [List.append_nil]
      exact .inr ⟨error, hrun, rfl⟩

/-- What the statements that were made do to the tables, an execution does to the committed
ones; those of a transaction only count if one was committed. -/
theorem Passes.relates (h : Passes ext isolation task state log state')
    (hidle : state.database.pending task = none) {R : Tables → Tables → Prop}
    (hrefl : ∀ tables, R tables tables)
    (htrans : ∀ tables₁ tables₂ tables₃, R tables₁ tables₂ → R tables₂ tables₃ →
      R tables₁ tables₃)
    (hrun : ∀ conn (statement : Statement) (result : statement.Result),
      ⟨.query conn statement, .ok result⟩ ∈ log → (conn = .txn → Committed log) →
        ∀ result' tables tables', statement.run tables = .ok (result', tables') →
          R tables tables') :
    R state.database.committed state'.database.committed := by
  induction h with
  | nil => exact hrefl _
  | snoc hbefore hperform ih =>
      refine htrans _ _ _ (ih fun conn statement result hmem hcommitted => hrun conn statement
        result (List.mem_append_left _ hmem) fun htxn => List.mem_append_left _ (hcommitted htxn)) ?_
      rcases perform_committed hperform with
        hsame | ⟨statement, result, hexchange, hstatement⟩ | ⟨hcommit, entries, hpending, hreplay⟩
      · rw [hsame]
        exact hrefl _
      · exact hrun .db statement result (by simp [hexchange]) nofun _ _ _ hstatement
      · rw [hbefore.pending hidle] at hpending
        refine Schema.replay_induction hrefl htrans ?_ hreplay
        intro entry hentry tables result tables' hstatement _
        obtain ⟨before, after, rfl⟩ := pendingAfter_mem hpending hentry
        exact hrun .txn entry.statement entry.result (by simp)
          (fun _ => by simp [Committed, hcommit]) _ _ _ hstatement

theorem Passes.saw (h : Passes ext isolation task state log state')
    (hidle : state.database.pending task = none) {statement : Statement}
    {result : statement.Result} (hsaw : Saw log statement result)
    (hread : statement.isWrite = false) :
    ∃ before middle, before <+: log ∧ Passes ext isolation task state before middle ∧
      statement.run middle.database.committed = .ok (result, middle.database.committed) := by
  obtain ⟨conn, before, after, rfl, hpending⟩ := hsaw
  obtain ⟨middle, last, hbefore, hperform, -⟩ := h.split
  refine ⟨before, middle, List.prefix_append _ _, hbefore, ?_⟩
  obtain ⟨database, hquery, -⟩ := perform_query hperform
  cases conn with
  | db =>
      obtain ⟨committed, hrun, -⟩ := Database.query_db hquery
      rw [run_read hread hrun] at hrun
      exact hrun
  | txn =>
      obtain ⟨entries, view, view', hentries, hview, hrun, -⟩ := Database.query_txn hquery
      rw [hbefore.pending hidle] at hentries
      rw [run_read hread hrun, replay_reads (hpending rfl _ hentries) hview] at hrun
      exact hrun

theorem Passes.commit_replays (h : Passes ext isolation task state log state')
    (hidle : state.database.pending task = none) {before after : Log}
    (hlog : log = before ++ ⟨.commit, .ok ()⟩ :: after) :
    ∃ entries tables last, pendingAfter before = some entries ∧
      schema.replay isolation.firm entries tables = some last.database.committed ∧
      Passes ext isolation task state (before ++ [⟨.commit, .ok ()⟩]) last ∧
      Passes ext isolation task last after state' := by
  rw [hlog] at h
  obtain ⟨middle, last, hbefore, hperform, hafter⟩ := h.split
  have hcommitted := hbefore.snoc hperform
  obtain ⟨database, hcommit, rfl⟩ := perform_commit hperform
  obtain ⟨entries, committed, hpending, hreplay, rfl⟩ := Database.commit_ok hcommit
  rw [hbefore.pending hidle] at hpending
  exact ⟨entries, _, _, hpending, hreplay, hcommitted, hafter⟩

theorem perform_clock {request : ServerRequest} {response : request.Response}
    (h : perform ext isolation task request response state = some state')
    (hother : request ≠ .now) : state'.clock = state.clock := by
  cases request with
  | now => exact (hother rfl).elim
  | «begin» | rollback | newUuid | generateTotpSecret | respond =>
      obtain rfl := Option.some.inj h
      rfl
  | commit =>
      obtain ⟨database, -, rfl⟩ := perform_commit h
      rfl
  | query conn statement =>
      obtain ⟨database, -, rfl⟩ := perform_query h
      rfl
  | generateRawToken | generateCode | generateRecoveryCodes =>
      simp only [perform, Option.ite_none_right_eq_some, Option.some.injEq] at h
      rw [← h.2]
  | hashPassword | encodeJwt =>
      cases response with
      | ok value =>
          simp only [perform, Option.ite_none_right_eq_some, Option.some.injEq] at h
          rw [← h.2]
      | error error =>
          obtain rfl := Option.some.inj h
          rfl
  | encryptSecret plaintext =>
      cases response with
      | ok stored =>
          simp only [perform] at h
          split at h
          · simp only [Option.ite_none_right_eq_some, Option.some.injEq] at h
            rw [← h.2]
          · cases h
      | error error =>
          obtain rfl := Option.some.inj h
          rfl
  | allow limiter key time =>
      simp only [perform, Option.ite_none_right_eq_some, Option.some.injEq] at h
      rw [← h.2]

theorem Passes.clock (h : Passes ext isolation task state log state') :
    state.clock ≤ state'.clock ∧
      ∀ time : Timestamp, ⟨.now, time⟩ ∈ log → state.clock ≤ time ∧ time ≤ state'.clock := by
  induction h with
  | nil => exact ⟨Nat.le_refl _, by simp⟩
  | snoc hbefore hperform ih =>
      rename_i log middle last request response
      obtain ⟨hclock, htimes⟩ := ih
      by_cases hnow : request = .now
      · subst hnow
        obtain ⟨hlater, rfl⟩ := perform_now hperform
        refine ⟨hclock.trans hlater, fun time hmem => ?_⟩
        rcases List.mem_append.mp hmem with hold | hnew
        · obtain ⟨hfrom, hto⟩ := htimes time hold
          exact ⟨hfrom, hto.trans hlater⟩
        · cases List.mem_singleton.mp hnew
          exact ⟨hclock.trans hlater, Nat.le_refl _⟩
      · rw [perform_clock hperform hnow]
        refine ⟨hclock, fun time hmem => ?_⟩
        rcases List.mem_append.mp hmem with hold | hnew
        · exact htimes time hold
        · exact (hnow (congrArg Exchange.request (List.mem_singleton.mp hnew)).symm).elim

theorem Passes.tokenKept (h : Passes ext isolation task state log state')
    (hidle : state.database.pending task = none)
    (hupdate : ∀ exchange ∈ log, ∀ conn id active,
      exchange.request = .query conn (.updateRefreshToken id active) →
        ∃ time, active = revoking time) :
    TokenKept state.database.committed state'.database.committed := by
  refine h.relates hidle TokenKept.refl (fun _ _ _ => TokenKept.trans) ?_
  intro conn statement result hmem _ result' tables tables' hrun
  refine run_tokenKept hrun fun id active hstatement => ?_
  subst hstatement
  exact hupdate _ hmem conn id active rfl

section Serve

variable {request : HttpRequest} {response : HttpResponse}

theorem finish_guarded {call : Call} {guard : Log → ServerRequest → Prop}
    (hcall : (call.run ext).Ensures guard Prog.heard (fun _ _ => True) [])
    (h : Performs ext isolation task (finish (handle ext call)) state log response state')
    {before after : Log} {exchange : Exchange ServerSig} (hlog : log = before ++ exchange :: after) :
    guard before exchange.request :=
  Prog.Ensures.guarded (Prog.ensures_bind.mp hcall) h hlog

theorem serve_success
    (h : Performs ext isolation task (serve ext request) state log response state')
    (hsuccess : response.status.isSuccess = true) :
    ∃ call first second middle, log = first ++ second ∧
      Admitted ext isolation task state request call first middle ∧
      Alone ext isolation task (handle ext call) middle second (.ok response) state' := by
  rcases serve_cases h with ⟨-, -, error, -, hfailed⟩ |
    ⟨call, first, second, middle, hlog, hadmitted, hrun⟩
  · rw [hfailed] at hsuccess
    cases hsuccess
  · rcases finish_inv hrun with halone | ⟨error, -, rfl⟩
    · exact ⟨call, first, second, middle, hlog, hadmitted, halone⟩
    · have hfailed : error.intoResponse.status.isSuccess = false := error.statusCode_isSuccess
      rw [hfailed] at hsuccess
      cases hsuccess

theorem serve_updates
    (h : Performs ext isolation task (serve ext request) state log response state') :
    ∀ exchange ∈ log, ∀ conn id active,
      exchange.request = .query conn (.updateRefreshToken id active) →
        ∃ time, active = revoking time := by
  have hlooked {first : Log} (hlooks : ∀ exchange ∈ first, exchange.request.isLook = true) :
      ∀ exchange ∈ first, ∀ conn id active,
        exchange.request = .query conn (.updateRefreshToken id active) →
          ∃ time, active = revoking time := by
    intro exchange hmem conn id active hrequest
    have hlook := hlooks exchange hmem
    rw [hrequest] at hlook
    cases conn <;> cases hlook
  rcases serve_cases h with ⟨-, hlooks, -⟩ | ⟨call, first, second, middle, rfl, hadmitted, hrun⟩
  · exact hlooked hlooks
  · refine List.forall_mem_append.mpr ⟨hlooked hadmitted.passes.2, ?_⟩
    intro exchange hmem conn id active hrequest
    obtain ⟨before, after, hsplit⟩ := List.append_of_mem hmem
    have hguard := finish_guarded (tokenGuard_ensures call) hrun hsplit
    rw [hrequest] at hguard
    exact hguard

theorem serve_tokenKept
    (h : Performs ext isolation task (serve ext request) state log response state')
    (hidle : state.database.pending task = none) :
    TokenKept state.database.committed state'.database.committed :=
  Passes.tokenKept (Passes.exec .nil h) hidle (serve_updates h)

end Serve

end Failsafe.Server
