import Failsafe.Lib.Ensures

/-!
Programs whose last request says what came of them.
-/

namespace Failsafe.Lib

variable {S : Signature} {α τ ε σ : Type} {kind : S.Request → Prop}

/-- All requests so far are of a kind. -/
def Only (kind : S.Request → Prop) (log : List (Exchange S)) : Prop :=
  ∀ exchange ∈ log, kind exchange.request

theorem Prog.ensures_only {p : Prog S α} {f : α → Prog S Unit} (hp : p.All kind)
    (hf : ∀ value, ∃ request, f value = .call request fun _ => .ret ()) :
    Prog.Ensures (fun log _ => Only kind log) Prog.heard (p >>= f) (fun _ _ => True) [] := by
  refine Prog.ensures_bind.mpr (Prog.Ensures.of_all (I := Only kind) hp ?_ ?_ ?_ ?_)
  · exact fun log _ honly _ => honly
  · rintro request response log _ hkind honly rfl
    exact List.forall_mem_append.mpr ⟨honly, by simpa using hkind⟩
  · intro value log honly
    obtain ⟨request, hrequest⟩ := hf value
    rw [hrequest]
    exact ⟨honly, fun _ _ _ => trivial⟩
  · simp [Only]

theorem World.Run.ends_at [DecidableEq τ] [DecidableEq S.Request] {world : World S τ ε σ}
    {cond : σ → Label S τ ε → Prop} {pool pool' : Pool S τ σ} {labels : List (Label S τ ε)}
    (h : world.Run cond pool labels pool') (hidle : ∀ task, pool.tasks task = none)
    (hstarts : ∀ event state state' task first,
      world.event event state = some (state', some (task, first)) →
      Prog.Ensures (fun log _ => Only kind log) Prog.heard first (fun _ _ => True) [])
    {task : τ} {log after : List (Exchange S)} {exchange : Exchange S}
    (htrace : trace task labels = log ++ exchange :: after) (hlast : ¬kind exchange.request) :
    after = [] := by
  cases after with
  | nil => rfl
  | cons next after =>
      have hnext : trace task labels = (log ++ [exchange]) ++ next :: after := by simp [htrace]
      obtain ⟨earlier, _, _, _, -, hearlier, hrun, -, hstep, -⟩ := h.split_trace hnext
      obtain ⟨event, state, state', first, -, hevent, hguard⟩ := hrun.asked hidle hstep
      have honly := hguard _ _ (hstarts _ _ _ _ _ hevent)
      rw [hearlier] at honly
      exact (hlast (honly exchange (by simp))).elim

end Failsafe.Lib
