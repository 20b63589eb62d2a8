import Mathlib.Data.List.Induction
import Failsafe.Lib.Split

/-!
Runs of a machine whose steps may be impossible.
-/

namespace Failsafe.Lib

section

variable {σ ι : Type} {step : σ → ι → Option σ} {state state' : σ} {inputs before after : List ι}
  {input : ι}

/-- The state after these inputs, if each was possible in its turn. -/
def runSteps (step : σ → ι → Option σ) (state : σ) (inputs : List ι) : Option σ :=
  inputs.foldlM step state

@[simp] theorem runSteps_nil : runSteps step state [] = some state := rfl

theorem runSteps_append_iff : runSteps step state (before ++ after) = some state' ↔
    ∃ middle, runSteps step state before = some middle ∧
      runSteps step middle after = some state' := by
  rw [runSteps, List.foldlM_append]
  exact Option.bind_eq_some_iff

theorem runSteps_cons_iff : runSteps step state (input :: after) = some state' ↔
    ∃ middle, step state input = some middle ∧ runSteps step middle after = some state' := by
  rw [runSteps, List.foldlM_cons]
  exact Option.bind_eq_some_iff

theorem runSteps_snoc_iff : runSteps step state (before ++ [input]) = some state' ↔
    ∃ middle, runSteps step state before = some middle ∧ step middle input = some state' := by
  rw [runSteps_append_iff]
  simp [runSteps_cons_iff]

/-- What holds at the start and is kept by every step that is allowed holds after a run of allowed
steps. -/
theorem runSteps_inv {I : σ → Prop} {A : σ → ι → Prop}
    (hstep : ∀ state input state', I state → A state input →
      step state input = some state' → I state')
    (hstart : I state)
    (hallowed : ∀ before input after middle, inputs = before ++ input :: after →
      runSteps step state before = some middle → A middle input)
    (h : runSteps step state inputs = some state') : I state' := by
  induction inputs using List.reverseRecOn generalizing state' with
  | nil =>
      obtain rfl := Option.some.inj h
      exact hstart
  | append_singleton inputs input ih =>
      obtain ⟨middle, hbefore, hlast⟩ := runSteps_snoc_iff.mp h
      refine hstep middle input state' (ih ?_ hbefore)
        (hallowed inputs input [] middle rfl hbefore) hlast
      intro before other after reached hinputs
      exact hallowed before other (after ++ [input]) reached (by simp [hinputs])

end

end Failsafe.Lib
