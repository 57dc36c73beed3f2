/-
This file develops actions that a program paces by a mark: it acts when a period has
passed since the mark, and moves the mark to the time of the action. The times at which a
run acts are then a period apart. Nothing here names a particular program, and any step
may pass without acting.
-/

import SmartQso.Runs

namespace Pacing

variable {State Input : Type*} {step : State → Input → State} {due : State → Input → Option ℕ}
  {mark : State → ℕ} {period : ℕ}

/-- The times at which a run acts; `due` gives the time at which a step does. -/
def actions (step : State → Input → State) (due : State → Input → Option ℕ) :
    State → List Input → List ℕ
  | _, [] => []
  | state, input :: rest => (due state input).toList ++ actions step due (step state input) rest

/-- A run with more to its state acts when the run of what it is about does. -/
theorem actions_related {Wide : Type*} {wideStep : Wide → Input → Wide}
    (step : State → Input → State) (project : Wide → State) (due : State → Input → Option ℕ)
    (steps : ∀ wide input, project (wideStep wide input) = step (project wide) input)
    (start : Wide) (inputs : List Input) :
    actions wideStep (fun wide => due (project wide)) start inputs =
      actions step due (project start) inputs := by
  induction inputs generalizing start with
  | nil => rfl
  | cons input rest inductionHypothesis =>
    rw [actions, actions, inductionHypothesis, steps]

/-- A step that acts does so when the period has passed since the mark, and moves the mark there or
further. No step moves the mark back. -/
def Paced (step : State → Input → State) (due : State → Input → Option ℕ) (mark : State → ℕ)
    (period : ℕ) (state : State) (input : Input) : Prop :=
  mark state ≤ mark (step state input) ∧
    ∀ time, due state input = some time →
      mark state + period ≤ time ∧ time ≤ mark (step state input)

/-- A mark that moves to the times of the actions, and only there, paces them when each of them
comes after the period. -/
theorem Paced.of_getD {state : State} {input : Input}
    (moved : mark (step state input) = (due state input).getD (mark state))
    (passed : ∀ time, due state input = some time → mark state + period ≤ time) :
    Paced step due mark period state input := by
  unfold Paced
  rw [moved]
  cases here : due state input with
  | none => exact ⟨Nat.le_refl _, fun _ impossible => nomatch impossible⟩
  | some time =>
    have after := passed time here
    refine ⟨Nat.le_trans (Nat.le_add_right _ _) after, ?_⟩
    rintro _ ⟨⟩
    exact ⟨after, Nat.le_refl _⟩

/-- Paced actions are a period apart, and the first one is a period after the mark. -/
theorem pairwise_actions {start : State} {inputs : List Input}
    (paced : Runs.EachStep step (Paced step due mark period) start inputs) :
    (mark start :: actions step due start inputs).Pairwise
      fun earlier later => earlier + period ≤ later := by
  induction inputs generalizing start with
  | nil => exact List.pairwise_singleton _ _
  | cons input rest inductionHypothesis =>
    obtain ⟨⟨forward, acts⟩, later⟩ := paced
    obtain ⟨after, tail⟩ := List.pairwise_cons.mp (inductionHypothesis later)
    rw [actions]
    cases here : due start input with
    | none =>
      refine List.pairwise_cons.mpr ⟨fun other among => ?_, tail⟩
      exact Nat.le_trans (Nat.add_le_add_right forward period) (after other among)
    | some time =>
      obtain ⟨passed, moved⟩ := acts time here
      refine List.pairwise_cons.mpr ⟨fun other member => ?_,
        List.pairwise_cons.mpr ⟨fun other among => ?_, tail⟩⟩
      · rcases List.mem_cons.mp member with rfl | among
        · exact passed
        · exact Nat.le_trans (Nat.add_le_add_right forward period) (after other among)
      · exact Nat.le_trans (Nat.add_le_add_right moved period) (after other among)

end Pacing
