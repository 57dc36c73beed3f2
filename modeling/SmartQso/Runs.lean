/-
This file collects what the development needs about runs of a deterministic
transition function: the state a run ends in, a property of every state along
the run, and a condition that every step meets in the state it is taken from.
Nothing here names a particular system. The rules come in two shapes: a property
preserved by the allowed steps holds along every run of allowed steps, and a
property that a step keeps exactly under a condition holds along a run exactly
when every step of the run meets that condition.
-/

import Mathlib.Data.List.Induction
import Mathlib.Logic.Basic

namespace Runs

variable {State Input : Type*}

/-- The state in which a run over `inputs` ends. -/
def finalState (step : State → Input → State) (start : State) (inputs : List Input) : State :=
  inputs.foldl step start

/-- Every state of the run satisfies `good`, the first and the last one included. -/
def Throughout (step : State → Input → State) (good : State → Prop) : State → List Input → Prop
  | state, [] => good state
  | state, input :: rest => good state ∧ Throughout step good (step state input) rest

/-- Every step of the run satisfies `ok`, which sees the input and the state before the step. -/
def EachStep (step : State → Input → State) (ok : State → Input → Prop) :
    State → List Input → Prop
  | _, [] => True
  | state, input :: rest => ok state input ∧ EachStep step ok (step state input) rest

section

variable {step : State → Input → State} {good invariant : State → Prop}
  {ok allowed : State → Input → Prop}

theorem finalState_cons (start : State) (input : Input) (rest : List Input) :
    finalState step start (input :: rest) = finalState step (step start input) rest := rfl

theorem finalState_append (start : State) (first second : List Input) :
    finalState step start (first ++ second) =
      finalState step (finalState step start first) second :=
  List.foldl_append

/-- What every step preserves holds at the end of every run. -/
theorem finalState_of_invariant
    (preserved : ∀ state input, invariant state → invariant (step state input))
    {start : State} (initial : invariant start) (inputs : List Input) :
    invariant (finalState step start inputs) := by
  induction inputs generalizing start with
  | nil => exact initial
  | cons input rest inductionHypothesis =>
    rw [finalState_cons]
    exact inductionHypothesis (preserved start input initial)

/-- What relates two systems and is kept when both take the same input relates the ends of their
runs. -/
theorem finalState_related {Abstract : Type*} {abstractStep : Abstract → Input → Abstract}
    (related : State → Abstract → Prop)
    (preserved : ∀ state abstract input, related state abstract →
      related (step state input) (abstractStep abstract input))
    {start : State} {abstractStart : Abstract} (initial : related start abstractStart)
    (inputs : List Input) :
    related (finalState step start inputs) (finalState abstractStep abstractStart inputs) := by
  induction inputs generalizing start abstractStart with
  | nil => exact initial
  | cons input rest inductionHypothesis =>
    rw [finalState_cons, finalState_cons]
    exact inductionHypothesis (preserved start abstractStart input initial)

theorem Throughout.start {start : State} {inputs : List Input}
    (throughout : Throughout step good start inputs) : good start := by
  cases inputs with
  | nil => exact throughout
  | cons input rest => exact throughout.1

theorem Throughout.finish {start : State} {inputs : List Input}
    (throughout : Throughout step good start inputs) : good (finalState step start inputs) := by
  induction inputs generalizing start with
  | nil => exact throughout
  | cons input rest inductionHypothesis => exact inductionHypothesis throughout.2

theorem Throughout.mono (weaker : ∀ state, invariant state → good state) {start : State}
    {inputs : List Input} (throughout : Throughout step invariant start inputs) :
    Throughout step good start inputs := by
  induction inputs generalizing start with
  | nil => exact weaker start throughout
  | cons input rest inductionHypothesis =>
    exact ⟨weaker start throughout.1, inductionHypothesis throughout.2⟩

/-- What a good state implies for the steps from it holds of every step of a good run. -/
theorem Throughout.eachStep (implied : ∀ state input, good state → ok state input) {start : State}
    {inputs : List Input} (throughout : Throughout step good start inputs) :
    EachStep step ok start inputs := by
  induction inputs generalizing start with
  | nil => trivial
  | cons input rest inductionHypothesis =>
    exact ⟨implied start input throughout.1, inductionHypothesis throughout.2⟩

/-- What the allowed steps preserve holds throughout every run of allowed steps. -/
theorem throughout_of_invariant
    (preserved : ∀ state input, invariant state → allowed state input →
      invariant (step state input))
    {start : State} (initial : invariant start) {inputs : List Input}
    (steps : EachStep step allowed start inputs) :
    Throughout step invariant start inputs := by
  induction inputs generalizing start with
  | nil => exact initial
  | cons input rest inductionHypothesis =>
    exact ⟨initial, inductionHypothesis (preserved start input initial steps.1) steps.2⟩

/-- What every step preserves holds throughout every run. -/
theorem throughout_of_preserved
    (preserved : ∀ state input, invariant state → invariant (step state input))
    {start : State} (initial : invariant start) (inputs : List Input) :
    Throughout step invariant start inputs := by
  induction inputs generalizing start with
  | nil => exact initial
  | cons input rest inductionHypothesis =>
    exact ⟨initial, inductionHypothesis (preserved start input initial)⟩

theorem EachStep.and {start : State} {inputs : List Input}
    (first : EachStep step ok start inputs) (second : EachStep step allowed start inputs) :
    EachStep step (fun state input => ok state input ∧ allowed state input) start inputs := by
  induction inputs generalizing start with
  | nil => trivial
  | cons input rest inductionHypothesis =>
    exact ⟨⟨first.1, second.1⟩, inductionHypothesis first.2 second.2⟩

theorem EachStep.mono (weaker : ∀ state input, ok state input → allowed state input)
    {start : State} {inputs : List Input} (steps : EachStep step ok start inputs) :
    EachStep step allowed start inputs := by
  induction inputs generalizing start with
  | nil => trivial
  | cons input rest inductionHypothesis =>
    exact ⟨weaker start input steps.1, inductionHypothesis steps.2⟩

/-- A clock that shows the last of the times of the inputs so far does not go back when the times of
the inputs are in order. -/
theorem eachStep_of_sorted {Time : Type*} [LE Time] {clock : State → Time}
    {times : Input → List Time}
    (ticks : ∀ state input, clock (step state input) = (times input).getLastD (clock state))
    {start : State} {inputs : List Input}
    (sorted : (clock start :: inputs.flatMap times).Pairwise (· ≤ ·)) :
    EachStep step (fun state input => (clock state :: times input).Pairwise (· ≤ ·)) start
      inputs := by
  induction inputs generalizing start with
  | nil => trivial
  | cons input rest inductionHypothesis =>
    rw [List.flatMap_cons, ← List.cons_append] at sorted
    refine ⟨(List.pairwise_append.mp sorted).1, inductionHypothesis ?_⟩
    rw [ticks]
    refine sorted.sublist ?_
    cases times input using List.reverseRecOn with
    | nil => exact List.Sublist.refl _
    | append_singleton before last _ =>
      rw [List.getLastD_concat, List.cons_append, List.append_assoc]
      exact ((List.sublist_append_right before _).cons _)

/-- What holds of every input holds of every step. -/
theorem EachStep.of_forall {good : Input → Prop} {start : State} {inputs : List Input}
    (every : ∀ input ∈ inputs, good input) :
    EachStep step (fun _ input => good input) start inputs := by
  induction inputs generalizing start with
  | nil => trivial
  | cons input rest inductionHypothesis =>
    obtain ⟨first, later⟩ := List.forall_mem_cons.mp every
    exact ⟨first, inductionHypothesis later⟩

theorem EachStep.head {start : State} {input : Input} {rest : List Input}
    (steps : EachStep step ok start (input :: rest)) : ok start input := steps.1

theorem EachStep.left {start : State} {first second : List Input}
    (steps : EachStep step ok start (first ++ second)) : EachStep step ok start first := by
  induction first generalizing start with
  | nil => trivial
  | cons input rest inductionHypothesis => exact ⟨steps.1, inductionHypothesis steps.2⟩

theorem EachStep.right {start : State} {first second : List Input}
    (steps : EachStep step ok start (first ++ second)) :
    EachStep step ok (finalState step start first) second := by
  induction first generalizing start with
  | nil => exact steps
  | cons input rest inductionHypothesis => exact inductionHypothesis steps.2

/-- What an invariant implies for every step holds of every step of every run. -/
theorem eachStep_of_invariant
    (preserved : ∀ state input, invariant state → invariant (step state input))
    (implied : ∀ state input, invariant state → ok state input)
    {start : State} (initial : invariant start) (inputs : List Input) :
    EachStep step ok start inputs := by
  induction inputs generalizing start with
  | nil => trivial
  | cons input rest inductionHypothesis =>
    exact ⟨implied start input initial, inductionHypothesis (preserved start input initial)⟩

/-- What an invariant implies for the allowed steps, which keep it, holds of every step of a run of
allowed steps. -/
theorem eachStep_of_allowed
    (preserved : ∀ state input, invariant state → allowed state input →
      invariant (step state input))
    (implied : ∀ state input, invariant state → allowed state input → ok state input)
    {start : State} (initial : invariant start) {inputs : List Input}
    (steps : EachStep step allowed start inputs) : EachStep step ok start inputs := by
  induction inputs generalizing start with
  | nil => trivial
  | cons input rest inductionHypothesis =>
    exact ⟨implied start input initial steps.1,
      inductionHypothesis (preserved start input initial steps.1) steps.2⟩

/-- Two conditions that agree on the allowed steps from every state of an invariant are met by the
same runs of allowed steps. -/
theorem eachStep_iff_of_allowed {other : State → Input → Prop}
    (preserved : ∀ state input, invariant state → allowed state input → ok state input →
      invariant (step state input))
    (agree : ∀ state input, invariant state → allowed state input →
      (ok state input ↔ other state input))
    {start : State} (initial : invariant start) {inputs : List Input}
    (steps : EachStep step allowed start inputs) :
    EachStep step ok start inputs ↔ EachStep step other start inputs := by
  induction inputs generalizing start with
  | nil => exact Iff.rfl
  | cons input rest inductionHypothesis =>
    refine and_congr_right_iff.mpr ?_ |>.trans (and_congr_left' (agree start input initial steps.1))
    intro met
    exact inductionHypothesis (preserved start input initial steps.1 met) steps.2

/-- Two conditions that agree in every state of an invariant are met by the same runs. -/
theorem eachStep_iff_of_invariant
    (preserved : ∀ state input, invariant state → ok state input → invariant (step state input))
    (agree : ∀ state input, invariant state → (ok state input ↔ allowed state input))
    {start : State} (initial : invariant start) (inputs : List Input) :
    EachStep step ok start inputs ↔ EachStep step allowed start inputs :=
  eachStep_iff_of_allowed (fun state input reached _ => preserved state input reached)
    (fun state input reached _ => agree state input reached) initial
    (@EachStep.of_forall _ _ step (fun _ => True) start inputs fun _ _ => trivial)

/-- The invariant may look at what is still to come: when it implies `good`, and a step from it
leads to a good state exactly under `ok` and then keeps the invariant for the rest, a run stays
good exactly when each step meets `ok`. -/
theorem throughout_iff_eachStep_of_rest {invariant : State → List Input → Prop}
    (sound : ∀ state rest, invariant state rest → good state)
    (exact : ∀ state input rest, invariant state (input :: rest) →
      (good (step state input) ↔ ok state input))
    (preserved : ∀ state input rest, invariant state (input :: rest) → ok state input →
      invariant (step state input) rest)
    {start : State} {inputs : List Input} (initial : invariant start inputs) :
    Throughout step good start inputs ↔ EachStep step ok start inputs := by
  induction inputs generalizing start with
  | nil => exact iff_of_true (sound start [] initial) trivial
  | cons input rest inductionHypothesis =>
    constructor
    · rintro ⟨_, later⟩
      have reached : good (step start input) := later.start
      have met : ok start input := (exact start input rest initial).mp reached
      exact ⟨met, (inductionHypothesis (preserved start input rest initial met)).mp later⟩
    · rintro ⟨met, later⟩
      exact ⟨sound start (input :: rest) initial,
        (inductionHypothesis (preserved start input rest initial met)).mpr later⟩

/-- When an invariant state satisfies `good`, and a step from it leads to a good state exactly
under `ok` and then keeps the invariant, a run stays good exactly when each step meets `ok`. -/
theorem throughout_iff_eachStep
    (sound : ∀ state, invariant state → good state)
    (exact : ∀ state input, invariant state → (good (step state input) ↔ ok state input))
    (preserved : ∀ state input, invariant state → ok state input → invariant (step state input))
    {start : State} (initial : invariant start) (inputs : List Input) :
    Throughout step good start inputs ↔ EachStep step ok start inputs :=
  @throughout_iff_eachStep_of_rest _ _ step good ok (fun state _ => invariant state)
    (fun state _ => sound state) (fun state input _ => exact state input)
    (fun state input _ => preserved state input) start inputs initial

end

end Runs
