/-
This file develops processes that pass through phases and are looked at from time to time.
A phase lasts at most so long, is left at the first look after that, and has a budget of
time from its beginning to the end of the process. When every phase leaves its successor
what its own duration and the gap between two looks cost, the process ends by the deadline
that the budget of its first phase sets. Nothing here names a particular program.
-/

import SmartQso.Runs

namespace Phases

/-- A phase: when it began, how long it lasts at most, and the budget until the process ends. -/
structure Phase where
  begun : ℕ
  lasts : ℕ
  budget : ℕ
  covered : lasts ≤ budget

/-- What a look at the time `now` finds: the phase goes on while it may last, or another phase
begins within the budget. -/
inductive Phase.Next (gap now : ℕ) (phase : Phase) : Phase → Prop
  | goesOn (early : now < phase.begun + phase.lasts) : Next gap now phase phase
  | moves (next : Phase) (begins : next.begun = now)
      (afforded : phase.lasts + gap + next.budget ≤ phase.budget) : Next gap now phase next

/-- At the time of the last look the phase still lasts, and its budget ends by the deadline. -/
structure Phase.OnTime (deadline last : ℕ) (phase : Phase) : Prop where
  lasting : last ≤ phase.begun + phase.lasts
  affordable : phase.begun + phase.budget ≤ deadline

theorem Phase.OnTime.next {gap deadline last now : ℕ} {phase next : Phase}
    (onTime : phase.OnTime deadline last) (prompt : now ≤ last + gap)
    (step : phase.Next gap now next) : next.OnTime deadline now := by
  obtain ⟨lasting, affordable⟩ := onTime
  cases step with
  | goesOn early => exact ⟨Nat.le_of_lt early, affordable⟩
  | moves _ begins afforded =>
    subst begins
    exact ⟨Nat.le_add_right _ _, by omega⟩

/-- A phase that is on time has not passed the deadline. -/
theorem Phase.OnTime.le_deadline {deadline last : ℕ} {phase : Phase}
    (onTime : phase.OnTime deadline last) : last ≤ deadline := by
  have covered := phase.covered
  obtain ⟨lasting, affordable⟩ := onTime
  omega

section

variable {State Input : Type*} {step : State → Input → State} {time : Input → ℕ}
  {ended : State → Prop} {shows : State → Phase → Prop} {gap : ℕ}

/-- The time of the last look of a run. -/
def lastLook (time : Input → ℕ) (start : ℕ) (inputs : List Input) : ℕ :=
  (inputs.map time).getLastD start

/-- The looks come one after the other and never more than a gap apart. -/
def Prompt (gap : ℕ) (time : Input → ℕ) : ℕ → List Input → Prop
  | _, [] => True
  | last, input :: rest =>
    last ≤ time input ∧ time input ≤ last + gap ∧ Prompt gap time (time input) rest

instance Prompt.decidable (gap : ℕ) (time : Input → ℕ) :
    ∀ (last : ℕ) (inputs : List Input), Decidable (Prompt gap time last inputs)
  | _, [] => inferInstanceAs (Decidable True)
  | _, input :: rest =>
    have := Prompt.decidable gap time (time input) rest
    inferInstanceAs (Decidable (_ ∧ _ ∧ _))

/-- A process whose every look ends it, or finds a next phase, is over at every look after the
deadline. -/
theorem ended_of_late
    (stays : ∀ state input, ended state → ended (step state input))
    (advances : ∀ state input phase, shows state phase →
      phase.begun ≤ time input → time input ≤ phase.begun + phase.lasts + gap →
      ended (step state input) ∨
        ∃ next, phase.Next gap (time input) next ∧ shows (step state input) next)
    {start : State} {deadline last : ℕ} {inputs : List Input} (prompt : Prompt gap time last inputs)
    (initial : ended start ∨
      ∃ phase, shows start phase ∧ phase.begun ≤ last ∧ phase.OnTime deadline last)
    (late : deadline < lastLook time last inputs) :
    ended (Runs.finalState step start inputs) := by
  induction inputs generalizing start last with
  | nil =>
    rcases initial with done | ⟨phase, _, _, onTime⟩
    · exact done
    · exact absurd late (Nat.not_lt.mpr onTime.le_deadline)
  | cons input rest inductionHypothesis =>
    obtain ⟨forward, soon, later⟩ := prompt
    rw [Runs.finalState_cons]
    have goesOn : deadline < lastLook time (time input) rest := by
      unfold lastLook at late ⊢
      rwa [List.map_cons, List.getLastD_cons] at late
    refine inductionHypothesis later ?_ goesOn
    rcases initial with done | ⟨phase, shown, begun, onTime⟩
    · exact Or.inl (stays start input done)
    · have lasting := onTime.lasting
      refine (advances start input phase shown (Nat.le_trans begun forward) (by omega)).imp id ?_
      rintro ⟨next, found, visible⟩
      refine ⟨next, visible, ?_, onTime.next soon found⟩
      cases found with
      | goesOn early => exact Nat.le_trans begun forward
      | moves _ begins _ => exact Nat.le_of_eq begins

end

end Phases
