/-
This file develops calls made on one thread that share a lock the thread cannot take
twice. A call that asks for the lock while it holds it waits for ever, so a call either
returns or blocks. The rules say when the combinations of calls return, and that a
whole sequence of them returns exactly when each does in the state it is made in.
-/

import SmartQso.Runs

namespace NonReentrantLock

open Runs

variable {State Value Result Input : Type}

/-- A state with its lock. -/
structure Locked (State : Type) where
  held : Bool
  state : State

/-- The end of a call that waits for a lock of its own thread. -/
inductive Blocked
  | blocked

/-- A call: it returns a value, or it blocks and leaves the state as others then see it. -/
abbrev Call (State Value : Type) := EStateM Blocked (Locked State) Value

/-- Run a block under the lock. -/
def withLock (body : Call State Value) : Call State Value := fun start =>
  if start.held then .error .blocked start
  else
    match body { start with held := true } with
    | .ok value finish => .ok value { finish with held := false }
    | .error reason finish => .error reason finish

/-- The shared state. -/
def getState : Call State State := fun start => .ok start.state start

/-- A change of the shared state. -/
def modifyState (change : State → State) : Call State Unit := fun start =>
  .ok () { start with state := change start.state }

/-- The call returns. -/
def Returns (call : Call State Value) (start : Locked State) : Prop :=
  ∃ value finish, call start = .ok value finish

/-- The state after a call, also when it has blocked. -/
def after (call : Call State Value) (start : Locked State) : Locked State :=
  match call start with
  | .ok _ finish => finish
  | .error _ finish => finish

/-- A call that returns leaves the lock as it has found it. -/
def Balanced (call : Call State Value) : Prop :=
  ∀ start value finish, call start = .ok value finish → finish.held = start.held

/-! ### When a call returns -/

theorem returns_pure (value : Value) (start : Locked State) :
    Returns (pure value : Call State Value) start := ⟨value, start, rfl⟩

theorem returns_modifyState (change : State → State) (start : Locked State) :
    Returns (modifyState change) start := ⟨(), _, rfl⟩

/-- A block under the lock returns when the lock is free and the block returns. -/
theorem returns_withLock_iff {body : Call State Value} {start : Locked State} :
    Returns (withLock body) start ↔
      start.held = false ∧ Returns body { start with held := true } := by
  unfold Returns withLock
  cases free : start.held with
  | true =>
    refine iff_of_false ?_ (fun both => absurd both.1 (by decide))
    rintro ⟨value, finish, ends⟩
    cases ends
  | false =>
    constructor
    · rintro ⟨value, finish, ends⟩
      refine ⟨rfl, ?_⟩
      cases reached : body { start with held := true } with
      | ok inner last => exact ⟨inner, last, rfl⟩
      | error reason last =>
        rw [if_neg Bool.false_ne_true, reached] at ends
        cases ends
    · rintro ⟨_, value, finish, ends⟩
      refine ⟨value, { finish with held := false }, ?_⟩
      rw [if_neg Bool.false_ne_true, ends]

theorem bind_ok {call : Call State Value} {next : Value → Call State Result}
    {start finish : Locked State} {value : Value} (ends : call start = .ok value finish) :
    (call >>= next) start = next value finish := by
  show EStateM.bind call next start = _
  rw [EStateM.bind, ends]

/-- Two calls in a row return when the first does, and the second does behind it. -/
theorem returns_bind_iff {call : Call State Value} {next : Value → Call State Result}
    {start : Locked State} :
    Returns (call >>= next) start ↔
      ∃ value finish, call start = .ok value finish ∧ Returns (next value) finish := by
  constructor
  · rintro ⟨result, last, ends⟩
    cases reached : call start with
    | ok value finish =>
      rw [bind_ok reached] at ends
      exact ⟨value, finish, rfl, result, last, ends⟩
    | error reason finish =>
      replace ends : EStateM.bind call next start = .ok result last := ends
      rw [EStateM.bind, reached] at ends
      cases ends
  · rintro ⟨value, finish, ends, result, last, later⟩
    exact ⟨result, last, (bind_ok ends).trans later⟩

theorem returns_getState_bind_iff {next : State → Call State Result} {start : Locked State} :
    Returns (getState >>= next) start ↔ Returns (next start.state) start := Iff.rfl

theorem returns_modifyState_bind_iff {change : State → State} {next : Unit → Call State Result}
    {start : Locked State} :
    Returns (modifyState change >>= next) start ↔
      Returns (next ()) { start with state := change start.state } := Iff.rfl

/-- What follows a call plays no part when it always returns. -/
theorem returns_bind_of_returns {call : Call State Value} {next : Value → Call State Result}
    (always : ∀ value finish, Returns (next value) finish) {start : Locked State} :
    Returns (call >>= next) start ↔ Returns call start := by
  rw [returns_bind_iff]
  constructor
  · rintro ⟨value, finish, ends, _⟩
    exact ⟨value, finish, ends⟩
  · rintro ⟨value, finish, ends⟩
    exact ⟨value, finish, ends, always value finish⟩

/-! ### What a call does to the lock -/

theorem balanced_pure (value : Value) : Balanced (pure value : Call State Value) := by
  rintro start _ finish ⟨⟩
  rfl

theorem balanced_getState : Balanced (getState : Call State State) := by
  rintro start _ finish ⟨⟩
  rfl

theorem balanced_modifyState (change : State → State) : Balanced (modifyState change) := by
  rintro start _ finish ⟨⟩
  rfl

/-- A block under the lock gives it back. -/
theorem balanced_withLock (body : Call State Value) : Balanced (withLock body) := by
  intro start value finish ends
  obtain ⟨free, _, _, inside⟩ := returns_withLock_iff.mp ⟨value, finish, ends⟩
  rw [withLock, free, if_neg Bool.false_ne_true, inside] at ends
  cases ends
  exact free.symm

/-- A call that has returned leaves a free lock free. -/
theorem Balanced.after_held {call : Call State Value} (balanced : Balanced call)
    {start : Locked State} (returned : Returns call start) :
    (after call start).held = start.held := by
  obtain ⟨value, finish, ends⟩ := returned
  rw [after, ends]
  exact balanced start value finish ends

theorem Balanced.bind {call : Call State Value} {next : Value → Call State Result}
    (first : Balanced call) (second : ∀ value, Balanced (next value)) :
    Balanced (call >>= next) := by
  intro start result last ends
  obtain ⟨value, finish, reached, _⟩ := returns_bind_iff.mp ⟨result, last, ends⟩
  rw [bind_ok reached] at ends
  exact (second value finish result last ends).trans (first start value finish reached)

/-- What follows a call plays no part when it returns with the lock as the call has found it. -/
theorem Balanced.returns_bind_iff {call : Call State Value} {next : Value → Call State Result}
    (balanced : Balanced call) {start : Locked State}
    (later : ∀ value finish, finish.held = start.held → Returns (next value) finish) :
    Returns (call >>= next) start ↔ Returns call start := by
  rw [NonReentrantLock.returns_bind_iff]
  constructor
  · rintro ⟨value, finish, ends, _⟩
    exact ⟨value, finish, ends⟩
  · rintro ⟨value, finish, ends⟩
    exact ⟨value, finish, ends, later value finish (balanced start value finish ends)⟩

/-- A change under a free lock. -/
theorem withLock_modifyState (change : State → State) {start : Locked State}
    (free : start.held = false) :
    withLock (modifyState change) start = .ok () ⟨false, change start.state⟩ := by
  rw [withLock, free, if_neg Bool.false_ne_true]
  rfl

theorem returns_withLock_modifyState_bind_iff {change : State → State}
    {next : Unit → Call State Result} {start : Locked State} (free : start.held = false) :
    Returns (withLock (modifyState change) >>= next) start ↔
      Returns (next ()) ⟨false, change start.state⟩ := by
  rw [Returns, bind_ok (withLock_modifyState change free)]
  rfl

/-! ### Sequences of calls -/

/-- Make the calls one after the other. -/
def perform (call : Input → Call State Unit) : List Input → Call State Unit
  | [] => pure ()
  | input :: rest => do
    call input
    perform call rest

theorem balanced_perform {call : Input → Call State Unit}
    (balanced : ∀ input, Balanced (call input)) (inputs : List Input) :
    Balanced (perform call inputs) := by
  induction inputs with
  | nil => exact balanced_pure ()
  | cons input rest inductionHypothesis => exact (balanced input).bind fun _ => inductionHypothesis

/-- Calls that return whenever the lock is free return one after the other. -/
theorem returns_perform_of_free {call : Input → Call State Unit}
    (returned : ∀ input start, start.held = false → Returns (call input) start)
    (balanced : ∀ input, Balanced (call input)) {start : Locked State}
    (free : start.held = false) (inputs : List Input) : Returns (perform call inputs) start := by
  induction inputs generalizing start with
  | nil => exact returns_pure () start
  | cons input rest inductionHypothesis =>
    refine ((balanced input).returns_bind_iff fun value finish kept => ?_).mpr
      (returned input start free)
    exact inductionHypothesis (kept.trans free)

/-- A sequence of calls returns exactly when every call returns in the state it is made in. -/
theorem returns_perform_iff (call : Input → Call State Unit) (start : Locked State)
    (inputs : List Input) :
    Returns (perform call inputs) start ↔
      EachStep (fun reached input => after (call input) reached)
        (fun reached input => Returns (call input) reached) start inputs := by
  induction inputs generalizing start with
  | nil => exact iff_of_true (returns_pure () start) trivial
  | cons input rest inductionHypothesis =>
    rw [perform, returns_bind_iff]
    constructor
    · rintro ⟨value, finish, reached, later⟩
      refine ⟨⟨value, finish, reached⟩, ?_⟩
      have same : after (call input) start = finish := by rw [after, reached]
      show EachStep _ _ (after (call input) start) rest
      rw [same]
      exact (inductionHypothesis finish).mp later
    · rintro ⟨⟨value, finish, reached⟩, later⟩
      have same : after (call input) start = finish := by rw [after, reached]
      replace later : EachStep _ _ (after (call input) start) rest := later
      rw [same] at later
      exact ⟨value, finish, reached, (inductionHypothesis finish).mpr later⟩

/-- A loop under the lock returns exactly when every round of it does. -/
theorem returns_perform_held_iff {call : Input → Call State Unit} {ok : Input → Prop}
    (rounds : ∀ input start, start.held = true → (Returns (call input) start ↔ ok input))
    (balanced : ∀ input, Balanced (call input)) {start : Locked State} (held : start.held = true)
    (inputs : List Input) : Returns (perform call inputs) start ↔ ∀ input ∈ inputs, ok input := by
  induction inputs generalizing start with
  | nil =>
    exact iff_of_true (returns_pure () start) (fun input member => absurd member List.not_mem_nil)
  | cons input rest inductionHypothesis =>
    rw [perform, returns_bind_iff, List.forall_mem_cons, ← rounds input start held]
    constructor
    · rintro ⟨value, finish, ends, later⟩
      have stays : finish.held = true := (balanced input start value finish ends).trans held
      exact ⟨⟨value, finish, ends⟩, (inductionHypothesis stays).mp later⟩
    · rintro ⟨⟨value, finish, ends⟩, later⟩
      have stays : finish.held = true := (balanced input start value finish ends).trans held
      exact ⟨value, finish, ends, (inductionHypothesis stays).mpr later⟩

end NonReentrantLock
