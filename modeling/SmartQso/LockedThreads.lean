/-
This file develops threads that share a state and locks which a thread cannot take twice.
What a thread has left to do is a tree: it takes a lock, gives one back or makes one
access to the state, and what comes next may depend on what it has read. At each step the
scheduler picks a thread; a thread that is idle may be given a call, and a handler may be
put before what a thread has left. The rules are a discipline that every interleaving
keeps, locks that are lost for good, and an order of the locks under which nothing else
can stop all threads. Nothing here names a particular program.
-/

import SmartQso.Runs
import Mathlib.Order.BooleanAlgebra.Set
import Mathlib.Logic.Function.Iterate

namespace LockedThreads

open Function Runs

/-! ### Code -/

/-- What a thread has left to do. -/
inductive Code (State Lock : Type)
  | done
  | acquire (lock : Lock) (rest : Code State Lock)
  | release (lock : Lock) (rest : Code State Lock)
  | access (change : State → State) (rest : State → Code State Lock)

variable {State Lock Thread Call Signal : Type} {invariant : State → Prop}

/-- What code keeps to: an invariant of the state, an order of the locks, and the locks it may ask
for while it holds them. -/
structure Discipline (State Lock : Type) where
  invariant : State → Prop
  rank : Lock → ℕ
  again : Set Lock

variable {discipline : Discipline State Lock}

namespace Code

/-- A block under a lock, and what follows with the value of the block. -/
def withLock {Value : Type} (lock : Lock) (body : (Value → Code State Lock) → Code State Lock)
    (rest : Value → Code State Lock) : Code State Lock :=
  acquire lock (body fun value => release lock (rest value))

/-- The code gives back what it takes, takes locks in their order and keeps the invariant. Behind a
lock that it asks for while it holds it, nothing is reached. -/
def Disciplined (discipline : Discipline State Lock) : Code State Lock → Set Lock → Prop
  | done, held => held = ∅
  | acquire lock rest, held =>
    (lock ∈ held → lock ∈ discipline.again) ∧
      (lock ∉ held → (∀ other ∈ held, discipline.rank other < discipline.rank lock) ∧
        rest.Disciplined discipline (insert lock held))
  | release lock rest, held => lock ∈ held ∧ rest.Disciplined discipline (held \ {lock})
  | access change rest, held =>
    ∀ state, discipline.invariant state → discipline.invariant (change state) ∧
      (rest state).Disciplined discipline held

/-- Before it gives any of the lost locks back or ends, the code asks for one of them. -/
def Asks (invariant : State → Prop) (lost : Set Lock) : Code State Lock → Prop
  | done => False
  | acquire lock rest => lock ∈ lost ∨ rest.Asks invariant lost
  | release lock rest => lock ∉ lost ∧ rest.Asks invariant lost
  | access _ rest => ∀ state, invariant state → (rest state).Asks invariant lost

/-- What the code does on the only thread: nothing comes out when it asks for a lock it holds. -/
def alone [DecidableEq Lock] : Code State Lock → (Lock → Bool) → State → Option State
  | done, _, state => some state
  | acquire lock rest, held, state =>
    if held lock then none else rest.alone (update held lock true) state
  | release lock rest, held, state => rest.alone (update held lock false) state
  | access change rest, held, state => (rest state).alone held (change state)

end Code

/-! ### Threads -/

/-- Threads: the state they share, which of them holds a lock, and what each has left to do. -/
structure Threads (State Lock Thread : Type) where
  state : State
  holder : Lock → Option Thread
  code : Thread → Code State Lock

/-- The code of a call on a thread, and that of a handler with what it has interrupted. -/
structure Program (State Lock Thread Call Signal : Type) where
  callOn : Thread → Call → Code State Lock
  handlerOn : Thread → Signal → Code State Lock → Code State Lock

/-- What happens next: a thread gets a call, a signal arrives, or a thread advances. -/
inductive Event (Thread Call Signal : Type)
  | call (thread : Thread) (made : Call)
  | signal (thread : Thread) (sent : Signal)
  | advance (thread : Thread)

namespace Threads

variable [DecidableEq Lock] [DecidableEq Thread] {threads : Threads State Lock Thread}
  {thread : Thread} {lock : Lock}

/-- A thread makes its next step; it waits while another thread, or itself, holds the lock. -/
def advance (threads : Threads State Lock Thread) (thread : Thread) : Threads State Lock Thread :=
  match threads.code thread with
  | .done => threads
  | .acquire lock rest =>
    match threads.holder lock with
    | some _ => threads
    | none =>
      { threads with
        holder := update threads.holder lock (some thread)
        code := update threads.code thread rest }
  | .release lock rest =>
    { threads with
      holder := update threads.holder lock none
      code := update threads.code thread rest }
  | .access change rest =>
    { threads with
      state := change threads.state
      code := update threads.code thread (rest threads.state) }

/-- The locks of a thread. -/
def held (threads : Threads State Lock Thread) (thread : Thread) : Set Lock :=
  {lock | threads.holder lock = some thread}

/-- Every thread keeps the discipline with the locks it holds. -/
structure Disciplined (discipline : Discipline State Lock)
    (threads : Threads State Lock Thread) : Prop where
  kept : discipline.invariant threads.state
  codes : ∀ thread, (threads.code thread).Disciplined discipline (threads.held thread)

/-- The thread asks for a lock that it holds. -/
def WaitsForItself (threads : Threads State Lock Thread) (thread : Thread) (lock : Lock) : Prop :=
  threads.holder lock = some thread ∧ ∃ rest, threads.code thread = .acquire lock rest

/-- Each of the locks is held by a thread that asks for one of them before it gives it back. -/
def Lost (invariant : State → Prop) (lost : Set Lock) (threads : Threads State Lock Thread) :
    Prop :=
  ∀ lock ∈ lost, ∃ thread, threads.holder lock = some thread ∧
    (threads.code thread).Asks invariant lost

/-- The thread has something left to do and does not wait. -/
def CanAdvance (threads : Threads State Lock Thread) (thread : Thread) : Prop :=
  match threads.code thread with
  | .done => False
  | .acquire lock _ => threads.holder lock = none
  | .release _ _ => True
  | .access _ _ => True

end Threads

/-- Give a thread a call; one that is not idle gets none. -/
def Program.give [DecidableEq Thread] (program : Program State Lock Thread Call Signal)
    (threads : Threads State Lock Thread) (thread : Thread) (made : Call) :
    Threads State Lock Thread :=
  match threads.code thread with
  | .done => { threads with code := update threads.code thread (program.callOn thread made) }
  | _ => threads

/-- What an event makes of the threads. -/
def Program.event [DecidableEq Lock] [DecidableEq Thread]
    (program : Program State Lock Thread Call Signal) (threads : Threads State Lock Thread) :
    Event Thread Call Signal → Threads State Lock Thread
  | .call thread made => program.give threads thread made
  | .signal thread sent =>
    { threads with
      code := update threads.code thread (program.handlerOn thread sent (threads.code thread)) }
  | .advance thread => threads.advance thread

/-- The calls and the handlers keep the discipline. -/
structure Program.Disciplined (discipline : Discipline State Lock)
    (program : Program State Lock Thread Call Signal) : Prop where
  calls : ∀ thread made, (program.callOn thread made).Disciplined discipline ∅
  handlers : ∀ thread sent next held, next.Disciplined discipline held →
    (program.handlerOn thread sent next).Disciplined discipline held

/-- No handler lets a thread get around a lost lock. -/
def Program.HandlersAsk (invariant : State → Prop) (lost : Set Lock)
    (program : Program State Lock Thread Call Signal) : Prop :=
  ∀ thread sent next, next.Asks invariant lost →
    (program.handlerOn thread sent next).Asks invariant lost

section

variable [DecidableEq Lock] [DecidableEq Thread] {threads after : Threads State Lock Thread}
  {thread : Thread} {lock : Lock} {rest : Code State Lock}
  {program : Program State Lock Thread Call Signal}

/-! ### Blocks under a lock -/

omit [DecidableEq Lock] [DecidableEq Thread] in
/-- A block under a lock keeps the discipline when its lock comes behind those held and the block
itself does. -/
theorem Code.disciplined_withLock {Value : Type}
    {body : (Value → Code State Lock) → Code State Lock} {next : Value → Code State Lock}
    {held : Set Lock} (again : lock ∈ held → lock ∈ discipline.again)
    (above : ∀ other ∈ held, other ≠ lock → discipline.rank other < discipline.rank lock)
    (follows : ∀ value, (next value).Disciplined discipline held)
    (inside : ∀ close : Value → Code State Lock,
      (∀ value, (close value).Disciplined discipline (insert lock held)) →
        (body close).Disciplined discipline (insert lock held)) :
    (Code.withLock lock body next).Disciplined discipline held := by
  refine ⟨again, fun foreign => ?_⟩
  refine ⟨fun other member => above other member fun same => foreign (same ▸ member),
    inside _ fun value => ⟨Set.mem_insert lock held, ?_⟩⟩
  rw [Set.insert_sdiff_self_of_notMem foreign]
  exact follows value

/-! ### The discipline is kept -/

theorem Threads.held_acquired (state : State) (code : Thread → Code State Lock)
    (free : threads.holder lock = none) (other : Thread) :
    (Threads.mk state (update threads.holder lock (some thread)) code).held other =
      if other = thread then insert lock (threads.held other) else threads.held other := by
  ext asked
  unfold Threads.held
  by_cases same : asked = lock
  · subst same
    by_cases self : other = thread
    · subst self
      simp
    · simp [self, free, Ne.symm self]
  · split <;> simp [same]

theorem Threads.held_released (state : State) (code : Thread → Code State Lock)
    (mine : threads.holder lock = some thread) (other : Thread) :
    (Threads.mk state (update threads.holder lock none) code).held other =
      if other = thread then threads.held other \ {lock} else threads.held other := by
  ext asked
  unfold Threads.held
  by_cases same : asked = lock
  · subst same
    by_cases self : other = thread
    · subst self
      simp
    · simp [self, mine, Ne.symm self]
  · split <;> simp [same]

omit [DecidableEq Lock] in
/-- A move of one thread keeps the discipline when the locks of the others stay as they are. -/
theorem Threads.Disciplined.move (disciplined : threads.Disciplined discipline)
    (kept : discipline.invariant after.state) (code : after.code = update threads.code thread rest)
    (self : rest.Disciplined discipline (after.held thread))
    (others : ∀ other, other ≠ thread → after.held other = threads.held other) :
    after.Disciplined discipline := by
  refine ⟨kept, fun other => ?_⟩
  rw [code]
  by_cases same : other = thread
  · subst same
    rw [update_self]
    exact self
  · rw [update_of_ne same, others other same]
    exact disciplined.codes other

theorem Threads.Disciplined.advance (disciplined : threads.Disciplined discipline)
    (thread : Thread) : (threads.advance thread).Disciplined discipline := by
  have own := disciplined.codes thread
  unfold Threads.advance
  cases next : threads.code thread with
  | done => exact disciplined
  | acquire lock rest =>
    dsimp only
    cases free : threads.holder lock with
    | some other => exact disciplined
    | none =>
      rw [next] at own
      have unheld : lock ∉ threads.held thread := fun mine => by
        rw [Threads.held, Set.mem_ofPred_eq, free] at mine
        cases mine
      refine disciplined.move disciplined.kept rfl ?_ fun other different => ?_
      · rw [Threads.held_acquired _ _ free, if_pos rfl]
        exact (own.2 unheld).2
      · rw [Threads.held_acquired _ _ free, if_neg different]
  | release lock rest =>
    rw [next] at own
    obtain ⟨mine, later⟩ := own
    refine disciplined.move disciplined.kept rfl ?_ fun other different => ?_
    · rw [Threads.held_released _ _ mine, if_pos rfl]
      exact later
    · rw [Threads.held_released _ _ mine, if_neg different]
  | access change rest =>
    rw [next] at own
    obtain ⟨kept, later⟩ := own threads.state disciplined.kept
    exact disciplined.move kept rfl later fun other _ => rfl

omit [DecidableEq Lock] in
theorem Program.Disciplined.give (follows : program.Disciplined discipline)
    (disciplined : threads.Disciplined discipline) (thread : Thread) (made : Call) :
    (program.give threads thread made).Disciplined discipline := by
  have own := disciplined.codes thread
  unfold Program.give
  cases next : threads.code thread with
  | done =>
    rw [next] at own
    have idle : threads.held thread = ∅ := own
    refine disciplined.move disciplined.kept rfl ?_ fun other _ => rfl
    change (program.callOn thread made).Disciplined discipline (threads.held thread)
    rw [idle]
    exact follows.calls thread made
  | acquire lock rest => exact disciplined
  | release lock rest => exact disciplined
  | access change rest => exact disciplined

/-- Every event keeps the discipline of the threads. -/
theorem Program.Disciplined.event (follows : program.Disciplined discipline)
    (disciplined : threads.Disciplined discipline) (happens : Event Thread Call Signal) :
    (program.event threads happens).Disciplined discipline := by
  cases happens with
  | call thread made => exact follows.give disciplined thread made
  | signal thread sent =>
    exact disciplined.move disciplined.kept rfl
      (follows.handlers thread sent _ _ (disciplined.codes thread)) fun other _ => rfl
  | advance thread => exact disciplined.advance thread

/-- The invariant holds throughout every interleaving. -/
theorem Program.Disciplined.throughout (follows : program.Disciplined discipline)
    (disciplined : threads.Disciplined discipline) (events : List (Event Thread Call Signal)) :
    Throughout program.event (fun reached => reached.Disciplined discipline) threads
      events := by
  refine throughout_of_preserved (fun current happens reached => ?_) ?_ events
  · exact follows.event reached happens
  · exact disciplined

/-! ### Lost locks -/

omit [DecidableEq Lock] [DecidableEq Thread] in
/-- A thread that waits for itself has lost the lock. -/
theorem Threads.WaitsForItself.lost (waits : threads.WaitsForItself thread lock) :
    threads.Lost invariant {lock} := by
  obtain ⟨holds, rest, asks⟩ := waits
  rintro _ rfl
  refine ⟨thread, holds, ?_⟩
  rw [asks]
  exact Or.inl rfl

variable {lost : Set Lock}

/-- Nobody takes a lost lock, and nobody gives it back. -/
theorem Threads.Lost.holder_advance (gone : threads.Lost invariant lost)
    (disciplined : threads.Disciplined discipline) (thread : Thread) (member : lock ∈ lost) :
    (threads.advance thread).holder lock = threads.holder lock := by
  obtain ⟨keeper, holds, asks⟩ := gone lock member
  have own := disciplined.codes thread
  unfold Threads.advance
  cases next : threads.code thread with
  | done => rfl
  | acquire asked rest =>
    dsimp only
    cases free : threads.holder asked with
    | some other => rfl
    | none =>
      refine update_of_ne ?_ _ _
      rintro rfl
      cases free.symm.trans holds
  | release given rest =>
    rw [next] at own
    have mine : threads.holder given = some thread := own.1
    refine update_of_ne ?_ _ _
    rintro rfl
    obtain rfl := Option.some.inj (mine.symm.trans holds)
    rw [next] at asks
    exact asks.1 member
  | access change rest => rfl

/-- A thread that asks for a lost lock goes on asking. -/
theorem Threads.Lost.asks_advance (gone : threads.Lost invariant lost)
    (kept : invariant threads.state) (thread : Thread) {other : Thread}
    (asks : (threads.code other).Asks invariant lost) :
    ((threads.advance thread).code other).Asks invariant lost := by
  by_cases same : other = thread
  · subst same
    unfold Threads.advance
    cases next : threads.code other with
    | done =>
      rw [next] at asks
      exact asks.elim
    | acquire asked rest =>
      dsimp only
      cases free : threads.holder asked with
      | some keeper => exact asks
      | none =>
        rw [next] at asks
        change (update threads.code other rest other).Asks invariant lost
        rw [update_self]
        refine asks.resolve_left fun member => ?_
        obtain ⟨keeper, holds, _⟩ := gone asked member
        cases free.symm.trans holds
    | release given rest =>
      rw [next] at asks
      change (update threads.code other rest other).Asks invariant lost
      rw [update_self]
      exact asks.2
    | access change rest =>
      rw [next] at asks
      change (update threads.code other (rest threads.state) other).Asks invariant lost
      rw [update_self]
      exact asks threads.state kept
  · have unmoved : (threads.advance thread).code other = threads.code other := by
      unfold Threads.advance
      split
      · rfl
      · split
        · rfl
        · exact update_of_ne same _ _
      · exact update_of_ne same _ _
      · exact update_of_ne same _ _
    rw [unmoved]
    exact asks

theorem Threads.Lost.holder_event (gone : threads.Lost invariant lost)
    (disciplined : threads.Disciplined discipline) (happens : Event Thread Call Signal)
    (member : lock ∈ lost) : (program.event threads happens).holder lock = threads.holder lock := by
  cases happens with
  | call thread made =>
    change (program.give threads thread made).holder lock = _
    unfold Program.give
    split <;> rfl
  | signal thread sent => rfl
  | advance thread => exact gone.holder_advance disciplined thread member

theorem Program.HandlersAsk.asks_event (handlers : program.HandlersAsk invariant lost)
    (gone : threads.Lost invariant lost) (kept : invariant threads.state)
    (happens : Event Thread Call Signal) (asks : (threads.code thread).Asks invariant lost) :
    ((program.event threads happens).code thread).Asks invariant lost := by
  cases happens with
  | call other made =>
    change ((program.give threads other made).code thread).Asks invariant lost
    unfold Program.give
    cases next : threads.code other with
    | done =>
      have different : thread ≠ other := by
        rintro rfl
        rw [next] at asks
        exact asks
      change (update threads.code other _ thread).Asks invariant lost
      rw [update_of_ne different]
      exact asks
    | acquire lock rest => exact asks
    | release lock rest => exact asks
    | access change rest => exact asks
  | signal other sent =>
    change (update threads.code other _ thread).Asks invariant lost
    by_cases same : thread = other
    · subst same
      rw [update_self]
      exact handlers thread sent _ asks
    · rw [update_of_ne same]
      exact asks
  | advance other => exact gone.asks_advance kept other asks

/-- Once locks are lost they stay so: a thread that asks for one of them never ends. -/
theorem Program.Disciplined.lost_run (follows : program.Disciplined discipline)
    (handlers : program.HandlersAsk discipline.invariant lost)
    (disciplined : threads.Disciplined discipline)
    (gone : threads.Lost discipline.invariant lost) (events : List (Event Thread Call Signal)) :
    (finalState program.event threads events).Disciplined discipline ∧
      (finalState program.event threads events).Lost discipline.invariant lost ∧
      (∀ lock ∈ lost, (finalState program.event threads events).holder lock =
        threads.holder lock) ∧
      ∀ thread, (threads.code thread).Asks discipline.invariant lost →
        ((finalState program.event threads events).code thread).Asks discipline.invariant lost := by
  induction events generalizing threads with
  | nil => exact ⟨disciplined, gone, fun _ _ => rfl, fun _ => id⟩
  | cons happens rest inductionHypothesis =>
    have held : ∀ lock ∈ lost, (program.event threads happens).holder lock =
        threads.holder lock := fun lock member =>
      gone.holder_event disciplined happens member
    have asking : ∀ thread, (threads.code thread).Asks discipline.invariant lost →
        ((program.event threads happens).code thread).Asks discipline.invariant lost :=
      fun thread => handlers.asks_event gone disciplined.kept happens
    have still : (program.event threads happens).Lost discipline.invariant lost := by
      intro lock member
      obtain ⟨keeper, holds, asks⟩ := gone lock member
      exact ⟨keeper, (held lock member).trans holds, asking keeper asks⟩
    rw [finalState_cons]
    obtain ⟨reached, later, same, asks⟩ :=
      inductionHypothesis (follows.event disciplined happens) still
    exact ⟨reached, later, fun lock member => (same lock member).trans (held lock member),
      fun thread asked => asks thread (asking thread asked)⟩

omit [DecidableEq Lock] in
theorem Code.Asks.ne_done {code : Code State Lock} (asks : code.Asks invariant lost) :
    code ≠ .done := by
  rintro rfl
  exact asks

/-- While locks are lost, a call that asks for one of them never ends. -/
theorem Program.Disciplined.never_ends (follows : program.Disciplined discipline)
    (handlers : program.HandlersAsk discipline.invariant lost)
    (disciplined : threads.Disciplined discipline) (gone : threads.Lost discipline.invariant lost)
    (idle : threads.code thread = .done) {made : Call}
    (asks : (program.callOn thread made).Asks discipline.invariant lost)
    (later : List (Event Thread Call Signal)) :
    (finalState program.event threads (.call thread made :: later)).code thread ≠ .done := by
  obtain ⟨reached, still, _⟩ :=
    follows.lost_run handlers disciplined gone [Event.call thread made]
  have given : (program.event threads (.call thread made)).code thread =
      program.callOn thread made := by
    change (program.give threads thread made).code thread = _
    unfold Program.give
    rw [idle]
    exact update_self _ _ _
  obtain ⟨_, _, _, asking⟩ := follows.lost_run handlers reached still later
  exact (asking thread (given ▸ asks)).ne_done

/-! ### Nothing else stops all threads -/

omit [DecidableEq Lock] [DecidableEq Thread] in
theorem Threads.canAdvance_or_asks (left : threads.code thread ≠ .done) :
    threads.CanAdvance thread ∨
      ∃ lock rest keeper, threads.code thread = .acquire lock rest ∧
        threads.holder lock = some keeper := by
  unfold Threads.CanAdvance
  cases next : threads.code thread with
  | done => exact absurd next left
  | acquire lock rest =>
    cases free : threads.holder lock with
    | none => exact Or.inl free
    | some keeper => exact Or.inr ⟨lock, rest, keeper, rfl, free⟩
  | release lock rest => exact Or.inl trivial
  | access change rest => exact Or.inl trivial

omit [DecidableEq Lock] [DecidableEq Thread] in
/-- While no thread waits for itself, some thread can go on unless all have ended: a chain of
threads that wait for each other goes up in the order of the locks. -/
theorem Threads.Disciplined.goesOn {ranks : ℕ} (bounded : ∀ lock, discipline.rank lock < ranks)
    (disciplined : threads.Disciplined discipline) :
    (∀ thread, threads.code thread = .done) ∨ (∃ thread, threads.CanAdvance thread) ∨
      ∃ thread, ∃ lock ∈ discipline.again, threads.WaitsForItself thread lock := by
  by_contra stuck
  obtain ⟨unfinished, stuck⟩ := not_or.mp stuck
  obtain ⟨immobile, others⟩ := not_or.mp stuck
  obtain ⟨thread, left⟩ := not_forall.mp unfinished
  have waits : ∀ thread, threads.code thread ≠ .done → ∃ lock rest keeper,
      threads.code thread = .acquire lock rest ∧ threads.holder lock = some keeper :=
    fun thread left => (Threads.canAdvance_or_asks left).resolve_left fun can =>
      immobile ⟨thread, can⟩
  -- there is a thread that waits for a lock of any rank, one more rank for each link of the chain
  have climbs : ∀ height, ∃ thread lock rest, threads.code thread = .acquire lock rest ∧
      height ≤ discipline.rank lock := by
    intro height
    induction height with
    | zero =>
      obtain ⟨lock, rest, _, asks, _⟩ := waits thread left
      exact ⟨thread, lock, rest, asks, Nat.zero_le _⟩
    | succ height inductionHypothesis =>
      obtain ⟨waiting, lock, rest, asks, above⟩ := inductionHypothesis
      obtain ⟨_, _, keeper, same, holds⟩ :=
        waits waiting fun ended => nomatch asks.symm.trans ended
      rw [asks] at same
      cases same
      have own := disciplined.codes keeper
      have busy : threads.code keeper ≠ .done := fun ended => by
        rw [ended] at own
        have empty : threads.held keeper = ∅ := own
        exact Set.notMem_empty lock (empty ▸ holds)
      obtain ⟨next, later, _, asksNext, _⟩ := waits keeper busy
      rw [asksNext] at own
      have foreign : next ∉ threads.held keeper := fun mine =>
        others ⟨keeper, next, own.1 mine, mine, later, asksNext⟩
      have higher := (own.2 foreign).1 lock holds
      exact ⟨keeper, next, later, asksNext, Nat.succ_le_of_lt (Nat.lt_of_le_of_lt above higher)⟩
  obtain ⟨_, lock, _, _, above⟩ := climbs ranks
  exact absurd (bounded lock) (Nat.not_lt.mpr above)

/-! ### One thread alone -/

/-- Advance a thread so many times. -/
def Threads.advances (threads : Threads State Lock Thread) (thread : Thread) (count : ℕ) :
    Threads State Lock Thread :=
  (fun reached => reached.advance thread)^[count] threads

/-- The thread has ended in a state, or without one it waits for itself. -/
def Threads.EndsIn (threads : Threads State Lock Thread) (thread : Thread) : Option State → Prop
  | some finish => threads.code thread = .done ∧ threads.state = finish
  | none => ∃ lock, threads.WaitsForItself thread lock

/-- A thread that no other has taken a lock from does what its code does alone, or comes to wait
for itself. -/
theorem Threads.advances_alone {held : Lock → Bool} {state : State} {code : Code State Lock}
    (here : threads.code thread = code) (now : threads.state = state)
    (locks : ∀ lock, threads.holder lock = if held lock then some thread else none) :
    ∃ count, (threads.advances thread count).EndsIn thread (code.alone held state) := by
  induction code generalizing threads held state with
  | done => exact ⟨0, here, now⟩
  | acquire lock rest inductionHypothesis =>
    by_cases mine : held lock = true
    · refine ⟨0, ?_⟩
      rw [Code.alone, if_pos mine]
      exact ⟨lock, (locks lock).trans (if_pos mine), rest, here⟩
    · have free : threads.holder lock = none := (locks lock).trans (if_neg mine)
      have next : threads.advance thread =
          { threads with
            holder := update threads.holder lock (some thread)
            code := update threads.code thread rest } := by
        rw [Threads.advance, here]
        dsimp only
        rw [free]
      rw [Code.alone, if_neg mine]
      obtain ⟨count, ends⟩ := @inductionHypothesis (threads.advance thread)
        (update held lock true) state (by rw [next]; exact update_self _ _ _)
        (by rw [next]; exact now) (fun asked => by
          rw [next]
          by_cases same : asked = lock
          · subst same
            simp
          · simp [same, locks asked])
      exact ⟨count + 1, ends⟩
  | release lock rest inductionHypothesis =>
    have next : threads.advance thread =
        { threads with
          holder := update threads.holder lock none
          code := update threads.code thread rest } := by
      rw [Threads.advance, here]
    rw [Code.alone]
    obtain ⟨count, ends⟩ := @inductionHypothesis (threads.advance thread)
      (update held lock false) state (by rw [next]; exact update_self _ _ _)
      (by rw [next]; exact now) (fun asked => by
        rw [next]
        by_cases same : asked = lock
        · subst same
          simp
        · simp [same, locks asked])
    exact ⟨count + 1, ends⟩
  | access change rest inductionHypothesis =>
    have next : threads.advance thread =
        { threads with
          state := change threads.state
          code := update threads.code thread (rest threads.state) } := by
      rw [Threads.advance, here]
    rw [Code.alone]
    obtain ⟨count, ends⟩ := @inductionHypothesis state (threads.advance thread) held
      (change state) (by rw [next, now]; exact update_self _ _ _) (by rw [next, now])
      (fun asked => by rw [next]; exact locks asked)
    exact ⟨count + 1, ends⟩

end

end LockedThreads
