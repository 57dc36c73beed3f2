/-
This file bounds how long a task waits for a processor that is given to one task a slot,
the most urgent one. A schedule is the list of the tasks its slots are given to. When
no task is given two slots less than its gap apart, a stretch of slots holds at most as
many of it as gaps begin in it, and tasks that fill a stretch on their own ask for all of
its slots. A stretch that is longer than what they can ask for has a slot for others.
-/

import Mathlib.Algebra.BigOperators.Group.Finset.Basic
import Mathlib.Algebra.Order.BigOperators.Group.Finset
import Mathlib.Algebra.Order.Floor.Div

namespace ResponseTimes

variable {Task : Type*}

/-- No two slots of the task are less than `gap` slots apart. -/
def Spaced (gap : Nat) (task : Task) (slots : List (Option Task)) : Prop :=
  ∀ before between after, slots = before ++ some task :: (between ++ some task :: after) →
    gap ≤ between.length + 1

/-- The number of slots that some tasks can ask for in a stretch. -/
def demand (gap : Task → Nat) (tasks : Finset Task) (stretch : Nat) : Nat :=
  ∑ task ∈ tasks, stretch ⌈/⌉ gap task

section

variable {gap : Nat} {task : Task} {slots : List (Option Task)}

theorem Spaced.left {first second : List (Option Task)}
    (spaced : Spaced gap task (first ++ second)) : Spaced gap task first := by
  intro before between after split
  refine spaced before between (after ++ second) ?_
  rw [split]
  simp only [List.append_assoc, List.cons_append]

theorem Spaced.right {first second : List (Option Task)}
    (spaced : Spaced gap task (first ++ second)) : Spaced gap task second := by
  intro before between after split
  refine spaced (first ++ before) between after ?_
  rw [split, List.append_assoc]

/-- A stretch no longer than the gap holds the task once at most. -/
theorem Spaced.count_le_one [DecidableEq Task] (spaced : Spaced gap task slots)
    (short : slots.length ≤ gap) : slots.count (some task) ≤ 1 := by
  by_contra twice
  have first : some task ∈ slots := List.count_pos_iff.mp (by omega)
  obtain ⟨before, rest, rfl, absent⟩ := List.eq_append_cons_of_mem first
  rw [List.count_append, List.count_cons_self, List.count_eq_zero_of_not_mem absent] at twice
  have second : some task ∈ rest := List.count_pos_iff.mp (by omega)
  obtain ⟨between, after, rfl⟩ := List.append_of_mem second
  have apart := spaced before between after rfl
  simp only [List.length_append, List.length_cons] at short
  omega

/-- A stretch of some gaps holds the task at most that often. -/
theorem Spaced.count_le_of_length_le [DecidableEq Task] (spaced : Spaced gap task slots)
    {gaps : Nat} (short : slots.length ≤ gap * gaps) : slots.count (some task) ≤ gaps := by
  induction gaps generalizing slots with
  | zero =>
    rw [List.eq_nil_of_length_eq_zero (Nat.le_zero.mp short)]
    exact le_rfl
  | succ gaps inductionHypothesis =>
    rw [← List.take_append_drop gap slots] at spaced ⊢
    rw [List.count_append, Nat.add_comm]
    refine Nat.add_le_add (inductionHypothesis spaced.right ?_) (spaced.left.count_le_one ?_)
    · rw [List.length_drop]
      rw [Nat.mul_succ] at short
      omega
    · exact List.length_take_le gap slots

theorem Spaced.count_le [DecidableEq Task] (spaced : Spaced gap task slots)
    (positive : 0 < gap) : slots.count (some task) ≤ slots.length ⌈/⌉ gap :=
  spaced.count_le_of_length_le (le_smul_ceilDiv positive)

end

section

variable {gap : Task → Nat} {tasks : Finset Task}

/-- Tasks that fill a stretch ask for all of its slots. -/
theorem length_le_demand [DecidableEq Task] {slots : List (Option Task)}
    (positive : ∀ task ∈ tasks, 0 < gap task)
    (spaced : ∀ task ∈ tasks, Spaced (gap task) task slots)
    (filled : ∀ slot ∈ slots, ∃ task ∈ tasks, slot = some task) :
    slots.length ≤ demand gap tasks slots.length := by
  have counted : ∑ entry ∈ tasks.map Function.Embedding.some,
      (slots : Multiset (Option Task)).count entry = slots.length := by
    refine Multiset.sum_count_eq_card fun slot member => ?_
    obtain ⟨task, among, rfl⟩ := filled slot member
    exact Finset.mem_map_of_mem Function.Embedding.some among
  have same : (instBEqOfDecidableEq : BEq (Option Task)) = Option.instBEq :=
    lawful_beq_subsingleton _ _
  rw [Finset.sum_map] at counted
  simp only [Function.Embedding.some_apply, Multiset.coe_count] at counted
  rw [same] at counted
  calc
    slots.length = ∑ task ∈ tasks, slots.count (some task) := counted.symm
    _ ≤ demand gap tasks slots.length :=
      Finset.sum_le_sum fun task among => (spaced task among).count_le (positive task among)

/-- A stretch in which a task only waits for others that cannot ask for all of it has a slot for the
task. -/
theorem mem_of_demand_lt [DecidableEq Task] {slots : List (Option Task)} {task : Task}
    (positive : ∀ other ∈ tasks, 0 < gap other)
    (spaced : ∀ other ∈ tasks, Spaced (gap other) other slots)
    (waits : some task ∉ slots → ∀ slot ∈ slots, ∃ other ∈ tasks, slot = some other)
    (short : demand gap tasks slots.length < slots.length) : some task ∈ slots := by
  by_contra absent
  exact (length_le_demand positive spaced (waits absent)).not_gt short

theorem demand_mono {fewer : Finset Task} (among : fewer ⊆ tasks) (stretch : Nat) :
    demand gap fewer stretch ≤ demand gap tasks stretch :=
  Finset.sum_le_sum_of_subset among

/-- Tasks with gaps of the length of the stretch ask for one slot each. -/
theorem demand_le_card {stretch : Nat} (long : ∀ task ∈ tasks, stretch ≤ gap task)
    (positive : 0 < stretch) : demand gap tasks stretch ≤ tasks.card := by
  rw [Finset.card_eq_sum_ones]
  refine Finset.sum_le_sum fun task among => ?_
  have atMost := long task among
  refine (ceilDiv_le_iff_le_smul (positive.trans_le atMost)).mpr ?_
  rwa [smul_eq_mul, Nat.mul_one]

end

end ResponseTimes
