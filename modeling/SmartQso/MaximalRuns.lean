/-
This file develops the maximal runs of a sequence: the parts between the elements that do
not have a property. It says when a reader that skips some elements, and that only knows
of a run when it has seen an element that ends it, still finds all of them. Nothing here
names a particular program.
-/

import Mathlib.Data.List.DropRight

namespace MaximalRuns

variable {Element : Type*} (inRun : Element → Bool)

/-- The maximal runs of a sequence, in their order. -/
def runs (elements : List Element) : List (List Element) :=
  (elements.splitOnP fun element => !inRun element).filter fun run => !run.isEmpty

/-- The maximal runs that are ended by an element behind them. -/
def endedRuns (elements : List Element) : List (List Element) :=
  runs inRun (elements.rdropWhile inRun)

/-- A run when it is not empty. -/
def proper (run : List Element) : List (List Element) := if run.isEmpty then [] else [run]

variable {inRun}

/-! ### Runs from the left -/

/-- Elements in a run, and what ends it. -/
theorem runs_append_cons {run : List Element} {last : Element}
    (inside : ∀ element ∈ run, inRun element = true) (ends : inRun last = false)
    (rest : List Element) :
    runs inRun (run ++ last :: rest) = proper run ++ runs inRun rest := by
  unfold runs proper
  rw [List.splitOnP_append_cons_of_forall_mem, List.filter_cons]
  · cases run.isEmpty <;> rfl
  · intro element member
    rw [inside element member, Bool.not_true]
  · rw [ends, Bool.not_false]

theorem runs_cons_of_not {first : Element} (outside : inRun first = false) (rest : List Element) :
    runs inRun (first :: rest) = runs inRun rest :=
  runs_append_cons (fun _ member => absurd member List.not_mem_nil) outside rest

/-- An element in a run extends the run behind it, or is a run of its own. -/
theorem runs_cons {first : Element} (inside : inRun first = true) (rest : List Element) :
    runs inRun (first :: rest) =
      if rest.head?.any inRun then (runs inRun rest).modifyHead (List.cons first)
      else [first] :: runs inRun rest := by
  have cut : ∀ tail, runs inRun (first :: tail) =
      ((tail.splitOnP fun element => !inRun element).modifyHead (List.cons first)).filter
        fun run => !run.isEmpty := by
    intro tail
    rw [runs, List.splitOnP_cons_eq_if_modifyHead, inside, Bool.not_true,
      if_neg Bool.false_ne_true]
  rw [cut]
  cases rest with
  | nil => rfl
  | cons next rest =>
    obtain ⟨part, parts, split⟩ := List.exists_cons_of_ne_nil
      (List.splitOnP_ne_nil (fun element => !inRun element) rest)
    unfold runs
    rw [List.splitOnP_cons_eq_if_modifyHead, split, List.head?_cons, Option.any_some]
    cases inRun next <;> rfl

/-! ### Ended runs -/

theorem rdropWhile_append_cons {last : Element} (ends : inRun last = false)
    (front rest : List Element) :
    (front ++ last :: rest).rdropWhile inRun = front ++ last :: rest.rdropWhile inRun := by
  induction rest using List.reverseRecOn with
  | nil => exact List.rdropWhile_concat_neg inRun front last (Bool.eq_false_iff.mp ends)
  | append_singleton rest element inductionHypothesis =>
    have grouped : front ++ last :: (rest ++ [element]) = front ++ last :: rest ++ [element] := by
      rw [List.append_assoc, List.cons_append]
    rw [grouped, List.rdropWhile_concat, inductionHypothesis, List.rdropWhile_concat]
    split_ifs
    · rfl
    · exact grouped.symm

theorem endedRuns_of_all {run : List Element} (inside : ∀ element ∈ run, inRun element = true) :
    endedRuns inRun run = [] := by
  rw [endedRuns, List.rdropWhile_eq_nil_iff.mpr inside]
  rfl

theorem endedRuns_append_cons {run : List Element} {last : Element}
    (inside : ∀ element ∈ run, inRun element = true) (ends : inRun last = false)
    (rest : List Element) :
    endedRuns inRun (run ++ last :: rest) = proper run ++ endedRuns inRun rest := by
  rw [endedRuns, rdropWhile_append_cons ends, runs_append_cons inside ends]
  rfl

theorem endedRuns_cons_of_not {first : Element} (outside : inRun first = false)
    (rest : List Element) : endedRuns inRun (first :: rest) = endedRuns inRun rest :=
  endedRuns_append_cons (fun _ member => absurd member List.not_mem_nil) outside rest

/-- An element in a run counts once something behind it ends the run. -/
theorem endedRuns_cons {first : Element} (inside : inRun first = true) (rest : List Element) :
    endedRuns inRun (first :: rest) =
      match rest.head? with
      | none => []
      | some next =>
        if inRun next then (endedRuns inRun rest).modifyHead (List.cons first)
        else [first] :: endedRuns inRun rest := by
  cases rest with
  | nil =>
    refine endedRuns_of_all fun element member => ?_
    rw [List.mem_singleton.mp member, inside]
  | cons next rest =>
    dsimp only [List.head?_cons]
    cases nextInside : inRun next with
    | false =>
      have alone : ∀ element ∈ [first], inRun element = true := by
        intro element member
        rw [List.mem_singleton.mp member, inside]
      rw [if_neg Bool.false_ne_true, endedRuns_cons_of_not nextInside]
      exact endedRuns_append_cons alone nextInside rest
    | true =>
      rw [if_pos rfl]
      by_cases all : ∀ element ∈ next :: rest, inRun element = true
      · rw [endedRuns_of_all all, endedRuns_of_all (List.forall_mem_cons.mpr ⟨inside, all⟩)]
        rfl
      · -- Something behind ends the run, so nothing is dropped in front of it.
        simp only [not_forall, Bool.not_eq_true] at all
        obtain ⟨last, member, ends⟩ := all
        obtain ⟨front, behind, split⟩ := List.append_of_mem member
        have starts : (front ++ last :: behind.rdropWhile inRun).head? = some next := by
          cases front with
          | nil =>
            rw [List.nil_append, List.cons.injEq] at split
            exact absurd (nextInside.symm.trans (split.1 ▸ ends)) Bool.false_ne_true.symm
          | cons head front =>
            rw [List.cons_append, List.cons.injEq] at split
            rw [split.1]
            rfl
        rw [split, endedRuns, endedRuns, ← List.cons_append, rdropWhile_append_cons ends,
          rdropWhile_append_cons ends, List.cons_append, runs_cons inside, starts, Option.any_some,
          nextInside, if_pos rfl]

/-! ### Skipped elements -/

variable (inRun) (kept : Element → Bool)

/-- What follows an element of a run: another one, or, among the elements that are kept, first one
that ends the run. -/
def Followed (rest : List Element) : Prop :=
  rest.head?.any inRun = true ∨ (rest.find? kept).any (fun next => !inRun next) = true

/-- Every run is ended, and by an element that is kept, before the next one starts. -/
def Resolved (elements : List Element) : Prop :=
  ∀ front first rest, elements = front ++ first :: rest → inRun first = true →
    Followed inRun kept rest

variable {inRun kept}

theorem resolved_nil : Resolved inRun kept [] :=
  fun _ _ _ split => absurd split.symm (List.append_ne_nil_of_right_ne_nil _ (List.cons_ne_nil _ _))

theorem resolved_cons {first : Element} {rest : List Element} :
    Resolved inRun kept (first :: rest) ↔
      (inRun first = true → Followed inRun kept rest) ∧ Resolved inRun kept rest := by
  constructor
  · intro resolved
    refine ⟨resolved [] first rest rfl, fun front next behind split => ?_⟩
    exact resolved (first :: front) next behind (congrArg (List.cons first) split)
  · rintro ⟨followed, resolved⟩ front next behind split
    cases front with
    | nil =>
      obtain ⟨rfl, rfl⟩ := List.cons.inj split
      exact followed
    | cons head front =>
      obtain ⟨rfl, same⟩ := List.cons.inj split
      exact resolved front next behind same

theorem not_followed {rest : List Element} (apart : rest.head?.any inRun = false)
    (unended : (rest.find? kept).any (fun next => !inRun next) = false) :
    ¬ Followed inRun kept rest := by
  rintro (adjacent | ended)
  · exact Bool.false_ne_true (apart.symm.trans adjacent)
  · exact Bool.false_ne_true (unended.symm.trans ended)

variable (inRun kept) in
/-- A reader of the kept elements that reports ended runs never finds more runs than there are, and
it finds exactly the maximal ones when all of them are resolved. -/
structure FindsRuns (elements : List Element) : Prop where
  fewer : (endedRuns inRun (elements.filter kept)).length ≤ (runs inRun elements).length
  resolves : (endedRuns inRun (elements.filter kept)).length = (runs inRun elements).length →
    Resolved inRun kept elements
  agree : Resolved inRun kept elements →
    endedRuns inRun (elements.filter kept) = runs inRun elements

section

variable {first : Element} {rest : List Element} (finds : FindsRuns inRun kept rest)

include finds

/-- An element outside all runs changes nothing, whether it is kept or not. -/
theorem FindsRuns.cons_of_not (outside : inRun first = false) :
    FindsRuns inRun kept (first :: rest) := by
  have skipped : endedRuns inRun ((first :: rest).filter kept) =
      endedRuns inRun (rest.filter kept) := by
    rw [List.filter_cons]
    split_ifs
    · exact endedRuns_cons_of_not outside _
    · rfl
  have resolved : Resolved inRun kept (first :: rest) ↔ Resolved inRun kept rest := by
    rw [resolved_cons, outside]
    exact and_iff_right fun inside => absurd inside Bool.false_ne_true
  constructor
  · rw [skipped, runs_cons_of_not outside]
    exact finds.fewer
  · rw [skipped, runs_cons_of_not outside, resolved]
    exact finds.resolves
  · rw [skipped, runs_cons_of_not outside, resolved]
    exact finds.agree

/-- An element in front of a run makes it longer, also for the reader. -/
theorem FindsRuns.cons_of_head (covers : ∀ element, inRun element = true → kept element = true)
    (inside : inRun first = true) (adjacent : rest.head?.any inRun = true) :
    FindsRuns inRun kept (first :: rest) := by
  obtain ⟨next, nextInside, found⟩ : ∃ next, inRun next = true ∧ rest.find? kept = some next := by
    cases rest with
    | nil => exact absurd adjacent Bool.false_ne_true
    | cons next rest => exact ⟨next, adjacent, List.find?_cons_of_pos (covers next adjacent)⟩
  have reported : endedRuns inRun ((first :: rest).filter kept) =
      (endedRuns inRun (rest.filter kept)).modifyHead (List.cons first) := by
    rw [List.filter_cons_of_pos (covers first inside), endedRuns_cons inside, List.head?_filter,
      found]
    exact if_pos nextInside
  have longer : runs inRun (first :: rest) =
      (runs inRun rest).modifyHead (List.cons first) := by
    rw [runs_cons inside, if_pos adjacent]
  have resolved : Resolved inRun kept (first :: rest) ↔ Resolved inRun kept rest := by
    rw [resolved_cons]
    exact and_iff_right fun _ => Or.inl adjacent
  constructor
  · rw [reported, longer, List.length_modifyHead, List.length_modifyHead]
    exact finds.fewer
  · rw [reported, longer, List.length_modifyHead, List.length_modifyHead, resolved]
    exact finds.resolves
  · rw [reported, longer, resolved]
    exact fun agrees => congrArg _ (finds.agree agrees)

/-- A run of one element is found when the next element that is kept ends it. -/
theorem FindsRuns.cons_of_apart (covers : ∀ element, inRun element = true → kept element = true)
    (inside : inRun first = true) (apart : rest.head?.any inRun = false) :
    FindsRuns inRun kept (first :: rest) := by
  have single : runs inRun (first :: rest) = [first] :: runs inRun rest := by
    rw [runs_cons inside, apart, if_neg Bool.false_ne_true]
  -- The reader counts it unless the next element it sees is in a run, or there is none.
  have reported : (endedRuns inRun ((first :: rest).filter kept) = [first] ::
        endedRuns inRun (rest.filter kept) ∧ Followed inRun kept rest) ∨
      (endedRuns inRun ((first :: rest).filter kept)).length ≤
          (endedRuns inRun (rest.filter kept)).length ∧ ¬ Followed inRun kept rest := by
    rw [List.filter_cons_of_pos (covers first inside), endedRuns_cons inside, List.head?_filter]
    cases found : rest.find? kept with
    | none => exact Or.inr ⟨Nat.zero_le _, not_followed apart (by rw [found]; rfl)⟩
    | some next =>
      cases nextInside : inRun next with
      | true =>
        refine Or.inr ⟨?_, not_followed apart (by rw [found, Option.any_some, nextInside]; rfl)⟩
        simp only [nextInside, if_true, List.length_modifyHead, le_refl]
      | false =>
        refine Or.inl ⟨?_, Or.inr (by rw [found, Option.any_some, nextInside]; rfl)⟩
        simp only [nextInside, Bool.false_eq_true, if_false]
  rcases reported with ⟨counted, followed⟩ | ⟨missed, lost⟩
  · have resolved : Resolved inRun kept (first :: rest) ↔ Resolved inRun kept rest := by
      rw [resolved_cons]
      exact and_iff_right fun _ => followed
    constructor
    · rw [counted, single]
      exact Nat.succ_le_succ finds.fewer
    · rw [counted, single, resolved]
      exact fun same => finds.resolves (Nat.succ.inj same)
    · rw [counted, single, resolved]
      exact fun agrees => congrArg _ (finds.agree agrees)
  · have fewer : (endedRuns inRun ((first :: rest).filter kept)).length <
        (runs inRun (first :: rest)).length := by
      rw [single, List.length_cons]
      exact Nat.lt_succ_of_le (missed.trans finds.fewer)
    exact ⟨Nat.le_of_lt fewer, fun same => absurd same (Nat.ne_of_lt fewer),
      fun resolved => absurd ((resolved_cons.mp resolved).1 inside) lost⟩

end

/-- The reader finds the runs of any sequence, as far as they are resolved. -/
theorem findsRuns (covers : ∀ element, inRun element = true → kept element = true)
    (elements : List Element) : FindsRuns inRun kept elements := by
  induction elements with
  | nil => exact ⟨Nat.le_refl 0, fun _ => resolved_nil, fun _ => rfl⟩
  | cons first rest inductionHypothesis =>
    cases inside : inRun first with
    | false => exact inductionHypothesis.cons_of_not inside
    | true =>
      cases adjacent : rest.head?.any inRun with
      | true => exact inductionHypothesis.cons_of_head covers inside adjacent
      | false => exact inductionHypothesis.cons_of_apart covers inside adjacent

/-- Without skipped elements every run is resolved unless the sequence ends in one. -/
theorem resolved_all_iff (elements : List Element) :
    Resolved inRun (fun _ => true) elements ↔
      ∀ last, elements.getLast? = some last → inRun last = false := by
  have followed : ∀ rest, Followed inRun (fun _ => true) rest ↔ rest ≠ [] := by
    intro rest
    cases rest with
    | nil => simp [Followed]
    | cons next rest => cases inside : inRun next <;> simp [Followed, inside]
  constructor
  · intro resolved last ends
    obtain ⟨front, rfl⟩ := List.getLast?_eq_some_iff.mp ends
    by_contra inside
    exact (followed []).mp (resolved front last [] rfl (Bool.not_eq_false _ ▸ inside)) rfl
  · intro ended front first rest split inside
    refine (followed rest).mpr ?_
    rintro rfl
    have last := ended first (by rw [split, List.getLast?_concat])
    exact Bool.false_ne_true (last.symm.trans inside)

end MaximalRuns
