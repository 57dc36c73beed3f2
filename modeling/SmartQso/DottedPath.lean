/-
This file is about paths that are written as one text, the components separated by a
mark that none of them contains, in a buffer that cuts what does not fit. A component is
put behind a text, and components are taken off its end by looking for the last mark.
The rules say what these two do to the path a text was written for, also when the text
was cut, and when a cut text can be that of another path. Nothing here names a
particular format.
-/

import Mathlib.Data.List.DropRight
import Mathlib.Data.List.Infix

namespace DottedPath

variable {α : Type*} {dot : α} {most : Nat}

/-! ### Texts -/

/-- Put a component behind a text. -/
def extend (dot : α) (text part : List α) : List α :=
  if text = [] then part else text ++ dot :: part

/-- What stands before the last mark. -/
def beforeLast [DecidableEq α] (dot : α) (text : List α) : Option (List α) :=
  if dot ∈ text then some (text.rdropWhile (· != dot)).dropLast else none

/-- Take off components. When there are not enough marks, nothing is left. -/
def shorten [DecidableEq α] (dot : α) : Nat → List α → List α
  | 0, text => text
  | count + 1, text =>
    match beforeLast dot text with
    | some shorter => shorten dot count shorter
    | none => []

theorem beforeLast_of_not_mem [DecidableEq α] {text : List α} (noDot : dot ∉ text) :
    beforeLast dot text = none :=
  if_neg noDot

theorem beforeLast_append [DecidableEq α] (text : List α) {part : List α} (noDot : dot ∉ part) :
    beforeLast dot (text ++ dot :: part) = some text := by
  have unmarked : ∀ other ∈ part.reverse, (other != dot) = true := fun other member =>
    bne_iff_ne.mpr fun same => noDot (same ▸ List.mem_reverse.mp member)
  have dropped : (text ++ dot :: part).rdropWhile (· != dot) = text ++ [dot] := by
    unfold List.rdropWhile
    rw [List.reverse_append, List.reverse_cons, List.append_assoc,
      List.dropWhile_append_of_pos unmarked, List.singleton_append,
      List.dropWhile_cons_of_neg (by simp)]
    simp
  rw [beforeLast, if_pos (by simp), dropped, List.dropLast_concat]

theorem length_beforeLast [DecidableEq α] {text shorter : List α}
    (found : beforeLast dot text = some shorter) : shorter.length ≤ text.length := by
  unfold beforeLast at found
  split at found
  case isTrue =>
    rw [← Option.some.inj found, List.length_dropLast]
    exact (Nat.sub_le _ _).trans (List.rdropWhile_prefix _ _).length_le
  case isFalse => cases found

theorem length_shorten [DecidableEq α] (count : Nat) (text : List α) :
    (shorten dot count text).length ≤ text.length := by
  induction count generalizing text with
  | zero => exact Nat.le_refl _
  | succ count inductionHypothesis =>
    unfold shorten
    split
    case h_1 shorter found => exact (inductionHypothesis shorter).trans (length_beforeLast found)
    case h_2 => exact Nat.zero_le _

/-! ### Paths -/

/-- A text that can be a component. -/
@[ext]
structure Component (dot : α) (most : Nat) where
  text : List α
  some : text ≠ []
  noDot : dot ∉ text
  short : text.length ≤ most

/-- The text of a path. -/
def join (path : List (Component dot most)) : List α :=
  [dot].intercalate (path.map Component.text)

theorem join_nil : join ([] : List (Component dot most)) = [] := rfl

theorem join_append {first second : List (Component dot most)} (firstSome : first ≠ [])
    (secondSome : second ≠ []) : join (first ++ second) = join first ++ dot :: join second := by
  induction first with
  | nil => exact absurd rfl firstSome
  | cons key rest inductionHypothesis =>
    unfold join at inductionHypothesis ⊢
    cases rest with
    | nil =>
      rw [List.singleton_append, List.map_cons,
        List.intercalate_cons_of_ne_nil (by simpa using secondSome)]
      simp
    | cons next more =>
      have rest := inductionHypothesis (List.cons_ne_nil next more)
      simp only [List.cons_append, List.map_cons, List.intercalate_cons_cons,
        List.append_assoc, List.nil_append] at rest ⊢
      rw [rest]

theorem join_ne_nil {path : List (Component dot most)} (some : path ≠ []) : join path ≠ [] := by
  cases path with
  | nil => exact absurd rfl some
  | cons key rest =>
    cases rest with
    | nil =>
      rw [join, List.map_singleton, List.intercalate_singleton]
      exact key.some
    | cons next more =>
      rw [join, List.map_cons, List.map_cons, List.intercalate_cons_cons]
      simp

/-- A component behind the text of a path makes the text of the longer path. -/
theorem join_concat (path : List (Component dot most)) (key : Component dot most) :
    join (path ++ [key]) = extend dot (join path) key.text := by
  have single : join [key] = key.text := List.intercalate_singleton
  by_cases empty : path = []
  · rw [empty, List.nil_append, single]
    rfl
  · rw [join_append empty (List.cons_ne_nil key []), single, extend, if_neg (join_ne_nil empty)]

/-- The length of the text of a path. -/
theorem length_join {path : List (Component dot most)} (some : path ≠ []) :
    (join path).length < path.length * (most + 1) := by
  induction path using List.reverseRecOn with
  | nil => exact absurd rfl some
  | append_singleton init last inductionHypothesis =>
    have short := last.short
    rw [join_concat, List.length_append, List.length_singleton, Nat.add_mul, Nat.one_mul]
    unfold extend
    split
    · omega
    · have initSome : init ≠ [] := by
        rintro rfl
        contradiction
      have initShort := inductionHypothesis initSome
      rw [List.length_append, List.length_cons]
      omega

/-! ### Taking off components -/

section

variable [DecidableEq α]

/-- The component at the end is the first to be taken off, even one that was cut. -/
theorem shorten_extend (path : List (Component dot most)) {part : List α} (noDot : dot ∉ part)
    (count : Nat) :
    shorten dot (count + 1) (extend dot (join path) part) =
      join (path.take (path.length - count)) := by
  induction path using List.reverseRecOn generalizing part count with
  | nil =>
    rw [extend, if_pos join_nil, shorten, beforeLast_of_not_mem noDot, List.take_nil, join_nil]
  | append_singleton init last inductionHypothesis =>
    have text : extend dot (join (init ++ [last])) part =
        join (init ++ [last]) ++ dot :: part :=
      if_neg (join_ne_nil (List.append_ne_nil_of_right_ne_nil init (List.cons_ne_nil last [])))
    rw [text, shorten, beforeLast_append _ noDot]
    dsimp only
    cases count with
    | zero =>
      rw [shorten, Nat.sub_zero, List.take_length]
    | succ count =>
      rw [join_concat, inductionHypothesis last.noDot count, List.length_append,
        List.length_singleton, Nat.add_sub_add_right, List.take_append_of_le_length (Nat.sub_le ..)]

/-- Taking components off the text of a path leaves that of the shorter path. -/
theorem shorten_join (path : List (Component dot most)) (count : Nat) :
    shorten dot count (join path) = join (path.take (path.length - count)) := by
  cases count with
  | zero => rw [shorten, Nat.sub_zero, List.take_length]
  | succ count =>
    induction path using List.reverseRecOn with
    | nil =>
      rw [join_nil, shorten, beforeLast_of_not_mem (List.not_mem_nil), List.take_nil, join_nil]
    | append_singleton init last _ =>
      rw [join_concat, shorten_extend init last.noDot, List.length_append, List.length_singleton,
        Nat.add_sub_add_right, List.take_append_of_le_length (Nat.sub_le ..)]

end

/-! ### Cut texts -/

/-- A text that was cut ends in a part of a component, and more components than that one are lost
only where the buffer is full. -/
theorem take_join {path : List (Component dot most)} (some : path ≠ []) (limit : Nat) :
    ∃ (shown : List (Component dot most)) (part : List α), shown <+: path ∧ dot ∉ part ∧
      (join path).take limit = extend dot (join shown) part ∧
        (shown.length + 1 = path.length ∨ limit < (shown.length + 1) * (most + 1)) := by
  induction path using List.reverseRecOn with
  | nil => exact absurd rfl some
  | append_singleton init last inductionHypothesis =>
    have noDot : ∀ count, dot ∉ last.text.take count := fun count member =>
      last.noDot (List.mem_of_mem_take member)
    by_cases empty : init = []
    · refine ⟨[], last.text.take limit, List.nil_prefix, noDot limit, ?_, Or.inl ?_⟩
      · rw [empty, join_concat, join_nil, extend, if_pos rfl, extend, if_pos rfl]
      · rw [empty]
        rfl
    have text : join (init ++ [last]) = join init ++ dot :: last.text := by
      rw [join_concat, extend, if_neg (join_ne_nil empty)]
    by_cases inside : limit ≤ (join init).length
    · obtain ⟨shown, part, isPrefix, partNoDot, cut, lost⟩ := inductionHypothesis empty
      refine ⟨shown, part, isPrefix.trans (List.prefix_append _ _), partNoDot, ?_, Or.inr ?_⟩
      · rw [text, List.take_append_of_le_length inside, cut]
      · obtain whole | full := lost
        · have short := length_join empty
          rw [whole]
          omega
        · exact full
    · refine ⟨init, last.text.take (limit - (join init).length - 1), List.prefix_append _ _,
        noDot _, ?_, Or.inl (by rw [List.length_append]; rfl)⟩
      rw [text, List.take_append, List.take_of_length_le (by omega), extend,
        if_neg (join_ne_nil empty)]
      obtain ⟨more, room⟩ : ∃ more, limit - (join init).length = more + 1 :=
        ⟨limit - (join init).length - 1, by omega⟩
      rw [room, List.take_succ_cons, Nat.add_sub_cancel]

/-- Taking components off a text that may have been cut leaves the whole text of a shorter path,
which has lost no more than these if the buffer has room for so many components. -/
theorem shorten_take [DecidableEq α] (path : List (Component dot most)) (limit count : Nat)
    (positive : 0 < count) :
    ∃ shown, shown <+: path ∧ shorten dot count ((join path).take limit) = join shown ∧
      ∀ room, room * (most + 1) ≤ limit + 1 → min path.length room ≤ shown.length + count := by
  obtain ⟨count, rfl⟩ := Nat.exists_eq_succ_of_ne_zero positive.ne'
  by_cases empty : path = []
  · refine ⟨[], List.nil_prefix, ?_, fun room _ => ?_⟩
    · rw [empty, join_nil, List.take_nil, shorten, beforeLast_of_not_mem List.not_mem_nil]
    · rw [empty]
      exact (Nat.min_le_left _ _).trans (Nat.zero_le _)
  obtain ⟨shown, part, isPrefix, noDot, cut, lost⟩ := take_join empty limit
  refine ⟨shown.take (shown.length - count), (List.take_prefix _ _).trans isPrefix, ?_, ?_⟩
  · rw [cut, shorten_extend shown noDot]
  · intro room fits
    rw [List.length_take]
    obtain whole | full := lost
    · omega
    · have atMost : room < shown.length + 2 := by
        by_contra more
        have larger : (shown.length + 2) * (most + 1) ≤ room * (most + 1) :=
          Nat.mul_le_mul_right _ (not_lt.mp more)
        rw [Nat.add_mul] at larger full
        omega
      omega

/-- A component behind a text that was cut makes the same text as one behind the whole, once that
is cut, too. -/
theorem take_extend_take (path : List (Component dot most)) (key : Component dot most)
    (limit : Nat) :
    (extend dot ((join path).take limit) key.text).take limit =
      (join (path ++ [key])).take limit := by
  by_cases whole : (join path).length ≤ limit
  · rw [List.take_of_length_le whole, join_concat]
  have full : limit ≤ (join path).length := (not_le.mp whole).le
  have some : join path ≠ [] := List.ne_nil_of_length_pos (Nat.zero_lt_of_lt (not_le.mp whole))
  have cut : ((join path).take limit).length = limit := List.length_take_of_le full
  rw [join_concat, extend, extend, if_neg some, List.take_append_of_le_length full]
  split
  case isTrue empty =>
    rw [empty, List.length_nil] at cut
    rw [← cut, List.take_zero, List.take_zero]
  case isFalse => rw [List.take_append_of_le_length cut.ge, List.take_take, Nat.min_self]

theorem splitOn_join [DecidableEq α] {path : List (Component dot most)} (some : path ≠ []) :
    (join path).splitOn dot = path.map Component.text := by
  refine List.splitOn_intercalate dot (fun text member => ?_) (by simpa using some)
  obtain ⟨key, _, rfl⟩ := List.mem_map.mp member
  exact key.noDot

/-- A text that was cut behind a path is that of no path which does not begin with it. -/
theorem prefix_of_take_join [DecidableEq α] {first rest other : List (Component dot most)}
    (firstSome : first ≠ []) (restSome : rest ≠ []) {limit : Nat}
    (fits : (join first).length ≤ limit) (same : (join (first ++ rest)).take limit = join other) :
    first <+: other := by
  rw [join_append firstSome restSome, List.take_append, List.take_of_length_le fits] at same
  have otherSome : other ≠ [] := by
    rintro rfl
    exact List.append_ne_nil_of_left_ne_nil (join_ne_nil firstSome) _ same
  have begins : ∃ more, other.map Component.text = first.map Component.text ++ more := by
    rw [← splitOn_join otherSome, ← same, ← splitOn_join firstSome]
    cases limit - (join first).length with
    | zero => exact ⟨[], by rw [List.take_zero, List.append_nil, List.append_nil]⟩
    | succ room =>
      rw [List.take_succ_cons, List.splitOn_append_cons_self]
      exact ⟨_, rfl⟩
  obtain ⟨more, texts⟩ := begins
  obtain ⟨init, tail, rfl, initTexts, _⟩ := List.map_eq_append_iff.mp texts
  have injective : Function.Injective (@Component.text α dot most) :=
    fun key key' equal => Component.ext equal
  rw [← List.map_injective_iff.mpr injective initTexts]
  exact List.prefix_append _ _

end DottedPath
