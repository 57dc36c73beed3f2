/-
This file defines search patterns of the simple kind: a row of pieces, each of which
takes one symbol of a class, an optional one, or as many as there are, with one group
in it. As in a backtracking matcher a piece first takes as much as it can and gives back
symbols when the rest of the pattern fails, and a search reports the leftmost match.
-/

import Mathlib.Data.List.Infix

namespace TextPattern

variable {Symbol : Type*}

/-! ### Pieces -/

/-- A part of a pattern. -/
inductive Piece (Symbol : Type*)
  | one (accepts : Symbol → Bool)
  | optional (accepts : Symbol → Bool)
  | many (accepts : Symbol → Bool)

/-- Take one symbol. -/
def takeOne (accepts : Symbol → Bool) : List Symbol → List (List Symbol × List Symbol)
  | [] => []
  | symbol :: rest => if accepts symbol then [([symbol], rest)] else []

/-- Take as many symbols as possible, or fewer. -/
def takeMany (accepts : Symbol → Bool) : List Symbol → List (List Symbol × List Symbol)
  | [] => [([], [])]
  | symbol :: rest =>
    if accepts symbol then
      (takeMany accepts rest).map (fun split => (symbol :: split.1, split.2)) ++
        [([], symbol :: rest)]
    else [([], symbol :: rest)]

/-- The ways a piece splits a text into what it takes and what it leaves, in the order they are
tried. -/
def Piece.splits : Piece Symbol → List Symbol → List (List Symbol × List Symbol)
  | .one accepts, text => takeOne accepts text
  | .optional accepts, text => takeOne accepts text ++ [([], text)]
  | .many accepts, text => takeMany accepts text

/-- The ways a row of pieces splits a text. -/
def splits : List (Piece Symbol) → List Symbol → List (List Symbol × List Symbol)
  | [], text => [([], text)]
  | piece :: pieces, text =>
    (piece.splits text).flatMap fun first =>
      (splits pieces first.2).map fun others => (first.1 ++ others.1, others.2)

/-- The pieces that take exactly the given symbols. -/
def literal [DecidableEq Symbol] (symbols : List Symbol) : List (Piece Symbol) :=
  symbols.map fun expected => .one fun symbol => decide (symbol = expected)

/-! ### Patterns -/

/-- A pattern with a group. -/
structure Pattern (Symbol : Type*) where
  before : List (Piece Symbol)
  group : List (Piece Symbol)
  after : List (Piece Symbol)

/-- What the group takes when the pattern matches at the start of a text. -/
def Pattern.matchAt (pattern : Pattern Symbol) (text : List Symbol) : Option (List Symbol) :=
  ((splits pattern.before text).flatMap fun before =>
    (splits pattern.group before.2).flatMap fun group =>
      (splits pattern.after group.2).map fun _ => group.1).head?

/-- What the group takes at the leftmost match. -/
def Pattern.search (pattern : Pattern Symbol) (text : List Symbol) : Option (List Symbol) :=
  text.tails.findSome? pattern.matchAt

section

variable [DecidableEq Symbol]

/-- Where the pieces of a word come first, a text is split only if it starts with the word. -/
theorem splits_literal_eq_nil {word : List Symbol} (pieces : List (Piece Symbol))
    {text : List Symbol} (absent : ¬ word <+: text) :
    splits (literal word ++ pieces) text = [] := by
  induction word generalizing text with
  | nil => exact absurd List.nil_prefix absent
  | cons expected word inductionHypothesis =>
    cases text with
    | nil => rfl
    | cons symbol rest =>
      show (takeOne (fun symbol => decide (symbol = expected)) (symbol :: rest)).flatMap _ = []
      by_cases same : symbol = expected
      · have later : ¬ word <+: rest := fun starts =>
          absent (List.cons_prefix_cons.mpr ⟨same.symm, starts⟩)
        rw [takeOne, if_pos (decide_eq_true same), List.flatMap_singleton]
        show (splits (literal word ++ pieces) rest).map _ = []
        rw [inductionHypothesis later, List.map_nil]
      · rw [takeOne, if_neg (by rw [decide_eq_true_iff]; exact same), List.flatMap_nil]

/-- A pattern that starts with a word is not found in a text without the word. -/
theorem Pattern.search_eq_none {pattern : Pattern Symbol} {word : List Symbol}
    {pieces : List (Piece Symbol)} (starts : pattern.before = literal word ++ pieces)
    {text : List Symbol} (absent : ¬ word <:+: text) : pattern.search text = none := by
  refine List.findSome?_eq_none_iff.mpr fun tail member => ?_
  have here : ¬ word <+: tail := fun front =>
    absent (front.isInfix.trans ((List.mem_tails _ _).mp member).isInfix)
  unfold Pattern.matchAt
  rw [starts, splits_literal_eq_nil pieces here]
  rfl

end

/-! ### Words of two symbols -/

/-- A word of two symbols in a text of two parts lies in one of them or across their border. -/
theorem pair_infix_append {first second : Symbol} {front back : List Symbol}
    (inside : [first, second] <:+: front ++ back) :
    [first, second] <:+: front ∨ [first, second] <:+: back ∨
      front.getLast? = some first ∧ back.head? = some second := by
  induction front with
  | nil => exact Or.inr (Or.inl inside)
  | cons symbol rest inductionHypothesis =>
    rcases List.infix_cons_iff.mp inside with starts | later
    · obtain ⟨rfl, behind⟩ := List.cons_prefix_cons.mp starts
      cases rest with
      | nil =>
        obtain ⟨tail, rfl⟩ := behind
        exact Or.inr (Or.inr ⟨rfl, rfl⟩)
      | cons next rest =>
        obtain ⟨rfl, _⟩ := List.cons_prefix_cons.mp behind
        exact Or.inl ⟨[], rest, rfl⟩
    · rcases inductionHypothesis later with inRest | inBack | ⟨last, head⟩
      · exact Or.inl (inRest.trans (List.suffix_cons symbol rest).isInfix)
      · exact Or.inr (Or.inl inBack)
      · refine Or.inr (Or.inr ⟨?_, head⟩)
        rw [List.getLast?_cons, last]
        rfl

end TextPattern
