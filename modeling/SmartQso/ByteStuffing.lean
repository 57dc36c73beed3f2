/-
This file develops framing by byte stuffing: frames are separated by a delimiter, and a
delimiter or an escape inside a frame is written as an escape and a code. It names no
program; a reader that splits a stream at the delimiters and undoes the escapes gets the
frames back.
-/

import Mathlib.Data.List.Basic

namespace ByteStuffing

variable {Symbol : Type*} [DecidableEq Symbol]

/-- The symbols of a framing: neither the escape nor a code can be taken for a delimiter, and the
codes differ. -/
structure Framing (Symbol : Type*) where
  delimiter : Symbol
  escape : Symbol
  delimiterCode : Symbol
  escapeCode : Symbol
  escape_ne : escape ≠ delimiter
  delimiterCode_ne : delimiterCode ≠ delimiter
  escapeCode_ne : escapeCode ≠ delimiter
  codes_ne : escapeCode ≠ delimiterCode

namespace Framing

variable (framing : Framing Symbol)

/-- What a symbol of a frame is written as. -/
def stuffSymbol (symbol : Symbol) : List Symbol :=
  if symbol = framing.delimiter then [framing.escape, framing.delimiterCode]
  else if symbol = framing.escape then [framing.escape, framing.escapeCode]
  else [symbol]

/-- What a frame is written as between two delimiters. -/
def stuff (frame : List Symbol) : List Symbol := frame.flatMap framing.stuffSymbol

/-- Undo the escapes. An escape with an unknown code is left out, and so is one at the end. -/
def unstuff : List Symbol → List Symbol
  | [] => []
  | symbol :: rest =>
    if symbol = framing.escape then
      match rest with
      | [] => []
      | code :: rest =>
        if code = framing.delimiterCode then framing.delimiter :: unstuff rest
        else if code = framing.escapeCode then framing.escape :: unstuff rest
        else unstuff rest
    else symbol :: unstuff rest

/-- No delimiter is left in a frame that is written. -/
theorem delimiter_notMem_stuff (frame : List Symbol) :
    framing.delimiter ∉ framing.stuff frame := by
  intro member
  obtain ⟨symbol, _, written⟩ := List.mem_flatMap.mp member
  unfold stuffSymbol at written
  split_ifs at written with delimits escapes
  · simp only [List.mem_cons, List.not_mem_nil, or_false, framing.escape_ne.symm,
      framing.delimiterCode_ne.symm] at written
  · simp only [List.mem_cons, List.not_mem_nil, or_false, framing.escape_ne.symm,
      framing.escapeCode_ne.symm] at written
  · exact delimits (List.mem_singleton.mp written).symm

/-- A symbol that is no escape is read as it is. -/
theorem unstuff_cons_of_ne {symbol : Symbol} (plain : symbol ≠ framing.escape)
    (rest : List Symbol) :
    framing.unstuff (symbol :: rest) = symbol :: framing.unstuff rest := by
  cases rest <;> simp only [unstuff, if_neg plain]

/-- An escape is read together with the code behind it. -/
theorem unstuff_escape (code : Symbol) (rest : List Symbol) :
    framing.unstuff (framing.escape :: code :: rest) =
      if code = framing.delimiterCode then framing.delimiter :: framing.unstuff rest
      else if code = framing.escapeCode then framing.escape :: framing.unstuff rest
      else framing.unstuff rest := by
  rw [unstuff, if_pos rfl]

theorem unstuff_stuffSymbol (symbol : Symbol) (rest : List Symbol) :
    framing.unstuff (framing.stuffSymbol symbol ++ rest) = symbol :: framing.unstuff rest := by
  unfold stuffSymbol
  split_ifs with delimits escapes
  · rw [List.cons_append, List.cons_append, List.nil_append, unstuff_escape, if_pos rfl, delimits]
  · rw [List.cons_append, List.cons_append, List.nil_append, unstuff_escape,
      if_neg framing.codes_ne, if_pos rfl, escapes]
  · exact framing.unstuff_cons_of_ne escapes rest

/-- What is written is read back. -/
theorem unstuff_stuff (frame : List Symbol) : framing.unstuff (framing.stuff frame) = frame := by
  induction frame with
  | nil => rfl
  | cons symbol rest inductionHypothesis =>
    rw [stuff, List.flatMap_cons, unstuff_stuffSymbol]
    exact congrArg _ inductionHypothesis

/-- A frame is never written shorter than it is. -/
theorem length_le_stuff (frame : List Symbol) : frame.length ≤ (framing.stuff frame).length := by
  induction frame with
  | nil => exact Nat.le_refl 0
  | cons symbol rest inductionHypothesis =>
    have written : 1 ≤ (framing.stuffSymbol symbol).length := by
      unfold stuffSymbol
      split_ifs <;> simp
    rw [stuff, List.flatMap_cons, List.length_append, List.length_cons, Nat.add_comm]
    exact Nat.add_le_add written inductionHypothesis

end Framing

/-! ### Streams -/

section

variable {Frame : Type*} (delimiter : Symbol) (read : List Symbol → Option Frame)

/-- Split a stream at the delimiters and read the parts between them. -/
def frames (stream : List Symbol) : List Frame := (stream.splitOn delimiter).filterMap read

/-- A part that is closed by a delimiter is read on its own. -/
theorem frames_append {part : List Symbol} (plain : delimiter ∉ part) (rest : List Symbol) :
    frames delimiter read (part ++ delimiter :: rest) =
      (read part).toList ++ frames delimiter read rest := by
  unfold frames
  rw [List.splitOn_append_cons_self_of_not_mem plain, List.filterMap_cons]
  cases read part <;> rfl

/-- Delimiters in a row add nothing when there is nothing to be read between them. -/
theorem frames_replicate (nothing : read [] = none) (count : Nat) (rest : List Symbol) :
    frames delimiter read (List.replicate count delimiter ++ rest) =
      frames delimiter read rest := by
  induction count with
  | zero => rfl
  | succ count inductionHypothesis =>
    have first := frames_append delimiter read (List.not_mem_nil (a := delimiter))
      (List.replicate count delimiter ++ rest)
    rw [nothing] at first
    exact first.trans inductionHypothesis

end

end ByteStuffing
