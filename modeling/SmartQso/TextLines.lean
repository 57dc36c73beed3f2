/-
This file collects what line parsers written in C do with text: trim the white space
around a text, and read a text line by line into a buffer of fixed size. A text is a
list of characters. The rules say what trimming leaves of a text with white space around
it, and which pieces a reader gets of lines that fit its buffer. Nothing here names a
particular format.
-/

import Mathlib.Data.List.DropRight

namespace TextLines

/-! ### White space -/

/-- A space or a tabulator. -/
def isBlank (char : Char) : Bool := char == ' ' || char == '\t'

/-- A blank or the end of a line. -/
def isSpace (char : Char) : Bool := char == '\n' || char == '\r' || isBlank char

/-- Remove the white space at the end of a text and the blanks at its begin. -/
def trim (text : List Char) : List Char := (text.rdropWhile isSpace).dropWhile isBlank

/-- A text does not begin with a blank and does not end with white space. -/
structure Trimmed (text : List Char) : Prop where
  first : ∀ char ∈ text.head?, isBlank char = false
  last : ∀ char ∈ text.getLast?, isSpace char = false

theorem isSpace_of_isBlank {char : Char} (blank : isBlank char = true) : isSpace char = true := by
  rw [isSpace, blank, Bool.or_true]

theorem Trimmed.nil : Trimmed [] := by
  constructor
  · intro char absent
    cases absent
  · intro char absent
    cases absent

theorem Trimmed.of_noSpace {text : List Char} (noSpace : text.any isSpace = false) :
    Trimmed text where
  first char head := by
    have space := List.any_eq_false.mp noSpace char (List.mem_of_mem_head? head)
    rw [isSpace, Bool.not_eq_true, Bool.or_eq_false_iff] at space
    exact space.2
  last char final :=
    eq_false_of_ne_true (List.any_eq_false.mp noSpace char (List.mem_of_mem_getLast? final))

/-- A text between two trimmed texts that are not empty does not matter. -/
theorem Trimmed.append {first last : List Char} (begins : Trimmed first) (ends : Trimmed last)
    (firstSome : first ≠ []) (lastSome : last ≠ []) (middle : List Char) :
    Trimmed (first ++ middle ++ last) := by
  constructor
  · rw [List.append_assoc, List.head?_append_of_ne_nil _ firstSome]
    exact begins.first
  · rw [List.getLast?_append_of_ne_nil _ lastSome]
    exact ends.last

theorem dropWhile_blanks {before text : List Char} (blanks : before.all isBlank = true)
    (first : ∀ char ∈ text.head?, isBlank char = false) :
    (before ++ text).dropWhile isBlank = text := by
  rw [List.dropWhile_append_of_pos (List.all_eq_true.mp blanks)]
  cases text with
  | nil => rfl
  | cons char rest => rw [List.dropWhile_cons_of_neg (ne_true_of_eq_false (first char rfl))]

theorem rdropWhile_spaces {text after : List Char} (spaces : after.all isSpace = true)
    (last : ∀ char ∈ text.getLast?, isSpace char = false) :
    (text ++ after).rdropWhile isSpace = text := by
  have reversed : ∀ char ∈ after.reverse, isSpace char = true := fun char member =>
    List.all_eq_true.mp spaces char (List.mem_reverse.mp member)
  unfold List.rdropWhile
  rw [List.reverse_append, List.dropWhile_append_of_pos reversed]
  cases ends : text.reverse with
  | nil =>
    rw [List.reverse_eq_nil_iff.mp ends]
    rfl
  | cons char rest =>
    have final : char ∈ text.getLast? := by
      rw [List.getLast?_eq_head?_reverse, ends]
      rfl
    rw [List.dropWhile_cons_of_neg (ne_true_of_eq_false (last char final)), ← ends,
      List.reverse_reverse]

/-- Trimming removes the white space around a trimmed text. -/
theorem trim_pad {text before after : List Char} (trimmed : Trimmed text)
    (blanks : before.all isBlank = true) (spaces : after.all isSpace = true) :
    trim (before ++ text ++ after) = text := by
  unfold trim
  cases text with
  | nil =>
    have allSpace : ∀ char ∈ before ++ [] ++ after, isSpace char = true := by
      intro char member
      rw [List.append_nil, List.mem_append] at member
      obtain inside | inside := member
      · exact isSpace_of_isBlank (List.all_eq_true.mp blanks char inside)
      · exact List.all_eq_true.mp spaces char inside
    rw [List.rdropWhile_eq_nil_iff.mpr allSpace]
    rfl
  | cons char rest =>
    have last : ∀ final ∈ (before ++ char :: rest).getLast?, isSpace final = false := by
      rw [List.getLast?_append_of_ne_nil _ (List.cons_ne_nil char rest)]
      exact trimmed.last
    rw [rdropWhile_spaces spaces last]
    exact dropWhile_blanks blanks trimmed.first

theorem trim_of_trimmed {text : List Char} (trimmed : Trimmed text) : trim text = text := by
  have padded := @trim_pad text [] [] trimmed rfl rfl
  rwa [List.nil_append, List.append_nil] at padded

/-! ### Marks -/

/-- What stands before the first mark. -/
theorem takeWhile_ne_append {mark : Char} {text : List Char} (absent : mark ∉ text)
    (rest : List Char) : (text ++ mark :: rest).takeWhile (· != mark) = text := by
  have before : ∀ char ∈ text, (char != mark) = true := fun char member =>
    bne_iff_ne.mpr fun same => absent (same ▸ member)
  rw [List.takeWhile_append_of_pos before, List.takeWhile_cons_of_neg (by simp), List.append_nil]

/-- The first mark and what stands behind it. -/
theorem dropWhile_ne_append {mark : Char} {text : List Char} (absent : mark ∉ text)
    (rest : List Char) : (text ++ mark :: rest).dropWhile (· != mark) = mark :: rest := by
  have before : ∀ char ∈ text, (char != mark) = true := fun char member =>
    bne_iff_ne.mpr fun same => absent (same ▸ member)
  rw [List.dropWhile_append_of_pos before, List.dropWhile_cons_of_neg (by simp)]

/-- A text without the mark is what stands before it. -/
theorem takeWhile_ne_self {mark : Char} {text : List Char} (absent : mark ∉ text) :
    text.takeWhile (· != mark) = text :=
  List.takeWhile_eq_self_iff.mpr fun _ member =>
    bne_iff_ne.mpr fun same => absent (same ▸ member)

/-! ### Lines -/

/-- A text of lines, each with its end. -/
def unlines (lines : List (List Char)) : List Char := lines.flatMap fun line => line ++ ['\n']

/-- Between the ends of the lines stand the lines, and nothing after the last. -/
theorem splitOnP_unlines {isEnd : Char → Bool} (newline : isEnd '\n' = true)
    {lines : List (List Char)} (oneLine : ∀ line ∈ lines, ∀ char ∈ line, isEnd char = false) :
    (unlines lines).splitOnP isEnd = lines ++ [[]] := by
  induction lines with
  | nil => exact List.splitOnP_nil
  | cons line rest inductionHypothesis =>
    have split : unlines (line :: rest) = line ++ '\n' :: unlines rest := by
      simp [unlines]
    rw [split,
      List.splitOnP_append_cons_of_forall_mem (oneLine line List.mem_cons_self) '\n' newline,
      inductionHypothesis fun other member => oneLine other (List.mem_cons_of_mem _ member)]
    rfl

/-- The ends of lines are not part of the lines. -/
theorem oneLine_of_mem_splitOnP {isEnd : Char → Bool} {text piece : List Char}
    (member : piece ∈ text.splitOnP isEnd) : ∀ char ∈ piece, isEnd char = false := by
  induction text generalizing piece with
  | nil =>
    rw [List.splitOnP_nil, List.mem_singleton] at member
    rw [member]
    exact List.forall_mem_nil _
  | cons char rest inductionHypothesis =>
    rw [List.splitOnP_cons_eq_if_modifyHead] at member
    split at member
    case isTrue =>
      obtain rfl | inside := List.mem_cons.mp member
      · exact List.forall_mem_nil _
      · exact inductionHypothesis inside
    case isFalse inLine =>
      cases pieces : rest.splitOnP isEnd with
      | nil => exact absurd pieces (List.splitOnP_ne_nil isEnd rest)
      | cons first more =>
        rw [pieces, List.modifyHead_cons] at member
        rw [pieces] at inductionHypothesis
        obtain rfl | inside := List.mem_cons.mp member
        · rw [List.forall_mem_cons]
          exact ⟨eq_false_of_ne_true inLine, inductionHypothesis List.mem_cons_self⟩
        · exact inductionHypothesis (List.mem_cons_of_mem _ inside)

/-- Put a character before the first line. -/
def consFirst (char : Char) : List (List Char) → List (List Char)
  | [] => [[char]]
  | line :: rest => (char :: line) :: rest

/-- The lines of a text in which a line ends with a line feed, a carriage return or both. -/
def physicalLines : List Char → List (List Char)
  | [] => [[]]
  | char :: rest =>
    -- Of the two characters that end a line together the first one is skipped.
    if char = '\r' ∧ rest.head? = some '\n' then physicalLines rest
    else if char = '\n' ∨ char = '\r' then [] :: physicalLines rest
    else consFirst char (physicalLines rest)

/-- Between the characters that end lines stand the lines, and perhaps empty texts. -/
theorem physicalLines_splitOnP (text : List Char) :
    ∃ line rest more, physicalLines text = line :: rest ∧
      (text.splitOnP fun char => char == '\n' || char == '\r') = line :: more ∧
      rest.filter (· ≠ []) = more.filter (· ≠ []) := by
  induction text with
  | nil => exact ⟨[], [], [], rfl, List.splitOnP_nil, rfl⟩
  | cons char rest inductionHypothesis =>
    obtain ⟨line, others, pieces, physical, split, same⟩ := inductionHypothesis
    rw [List.splitOnP_cons_eq_if_modifyHead, physicalLines]
    by_cases both : char = '\r' ∧ rest.head? = some '\n'
    · obtain ⟨rfl, head⟩ := both
      obtain ⟨after, rfl⟩ := List.head?_eq_some_iff.mp head
      have first : line = [] := by
        rw [List.splitOnP_cons_eq_if_modifyHead, if_pos (by decide)] at split
        exact (List.cons.inj split).1.symm
      rw [if_pos ⟨rfl, rfl⟩, if_pos (by decide), split]
      refine ⟨line, others, line :: pieces, physical, by rw [first], ?_⟩
      rw [first, List.filter_cons_of_neg (by decide), same]
    · rw [if_neg both]
      by_cases ends : char = '\n' ∨ char = '\r'
      · rw [if_pos ends, if_pos (by simpa using ends), split, physical]
        refine ⟨[], line :: others, line :: pieces, rfl, rfl, ?_⟩
        rw [List.filter_cons, List.filter_cons, same]
      · rw [if_neg ends, if_neg (by simpa using ends), split, physical]
        exact ⟨char :: line, others, pieces, rfl, rfl, same⟩

theorem filter_physicalLines (text : List Char) :
    (physicalLines text).filter (· ≠ []) =
      (text.splitOnP fun char => char == '\n' || char == '\r').filter (· ≠ []) := by
  obtain ⟨line, rest, more, physical, split, same⟩ := physicalLines_splitOnP text
  rw [physical, split, List.filter_cons, List.filter_cons, same]

/-- What calls of `fgets` with a buffer for `size` characters get of a text, one after the other,
when there is room for `room` more characters in the first one. -/
def fgetsPieces (size : Nat) : Nat → List Char → List (List Char)
  | _, [] => []
  | room, char :: rest =>
    if char = '\n' ∨ room ≤ 1 then [char] :: fgetsPieces size size rest
    else
      match fgetsPieces size (room - 1) rest with
      | [] => [[char]]
      | piece :: more => (char :: piece) :: more

theorem fgetsPieces_ne_nil (size room : Nat) {text : List Char} (some : text ≠ []) :
    fgetsPieces size room text ≠ [] := by
  cases text with
  | nil => exact absurd rfl some
  | cons char rest =>
    unfold fgetsPieces
    split
    · exact List.cons_ne_nil _ _
    · split <;> exact List.cons_ne_nil _ _

/-- The end of a line ends a piece. -/
theorem fgetsPieces_append (size room : Nat) {line : List Char} (oneLine : '\n' ∉ line)
    (rest : List Char) :
    fgetsPieces size room (line ++ '\n' :: rest) =
      fgetsPieces size room (line ++ ['\n']) ++ fgetsPieces size size rest := by
  induction line generalizing room with
  | nil => simp [fgetsPieces]
  | cons char more inductionHypothesis =>
    have inside : '\n' ∉ more := fun member => oneLine (List.mem_cons_of_mem _ member)
    simp only [List.cons_append, fgetsPieces]
    split
    · rw [inductionHypothesis size inside, List.cons_append]
    · rw [inductionHypothesis (room - 1) inside]
      cases pieces : fgetsPieces size (room - 1) (more ++ ['\n']) with
      | nil =>
        have something : more ++ ['\n'] ≠ [] := by simp
        exact absurd pieces (fgetsPieces_ne_nil size (room - 1) something)
      | cons piece others => rfl

/-- A line that fits the buffer is one piece. -/
theorem fgetsPieces_line (size : Nat) {room : Nat} {line : List Char} (oneLine : '\n' ∉ line)
    (fits : line.length < room) : fgetsPieces size room (line ++ ['\n']) = [line ++ ['\n']] := by
  induction line generalizing room with
  | nil => simp [fgetsPieces]
  | cons char more inductionHypothesis =>
    have inside : '\n' ∉ more := fun member => oneLine (List.mem_cons_of_mem _ member)
    have different : char ≠ '\n' := fun same => oneLine (same ▸ List.mem_cons_self)
    rw [List.length_cons] at fits
    have going : ¬ (char = '\n' ∨ room ≤ 1) := by
      rintro (ends | full)
      · exact different ends
      · omega
    simp only [List.cons_append, fgetsPieces, if_neg going,
      inductionHypothesis inside (by omega : more.length < room - 1)]

/-- The pieces of a text of lines are those of its lines. -/
theorem fgetsPieces_unlines (size : Nat) {lines : List (List Char)}
    (oneLine : ∀ line ∈ lines, '\n' ∉ line) :
    fgetsPieces size size (unlines lines) =
      lines.flatMap fun line => fgetsPieces size size (line ++ ['\n']) := by
  induction lines with
  | nil => rfl
  | cons line rest inductionHypothesis =>
    have split : unlines (line :: rest) = line ++ '\n' :: unlines rest := by
      simp [unlines]
    rw [split, fgetsPieces_append size size (oneLine line List.mem_cons_self),
      inductionHypothesis fun other member => oneLine other (List.mem_cons_of_mem _ member)]
    rfl

end TextLines
