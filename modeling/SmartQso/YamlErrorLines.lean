/-
This file settles which line `yaml_get_error_line` names after a text that is rejected.
The parser counts the lines that it parses, and it parses no empty line. So the number
is that of the physical line at fault exactly when no line before it is empty and the
counter has not wrapped.
-/

import SmartQso.YamlParser

namespace SmartQso

open TextLines

/-! ### Lines at fault -/

/-- `yaml_get_error_line`. -/
def yamlGetErrorLine (ctx : YamlContext) : UInt32 := ctx.lineNumber

/-- A line that is no comment, not blank and has no colon, as far as its string goes. -/
def offends (line : List Char) : Bool :=
  let text := line.takeWhile (· != '\x00')
  !yamlIsCommentOrEmpty text && !text.contains ':'

/-- The number of the first physical line at fault. -/
def offendingLine (text : List Char) : Option Nat :=
  ((physicalLines text).findIdx? offends).map (· + 1)

/-- A text that is rejected for its syntax is reported with the number of the line at fault. -/
def ReportsLine (ctx : YamlContext) (text : List Char) : Prop :=
  (yamlParseString ctx text).2 = .syntaxError →
    offendingLine text = some (yamlGetErrorLine (yamlParseString ctx text).1).toNat

/-- No line up to the one at fault is empty, and their number fits the counter. -/
def NoEmptyLineBefore (text : List Char) : Prop :=
  ∀ number, offendingLine text = some number →
    (∀ line ∈ (physicalLines text).take number, line ≠ []) ∧ number < UInt32.size

/-! ### One line -/

/-- Blanks are no colons. -/
theorem dropWhile_colon_eq_nil_iff (line : List Char) :
    (line.dropWhile isBlank).dropWhile (· != ':') = [] ↔ line.contains ':' = false := by
  rw [List.dropWhile_eq_nil_iff, ← Bool.not_eq_true, List.contains_iff_mem]
  constructor
  · intro none member
    rw [← List.takeWhile_append_dropWhile (p := isBlank) (l := line), List.mem_append] at member
    rcases member with blank | behind
    · exact absurd (List.mem_takeWhile_imp blank) (by decide)
    · exact absurd (none ':' behind) (by decide)
  · intro absent char member
    exact bne_iff_ne.mpr fun same =>
      absent (same ▸ (List.dropWhile_sublist isBlank).subset member)

theorem yamlExtractKeyValue_error_iff (line : List Char) (failed : YamlError) :
    yamlExtractKeyValue line = .error failed ↔
      failed = .syntaxError ∧ line.contains ':' = false := by
  rw [← dropWhile_colon_eq_nil_iff]
  unfold yamlExtractKeyValue
  dsimp only
  split
  case h_1 none => simp [none, eq_comm]
  case h_2 some => simp [some]

/-- Parsing a line leaves the counter, and fails exactly at a line at fault. -/
theorem yamlParseLine_spec (ctx : YamlContext) (line : List Char) :
    (yamlParseLine ctx line).1.lineNumber = ctx.lineNumber ∧
      (yamlParseLine ctx line).2 = if offends line then .syntaxError else .ok := by
  by_cases blank : yamlIsCommentOrEmpty (line.takeWhile (· != '\x00')) = true
  · have passes : offends line = false := by
      unfold offends
      dsimp only
      rw [blank, Bool.not_true, Bool.false_and]
    unfold yamlParseLine
    dsimp only
    rw [if_pos blank, passes]
    exact ⟨rfl, rfl⟩
  · have fault : offends line = !(line.takeWhile (· != '\x00')).contains ':' := by
      unfold offends
      dsimp only
      rw [eq_false_of_ne_true blank, Bool.not_false, Bool.true_and]
    have failure := yamlExtractKeyValue_error_iff (line.takeWhile (· != '\x00'))
    unfold yamlParseLine
    dsimp only
    rw [if_neg blank, fault]
    cases extracted : yamlExtractKeyValue (line.takeWhile (· != '\x00')) with
    | error failed =>
      obtain ⟨rfl, absent⟩ := (failure failed).mp extracted
      rw [absent]
      exact ⟨rfl, rfl⟩
    | ok pair =>
      have present : (line.takeWhile (· != '\x00')).contains ':' = true := by
        by_contra absent
        have failed := (failure .syntaxError).mpr ⟨rfl, eq_false_of_ne_true absent⟩
        rw [extracted] at failed
        cases failed
      rw [present]
      dsimp only
      split <;> exact ⟨rfl, rfl⟩

/-! ### All lines -/

/-- Empty lines are not parsed. -/
theorem yamlParseLines_filter (ctx : YamlContext) (lines : List (List Char)) :
    yamlParseLines ctx (lines.filter (· ≠ [])) = yamlParseLines ctx lines := by
  induction lines generalizing ctx with
  | nil => rfl
  | cons line rest inductionHypothesis =>
    by_cases empty : line = []
    · rw [List.filter_cons_of_neg (by simpa using empty), inductionHypothesis, yamlParseLines,
        if_pos empty]
    · rw [List.filter_cons_of_pos (by simpa using empty), yamlParseLines, yamlParseLines,
        if_neg empty, if_neg empty]
      split
      · exact inductionHypothesis _
      · rfl

theorem yamlParseString_eq (ctx : YamlContext) {text : List Char} (some : text ≠ []) :
    yamlParseString ctx text =
      yamlParseLines { ctx with indentLevel := 0, path := [], lineNumber := 0 }
        (physicalLines text) := by
  unfold yamlParseString
  rw [if_neg some, ← yamlParseLines_filter, ← filter_physicalLines, yamlParseLines_filter]

/-- A short line that is not empty is parsed as a whole, behind one more count. -/
theorem yamlParseLines_cons {line : List Char} (fits : line.length < yamlMaxLineLength)
    (some : line ≠ []) (rest : List (List Char)) (ctx : YamlContext) :
    ∃ after, after.lineNumber = ctx.lineNumber + 1 ∧ yamlParseLines ctx (line :: rest) =
      if offends line then ({ after with lastError := .syntaxError }, .syntaxError)
      else yamlParseLines after rest := by
  have whole : line.take (yamlMaxLineLength - 1) = line :=
    List.take_of_length_le (Nat.le_sub_one_of_lt fits)
  have parsed := yamlParseLine_spec { ctx with lineNumber := ctx.lineNumber + 1 } line
  rw [yamlParseLines, if_neg some, whole]
  generalize yamlParseLine { ctx with lineNumber := ctx.lineNumber + 1 } line = result at parsed ⊢
  obtain ⟨after, answer⟩ := result
  obtain ⟨number, rfl⟩ := parsed
  refine ⟨after, number, ?_⟩
  cases offends line <;> rfl

/-- The parser has stopped at the first line at fault, with the number of the lines parsed so
far. -/
def StopsAtFault (lines : List (List Char)) (parsed : UInt32) (result : YamlContext × YamlError) :
    Prop :=
  match lines.findIdx? offends with
  | none => result.2 = .ok
  | some index => result.2 = .syntaxError ∧ result.1.lineNumber =
      parsed + UInt32.ofNat ((lines.take (index + 1)).countP (· ≠ []))

/-- A line that is not at fault is counted unless it is empty. -/
theorem StopsAtFault.cons {line : List Char} {rest : List (List Char)} {parsed : UInt32}
    {result : YamlContext × YamlError} (sound : offends line = false)
    (stops : StopsAtFault rest (parsed + UInt32.ofNat ([line].countP (· ≠ []))) result) :
    StopsAtFault (line :: rest) parsed result := by
  unfold StopsAtFault at stops ⊢
  rw [List.findIdx?_cons, sound, if_neg Bool.false_ne_true]
  cases found : rest.findIdx? offends with
  | none =>
    rw [found] at stops
    exact stops
  | some index =>
    rw [found] at stops
    have split : (line :: rest).take (index + 1 + 1) = [line] ++ rest.take (index + 1) := rfl
    refine ⟨stops.1, stops.2.trans ?_⟩
    rw [split, List.countP_append, UInt32.ofNat_add, UInt32.add_assoc]

theorem yamlParseLines_spec {lines : List (List Char)}
    (short : ∀ line ∈ lines, line.length < yamlMaxLineLength) (ctx : YamlContext) :
    StopsAtFault lines ctx.lineNumber (yamlParseLines ctx lines) := by
  induction lines generalizing ctx with
  | nil => rfl
  | cons line rest inductionHypothesis =>
    obtain ⟨fits, later⟩ := List.forall_mem_cons.mp short
    by_cases empty : line = []
    · subst empty
      have next := inductionHypothesis later ctx
      rw [yamlParseLines, if_pos rfl]
      refine StopsAtFault.cons (by decide) ?_
      rw [List.countP_cons_of_neg (by decide), List.countP_nil]
      exact (UInt32.add_zero ctx.lineNumber).symm ▸ next
    · obtain ⟨after, number, parsed⟩ := yamlParseLines_cons fits empty rest ctx
      have counted : ([line] : List (List Char)).countP (· ≠ []) = 1 := by
        rw [List.countP_cons_of_pos (by simpa using empty), List.countP_nil]
      rw [parsed]
      cases fault : offends line with
      | true =>
        unfold StopsAtFault
        rw [List.findIdx?_cons, fault, if_pos rfl, if_pos rfl]
        refine ⟨rfl, number.trans ?_⟩
        rw [List.take_succ_cons, List.take_zero, counted]
        rfl
      | false =>
        have next := inductionHypothesis later after
        rw [if_neg Bool.false_ne_true]
        refine StopsAtFault.cons fault ?_
        rw [counted]
        exact number ▸ next

/-! ### The number of the line -/

/-- A count of the lines that are not empty, in 32 bits, is the count of all lines exactly when
there is no empty one and the counter has not wrapped. -/
theorem toNat_ofNat_countP_eq_iff (lines : List (List Char)) :
    (UInt32.ofNat (lines.countP (· ≠ []))).toNat = lines.length ↔
      (∀ line ∈ lines, line ≠ []) ∧ lines.length < UInt32.size := by
  have most := @List.countP_le_length _ (fun line : List Char => decide (line ≠ [])) lines
  have all := @List.countP_eq_length _ lines (fun line : List Char => decide (line ≠ []))
  simp only [decide_eq_true_eq] at all
  rw [UInt32.toNat_ofNat', ← all]
  constructor
  · intro same
    have below := Nat.mod_le (lines.countP (· ≠ [])) UInt32.size
    have bound := Nat.mod_lt (lines.countP (· ≠ [])) (show 0 < UInt32.size by decide)
    replace same : lines.countP (· ≠ []) % UInt32.size = lines.length := same
    exact ⟨Nat.le_antisymm most (same ▸ below), same ▸ bound⟩
  · rintro ⟨every, fits⟩
    rw [every]
    exact Nat.mod_eq_of_lt fits

/-- A text of short lines is reported with the physical line at fault exactly when no line up to it
is empty and the counter has not wrapped. -/
theorem reportsLine_iff (ctx : YamlContext) (text : List Char)
    (short : ∀ line ∈ physicalLines text, line.length < yamlMaxLineLength) :
    ReportsLine ctx text ↔ NoEmptyLineBefore text := by
  unfold ReportsLine NoEmptyLineBefore offendingLine yamlGetErrorLine
  by_cases empty : text = []
  · subst empty
    exact iff_of_true (fun rejected => by cases rejected) (fun number found => by cases found)
  · rw [yamlParseString_eq ctx empty]
    have parsed := yamlParseLines_spec short
      { ctx with indentLevel := 0, path := [], lineNumber := 0 }
    unfold StopsAtFault at parsed
    cases found : (physicalLines text).findIdx? offends with
    | none =>
      rw [found] at parsed
      refine iff_of_true (fun rejected => ?_) (fun number absent => by cases absent)
      rw [parsed] at rejected
      cases rejected
    | some index =>
      rw [found] at parsed
      obtain ⟨rejected, number⟩ := parsed
      obtain ⟨inside, -⟩ := List.findIdx?_eq_some_iff_getElem.mp found
      have length : ((physicalLines text).take (index + 1)).length = index + 1 :=
        List.length_take_of_le inside
      have counted := toNat_ofNat_countP_eq_iff ((physicalLines text).take (index + 1))
      rw [length] at counted
      simp only [rejected, number, Option.map_some, Option.some.injEq, true_implies, forall_eq,
        UInt32.zero_add, eq_comm (a := index + 1), counted]

/-- A text whose third line is at fault, behind two lines that are not empty. -/
theorem reportsLine_iff_witness :
    ReportsLine yamlParserInit "power:\r\n  soc: 25\nlow".toList ↔
      NoEmptyLineBefore "power:\r\n  soc: 25\nlow".toList :=
  reportsLine_iff yamlParserInit _ (by decide)

/-- Behind an empty line the second line is reported as the first one. -/
theorem reportsLine_fails :
    ¬ ∀ (ctx : YamlContext) (text : List Char),
      (∀ line ∈ physicalLines text, line.length < yamlMaxLineLength) → ReportsLine ctx text := by
  intro claimed
  have reported := claimed yamlParserInit "\nlow".toList (by decide) (by decide)
  revert reported
  decide

end SmartQso
