/-
This file settles which mappings the parser reads back. The path of the keys above a line
grows with every key that has no value and shrinks only when the indentation does, so an
empty entry becomes the parent of what stands beside it. The parser reports exactly the
leaves with a value, in document order and under their paths, if and only if no empty
entry stands before one of them.
-/

import SmartQso.YamlParser
import SmartQso.YamlTree

namespace SmartQso

open DottedPath TextLines

/-! ### Rows of a text -/

/-- The context in which the line of an entry is read. -/
def YamlRow.place (ctx : YamlContext) (row : YamlRow) : YamlContext :=
  yamlUpdatePath { ctx with lineNumber := ctx.lineNumber + 1 } (UInt8.ofNat row.ancestors.length)

/-- What the line of an entry does to the context. -/
def YamlRow.step (ctx : YamlContext) (row : YamlRow) : YamlContext :=
  let placed := row.place ctx
  let fullPath := (extend '.' placed.path row.key.text).take yamlPathRoom
  if row.scalar.value = [] then { placed with path := fullPath }
  else { placed with calls := placed.calls ++ [(fullPath, row.scalar.value)] }

/-- The spaces before a key are counted in pairs. -/
theorem yamlCountIndent_replicate {level : Nat} (shallow : level < 8) {text : List Char}
    (first : ∀ char ∈ text.head?, isBlank char = false) :
    yamlCountIndent (List.replicate (2 * level) ' ' ++ text) = UInt8.ofNat level := by
  have blanks : ∀ char ∈ List.replicate (2 * level) ' ', isBlank char = true := by
    intro char member
    rw [List.eq_of_mem_replicate member]
    rfl
  have rest : text.takeWhile isBlank = [] := by
    cases text with
    | nil => rfl
    | cons char more => exact List.takeWhile_cons_of_neg (ne_true_of_eq_false (first char rfl))
  unfold yamlCountIndent
  rw [List.takeWhile_append_of_pos blanks, rest, List.append_nil]
  have counted : ∀ level < 8, (List.replicate (2 * level) ' ').foldl
      (fun indent char => if char = '\t' then indent + 2 else indent + 1) (0 : UInt8) / 2 =
      UInt8.ofNat level := by decide
  exact counted level shallow

/-- A key is plain text. -/
theorem YamlKey.spec (key : YamlKey) :
    ':' ∉ key.text ∧ key.text.any isSpace = false ∧ '#' ∉ key.text := by
  refine ⟨fun member => ?_, List.any_eq_false.mpr fun char member space => ?_, fun member => ?_⟩
  · exact (key.plain _ member).2.1 rfl
  · have low := (key.plain char member).1
    simp only [isSpace, isBlank, Bool.or_eq_true, beq_iff_eq] at space
    obtain (rfl | rfl) | (rfl | rfl) := space
    all_goals exact absurd low (by decide)
  · exact (key.plain _ member).2.2.2.2 rfl

/-- What is written for a scalar is short and printable. -/
theorem YamlScalar.written_spec (scalar : YamlScalar) :
    scalar.written.length ≤ 101 ∧ ∀ char ∈ scalar.written, ' ' ≤ char := by
  have quotes : ∀ quote : Char, ' ' ≤ quote → ∀ char ∈ [' ', quote, quote], ' ' ≤ char := by
    intro quote printable char member
    simp only [List.mem_cons, List.not_mem_nil, or_false] at member
    obtain rfl | rfl | rfl := member
    · decide
    · exact printable
    · exact printable
  cases scalar with
  | nothing => exact ⟨by decide, fun char absent => by cases absent⟩
  | doubleQuotes => exact ⟨by decide, quotes '"' (by decide)⟩
  | singleQuotes => exact ⟨by decide, quotes '\x27' (by decide)⟩
  | plain scalar =>
    refine ⟨Nat.succ_le_succ scalar.short, fun char member => ?_⟩
    obtain rfl | inside := List.mem_cons.mp member
    · decide
    · exact (scalar.plain char inside).1

/-- A line is printable. -/
theorem YamlRow.printable (row : YamlRow) : ∀ char ∈ row.line, ' ' ≤ char := by
  intro char member
  unfold YamlRow.line at member
  simp only [List.mem_append, List.mem_cons] at member
  obtain (space | ofKey) | rfl | ofScalar := member
  · obtain rfl := List.eq_of_mem_replicate space
    decide
  · exact UInt32.le_of_lt (row.key.plain char ofKey).1
  · decide
  · exact row.scalar.written_spec.2 char ofScalar

/-- The value of a scalar is read back. -/
theorem YamlScalar.read (scalar : YamlScalar) :
    yamlRemoveQuotes (trim ((scalar.written.dropWhile (· == ' ')).take (yamlMaxValueLength - 1))) =
      scalar.value := by
  cases scalar with
  | nothing => rfl
  | doubleQuotes => decide
  | singleQuotes => decide
  | plain scalar =>
    have first : ∀ char ∈ scalar.text.head?, (char == ' ') = false := by
      intro char head
      have blank := scalar.trimmed.first char head
      rw [isBlank, Bool.or_eq_false_iff] at blank
      exact blank.1
    have text : (' ' :: scalar.text).dropWhile (· == ' ') = scalar.text := by
      rw [List.dropWhile_cons_of_pos (by decide)]
      cases shape : scalar.text with
      | nil => rfl
      | cons char rest =>
        rw [shape] at first
        exact List.dropWhile_cons_of_neg (ne_true_of_eq_false (first char rfl))
    have whole : scalar.text.take (yamlMaxValueLength - 1) = scalar.text :=
      List.take_of_length_le (scalar.short.trans (by decide))
    dsimp only [YamlScalar.written, YamlScalar.value]
    rw [text, whole, trim_of_trimmed scalar.trimmed]
    refine if_neg fun quoted => ?_
    obtain ⟨double, _⟩ | ⟨single, _⟩ := quoted.2
    · exact (scalar.plain _ (List.mem_of_mem_head? double)).2.1 rfl
    · exact (scalar.plain _ (List.mem_of_mem_head? single)).2.2 rfl

/-- A line starts with its key. -/
theorem YamlRow.head_entry (row : YamlRow) :
    ∀ char ∈ (row.key.text ++ ':' :: row.scalar.written).head?, isBlank char = false := by
  rw [List.head?_append_of_ne_nil _ row.key.some]
  exact (Trimmed.of_noSpace row.key.spec.2.1).first

/-- A line without its indentation. -/
theorem YamlRow.dropWhile_line (row : YamlRow) :
    row.line.dropWhile isBlank = row.key.text ++ ':' :: row.scalar.written := by
  unfold YamlRow.line
  rw [List.append_assoc]
  refine dropWhile_blanks (List.all_eq_true.mpr fun char member => ?_) row.head_entry
  rw [List.eq_of_mem_replicate member]
  rfl

/-- A line is neither empty nor a comment. -/
theorem YamlRow.not_comment (row : YamlRow) : yamlIsCommentOrEmpty row.line = false := by
  obtain ⟨_, noSpace, noComment⟩ := row.key.spec
  unfold yamlIsCommentOrEmpty
  rw [row.dropWhile_line]
  cases text : row.key.text with
  | nil => exact absurd text row.key.some
  | cons char rest =>
    rw [text] at noSpace noComment
    rw [List.any_cons, Bool.or_eq_false_iff, isSpace, Bool.or_eq_false_iff] at noSpace
    have mark : (char == '#') = false :=
      beq_eq_false_iff_ne.mpr fun same => noComment (same ▸ List.mem_cons_self)
    dsimp only [List.cons_append]
    rw [noSpace.1.1, mark]
    rfl

/-- The key and the value of a line are read back. -/
theorem YamlRow.extracted (row : YamlRow) :
    yamlExtractKeyValue row.line = .ok (row.key.text, row.scalar.value) := by
  obtain ⟨noColon, noSpace, _⟩ := row.key.spec
  have whole : row.key.text.take (yamlMaxKeyLength - 1) = row.key.text :=
    List.take_of_length_le row.key.short
  unfold yamlExtractKeyValue
  dsimp only
  rw [row.dropWhile_line, dropWhile_ne_append noColon, takeWhile_ne_append noColon]
  dsimp only
  rw [whole, trim_of_trimmed (Trimmed.of_noSpace noSpace), row.scalar.read]

/-- The line of an entry is read. -/
theorem yamlParseLine_row (ctx : YamlContext) {row : YamlRow}
    (shallow : row.ancestors.length < 8) :
    yamlParseLine { ctx with lineNumber := ctx.lineNumber + 1 } row.line = (row.step ctx, .ok) := by
  have noNull : '\x00' ∉ row.line := fun member =>
    absurd (row.printable _ member) (by decide)
  have counted : yamlCountIndent row.line = UInt8.ofNat row.ancestors.length := by
    unfold YamlRow.line
    rw [List.append_assoc]
    exact yamlCountIndent_replicate shallow row.head_entry
  unfold yamlParseLine YamlRow.step YamlRow.place
  dsimp only
  rw [takeWhile_ne_self noNull, row.not_comment, if_neg Bool.false_ne_true, row.extracted, counted]
  dsimp only
  split <;> rfl

/-- The entries of a text are read one after the other, without an error. -/
theorem yamlParseLines_rows (rows : List YamlRow)
    (shallow : ∀ row ∈ rows, row.ancestors.length < 8) (ctx : YamlContext) :
    yamlParseLines ctx (rows.map YamlRow.line ++ [[]]) = (rows.foldl YamlRow.step ctx, .ok) := by
  induction rows generalizing ctx with
  | nil => rfl
  | cons row rest inductionHypothesis =>
    have level := shallow row List.mem_cons_self
    have some : row.line ≠ [] := by
      unfold YamlRow.line
      exact List.append_ne_nil_of_right_ne_nil _ (List.cons_ne_nil _ _)
    have short : row.line.take (yamlMaxLineLength - 1) = row.line := by
      have keyShort := row.key.short
      have scalarShort := row.scalar.written_spec.1
      refine List.take_of_length_le ?_
      unfold YamlRow.line yamlMaxLineLength
      rw [List.length_append, List.length_append, List.length_replicate, List.length_cons]
      omega
    rw [List.map_cons, List.cons_append, yamlParseLines, if_neg some, short,
      yamlParseLine_row ctx level]
    exact inductionHypothesis (fun other member => shallow other (List.mem_cons_of_mem _ member)) _

/-- What the parser makes of the text of a tree. -/
theorem yamlParseString_text (ctx : YamlContext) (tree : YamlTree) :
    yamlParseString ctx tree.text =
      if tree.rows = [] then (ctx, .invalidParam)
      else
        (tree.rows.foldl YamlRow.step { ctx with indentLevel := 0, path := [], lineNumber := 0 },
          .ok) := by
  have oneLine : ∀ line ∈ tree.rows.map YamlRow.line, ∀ char ∈ line,
      (char == '\n' || char == '\r') = false := by
    intro line member char inside
    obtain ⟨row, _, rfl⟩ := List.mem_map.mp member
    have low := row.printable char inside
    rw [Bool.or_eq_false_iff, beq_eq_false_iff_ne, beq_eq_false_iff_ne]
    constructor
    · rintro rfl
      exact absurd low (by decide)
    · rintro rfl
      exact absurd low (by decide)
  unfold yamlParseString YamlTree.text
  cases rows : tree.rows with
  | nil => rfl
  | cons row rest =>
    have some : unlines ((row :: rest).map YamlRow.line) ≠ [] := by
      simp [unlines]
    rw [if_neg some, if_neg (List.cons_ne_nil _ _), ← rows,
      splitOnP_unlines (by decide) oneLine, yamlParseLines_rows tree.rows tree.length_ancestors]

/-! ### The path in the buffer -/

/-- The buffer shows a path, as far as it fits, and the indentation is that of a level. -/
structure Shows (ctx : YamlContext) (shown : List YamlComponent) (level : Nat) : Prop where
  path : ctx.path = (join shown).take yamlPathRoom
  level : ctx.indentLevel.toNat = level

/-- A path of at most eight keys fits the buffer. -/
theorem take_join_of_length_le {path : List YamlComponent} (short : path.length ≤ 8) :
    (join path).take yamlPathRoom = join path := by
  refine List.take_of_length_le ?_
  by_cases empty : path = []
  · rw [empty, join_nil]
    exact Nat.zero_le _
  · have length := length_join empty
    have room : yamlPathRoom = 511 := rfl
    omega

section

variable {ctx : YamlContext} {shown : List YamlComponent} {level : Nat} {row : YamlRow}

/-- A deeper line leaves the path alone. -/
theorem Shows.place_deeper (shows : Shows ctx shown level) (shallow : row.ancestors.length < 8)
    (deeper : level ≤ row.ancestors.length) : Shows (row.place ctx) shown row.ancestors.length := by
  have small : (UInt8.ofNat row.ancestors.length).toNat = row.ancestors.length :=
    UInt8.toNat_ofNat_of_lt' (shallow.trans (by decide))
  refine ⟨?_, small⟩
  have notLess : ¬ UInt8.ofNat row.ancestors.length < ctx.indentLevel := by
    rw [UInt8.lt_iff_toNat_lt, small, shows.level]
    exact not_lt.mpr deeper
  unfold YamlRow.place yamlUpdatePath
  dsimp only
  rw [if_neg notLess]
  exact shows.path

/-- A line further out takes keys off the path, one for each level. -/
theorem Shows.place_outer (shows : Shows ctx shown level) (shallow : row.ancestors.length < 8)
    (outer : row.ancestors.length < level) :
    (row.place ctx).path =
        shorten '.' (level - row.ancestors.length) ((join shown).take yamlPathRoom) ∧
      (row.place ctx).indentLevel.toNat = row.ancestors.length := by
  have small : (UInt8.ofNat row.ancestors.length).toNat = row.ancestors.length :=
    UInt8.toNat_ofNat_of_lt' (shallow.trans (by decide))
  refine ⟨?_, small⟩
  have less : UInt8.ofNat row.ancestors.length < ctx.indentLevel := by
    rw [UInt8.lt_iff_toNat_lt, small, shows.level]
    exact outer
  have count : (ctx.indentLevel - UInt8.ofNat row.ancestors.length).toNat =
      level - row.ancestors.length := by
    rw [UInt8.toNat_sub_of_le _ _ (UInt8.le_of_lt less), small, shows.level]
  unfold YamlRow.place yamlUpdatePath
  dsimp only
  rw [if_pos less, count, shows.path]

/-- The path that is left when all of it was in the buffer. -/
theorem Shows.place_exact (shows : Shows ctx shown level) (shallow : row.ancestors.length < 8)
    (outer : row.ancestors.length ≤ level) (short : shown.length ≤ 8) :
    Shows (row.place ctx) (shown.take (shown.length - (level - row.ancestors.length)))
      row.ancestors.length := by
  obtain same | less := Nat.eq_or_lt_of_le outer
  · rw [same, Nat.sub_self, Nat.sub_zero, List.take_length, ← same]
    exact shows.place_deeper shallow same.ge
  · obtain ⟨path, indent⟩ := shows.place_outer shallow less
    refine ⟨?_, indent⟩
    rw [path, take_join_of_length_le short, shorten_join, take_join_of_length_le]
    exact (List.length_take_le _ _).trans ((Nat.sub_le _ _).trans short)

/-- The path that is left when a part of it may not have been in the buffer. -/
theorem Shows.place_kept (shows : Shows ctx shown level) (shallow : row.ancestors.length < 8)
    (outer : row.ancestors.length ≤ level) :
    ∃ kept, kept <+: shown ∧ Shows (row.place ctx) kept row.ancestors.length ∧
      min shown.length 8 ≤ kept.length + (level - row.ancestors.length) := by
  obtain same | less := Nat.eq_or_lt_of_le outer
  · refine ⟨shown, List.prefix_rfl, shows.place_deeper shallow same.ge, ?_⟩
    exact (Nat.min_le_left _ _).trans (Nat.le_add_right _ _)
  · obtain ⟨path, indent⟩ := shows.place_outer shallow less
    obtain ⟨kept, isPrefix, left, room⟩ :=
      shorten_take shown yamlPathRoom (level - row.ancestors.length) (Nat.sub_pos_of_lt less)
    refine ⟨kept, isPrefix, ⟨?_, indent⟩, room 8 (by decide)⟩
    have fits : (join kept).length ≤ yamlPathRoom := by
      rw [← left]
      exact (length_shorten _ _).trans (List.length_take_le _ _)
    rw [path, left, List.take_of_length_le fits]

/-- The line of an entry without a value puts its key behind the path. -/
theorem Shows.step_key (shows : Shows (row.place ctx) shown row.ancestors.length)
    (noValue : row.scalar.value = []) :
    Shows (row.step ctx) (shown ++ [row.key.toComponent]) row.ancestors.length := by
  unfold YamlRow.step
  dsimp only
  rw [if_pos noValue]
  refine ⟨?_, shows.level⟩
  dsimp only
  rw [shows.path, take_extend_take]

/-- The line of an entry with a value reports it and leaves the path alone. -/
theorem Shows.step_value (shows : Shows (row.place ctx) shown row.ancestors.length)
    (value : row.scalar.value ≠ []) :
    Shows (row.step ctx) shown row.ancestors.length ∧
      (row.step ctx).calls = ctx.calls ++
        [((join (shown ++ [row.key.toComponent])).take yamlPathRoom, row.scalar.value)] := by
  unfold YamlRow.step
  dsimp only
  rw [if_neg value]
  refine ⟨⟨shows.path, shows.level⟩, ?_⟩
  dsimp only
  rw [shows.path, take_extend_take]
  rfl

end

theorem calls_step_of_noValue {ctx : YamlContext} {row : YamlRow}
    (noValue : row.scalar.value = []) : (row.step ctx).calls = ctx.calls := by
  unfold YamlRow.step
  dsimp only
  rw [if_pos noValue]
  rfl

/-! ### Below the right keys -/

/-- The line of an entry is read with the path of the keys above it. -/
def AtRow (ctx : YamlContext) (row : YamlRow) : Prop :=
  Shows (row.place ctx) row.ancestors row.ancestors.length

/-- An entry with a value is reported under its path. -/
theorem calls_step_of_atRow {ctx : YamlContext} {row : YamlRow} (atRow : AtRow ctx row)
    (shallow : row.ancestors.length < 8) :
    (row.step ctx).calls = ctx.calls ++ row.leaf.toList := by
  by_cases noValue : row.scalar.value = []
  · rw [calls_step_of_noValue noValue, YamlRow.leaf_of_noValue noValue, Option.toList_none,
      List.append_nil]
  · have short : (row.ancestors ++ [row.key.toComponent]).length ≤ 8 := by
      rw [List.length_append]
      exact shallow
    rw [(atRow.step_value noValue).2, YamlRow.leaf_of_value noValue, take_join_of_length_le short]
    rfl

/-- After an entry that is not empty, the line of the next is read with the right path, too. -/
theorem AtRow.step {ctx : YamlContext} {row next : YamlRow} (atRow : AtRow ctx row)
    (shallow : row.ancestors.length < 8) (nextShallow : next.ancestors.length < 8)
    (follows : row.Follows next) (notEmpty : ¬ row.IsEmpty) : AtRow (row.step ctx) next := by
  unfold AtRow
  obtain ⟨_, noValue, below⟩ | ⟨closed, beside⟩ := follows
  · have deeper : row.ancestors.length ≤ next.ancestors.length := by
      rw [below, YamlRow.path, List.length_append]
      exact Nat.le_add_right _ _
    have placed := (atRow.step_key noValue).place_deeper nextShallow deeper
    rw [show row.ancestors ++ [row.key.toComponent] = next.ancestors from below.symm] at placed
    exact placed
  · have value : row.scalar.value ≠ [] := fun noValue => notEmpty ⟨noValue, closed⟩
    have placed :=
      (atRow.step_value value).1.place_exact nextShallow beside.length_le shallow.le
    rw [Nat.sub_sub_self beside.length_le, ← List.prefix_iff_eq_take.mp beside] at placed
    exact placed

/-! ### Below a wrong key -/

/-- The line of an entry is read with a path that begins with that of an entry before it, which is
not above it. -/
def Lost (ctx : YamlContext) (earlier : List (List YamlComponent)) (row : YamlRow) : Prop :=
  ∃ shown, Shows (row.place ctx) shown row.ancestors.length ∧
    row.ancestors.length < shown.length ∧
      ∃ path ∈ earlier, path ≠ [] ∧ path <+: shown ∧ path.length ≤ row.ancestors.length + 1 ∧
        ¬ path <+: row.ancestors

/-- With a path, the shorter ones are there, too. -/
def Closed (earlier : List (List YamlComponent)) : Prop :=
  ∀ path ∈ earlier, ∀ shorter, shorter ≠ [] → shorter <+: path → shorter ∈ earlier

section

variable {ctx : YamlContext} {earlier : List (List YamlComponent)} {row next : YamlRow}

theorem Closed.append (closed : Closed earlier)
    (above : ∀ path, path ≠ [] → path <+: row.ancestors → path ∈ earlier) :
    Closed (earlier ++ [row.path]) := by
  intro path member shorter some isPrefix
  obtain before | here := List.mem_append.mp member
  · exact List.mem_append_left _ (closed path before shorter some isPrefix)
  · rw [List.mem_singleton.mp here] at isPrefix
    exact above_below above shorter some isPrefix

/-- A wrong path stays wrong when it is cut to the level of an entry further out. -/
theorem Closed.take_wrong {path : List YamlComponent} (closed : Closed earlier)
    (beside : next.ancestors <+: row.ancestors) (member : path ∈ earlier) (some : path ≠ [])
    (notAbove : ¬ path <+: row.ancestors) :
    path.take (next.ancestors.length + 1) ∈ earlier ∧
      path.take (next.ancestors.length + 1) ≠ [] ∧
        ¬ path.take (next.ancestors.length + 1) <+: next.ancestors := by
  have takenSome : path.take (next.ancestors.length + 1) ≠ [] := by
    simpa using some
  refine ⟨closed path member _ takenSome (List.take_prefix _ _), takenSome, fun above => ?_⟩
  by_cases whole : path.length ≤ next.ancestors.length + 1
  · rw [List.take_of_length_le whole] at above
    exact notAbove (above.trans beside)
  · have length := above.length_le
    rw [List.length_take_of_le (by omega)] at length
    omega

theorem not_prefix_path {path : List YamlComponent} (fresh : row.path ∉ earlier)
    (member : path ∈ earlier) (notAbove : ¬ path <+: row.ancestors) : ¬ path <+: row.path := by
  intro isPrefix
  obtain whole | inside := List.prefix_concat_iff.mp isPrefix
  · rw [whole] at member
    exact fresh member
  · exact notAbove inside

/-- An empty entry leaves its own key in the path of the next. -/
theorem AtRow.step_empty (atRow : AtRow ctx row) (shallow : row.ancestors.length < 8)
    (nextShallow : next.ancestors.length < 8) (follows : row.Follows next)
    (empty : row.IsEmpty) (closed : Closed (earlier ++ [row.path])) :
    Lost (row.step ctx) (earlier ++ [row.path]) next := by
  have beside : next.ancestors <+: row.ancestors := by
    obtain ⟨opens, _⟩ | ⟨_, beside⟩ := follows
    · exact absurd (empty.2.symm.trans opens) Bool.false_ne_true
    · exact beside
  have outer := beside.length_le
  have long : row.path.length = row.ancestors.length + 1 := by
    rw [YamlRow.path, List.length_append, List.length_singleton]
  have placed := (atRow.step_key empty.1).place_exact nextShallow outer (long.trans_le shallow)
  have left : row.path.length - (row.ancestors.length - next.ancestors.length) =
      next.ancestors.length + 1 := by omega
  rw [show row.ancestors ++ [row.key.toComponent] = row.path from rfl, left] at placed
  have taken : (row.path.take (next.ancestors.length + 1)).length = next.ancestors.length + 1 :=
    List.length_take_of_le (by omega)
  have some : row.path.take (next.ancestors.length + 1) ≠ [] :=
    List.ne_nil_of_length_eq_add_one taken
  refine ⟨_, placed, taken.symm ▸ Nat.lt_succ_self _, _, ?_, some, List.prefix_rfl, taken.le, ?_⟩
  · exact closed row.path (List.mem_append_right _ List.mem_cons_self) _ some
      (List.take_prefix _ _)
  · intro isPrefix
    exact absurd isPrefix.length_le (by omega)

/-- Below a wrong key, an entry without a value does not help the next. -/
theorem Lost.step (lost : Lost ctx earlier row) (shallow : row.ancestors.length < 8)
    (nextShallow : next.ancestors.length < 8) (follows : row.Follows next)
    (noValue : row.scalar.value = []) (fresh : row.path ∉ earlier) (closed : Closed earlier) :
    Lost (row.step ctx) (earlier ++ [row.path]) next := by
  obtain ⟨shown, shows, deep, path, member, some, begins, short, notAbove⟩ := lost
  have after := shows.step_key noValue
  have stillBegins : path <+: shown ++ [row.key.toComponent] :=
    begins.trans (List.prefix_append _ _)
  obtain ⟨_, _, below⟩ | ⟨_, beside⟩ := follows
  · have deeper : next.ancestors.length = row.ancestors.length + 1 := by
      rw [below, YamlRow.path, List.length_append, List.length_singleton]
    refine ⟨_, after.place_deeper nextShallow (by omega), ?_, path,
      List.mem_append_left _ member, some, stillBegins, by omega, ?_⟩
    · rw [List.length_append, List.length_singleton]
      omega
    · rw [below]
      exact not_prefix_path fresh member notAbove
  · have outer := beside.length_le
    obtain ⟨kept, isPrefix, placed, room⟩ := after.place_kept nextShallow outer
    rw [List.length_append, List.length_singleton] at room
    have keptLong : next.ancestors.length < kept.length := by omega
    have taken : (path.take (next.ancestors.length + 1)).length ≤ next.ancestors.length + 1 :=
      List.length_take_le _ _
    have takenPrefix := List.take_prefix (next.ancestors.length + 1) path
    obtain ⟨takenMember, takenSome, takenWrong⟩ := closed.take_wrong beside member some notAbove
    exact ⟨kept, placed, keptLong, path.take (next.ancestors.length + 1),
      List.mem_append_left _ takenMember, takenSome,
      List.prefix_of_prefix_length_le (takenPrefix.trans stillBegins) isPrefix (by omega),
      taken, takenWrong⟩

/-- Below a wrong key, an entry with a value is reported under a wrong path. -/
theorem Lost.step_value (lost : Lost ctx earlier row) (shallow : row.ancestors.length < 8)
    (value : row.scalar.value ≠ []) (fresh : row.path ∉ earlier) :
    ∃ path, path ≠ join row.path ∧
      (row.step ctx).calls = ctx.calls ++ [(path, row.scalar.value)] := by
  obtain ⟨shown, shows, _, path, member, some, ⟨others, rfl⟩, short, notAbove⟩ := lost
  refine ⟨_, fun same => not_prefix_path fresh member notAbove ?_, (shows.step_value value).2⟩
  have fits : (join path).length ≤ yamlPathRoom := by
    have length := length_join some
    have room : yamlPathRoom = 511 := rfl
    omega
  rw [List.append_assoc] at same
  exact prefix_of_take_join some (List.append_ne_nil_of_right_ne_nil _ (List.cons_ne_nil _ _))
    fits same

end

/-! ### All rows -/

/-- No empty entry stands before an entry with a value. -/
def Tidy (rows : List YamlRow) : Prop :=
  rows.Pairwise fun earlier later => earlier.IsEmpty → later.scalar.value = []

/-- Calls are not taken back. -/
theorem calls_foldl (rows : List YamlRow) (ctx : YamlContext) :
    ctx.calls <+: (rows.foldl YamlRow.step ctx).calls := by
  induction rows generalizing ctx with
  | nil => exact List.prefix_rfl
  | cons row rest inductionHypothesis =>
    refine List.IsPrefix.trans ?_ (inductionHypothesis (row.step ctx))
    by_cases noValue : row.scalar.value = []
    · rw [calls_step_of_noValue noValue]
    · unfold YamlRow.step
      dsimp only
      rw [if_neg noValue]
      exact List.prefix_append _ _

/-- An entry without a value adds nothing to what is reported and to the leaves. -/
theorem calls_iff_of_noValue {ctx : YamlContext} {row : YamlRow} {rest : List YamlRow}
    (noValue : row.scalar.value = []) :
    ((row :: rest).foldl YamlRow.step ctx).calls =
        ctx.calls ++ (row :: rest).filterMap YamlRow.leaf ↔
      (rest.foldl YamlRow.step (row.step ctx)).calls =
        (row.step ctx).calls ++ rest.filterMap YamlRow.leaf := by
  rw [List.foldl_cons, calls_step_of_noValue noValue,
    List.filterMap_cons_none (YamlRow.leaf_of_noValue noValue)]

/-- An entry that is reported under a wrong path cannot be made up for. -/
theorem Lost.calls_ne {ctx : YamlContext} {earlier : List (List YamlComponent)} {row : YamlRow}
    (rest : List YamlRow) (lost : Lost ctx earlier row) (shallow : row.ancestors.length < 8)
    (value : row.scalar.value ≠ []) (fresh : row.path ∉ earlier) :
    ((row :: rest).foldl YamlRow.step ctx).calls ≠
      ctx.calls ++ (row :: rest).filterMap YamlRow.leaf := by
  intro same
  obtain ⟨path, wrong, reported⟩ := lost.step_value shallow value fresh
  obtain ⟨more, calls⟩ := calls_foldl rest (row.step ctx)
  rw [List.foldl_cons, ← calls, reported, List.append_assoc,
    List.filterMap_cons_some (YamlRow.leaf_of_value value)] at same
  have first := (List.cons.inj (List.append_cancel_left same)).1
  exact wrong (congrArg Prod.fst first)

/-- Below a wrong key, the leaves are reported only when there are none. -/
theorem calls_iff_of_lost {rows : List YamlRow} {ctx : YamlContext}
    {earlier : List (List YamlComponent)} (lost : ∀ row ∈ rows.head?, Lost ctx earlier row)
    (ordered : Ordered earlier rows) (closed : Closed earlier)
    (shallow : ∀ row ∈ rows, row.ancestors.length < 8) :
    (rows.foldl YamlRow.step ctx).calls = ctx.calls ++ rows.filterMap YamlRow.leaf ↔
      ∀ row ∈ rows, row.scalar.value = [] := by
  induction rows generalizing ctx earlier with
  | nil => simp
  | cons row rest inductionHypothesis =>
    obtain ⟨fresh, above, follows, later⟩ := ordered
    have lostHere := lost row rfl
    have shallowHere := shallow row List.mem_cons_self
    have shallowRest : ∀ other ∈ rest, other.ancestors.length < 8 := fun other member =>
      shallow other (List.mem_cons_of_mem _ member)
    rw [List.forall_mem_cons]
    by_cases noValue : row.scalar.value = []
    · have lostRest : ∀ next ∈ rest.head?, Lost (row.step ctx) (earlier ++ [row.path]) next := by
        intro next head
        exact lostHere.step shallowHere (shallowRest next (List.mem_of_mem_head? head))
          (follows next head) noValue fresh closed
      rw [calls_iff_of_noValue noValue,
        inductionHypothesis lostRest later (closed.append above) shallowRest]
      exact (and_iff_right noValue).symm
    · exact iff_of_false (lostHere.calls_ne rest shallowHere noValue fresh)
        fun valueless => noValue valueless.1

/-- The entries whose lines are read below the right keys are reported as long as none of them is
empty, and from an empty one on only when there is nothing left to report. -/
theorem calls_iff_of_atRow {rows : List YamlRow} {ctx : YamlContext}
    {earlier : List (List YamlComponent)} (atRow : ∀ row ∈ rows.head?, AtRow ctx row)
    (ordered : Ordered earlier rows) (closed : Closed earlier)
    (shallow : ∀ row ∈ rows, row.ancestors.length < 8) :
    (rows.foldl YamlRow.step ctx).calls = ctx.calls ++ rows.filterMap YamlRow.leaf ↔
      Tidy rows := by
  induction rows generalizing ctx earlier with
  | nil => simp [Tidy]
  | cons row rest inductionHypothesis =>
    obtain ⟨_, above, follows, later⟩ := ordered
    have atHere := atRow row rfl
    have shallowHere := shallow row List.mem_cons_self
    have shallowRest : ∀ other ∈ rest, other.ancestors.length < 8 := fun other member =>
      shallow other (List.mem_cons_of_mem _ member)
    have shallowNext : ∀ next ∈ rest.head?, next.ancestors.length < 8 := fun next head =>
      shallowRest next (List.mem_of_mem_head? head)
    have closedRest := closed.append above
    unfold Tidy
    rw [List.pairwise_cons]
    by_cases empty : row.IsEmpty
    · have lostRest : ∀ next ∈ rest.head?, Lost (row.step ctx) (earlier ++ [row.path]) next := by
        intro next head
        exact atHere.step_empty shallowHere (shallowNext next head) (follows next head) empty
          closedRest
      rw [calls_iff_of_noValue empty.1, calls_iff_of_lost lostRest later closedRest shallowRest]
      constructor
      · intro valueless
        exact ⟨fun other member _ => valueless other member,
          List.pairwise_of_forall_mem_list fun _ _ other member _ => valueless other member⟩
      · rintro ⟨valueless, _⟩
        exact fun other member => valueless other member empty
    · have atRest : ∀ next ∈ rest.head?, AtRow (row.step ctx) next := fun next head =>
        atHere.step shallowHere (shallowNext next head) (follows next head) empty
      have onward := inductionHypothesis atRest later closedRest shallowRest
      have leaves : (row :: rest).filterMap YamlRow.leaf =
          row.leaf.toList ++ rest.filterMap YamlRow.leaf := by
        rw [List.filterMap_cons]
        cases row.leaf <;> rfl
      rw [calls_step_of_atRow atHere shallowHere, List.append_assoc, ← leaves] at onward
      rw [List.foldl_cons, onward]
      exact (and_iff_right fun other _ isEmpty => absurd isEmpty empty).symm

/-! ### Trees -/

/-- A mapping tree is read back, without an error and with exactly its leaves in document order and
under their paths, if and only if there is an entry in it and no empty entry stands before a leaf
with a value. -/
theorem yamlParseString_iff (ctx : YamlContext) (tree : YamlTree) :
    ((yamlParseString ctx tree.text).2 = .ok ∧
        (yamlParseString ctx tree.text).1.calls = ctx.calls ++ tree.leaves) ↔
      tree.rows ≠ [] ∧ Tidy tree.rows := by
  rw [yamlParseString_text]
  split
  case isTrue none => exact iff_of_false (fun read => by cases read.1) fun some => some.1 none
  case isFalse some =>
    dsimp only
    rw [and_iff_right rfl, and_iff_right some]
    refine calls_iff_of_atRow ?_ tree.ordered (fun path absent => by cases absent)
      tree.length_ancestors
    intro row head
    have top : row.ancestors = [] := YamlMapping.ancestors_head row head
    have start :
        Shows { ctx with indentLevel := 0, path := [], lineNumber := 0 } row.ancestors 0 := by
      rw [top]
      exact ⟨rfl, rfl⟩
    exact start.place_deeper (tree.length_ancestors row (List.mem_of_mem_head? head))
      (Nat.zero_le _)

/-- An entry that is written as nothing becomes the parent of the entry beside it. -/
theorem yamlParseString_emptyEntry :
    let plain : YamlPlain :=
      ⟨['x'], by decide, by decide, List.forall_mem_singleton.mpr (by decide),
        Trimmed.of_noSpace (by decide)⟩
    let keyA : YamlKey :=
      ⟨⟨['a'], by decide, by decide, by decide⟩, List.forall_mem_singleton.mpr (by decide)⟩
    let keyB : YamlKey :=
      ⟨⟨['b'], by decide, by decide, by decide⟩, List.forall_mem_singleton.mpr (by decide)⟩
    let tree : YamlTree :=
      ⟨.leaf keyA .nothing (.leaf keyB (.plain plain) .empty),
        ⟨by simp [keyA, keyB, YamlMapping.keys], List.not_mem_nil, trivial⟩, by decide⟩
    (yamlParseString yamlParserInit tree.text).1.calls = [("a.b".toList, ['x'])] ∧
      tree.leaves = [(['b'], ['x'])] := by
  decide

end SmartQso
