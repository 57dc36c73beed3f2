/-
This file defines the mappings that a configuration can be, and how one is written: a
row for each entry, indented by two spaces for each key above it, in document order. A
key knows that it is plain and short, a scalar that it is plain. The rows of a mapping
whose keys are distinct come in an order that the proofs about the parser rest on: an
entry stands below the entry before it or beside one of the keys above that, under keys
that stand in rows before.
-/

import SmartQso.DottedPath
import SmartQso.TextLines

namespace SmartQso

open DottedPath TextLines

/-! ### Mappings -/

/-- A component of a path: of 1 to 63 characters without a dot. -/
abbrev YamlComponent := Component '.' 63

/-- A key that is plain: without spaces, colons, quotes, marks of a comment and control characters,
which come before the space. -/
structure YamlKey extends YamlComponent where
  plain : ∀ char ∈ text, ' ' < char ∧ char ≠ ':' ∧ char ≠ '"' ∧ char ≠ '\x27' ∧ char ≠ '#'

/-- A plain scalar: text of 1 to 100 characters, without quotes and control characters and without
blanks around it. -/
structure YamlPlain where
  text : List Char
  some : text ≠ []
  short : text.length ≤ 100
  plain : ∀ char ∈ text, ' ' ≤ char ∧ char ≠ '"' ∧ char ≠ '\x27'
  trimmed : Trimmed text

/-- A scalar as it is written. An empty one is written as nothing or as quotes. -/
inductive YamlScalar
  | nothing
  | doubleQuotes
  | singleQuotes
  | plain (scalar : YamlPlain)

/-- What stands behind the colon. -/
def YamlScalar.written : YamlScalar → List Char
  | .nothing => []
  | .doubleQuotes => [' ', '"', '"']
  | .singleQuotes => [' ', '\x27', '\x27']
  | .plain scalar => ' ' :: scalar.text

/-- The value of a scalar. -/
def YamlScalar.value : YamlScalar → List Char
  | .plain scalar => scalar.text
  | _ => []

/-- A mapping, by its first entry and the rest. -/
inductive YamlMapping
  | empty
  | leaf (key : YamlKey) (scalar : YamlScalar) (rest : YamlMapping)
  | nested (key : YamlKey) (children rest : YamlMapping)

/-- The keys of a mapping. -/
def YamlMapping.keys : YamlMapping → List YamlComponent
  | .empty => []
  | .leaf key _ rest => key.toComponent :: rest.keys
  | .nested key _ rest => key.toComponent :: rest.keys

/-- No key stands twice in a mapping. -/
def YamlMapping.Distinct : YamlMapping → Prop
  | .empty => True
  | .leaf key _ rest => key.toComponent ∉ rest.keys ∧ rest.Distinct
  | .nested key children rest =>
    key.toComponent ∉ rest.keys ∧ children.Distinct ∧ rest.Distinct

/-- The number of keys that stand above each other. -/
def YamlMapping.depth : YamlMapping → Nat
  | .empty => 0
  | .leaf _ _ rest => max 1 rest.depth
  | .nested _ children rest => max (children.depth + 1) rest.depth

/-- A mapping with distinct keys and a depth of at most 8. -/
structure YamlTree where
  mapping : YamlMapping
  distinct : mapping.Distinct
  shallow : mapping.depth ≤ 8

/-! ### Rows -/

/-- An entry with the keys above it. It opens a mapping, or it has a scalar. -/
structure YamlRow where
  ancestors : List YamlComponent
  key : YamlKey
  scalar : YamlScalar
  opens : Bool

/-- The path of an entry. -/
def YamlRow.path (row : YamlRow) : List YamlComponent := row.ancestors ++ [row.key.toComponent]

/-- The line of an entry. -/
def YamlRow.line (row : YamlRow) : List Char :=
  List.replicate (2 * row.ancestors.length) ' ' ++ row.key.text ++ ':' :: row.scalar.written

/-- The entry has no value and nothing below it. -/
def YamlRow.IsEmpty (row : YamlRow) : Prop := row.scalar.value = [] ∧ row.opens = false

/-- Nothing stands in a mapping. -/
def YamlMapping.isEmpty : YamlMapping → Bool
  | .empty => true
  | _ => false

/-- The entries of a mapping below some keys, in document order. -/
def YamlMapping.rows (ancestors : List YamlComponent) : YamlMapping → List YamlRow
  | .empty => []
  | .leaf key scalar rest => ⟨ancestors, key, scalar, false⟩ :: rest.rows ancestors
  | .nested key children rest =>
    ⟨ancestors, key, .nothing, !children.isEmpty⟩ ::
      (children.rows (ancestors ++ [key.toComponent]) ++ rest.rows ancestors)

/-- The entries of a tree. -/
def YamlTree.rows (tree : YamlTree) : List YamlRow := tree.mapping.rows []

/-- The text of a tree. -/
def YamlTree.text (tree : YamlTree) : List Char := unlines (tree.rows.map YamlRow.line)

/-- The leaf of an entry with a value: its dotted path and its value. -/
def YamlRow.leaf (row : YamlRow) : Option (List Char × List Char) :=
  if row.scalar.value = [] then none else some (join row.path, row.scalar.value)

theorem YamlRow.leaf_of_noValue {row : YamlRow} (noValue : row.scalar.value = []) :
    row.leaf = none :=
  if_pos noValue

theorem YamlRow.leaf_of_value {row : YamlRow} (value : row.scalar.value ≠ []) :
    row.leaf = some (join row.path, row.scalar.value) :=
  if_neg value

/-- The leaves with a value, in document order. -/
def YamlTree.leaves (tree : YamlTree) : List (List Char × List Char) :=
  tree.rows.filterMap YamlRow.leaf

/-! ### Document order -/

/-- What can stand in the row after another: an entry below it, when it opens a mapping and so has
no value, or one beside it or beside one of the keys above it. -/
def YamlRow.Follows (row next : YamlRow) : Prop :=
  (row.opens = true ∧ row.scalar.value = [] ∧ next.ancestors = row.path) ∨
    (row.opens = false ∧ next.ancestors <+: row.ancestors)

/-- In each row there is a new path, the keys above it stand in rows before, and it can follow the
row before. -/
def Ordered : List (List YamlComponent) → List YamlRow → Prop
  | _, [] => True
  | earlier, row :: rest =>
    row.path ∉ earlier ∧ (∀ path, path ≠ [] → path <+: row.ancestors → path ∈ earlier) ∧
      (∀ next ∈ rest.head?, row.Follows next) ∧ Ordered (earlier ++ [row.path]) rest

theorem YamlMapping.ancestors_head {mapping : YamlMapping} {ancestors : List YamlComponent} :
    ∀ row ∈ (mapping.rows ancestors).head?, row.ancestors = ancestors := by
  cases mapping with
  | empty => exact fun row absent => by cases absent
  | leaf key scalar rest =>
    rintro _ ⟨⟩
    rfl
  | nested key children rest =>
    rintro _ ⟨⟩
    rfl

/-- The rows below some keys have paths that begin with one of the keys of the mapping. -/
theorem YamlMapping.prefix_path {mapping : YamlMapping} {ancestors : List YamlComponent} :
    ∀ row ∈ mapping.rows ancestors, ancestors <+: row.ancestors := by
  induction mapping generalizing ancestors with
  | empty => exact fun row absent => by cases absent
  | leaf key scalar rest inductionHypothesis =>
    intro row member
    obtain rfl | later := List.mem_cons.mp member
    · exact List.prefix_rfl
    · exact inductionHypothesis row later
  | nested key children rest childrenHypothesis restHypothesis =>
    intro row member
    obtain rfl | later := List.mem_cons.mp member
    · exact List.prefix_rfl
    · obtain below | beside := List.mem_append.mp later
      · exact (List.prefix_append _ _).trans (childrenHypothesis row below)
      · exact restHypothesis row beside

/-- Two components at one place of a path are the same. -/
theorem component_unique {ancestors path : List YamlComponent} {key other : YamlComponent}
    (first : ancestors ++ [key] <+: path) (second : ancestors ++ [other] <+: path) :
    key = other := by
  have same := (List.prefix_of_prefix_length_le first second (by simp)).eq_of_length (by simp)
  exact (List.cons.inj (List.append_cancel_left same)).1

/-- What stands after the rows of a mapping may stand beside one of the keys above it. -/
theorem head_append {mapping : YamlMapping} {ancestors : List YamlComponent} {more : List YamlRow}
    (after : ∀ next ∈ more.head?, next.ancestors <+: ancestors) :
    ∀ next ∈ (mapping.rows ancestors ++ more).head?, next.ancestors <+: ancestors := by
  intro next head
  cases rows : mapping.rows ancestors with
  | nil =>
    rw [rows, List.nil_append] at head
    exact after next head
  | cons row rest =>
    have first : next ∈ (mapping.rows ancestors).head? := by
      rw [rows] at head ⊢
      exact head
    rw [YamlMapping.ancestors_head next first]

section

variable {ancestors : List YamlComponent} {first : YamlComponent} {keys : List YamlComponent}
  {earlier added : List (List YamlComponent)}

/-- The keys beside the first are new when only paths that begin with the first have been added. -/
theorem fresh_beside (once : first ∉ keys)
    (fresh : ∀ key ∈ first :: keys, ∀ path ∈ earlier, ¬ ancestors ++ [key] <+: path)
    (below : ∀ path ∈ added, ancestors ++ [first] <+: path) :
    ∀ key ∈ keys, ∀ path ∈ earlier ++ added, ¬ ancestors ++ [key] <+: path := by
  intro key member path inside isPrefix
  obtain before | new := List.mem_append.mp inside
  · exact fresh key (List.mem_cons_of_mem _ member) path before isPrefix
  · rw [component_unique (below path new) isPrefix] at once
    exact once member

/-- The keys below the first are new when it is. -/
theorem fresh_below (fresh : ∀ path ∈ earlier, ¬ ancestors ++ [first] <+: path) :
    ∀ key ∈ keys, ∀ path ∈ earlier ++ [ancestors ++ [first]],
      ¬ (ancestors ++ [first]) ++ [key] <+: path := by
  intro key _ path inside isPrefix
  obtain before | here := List.mem_append.mp inside
  · exact fresh path before ((List.prefix_append _ _).trans isPrefix)
  · rw [List.mem_singleton.mp here] at isPrefix
    have short := isPrefix.length_le
    simp only [List.length_append, List.length_singleton] at short
    omega

/-- The keys above an entry below the first stand in rows before. -/
theorem above_below (above : ∀ path, path ≠ [] → path <+: ancestors → path ∈ earlier) :
    ∀ path, path ≠ [] → path <+: ancestors ++ [first] →
      path ∈ earlier ++ [ancestors ++ [first]] := by
  intro path some isPrefix
  rw [List.mem_append, List.mem_singleton]
  obtain whole | inside := List.prefix_concat_iff.mp isPrefix
  · exact Or.inr whole
  · exact Or.inl (above path some inside)

end

/-- The rows of a mapping stand in order, whatever stands in order around them. -/
theorem ordered_rows (mapping : YamlMapping) {ancestors : List YamlComponent}
    {earlier : List (List YamlComponent)} {more : List YamlRow} (distinct : mapping.Distinct)
    (above : ∀ path, path ≠ [] → path <+: ancestors → path ∈ earlier)
    (fresh : ∀ key ∈ mapping.keys, ∀ path ∈ earlier, ¬ ancestors ++ [key] <+: path)
    (after : ∀ next ∈ more.head?, next.ancestors <+: ancestors)
    (ordered : Ordered (earlier ++ (mapping.rows ancestors).map YamlRow.path) more) :
    Ordered earlier (mapping.rows ancestors ++ more) := by
  induction mapping generalizing ancestors earlier more with
  | empty =>
    rw [YamlMapping.rows, List.map_nil, List.append_nil] at ordered
    exact ordered
  | leaf key scalar rest inductionHypothesis =>
    refine ⟨fun member => fresh _ List.mem_cons_self _ member List.prefix_rfl, above,
      fun next head => Or.inr ⟨rfl, head_append after next head⟩, ?_⟩
    refine inductionHypothesis distinct.2 ?_ ?_ after ?_
    · exact fun path some isPrefix => List.mem_append_left _ (above path some isPrefix)
    · refine fresh_beside distinct.1 fresh fun path member => ?_
      rw [List.mem_singleton.mp member]
      exact List.prefix_rfl
    · rw [List.append_assoc]
      exact ordered
  | nested key children rest childrenHypothesis restHypothesis =>
    obtain ⟨once, childrenDistinct, restDistinct⟩ := distinct
    rw [YamlMapping.rows, List.cons_append, List.append_assoc]
    refine ⟨fun member => fresh _ List.mem_cons_self _ member List.prefix_rfl, above, ?_, ?_⟩
    · intro next head
      cases children with
      | empty => exact Or.inr ⟨rfl, head_append after next head⟩
      | leaf childKey scalar others =>
        cases head
        exact Or.inl ⟨rfl, rfl, rfl⟩
      | nested childKey below others =>
        cases head
        exact Or.inl ⟨rfl, rfl, rfl⟩
    refine childrenHypothesis childrenDistinct (above_below above)
      (fresh_below (fresh _ List.mem_cons_self)) ?_ ?_
    · exact fun next head => (head_append after next head).trans (List.prefix_append _ _)
    rw [YamlMapping.rows, List.map_cons] at ordered
    rw [List.append_assoc, List.singleton_append]
    refine restHypothesis restDistinct ?_ (fresh_beside once fresh fun path member => ?_) after ?_
    · exact fun path some isPrefix => List.mem_append_left _ (above path some isPrefix)
    · obtain rfl | ofChildren := List.mem_cons.mp member
      · exact List.prefix_rfl
      · obtain ⟨row, inside, rfl⟩ := List.mem_map.mp ofChildren
        exact (YamlMapping.prefix_path row inside).trans (List.prefix_append _ _)
    · rw [List.append_assoc, List.cons_append, ← List.map_append]
      exact ordered

/-- The rows of a tree stand in order. -/
theorem YamlTree.ordered (tree : YamlTree) : Ordered [] tree.rows := by
  have ordered := @ordered_rows tree.mapping [] [] [] tree.distinct
    (fun path some isPrefix => absurd (List.prefix_nil.mp isPrefix) some)
    (fun _ _ path absent => by cases absent) (fun next absent => by cases absent) trivial
  rwa [List.append_nil] at ordered

/-- No row stands deeper than the depth of its mapping. -/
theorem YamlMapping.length_ancestors {mapping : YamlMapping} {ancestors : List YamlComponent} :
    ∀ row ∈ mapping.rows ancestors, row.ancestors.length < ancestors.length + mapping.depth := by
  induction mapping generalizing ancestors with
  | empty => exact fun row absent => by cases absent
  | leaf key scalar rest inductionHypothesis =>
    intro row member
    have wide := Nat.le_max_left 1 rest.depth
    have deep := Nat.le_max_right 1 rest.depth
    obtain rfl | later := List.mem_cons.mp member
    · rw [YamlMapping.depth]
      dsimp only
      omega
    · have short := inductionHypothesis row later
      rw [YamlMapping.depth]
      omega
  | nested key children rest childrenHypothesis restHypothesis =>
    intro row member
    have wide := Nat.le_max_left (children.depth + 1) rest.depth
    have deep := Nat.le_max_right (children.depth + 1) rest.depth
    obtain rfl | later := List.mem_cons.mp member
    · rw [YamlMapping.depth]
      dsimp only
      omega
    · obtain below | beside := List.mem_append.mp later
      · have short := childrenHypothesis row below
        rw [List.length_append, List.length_singleton] at short
        rw [YamlMapping.depth]
        omega
      · have short := restHypothesis row beside
        rw [YamlMapping.depth]
        omega

theorem YamlTree.length_ancestors (tree : YamlTree) :
    ∀ row ∈ tree.rows, row.ancestors.length < 8 := by
  intro row member
  have deep := YamlMapping.length_ancestors row member
  rw [List.length_nil, Nat.zero_add] at deep
  exact deep.trans_le tree.shallow

end SmartQso
