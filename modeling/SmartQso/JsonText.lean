/-
This file models the text `json.dumps` of the Python library makes of a value with
its default settings: every character beyond printable ASCII is escaped, lists and
dictionaries are separated by a comma and a space, and a key that is no string is
written as one. The digits of a float come from the interpreter. The text is sent as
its UTF-8 bytes, and the file proves that all of them are printable.
-/

import Mathlib.Data.Nat.Digits.Defs

namespace JsonText

/-! ### Values -/

/-- A character of a Python string; surrogates count as characters. -/
abbrev CodePoint := Fin 0x110000

/-- The characters of the `repr` of a finite float. -/
def floatChars : List Char :=
  ['0', '1', '2', '3', '4', '5', '6', '7', '8', '9', '.', 'e', '+', '-']

/-- The `repr` of a finite float. -/
structure FloatRepr where
  text : List Char
  plain : ∀ char ∈ text, char ∈ floatChars

/-- A Python float. -/
inductive PyFloat
  | nan
  | infinity
  | negInfinity
  | finite (repr : FloatRepr)

/-- A key `json.dumps` accepts. -/
inductive Key
  | null
  | bool (value : Bool)
  | int (value : Int)
  | float (value : PyFloat)
  | str (text : List CodePoint)

/-- A value `json.dumps` accepts; a dictionary keeps the order of insertion. -/
inductive Value
  | null
  | bool (value : Bool)
  | int (value : Int)
  | float (value : PyFloat)
  | str (text : List CodePoint)
  | list (items : List Value)
  | dict (entries : List (Key × Value))

/-! ### Text -/

/-- The format `04x`. -/
def hex4 (value : Nat) : List Char :=
  [Nat.digitChar (value / 0x1000 % 16), Nat.digitChar (value / 0x100 % 16),
    Nat.digitChar (value / 0x10 % 16), Nat.digitChar (value % 16)]

/-- The escape of a number below 0x10000. -/
def unicodeEscape (value : Nat) : List Char := '\\' :: 'u' :: hex4 value

/-- A character inside the quotes; one beyond the first plane becomes a surrogate pair. -/
def escapeChar (char : CodePoint) : List Char :=
  let value := char.val
  if value = 0x22 then ['\\', '"']
  else if value = 0x5C then ['\\', '\\']
  else if value = 0x0A then ['\\', 'n']
  else if value = 0x0D then ['\\', 'r']
  else if value = 0x09 then ['\\', 't']
  else if value = 0x0C then ['\\', 'f']
  else if value = 0x08 then ['\\', 'b']
  else if 0x20 ≤ value ∧ value ≤ 0x7E then [Char.ofNat value]
  else if value < 0x10000 then unicodeEscape value
  else
    let offset := value - 0x10000
    unicodeEscape (0xD800 + offset / 0x400) ++ unicodeEscape (0xDC00 + offset % 0x400)

/-- A string with its quotes. -/
def quote (text : List CodePoint) : List Char := '"' :: (text.flatMap escapeChar ++ ['"'])

/-- The text of an integer. -/
def intText (value : Int) : List Char :=
  match value with
  | .ofNat magnitude => Nat.toDigits 10 magnitude
  | .negSucc magnitude => '-' :: Nat.toDigits 10 (magnitude + 1)

/-- The text of a float. -/
def floatText : PyFloat → List Char
  | .nan => "NaN".toList
  | .infinity => "Infinity".toList
  | .negInfinity => "-Infinity".toList
  | .finite repr => repr.text

/-- The text of a truth value. -/
def boolText (value : Bool) : List Char := if value then "true".toList else "false".toList

/-- The text of a key with its quotes. -/
def keyText : Key → List Char
  | .null => "\"null\"".toList
  | .bool value => '"' :: (boolText value ++ ['"'])
  | .int value => '"' :: (intText value ++ ['"'])
  | .float value => '"' :: (floatText value ++ ['"'])
  | .str text => quote text

mutual

/-- `json.dumps`. -/
def dumps : Value → List Char
  | .null => "null".toList
  | .bool value => boolText value
  | .int value => intText value
  | .float value => floatText value
  | .str text => quote text
  | .list items => '[' :: (dumpsItems items ++ [']'])
  | .dict entries => '{' :: (dumpsEntries entries ++ ['}'])

/-- The items of a list with their separators. -/
def dumpsItems : List Value → List Char
  | [] => []
  | [item] => dumps item
  | item :: next :: rest => dumps item ++ ", ".toList ++ dumpsItems (next :: rest)

/-- The entries of a dictionary with their separators. -/
def dumpsEntries : List (Key × Value) → List Char
  | [] => []
  | [(key, value)] => keyText key ++ ": ".toList ++ dumps value
  | (key, value) :: next :: rest =>
    keyText key ++ ": ".toList ++ dumps value ++ ", ".toList ++ dumpsEntries (next :: rest)

end

/-- `str.encode('utf-8')`. -/
def encodeUtf8 (text : List Char) : List UInt8 := text.flatMap String.utf8EncodeChar

example : dumps (.dict [(.str [0x61], .list [.int (-12), .null]), (.int 3, .str [0xE9, 0x22])]) =
    "\x7b\"a\": [-12, null], \"3\": \"\\u00e9\\\"\"\x7d".toList := by
  decide

/-! ### Every character is printable -/

/-- The printable characters of ASCII. -/
def isPrintable (char : Char) : Bool := decide (0x20 ≤ char.toNat ∧ char.toNat ≤ 0x7E)

theorem printable_unicodeEscape (value : Nat) :
    (unicodeEscape value).all isPrintable = true := by
  have digit : ∀ rest < 16, isPrintable (Nat.digitChar rest) = true := by decide
  have marks : isPrintable '\\' = true ∧ isPrintable 'u' = true := by decide
  simp only [unicodeEscape, hex4, List.all_cons, List.all_nil, Bool.and_true, Bool.and_eq_true]
  exact ⟨marks.1, marks.2, digit _ (by omega), digit _ (by omega), digit _ (by omega),
    digit _ (by omega)⟩

theorem printable_ofNat {value : Nat} (low : 0x20 ≤ value) (high : value ≤ 0x7E) :
    isPrintable (Char.ofNat value) = true := by
  have same : (Char.ofNat value).toNat = value := by
    rw [Char.ofNat, dif_pos (Or.inl (by omega))]
    rfl
  rw [isPrintable, same]
  exact decide_eq_true ⟨low, high⟩

theorem printable_escapeChar (char : CodePoint) : (escapeChar char).all isPrintable = true := by
  simp only [escapeChar]
  split_ifs with quotation backslash newline carriage tab form backspace shown basic
  iterate 7 decide
  · rw [List.all_cons, List.all_nil, Bool.and_true]
    exact printable_ofNat shown.1 shown.2
  · exact printable_unicodeEscape _
  · rw [List.all_append, printable_unicodeEscape, printable_unicodeEscape]
    rfl

theorem printable_quote (text : List CodePoint) : (quote text).all isPrintable = true := by
  have inside : (text.flatMap escapeChar).all isPrintable = true := by
    rw [List.all_flatMap, List.all_eq_true]
    exact fun char _ => printable_escapeChar char
  rw [quote, List.all_cons, List.all_append, inside]
  decide

/-- Digits are printable. -/
theorem printable_toDigits (value : Nat) : (Nat.toDigits 10 value).all isPrintable = true := by
  rw [List.all_eq_true]
  intro char member
  have digit := Char.isDigit_iff_toNat.mp
    (Nat.isDigit_of_mem_toDigits (by decide) (by decide) member)
  exact decide_eq_true ⟨le_trans (by decide) digit.1, digit.2.trans (by decide)⟩

theorem printable_intText (value : Int) : (intText value).all isPrintable = true := by
  cases value with
  | ofNat magnitude => exact printable_toDigits magnitude
  | negSucc magnitude =>
    rw [intText, List.all_cons, printable_toDigits]
    decide

/-- The characters of a float are printable. -/
theorem printable_floatText (value : PyFloat) : (floatText value).all isPrintable = true := by
  cases value with
  | nan => decide
  | infinity => decide
  | negInfinity => decide
  | finite repr =>
    have allowed : floatChars.all isPrintable = true := by decide
    exact List.all_eq_true.mpr fun char member =>
      List.all_eq_true.mp allowed char (repr.plain char member)

theorem printable_boolText (value : Bool) : (boolText value).all isPrintable = true := by
  cases value <;> decide

/-- Quotes around printable characters. -/
theorem printable_quoted {text : List Char} (printable : text.all isPrintable = true) :
    ('"' :: (text ++ ['"'])).all isPrintable = true := by
  rw [List.all_cons, List.all_append, printable]
  decide

theorem printable_keyText (key : Key) : (keyText key).all isPrintable = true := by
  cases key with
  | null => decide
  | bool value => exact printable_quoted (printable_boolText value)
  | int value => exact printable_quoted (printable_intText value)
  | float value => exact printable_quoted (printable_floatText value)
  | str text => exact printable_quote text

mutual

/-- The text of a value is printable. -/
theorem printable_dumps : ∀ value : Value, (dumps value).all isPrintable = true
  | .null => by decide
  | .bool value => printable_boolText value
  | .int value => printable_intText value
  | .float value => printable_floatText value
  | .str text => printable_quote text
  | .list items => by
    rw [dumps, List.all_cons, List.all_append, printable_dumpsItems items]
    decide
  | .dict entries => by
    rw [dumps, List.all_cons, List.all_append, printable_dumpsEntries entries]
    decide

theorem printable_dumpsItems : ∀ items : List Value,
    (dumpsItems items).all isPrintable = true
  | [] => rfl
  | [item] => by
    rw [dumpsItems]
    exact printable_dumps item
  | item :: next :: rest => by
    rw [dumpsItems, List.all_append, List.all_append, printable_dumps item,
      printable_dumpsItems (next :: rest)]
    decide

theorem printable_dumpsEntries : ∀ entries : List (Key × Value),
    (dumpsEntries entries).all isPrintable = true
  | [] => rfl
  | [(key, value)] => by
    rw [dumpsEntries, List.all_append, List.all_append, printable_keyText key,
      printable_dumps value]
    decide
  | (key, value) :: next :: rest => by
    rw [dumpsEntries, List.all_append, List.all_append, List.all_append, List.all_append,
      printable_keyText key, printable_dumps value, printable_dumpsEntries (next :: rest)]
    decide

end

/-! ### Bytes -/

/-- The bytes of a printable text are printable. -/
theorem printable_encodeUtf8 {text : List Char} (printable : text.all isPrintable = true)
    {byte : UInt8} (member : byte ∈ encodeUtf8 text) : 0x20 ≤ byte ∧ byte ≤ 0x7E := by
  obtain ⟨char, listed, encoded⟩ := List.mem_flatMap.mp member
  have bounds := of_decide_eq_true (List.all_eq_true.mp printable char listed)
  have code : char.toNat = char.val.toNat := rfl
  have single : String.utf8EncodeChar char = [char.val.toUInt8] := by
    apply String.utf8EncodeChar_eq_singleton
    rw [Char.utf8Size_eq_one_iff, UInt32.le_iff_toNat_le]
    exact (code ▸ bounds.2).trans (by decide)
  rw [single, List.mem_singleton] at encoded
  rw [encoded, UInt8.le_iff_toNat_le, UInt8.le_iff_toNat_le, UInt32.toNat_toUInt8, ← code,
    Nat.mod_eq_of_lt (by omega)]
  exact bounds

/-- No character is encoded in less than a byte. -/
theorem length_le_encodeUtf8 (text : List Char) : text.length ≤ (encodeUtf8 text).length := by
  induction text with
  | nil => exact Nat.le_refl 0
  | cons char rest inductionHypothesis =>
    rw [encodeUtf8, List.flatMap_cons, List.length_append, String.length_utf8EncodeChar,
      List.length_cons, Nat.add_comm rest.length]
    exact Nat.add_le_add char.utf8Size_pos inductionHypothesis

/-- The text of a dictionary has its braces. -/
theorem two_le_length_dumps_dict (entries : List (Key × Value)) :
    2 ≤ (dumps (.dict entries)).length := by
  rw [dumps, List.length_cons, List.length_append, List.length_singleton]
  omega

end JsonText
