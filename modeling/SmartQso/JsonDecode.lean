/-
This file models `json.loads` of the Python library on a text: the scanner of its
values, strings with their escapes, numbers, arrays and objects, and the constants
that are not JSON. How deep the interpreter recurses, how many digits it turns into
an integer and what it makes of the text of a float are parameters. The file proves
on which characters a text cannot start.
-/

import SmartQso.JsonText

namespace JsonText

/-! ### What the interpreter decides -/

/-- The recursion limit, the limit on the digits of an integer, where zero is none, and the
conversion of the text of a float. -/
structure Interpreter where
  recursionLimit : Nat
  maxDigits : Nat
  float : List CodePoint → PyFloat

/-! ### Characters -/

/-- The whitespace of JSON. -/
def isSpace (char : CodePoint) : Bool :=
  decide (char.val = 0x20 ∨ char.val = 0x09 ∨ char.val = 0x0A ∨ char.val = 0x0D)

/-- A decimal digit of ASCII. -/
def isDigit (char : CodePoint) : Bool := decide (0x30 ≤ char.val ∧ char.val ≤ 0x39)

def skipSpace (text : List CodePoint) : List CodePoint := text.dropWhile isSpace

/-- `chr`, for the numbers that have a character. -/
def chr (value : Nat) : CodePoint := ⟨value % 0x110000, Nat.mod_lt _ (by decide)⟩

/-- The value of a hexadecimal digit. -/
def hexDigit? (char : CodePoint) : Option Nat :=
  let value := char.val
  if 0x30 ≤ value ∧ value ≤ 0x39 then some (value - 0x30)
  else if 0x61 ≤ value ∧ value ≤ 0x66 then some (value - 0x61 + 10)
  else if 0x41 ≤ value ∧ value ≤ 0x46 then some (value - 0x41 + 10)
  else none

/-! ### Strings -/

/-- Four hexadecimal digits and what follows them. -/
def scanHex4 (text : List CodePoint) : Option (Nat × List CodePoint) := do
  let digits ← (text.take 4).mapM hexDigit?
  if digits.length = 4 then
    some (digits.foldl (fun value digit => 0x10 * value + digit) 0, text.drop 4)
  else none

/-- The escape of a number, behind its `u`. A high surrogate takes the escape of a low one with
it. -/
def scanUnicode (text : List CodePoint) : Option (CodePoint × List CodePoint) := do
  let (unit, after) ← scanHex4 text
  if 0xD800 ≤ unit ∧ unit ≤ 0xDBFF ∧ (after.take 2).map Fin.val = [0x5C, 0x75] then
    let (low, behind) ← scanHex4 (after.drop 2)
    if 0xDC00 ≤ low ∧ low ≤ 0xDFFF then
      some (chr (0x10000 + 0x400 * (unit - 0xD800) + (low - 0xDC00)), behind)
    else some (chr unit, after)
  else some (chr unit, after)

/-- The character that a letter behind a backslash stands for. -/
def simpleEscape? (letter : CodePoint) : Option CodePoint :=
  if letter.val = 0x22 ∨ letter.val = 0x5C ∨ letter.val = 0x2F then some letter
  else if letter.val = 0x62 then some (chr 0x08)
  else if letter.val = 0x66 then some (chr 0x0C)
  else if letter.val = 0x6E then some (chr 0x0A)
  else if letter.val = 0x72 then some (chr 0x0D)
  else if letter.val = 0x74 then some (chr 0x09)
  else none

/-- An escape, behind its backslash. -/
def scanEscape : List CodePoint → Option (CodePoint × List CodePoint)
  | [] => none
  | letter :: after =>
    if letter.val = 0x75 then scanUnicode after
    else (simpleEscape? letter).map fun char => (char, after)

/-- A string, behind its quotation mark. Each round takes a character, so as many rounds as there
are characters are enough. -/
def scanString : Nat → List CodePoint → Option (List CodePoint × List CodePoint)
  | 0, _ => none
  | _ + 1, [] => none
  | rounds + 1, char :: rest =>
    if char.val = 0x22 then some ([], rest)
    else if char.val = 0x5C then do
      let (decoded, after) ← scanEscape rest
      let (others, behind) ← scanString rounds after
      some (decoded :: others, behind)
    -- A control character has to be escaped.
    else if char.val < 0x20 then none
    else do
      let (others, behind) ← scanString rounds rest
      some (char :: others, behind)

/-! ### Numbers -/

/-- The digits of an integer without its sign: no zero comes before another digit. -/
def scanInteger : List CodePoint → Option (List CodePoint × List CodePoint)
  | [] => none
  | first :: rest =>
    if first.val = 0x30 then some ([first], rest)
    else if isDigit first then
      some (first :: rest.takeWhile isDigit, rest.dropWhile isDigit)
    else none

/-- A point with digits behind it, if there are any. -/
def scanFraction (text : List CodePoint) : List CodePoint × List CodePoint :=
  match text with
  | [] => ([], [])
  | point :: rest =>
    if point.val = 0x2E ∧ rest.takeWhile isDigit ≠ [] then
      (point :: rest.takeWhile isDigit, rest.dropWhile isDigit)
    else ([], text)

/-- The sign of an exponent, if there is one. -/
def scanSign (text : List CodePoint) : List CodePoint × List CodePoint :=
  match text with
  | [] => ([], [])
  | sign :: rest =>
    if sign.val = 0x2B ∨ sign.val = 0x2D then ([sign], rest) else ([], text)

/-- An exponent, if there is one. -/
def scanExponent (text : List CodePoint) : List CodePoint × List CodePoint :=
  match text with
  | [] => ([], [])
  | mark :: rest =>
    let (sign, digits) := scanSign rest
    if (mark.val = 0x65 ∨ mark.val = 0x45) ∧ digits.takeWhile isDigit ≠ [] then
      (mark :: sign ++ digits.takeWhile isDigit, digits.dropWhile isDigit)
    else ([], text)

/-- The value of decimal digits. -/
def decimal (digits : List CodePoint) : Nat :=
  digits.foldl (fun value digit => 10 * value + (digit.val - 0x30)) 0

/-- A number: with a fraction or an exponent a float, else an integer. -/
def scanNumber (py : Interpreter) (text : List CodePoint) :
    Option (Value × List CodePoint) := do
  let negative := text.head?.map Fin.val = some 0x2D
  let magnitude := if negative then text.drop 1 else text
  let (digits, afterInteger) ← scanInteger magnitude
  let (fraction, afterFraction) := scanFraction afterInteger
  let (exponent, after) := scanExponent afterFraction
  if fraction = [] ∧ exponent = [] then
    if py.maxDigits ≠ 0 ∧ digits.length > py.maxDigits then none
    else
      let value : Int := decimal digits
      some (.int (if negative then -value else value), after)
  else
    let sign := if negative then text.take 1 else []
    some (.float (py.float (sign ++ digits ++ fraction ++ exponent)), after)

/-! ### Values -/

/-- A constant. -/
def scanConstant (word : List Char) (value : Value) (text : List CodePoint) :
    Option (Value × List CodePoint) :=
  if (text.take word.length).map Fin.val = word.map Char.toNat then
    some (value, text.drop word.length)
  else none

section

variable (scan : List CodePoint → Option (Value × List CodePoint))

/-- The items of an array up to its bracket, each of them scanned by `scan`. -/
def scanItems : Nat → List CodePoint → Option (List Value × List CodePoint)
  | 0, _ => none
  | rounds + 1, text => do
    let (value, after) ← scan text
    let mark := (skipSpace after).head?.map Fin.val
    let rest := (skipSpace after).drop 1
    if mark = some 0x5D then some ([value], rest)
    else if mark = some 0x2C then
      let (others, behind) ← scanItems rounds (skipSpace rest)
      some (value :: others, behind)
    else none

/-- An array, behind its bracket. -/
def scanArray (text : List CodePoint) : Option (Value × List CodePoint) :=
  if (skipSpace text).head?.map Fin.val = some 0x5D then
    some (.list [], (skipSpace text).drop 1)
  else (scanItems scan text.length (skipSpace text)).map fun (items, after) => (.list items, after)

/-- Assign to a key of a dictionary: a key that is there keeps its place. -/
def assignKey : List (List CodePoint × Value) → List CodePoint → Value →
    List (List CodePoint × Value)
  | [], key, value => [(key, value)]
  | (other, old) :: rest, key, value =>
    if other = key then (key, value) :: rest else (other, old) :: assignKey rest key value

/-- `dict` of pairs. -/
def dictOf (pairs : List (List CodePoint × Value)) : Value :=
  let entries := pairs.foldl (fun entries pair => assignKey entries pair.1 pair.2) []
  .dict (entries.map fun entry => (.str entry.1, entry.2))

/-- The pairs of an object up to its brace, from the quotation mark of a key on. -/
def scanPairs : Nat → List CodePoint →
    Option (List (List CodePoint × Value) × List CodePoint)
  | 0, _ => none
  | rounds + 1, text => do
    if text.head?.map Fin.val = some 0x22 then
      let (key, afterKey) ← scanString text.length (text.drop 1)
      if (skipSpace afterKey).head?.map Fin.val = some 0x3A then
        let (value, after) ← scan (skipSpace ((skipSpace afterKey).drop 1))
        let mark := (skipSpace after).head?.map Fin.val
        let rest := (skipSpace after).drop 1
        if mark = some 0x7D then some ([(key, value)], rest)
        else if mark = some 0x2C then
          let (others, behind) ← scanPairs rounds (skipSpace rest)
          some ((key, value) :: others, behind)
        else none
      else none
    else none

/-- An object, behind its brace. -/
def scanObject (text : List CodePoint) : Option (Value × List CodePoint) :=
  if (skipSpace text).head?.map Fin.val = some 0x7D then
    some (.dict [], (skipSpace text).drop 1)
  else (scanPairs scan text.length (skipSpace text)).map fun (pairs, after) => (dictOf pairs, after)

end

/-- `scan_once`, as deep as the interpreter still recurses. -/
def scanOnce (py : Interpreter) : Nat → List CodePoint → Option (Value × List CodePoint)
  | 0, _ => none
  | _ + 1, [] => none
  | depth + 1, char :: rest =>
    if char.val = 0x22 then
      (scanString rest.length rest).map fun (string, after) => (.str string, after)
    else if char.val = 0x7B then scanObject (scanOnce py depth) rest
    else if char.val = 0x5B then scanArray (scanOnce py depth) rest
    else
      let text := char :: rest
      scanConstant "null".toList .null text <|>
        scanConstant "true".toList (.bool true) text <|>
        scanConstant "false".toList (.bool false) text <|>
        scanConstant "NaN".toList (.float .nan) text <|>
        scanConstant "Infinity".toList (.float .infinity) text <|>
        scanConstant "-Infinity".toList (.float .negInfinity) text <|>
        scanNumber py text

/-- `json.loads` of a string: one value with space around it, and no byte order mark. -/
def loads (py : Interpreter) (text : List CodePoint) : Option Value :=
  if text.head?.map Fin.val = some 0xFEFF then none
  else
    match scanOnce py py.recursionLimit (skipSpace text) with
    | some (value, after) => if skipSpace after = [] then some value else none
    | none => none

-- The second value of a key takes the place of the first one, and a high surrogate joins a low one.
example :
    let py : Interpreter := ⟨1000, 4300, fun _ => .nan⟩
    let text := "\n\x7b\"mode\": \"a\", \"soc\": [-7, 1.5, null], \"mode\": \"\\ud83d\\ude00\"\x7d "
    (loads py (text.toList.map fun char => chr char.toNat)).map dumps =
      some "\x7b\"mode\": \"\\ud83d\\ude00\", \"soc\": [-7, NaN, null]\x7d".toList := by
  decide +kernel

/-! ### Where a text cannot start -/

/-- The characters that the scanner takes for the start of a value. -/
def startsValue (char : CodePoint) : Bool :=
  decide (char.val = 0x22 ∨ char.val = 0x7B ∨ char.val = 0x5B ∨ char.val = 0x6E ∨
    char.val = 0x74 ∨ char.val = 0x66 ∨ char.val = 0x4E ∨ char.val = 0x49 ∨ char.val = 0x2D) ||
  isDigit char

/-- A constant is found only behind its first letter. -/
theorem scanConstant_none {letter : Char} {char : CodePoint} (other : char.val ≠ letter.toNat)
    (letters : List Char) (value : Value) (rest : List CodePoint) :
    scanConstant (letter :: letters) value (char :: rest) = none := by
  unfold scanConstant
  rw [if_neg]
  rw [List.length_cons, List.take_succ_cons, List.map_cons, List.map_cons]
  exact fun same => other (List.cons.inj same).1

theorem scanInteger_none {char : CodePoint} (digit : isDigit char = false)
    (rest : List CodePoint) : scanInteger (char :: rest) = none := by
  have zero : char.val ≠ 0x30 := by
    rintro zero
    rw [isDigit, zero] at digit
    exact absurd digit (by decide)
  rw [scanInteger, if_neg zero, digit, if_neg Bool.false_ne_true]

/-- A number starts with its sign or with a digit. -/
theorem scanNumber_none (py : Interpreter) {char : CodePoint} (sign : char.val ≠ 0x2D)
    (digit : isDigit char = false) (rest : List CodePoint) :
    scanNumber py (char :: rest) = none := by
  have negative : ¬ (char :: rest).head?.map Fin.val = some 0x2D := by
    rw [List.head?_cons, Option.map_some]
    exact fun same => sign (Option.some.inj same)
  unfold scanNumber
  simp only [if_neg negative, scanInteger_none digit rest, Option.bind_eq_bind, Option.bind_none]

theorem scanOnce_none (py : Interpreter) {char : CodePoint} (start : startsValue char = false)
    (depth : Nat) (rest : List CodePoint) : scanOnce py depth (char :: rest) = none := by
  cases depth with
  | zero => rfl
  | succ depth =>
    obtain ⟨marks, digit⟩ := Bool.or_eq_false_iff.mp start
    have marks := of_decide_eq_false marks
    simp only [not_or] at marks
    obtain ⟨string, object, array, letterN, letterT, letterF, nan, infinity, sign⟩ := marks
    have noNull : scanConstant "null".toList .null (char :: rest) = none :=
      @scanConstant_none 'n' char letterN _ _ rest
    have noTrue : scanConstant "true".toList (.bool true) (char :: rest) = none :=
      @scanConstant_none 't' char letterT _ _ rest
    have noFalse : scanConstant "false".toList (.bool false) (char :: rest) = none :=
      @scanConstant_none 'f' char letterF _ _ rest
    have noNan : scanConstant "NaN".toList (.float .nan) (char :: rest) = none :=
      @scanConstant_none 'N' char nan _ _ rest
    have noInfinity : scanConstant "Infinity".toList (.float .infinity) (char :: rest) = none :=
      @scanConstant_none 'I' char infinity _ _ rest
    have noMinus : scanConstant "-Infinity".toList (.float .negInfinity) (char :: rest) = none :=
      @scanConstant_none '-' char sign _ _ rest
    rw [scanOnce, if_neg string, if_neg object, if_neg array]
    dsimp only
    rw [noNull, noTrue, noFalse, noNan, noInfinity, noMinus, scanNumber_none py sign digit]
    rfl

/-- A text whose first character starts no value is not decoded. -/
theorem loads_none (py : Interpreter) {char : CodePoint} (space : isSpace char = false)
    (start : startsValue char = false) (rest : List CodePoint) :
    loads py (char :: rest) = none := by
  have skipped : skipSpace (char :: rest) = char :: rest := by
    rw [skipSpace, List.dropWhile_cons, space, if_neg Bool.false_ne_true]
  unfold loads
  split
  · rfl
  · rw [skipped, scanOnce_none py start]

end JsonText
