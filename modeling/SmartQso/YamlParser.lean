/-
This file models `yaml_parser.c`, a parser that goes through a text line by line and
keeps the path of the keys above the current line in one buffer. A text is a list of
characters, one for each byte; a string ends at a null character. The callback is
registered, and its calls are recorded. The members of the context that nothing reads
are left out.
-/

import SmartQso.DottedPath
import SmartQso.TextLines

namespace SmartQso

open TextLines

/-! ### Constants and state -/

/-- `YAML_MAX_LINE_LENGTH`. -/
def yamlMaxLineLength : Nat := 256

/-- `YAML_MAX_KEY_LENGTH`. -/
def yamlMaxKeyLength : Nat := 64

/-- `YAML_MAX_VALUE_LENGTH`. -/
def yamlMaxValueLength : Nat := 128

/-- `YAML_MAX_DEPTH`. -/
def yamlMaxDepth : Nat := 8

/-- `yaml_error_t`. -/
inductive YamlError
  | ok
  | invalidParam
  | parse
  | memory
  | depth
  | syntaxError
  deriving DecidableEq

/-- `yaml_context_t`, with the paths and values the callback was called with. -/
structure YamlContext where
  indentLevel : UInt8
  path : List Char
  lineNumber : UInt32
  lastError : YamlError
  calls : List (List Char × List Char)
  deriving DecidableEq

/-- `yaml_parser_init`. -/
def yamlParserInit : YamlContext := ⟨0, [], 0, .ok, []⟩

/-! ### Lines -/

/-- `yaml_is_comment_or_empty`. -/
def yamlIsCommentOrEmpty (line : List Char) : Bool :=
  match line.dropWhile isBlank with
  | [] => true
  | char :: _ => char == '\n' || char == '\r' || char == '#'

/-- `yaml_count_indent`. -/
def yamlCountIndent (line : List Char) : UInt8 :=
  (line.takeWhile isBlank).foldl
    (fun indent char => if char = '\t' then indent + 2 else indent + 1) 0 / 2

/-- The last step of `yaml_extract_key_value`: a pair of quotes around a value is removed. -/
def yamlRemoveQuotes (value : List Char) : List Char :=
  if 2 ≤ value.length ∧ (value.head? = some '"' ∧ value.getLast? = some '"' ∨
      value.head? = some '\x27' ∧ value.getLast? = some '\x27') then
    value.tail.dropLast
  else value

/-- `yaml_extract_key_value`. -/
def yamlExtractKeyValue (line : List Char) : Except YamlError (List Char × List Char) :=
  let text := line.dropWhile isBlank
  match text.dropWhile (· != ':') with
  | [] => .error .syntaxError
  | _ :: afterSeparator =>
    let key := (text.takeWhile (· != ':')).take (yamlMaxKeyLength - 1)
    let value := (afterSeparator.dropWhile (· == ' ')).take (yamlMaxValueLength - 1)
    .ok (trim key, yamlRemoveQuotes (trim value))

/-- `yaml_update_path`. -/
def yamlUpdatePath (ctx : YamlContext) (newIndent : UInt8) : YamlContext :=
  let path :=
    if newIndent < ctx.indentLevel then
      DottedPath.shorten '.' (ctx.indentLevel - newIndent).toNat ctx.path
    else ctx.path
  { ctx with path := path, indentLevel := newIndent }

/-- The characters of a path for which its buffer has room. -/
def yamlPathRoom : Nat := yamlMaxKeyLength * yamlMaxDepth - 1

/-- `yaml_parse_line`. -/
def yamlParseLine (ctx : YamlContext) (buffer : List Char) : YamlContext × YamlError :=
  let line := buffer.takeWhile (· != '\x00')
  if yamlIsCommentOrEmpty line then (ctx, .ok)
  else
    let indent := yamlCountIndent line
    let placed := yamlUpdatePath ctx indent
    match yamlExtractKeyValue line with
    | .error failed => (placed, failed)
    | .ok (key, value) =>
      let fullPath := (DottedPath.extend '.' placed.path key).take yamlPathRoom
      if value = [] then ({ placed with path := fullPath, indentLevel := indent }, .ok)
      else ({ placed with calls := placed.calls ++ [(fullPath, value)] }, .ok)

/-! ### Texts -/

/-- The loop of `yaml_parse_string` over what stands between the ends of lines. -/
def yamlParseLines (ctx : YamlContext) : List (List Char) → YamlContext × YamlError
  | [] => (ctx, .ok)
  | line :: rest =>
    if line = [] then yamlParseLines ctx rest
    else
      match yamlParseLine { ctx with lineNumber := ctx.lineNumber + 1 }
          (line.take (yamlMaxLineLength - 1)) with
      | (next, .ok) => yamlParseLines next rest
      | (next, failed) => ({ next with lastError := failed }, failed)

/-- `yaml_parse_string`. Both characters of a line end of two end a line, and there is nothing
in between. -/
def yamlParseString (ctx : YamlContext) (text : List Char) : YamlContext × YamlError :=
  if text = [] then (ctx, .invalidParam)
  else
    yamlParseLines { ctx with indentLevel := 0, path := [], lineNumber := 0 }
      (text.splitOnP fun char => char == '\n' || char == '\r')

example : (yamlParseString yamlParserInit "power:\n  soc:\n    low: 25\n".toList).1.calls =
    [("power.soc.low".toList, "25".toList)] := by
  decide

end SmartQso
