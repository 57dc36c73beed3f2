/-
This file models the loop of the payload agent, `run_stdio_loop` of `agent.py`, with the
prompts and the fallback of `formatter.py` and the runner of `llama_runner.py`. The input
is given as decoded lines, and the output is the text behind the UTF-8 encoding of
standard output, which refuses surrogates. What the bindings of the model complete a
prompt to is a parameter for every line. The file settles when every health record is
answered by one line.
-/

import SmartQso.InfoField
import SmartQso.TextLines

namespace SmartQso.Payload

open JsonText TextLines

/-! ### The prompts -/

/-- `build_system_prompt`. -/
def buildSystemPrompt : List CodePoint :=
  pyText "You are SMART-QSO, a 1U CubeSat. Given health fields (TIME, MODE, " ++
    pyText "SOC, SUN, RF, PWR, QSO, CALL), write one short, human-readable " ++
    pyText "status line that begins with 'de <CALL>:' and ends with '73!' unless " ++
    pyText "MODE=SAFE. Keep <=120 ASCII bytes; no emojis; plain text."

/-- `build_user_prompt`. -/
def buildUserPrompt (health : Health) : List CodePoint :=
  pyText "CALL=" ++ health.call ++ pyText " TIME=" ++ health.timeIsoZ ++ pyText " MODE=" ++
    health.mode ++ pyText " SOC=" ++ pyInt health.soc ++ pyText " SUN=" ++ pyInt health.sun ++
    pyText " RF=" ++ pyInt health.rf ++ pyText " PWR=" ++ health.pwr ++ pyText " QSO=" ++
    pyInt health.qso

/-- `fallback_text`. -/
def fallbackText (health : Health) : List CodePoint :=
  let call := pyText "de " ++ health.call
  let soc := pyInt health.soc
  if health.mode = pyText "SAFE" ∨ health.soc < 25 then
    toAscii (call ++ pyText ": Conserving power—SOC " ++ soc ++ pyText "%.")
  else if health.sun ≠ 0 ∧ health.rf ≠ 0 then
    toAscii (call ++ pyText ": I am sunlit and operating—SOC " ++ soc ++
      pyText "%, transponder ACTIVE. 73!")
  else if health.sun ≠ 0 ∧ health.rf = 0 then
    toAscii (call ++ pyText ": Sunlit but conserving—SOC " ++ soc ++ pyText "%. RF OFF. 73!")
  else if health.sun = 0 ∧ health.rf ≠ 0 then
    toAscii (call ++ pyText ": Eclipse ops—RF ACTIVE, SOC " ++ soc ++ pyText "%. 73!")
  else
    toAscii (call ++ pyText ": Coasting in eclipse, conserving power—SOC " ++ soc ++ pyText "%.")

/-! ### The runner -/

/-- `LlamaConfig`, as far as the loop fills it in. -/
structure LlamaConfig where
  modelPath : List CodePoint
  nCtx : Int
  nGpuLayers : Int
  cacheTypeK : Option (List CodePoint)
  cacheTypeV : Option (List CodePoint)

/-- What `create_completion` returns: the choices, where there are any, with their texts. -/
structure Completion where
  choices : Option (List (Option (List CodePoint)))

/-- The characters that `str.strip` removes. -/
def isWhitespace (char : CodePoint) : Bool :=
  decide (0x09 ≤ char.val ∧ char.val ≤ 0x0D ∨ 0x1C ≤ char.val ∧ char.val ≤ 0x20 ∨
    0x2000 ≤ char.val ∧ char.val ≤ 0x200A ∨
    char.val ∈ [0x85, 0xA0, 0x1680, 0x2028, 0x2029, 0x202F, 0x205F, 0x3000])

/-- `str.strip`. -/
def stripText (text : List CodePoint) : List CodePoint :=
  (text.rdropWhile isWhitespace).dropWhile isWhitespace

/-- `generate_one_line`, where `complete` is what the bindings give for a prompt. Where an exception
is raised there is no value. -/
def generateOneLine (loaded : Bool) (complete : List CodePoint → Option Completion)
    (system user : List CodePoint) : Option (List CodePoint) :=
  if loaded then do
    let out ← complete (pyText "<|system|>\n" ++ system ++ pyText "\n<|user|>\n" ++ user ++
      pyText "\n<|assistant|>\n")
    let choice ← (out.choices.getD [none]).head?
    return stripText (choice.getD [])
  else some (pyText "I am operating nominally—sunlit ops with healthy power. 73!")

/-! ### The loop -/

/-- A line of the input, with the date on which it is read and the answers of the model. -/
structure AgentInput where
  line : List CodePoint
  nowIsoZ : List CodePoint
  complete : List CodePoint → Option Completion

/-- What a run leaves on standard output, and whether it reached the end of its input. -/
structure AgentRun where
  stdout : List Char
  finished : Bool

/-- The text that the loop composes an info field from. -/
def answerText (loaded : Bool) (health : Health) (complete : List CodePoint → Option Completion) :
    List CodePoint :=
  (generateOneLine loaded complete buildSystemPrompt (buildUserPrompt health)).getD
    (fallbackText health)

/-- Half of a pair that stands for one character in UTF-16. -/
def isSurrogate (char : CodePoint) : Bool := decide (0xD800 ≤ char.val ∧ char.val ≤ 0xDFFF)

/-- The character that a code point is. -/
def character (char : CodePoint) : Char := Char.ofNat char.val

/-- What `print` puts on standard output. A surrogate raises an exception before anything is
written. -/
def printed (text : List CodePoint) : Option (List Char) :=
  if text.any isSurrogate then none else some (text.map character ++ ['\n'])

/-- The loop of `run_stdio_loop` over the lines of its input. Of the exceptions only that of `print`
ends it. -/
def answerLines (py : PyLibrary) (loaded : Bool) : List AgentInput → AgentRun
  | [] => ⟨[], true⟩
  | input :: rest =>
    match parseHealthLine py input.nowIsoZ input.line with
    | none => answerLines py loaded rest
    | some health =>
      match printed (composeInfoField health (answerText loaded health input.complete)) with
      | none => ⟨[], false⟩
      | some line =>
        let run := answerLines py loaded rest
        ⟨line ++ run.stdout, run.finished⟩

/-- The configuration of the runner from the environment. -/
def agentConfig (py : PyLibrary) (environ : String → Option (List CodePoint)) :
    Option LlamaConfig := do
  let model := (environ "LLAMA_MODEL").getD (pyText "/models/Llama-3.2-3B-Instruct-Q4_K_M.gguf")
  let nCtx ← py.int (.str ((environ "LLAMA_CTX").getD (pyText "1024")))
  let gpuLayers ← py.int (.str ((environ "LLAMA_GPU_LAYERS").getD (pyText "0")))
  return ⟨model, nCtx, gpuLayers, environ "LLAMA_CACHE_K", environ "LLAMA_CACHE_V"⟩

/-- `run_stdio_loop`, where `load` says whether the bindings load the model of a configuration. -/
def runStdioLoop (py : PyLibrary) (environ : String → Option (List CodePoint))
    (load : LlamaConfig → Bool) (inputs : List AgentInput) : AgentRun :=
  match agentConfig py environ with
  | none => ⟨[], false⟩
  | some config => answerLines py (load config) inputs

/-! ### The answers -/

/-- The info fields that answer the health records of the input. -/
def infoFields (py : PyLibrary) (loaded : Bool) (inputs : List AgentInput) :
    List (List CodePoint) :=
  inputs.filterMap fun input => (parseHealthLine py input.nowIsoZ input.line).map fun health =>
    composeInfoField health (answerText loaded health input.complete)

/-- A character that ends a line for a reader of the output. -/
def endsLine (char : Char) : Bool := char == '\n' || char == '\r'

/-- The run reaches the end of its input, and who cuts its output at the ends of lines reads the
info fields, one in a line. -/
structure Delivers (run : AgentRun) (fields : List (List CodePoint)) : Prop where
  finished : run.finished = true
  lines : (run.stdout.splitOnP endsLine).map (List.map codePoint) = fields ++ [[]]

/-- The character can stand in a line of the output. -/
def isWritable (char : CodePoint) : Bool := !isSurrogate char && !isLineBreak char

/-- The texts of the record are writable, and the part of the answer for which there is room has
no line break. -/
structure Answerable (health : Health) (text : List CodePoint) : Prop where
  time : health.timeIsoZ.all isWritable = true
  mode : health.mode.all isWritable = true
  pwr : health.pwr.all isWritable = true
  oneLine : ((toAscii text).take (166 - fieldsLength health)).any isLineBreak = false

/-! ### What a run prints -/

theorem codePoint_character {char : CodePoint} (single : isSurrogate char = false) :
    codePoint (character char) = char := by
  have outside := of_decide_eq_false single
  have bound := char.isLt
  have valid : char.val.isValidChar := by
    unfold Nat.isValidChar
    omega
  refine Fin.ext ?_
  show (Char.ofNat char.val).toNat = char.val
  rw [Char.ofNat, dif_pos valid]
  rfl

theorem codePoints_characters {text : List CodePoint} (single : text.any isSurrogate = false) :
    (text.map character).map codePoint = text := by
  have same : ∀ char ∈ text, (codePoint ∘ character) char = id char := fun char member =>
    codePoint_character (eq_false_of_ne_true (List.any_eq_false.mp single char member))
  rw [List.map_map, List.map_congr_left same, List.map_id]

/-- A run prints the info fields before the first one that cannot be encoded, and reaches the end
of its input when there is none. -/
theorem answerLines_spec (py : PyLibrary) (loaded : Bool) (inputs : List AgentInput) :
    (answerLines py loaded inputs).stdout =
        unlines (((infoFields py loaded inputs).takeWhile fun field =>
          !field.any isSurrogate).map (List.map character)) ∧
      (answerLines py loaded inputs).finished =
        (infoFields py loaded inputs).all fun field => !field.any isSurrogate := by
  induction inputs with
  | nil => exact ⟨rfl, rfl⟩
  | cons input rest inductionHypothesis =>
    obtain ⟨stdout, finished⟩ := inductionHypothesis
    unfold answerLines infoFields
    cases read : parseHealthLine py input.nowIsoZ input.line with
    | none =>
      rw [List.filterMap_cons_none (by rw [read]; rfl)]
      exact ⟨stdout, finished⟩
    | some health =>
      rw [List.filterMap_cons_some (by rw [read]; rfl), List.all_cons]
      dsimp only
      unfold printed
      by_cases refused :
          (composeInfoField health (answerText loaded health input.complete)).any isSurrogate = true
      · rw [if_pos refused, List.takeWhile_cons_of_neg (by rw [refused]; decide), refused]
        exact ⟨rfl, rfl⟩
      · rw [if_neg refused, List.takeWhile_cons_of_pos (by simpa using refused),
          eq_false_of_ne_true refused]
        constructor
        · dsimp only
          rw [stdout]
          rfl
        · exact finished

-- A line that is no record has no answer, and the dash of the standing text is left out.
example :
    let py := smallLibrary (pyText "\x7b\x7d") []
    let inputs := ["TELEMETRY,0", "\x7b\x7d"].map fun line =>
      AgentInput.mk (pyText line) (pyText "2026-01-02Z") fun _ => none
    (answerLines py false inputs).stdout =
      "I am operating nominallysunlit ops with healthy power. 73!".toList ++
        " | T=2026-01-02Z M=IDLE SOC=50 SUN=1 RF=1 PWR=FAIR QSO=0\n".toList := by
  decide +kernel

/-! ### When every record is answered by one line -/

theorem isLineBreak_codePoint (char : Char) : isLineBreak (codePoint char) = endsLine char := by
  rw [Bool.eq_iff_iff]
  simp only [isLineBreak, endsLine, Bool.or_eq_true, beq_iff_eq, ← Char.toNat_inj]
  exact Iff.rfl

theorem endsLine_character {char : CodePoint} (single : isSurrogate char = false) :
    endsLine (character char) = isLineBreak char := by
  rw [← isLineBreak_codePoint, codePoint_character single]

theorem all_isWritable_iff (text : List CodePoint) :
    text.all isWritable = true ↔
      text.any isSurrogate = false ∧ text.any isLineBreak = false := by
  simp only [isWritable, List.all_eq_true, List.any_eq_false, Bool.and_eq_true, Bool.not_eq_true',
    Bool.not_eq_true, forall₂_and]

/-- The texts of a run stand in lines of their own exactly when they are writable. -/
theorem delivers_iff {run : AgentRun} {fields : List (List CodePoint)}
    (stdout : run.stdout = unlines ((fields.takeWhile fun field =>
      !field.any isSurrogate).map (List.map character)))
    (finished : run.finished = fields.all fun field => !field.any isSurrogate) :
    Delivers run fields ↔ ∀ field ∈ fields, field.all isWritable = true := by
  have encoded (single : ∀ field ∈ fields, field.any isSurrogate = false) :
      run.stdout = unlines (fields.map (List.map character)) := by
    rw [stdout, List.takeWhile_eq_self_iff.mpr fun field member => by
      rw [single field member]
      rfl]
  constructor
  · intro delivers field member
    have single : ∀ other ∈ fields, other.any isSurrogate = false := by
      have all := finished.symm.trans delivers.finished
      rw [List.all_eq_true] at all
      exact fun other inside => Bool.not_eq_true' _ |>.mp (all other inside)
    refine (all_isWritable_iff field).mpr ⟨single field member, List.any_eq_false.mpr ?_⟩
    have isLine := List.mem_append_left [[]] member
    rw [← delivers.lines] at isLine
    obtain ⟨piece, cut, rfl⟩ := List.mem_map.mp isLine
    intro point inside
    obtain ⟨char, isChar, rfl⟩ := List.mem_map.mp inside
    rw [isLineBreak_codePoint, oneLine_of_mem_splitOnP cut char isChar]
    exact Bool.false_ne_true
  · intro writable
    have plain := fun field member => (all_isWritable_iff field).mp (writable field member)
    constructor
    · rw [finished, List.all_eq_true]
      intro field member
      rw [(plain field member).1]
      rfl
    · have oneLine : ∀ line ∈ fields.map (List.map character), ∀ char ∈ line,
          endsLine char = false := by
        intro line inside char member
        obtain ⟨field, isField, rfl⟩ := List.mem_map.mp inside
        obtain ⟨point, isPoint, rfl⟩ := List.mem_map.mp member
        rw [endsLine_character (eq_false_of_ne_true
          (List.any_eq_false.mp (plain field isField).1 point isPoint))]
        exact eq_false_of_ne_true (List.any_eq_false.mp (plain field isField).2 point isPoint)
      have decoded : ∀ field ∈ fields,
          (List.map codePoint ∘ List.map character) field = id field :=
        fun field member => codePoints_characters (plain field member).1
      rw [encoded fun field member => (plain field member).1, splitOnP_unlines rfl oneLine,
        List.map_append, List.map_map, List.map_congr_left decoded, List.map_id]
      rfl

/-- Whatever is true of all printable characters is true of the telemetry of a record exactly when
it is true of the texts in it. -/
theorem all_buildTail_iff {property : CodePoint → Bool}
    (printable : ∀ char, isPrintable char = true → property (codePoint char) = true)
    (health : Health) :
    (buildTail health).all property = true ↔
      health.timeIsoZ.all property = true ∧ health.mode.all property = true ∧
        health.pwr.all property = true := by
  have written : ∀ text : List Char, text.all isPrintable = true →
      (text.map codePoint).all property = true := by
    intro text plain
    rw [List.all_map, List.all_eq_true]
    exact fun char member => printable char (List.all_eq_true.mp plain char member)
  have digits : ∀ value, (pyInt value).all property = true :=
    fun value => written _ (printable_intText value)
  have time : (pyText "T=").all property = true := written _ (by decide)
  have mode : (pyText " M=").all property = true := written _ (by decide)
  have soc : (pyText " SOC=").all property = true := written _ (by decide)
  have sun : (pyText " SUN=").all property = true := written _ (by decide)
  have rf : (pyText " RF=").all property = true := written _ (by decide)
  have pwr : (pyText " PWR=").all property = true := written _ (by decide)
  have qso : (pyText " QSO=").all property = true := written _ (by decide)
  simp only [buildTail, List.all_append, digits, time, mode, soc, sun, rf, pwr, qso,
    Bool.true_and, Bool.and_true, Bool.and_eq_true, and_assoc]

theorem isWritable_codePoint {char : Char} (printable : isPrintable char = true) :
    isWritable (codePoint char) = true := by
  have range := of_decide_eq_true printable
  have value : (codePoint char).val = char.toNat := rfl
  simp only [isWritable, isSurrogate, isLineBreak, value, Bool.and_eq_true, Bool.not_eq_true',
    decide_eq_false_iff_not, Bool.or_eq_false_iff, beq_eq_false_iff_ne]
  omega

/-- Only ASCII is left of an answer. -/
theorem any_isSurrogate_toAscii (text : List CodePoint) (limit : Nat) :
    ((toAscii text).take limit).any isSurrogate = false := by
  rw [List.any_eq_false]
  intro char member surrogate
  have low := List.all_eq_true.mp (all_ascii_toAscii text limit) char member
  have high := of_decide_eq_true surrogate
  have low := of_decide_eq_true low
  have small : char.val < 0x80 := low
  omega

theorem all_isWritable_composeInfoField_iff {py : PyLibrary} {nowIsoZ line : List CodePoint}
    {health : Health} (read : parseHealthLine py nowIsoZ line = some health)
    (text : List CodePoint) :
    (composeInfoField health text).all isWritable = true ↔ Answerable health text := by
  obtain ⟨sun, rf⟩ := parseHealthLine_flags read
  have separator : (pyText " | ").all isWritable = true := by decide
  rw [composeInfoField_eq sun rf, List.all_append, List.all_append, separator, Bool.and_true,
    Bool.and_eq_true, all_buildTail_iff fun _ => isWritable_codePoint, all_isWritable_iff,
    and_iff_right (any_isSurrogate_toAscii text _)]
  constructor
  · rintro ⟨oneLine, time, mode, pwr⟩
    exact ⟨time, mode, pwr, oneLine⟩
  · intro answerable
    exact ⟨answerable.oneLine, answerable.time, answerable.mode, answerable.pwr⟩

/-- Whether the bindings load the model that the environment asks for. -/
def modelLoaded (py : PyLibrary) (environ : String → Option (List CodePoint))
    (load : LlamaConfig → Bool) : Bool := (agentConfig py environ).any load

end SmartQso.Payload
