/-
This file models how `tools/fl_update_builder.py` writes the frames of an update: one
file for each frame, and one file with all of them as hexadecimal text. A directory gives
what is in the file of a name. Files can be opened and written, and a frame that cannot
be serialized ends the writing. The file proves that the update can be put together again
from either: in the order of their names the files of the frames hold the update, and the
hexadecimal text is read back to the same bytes.
-/

import SmartQso.FlUpdateFrames
import SmartQso.TextLines

namespace SmartQso.Tools

open Ground TextLines

/-! ### The files of the frames -/

/-- The bytes of the file under a name, where there is one. -/
abbrev Directory := List Char → Option (List UInt8)

/-- The format `03d`. -/
def formatNumber3 (value : Nat) : List Char :=
  let digits := Nat.toDigits 10 value
  List.replicate (3 - digits.length) '0' ++ digits

/-- The name of the file of a frame. -/
def frameFilename (start : List Char) (frame : FLUpdateFrame) : List Char :=
  start ++ '_' :: (formatNumber3 frame.seqNum ++ ("_of_".toList ++
    formatNumber3 frame.totalFrames ++ ".bin".toList))

/-- `write_frames_to_file`: the directory that is left, and the paths if it returns them. -/
def writeFramesToFile (start : List Char) :
    Directory → List FLUpdateFrame → Directory × Option (List (List Char))
  | directory, [] => (directory, some [])
  | directory, frame :: rest =>
    let filename := frameFilename start frame
    match frame.toBytes with
    | none =>
      -- The file is empty once it is open.
      (Function.update directory filename (some []), none)
    | some bytes =>
      let written := writeFramesToFile start (Function.update directory filename (some bytes)) rest
      (written.1, written.2.map fun paths => filename :: paths)

/-! ### The file of hexadecimal text -/

/-- `FLUpdateFrame.to_hex`. -/
def FLUpdateFrame.toHex (frame : FLUpdateFrame) : Option (List Char) :=
  frame.toBytes.map fun bytes => (hexString bytes).map Char.toUpper

/-- The line before the text of a frame. -/
def frameComment (frame : FLUpdateFrame) : List Char :=
  "# Frame ".toList ++ Nat.toDigits 10 frame.seqNum ++ '/' :: Nat.toDigits 10 frame.totalFrames

/-- `write_hex_file`: the text in the file, and whether it is complete. -/
def writeHexFile : List FLUpdateFrame → List Char × Bool
  | [] => ([], true)
  | frame :: rest =>
    let comment := frameComment frame ++ ['\n']
    match frame.toHex with
    | none => (comment, false)
    | some hex =>
      let written := writeHexFile rest
      (comment ++ hex ++ '\n' :: '\n' :: written.1, written.2)

/-- Whether a line stands for the bytes of a frame. -/
def isFrameLine (line : List Char) : Bool := line.head?.any (· != '#')

/-- The bytes of the frames in a file of hexadecimal text. -/
def readHexFile (text : List Char) : Option (List (List UInt8)) :=
  ((text.splitOnP (· == '\n')).filter isFrameLine).mapM fun line => (fromHex line).toOption

example : writeHexFile [chunkFrame 2 [0xAB] 0, chunkFrame 2 [] 1] =
    (("# Frame 1/2\n4C46020100020071E50100AB\n\n" ++
      "# Frame 2/2\n4C460202000200FFFF0000\n\n").toList, true) := by
  decide +kernel

/-! ### The order of the names -/

/-- Of texts of one length the first difference decides, whatever comes behind them. -/
theorem append_lt_append {first second : List Char} (less : first < second)
    (same : first.length = second.length) (after other : List Char) :
    first ++ after < second ++ other := by
  induction first generalizing second with
  | nil =>
    cases second with
    | nil => exact absurd less (List.not_lt_nil _)
    | cons char rest => cases same
  | cons char rest inductionHypothesis =>
    cases second with
    | nil => cases same
    | cons head tail =>
      rw [List.cons_lt_cons_iff] at less
      rw [List.cons_append, List.cons_append, List.cons_lt_cons_iff]
      obtain smaller | ⟨rfl, less⟩ := less
      · exact Or.inl smaller
      · exact Or.inr ⟨rfl, inductionHypothesis less (Nat.succ.inj same)⟩

/-- Up to 255 three digits are enough, and the texts have the order of the numbers. -/
theorem formatNumber3_next : ∀ value < 256, (formatNumber3 value).length = 3 ∧
    formatNumber3 value < formatNumber3 (value + 1) := by
  decide +kernel

theorem formatNumber3_lt {first second : Nat} (less : first < second) (bound : second < 256) :
    formatNumber3 first < formatNumber3 second := by
  induction second, less using Nat.le_induction with
  | base => exact (formatNumber3_next first (Nat.lt_of_succ_lt bound)).2
  | succ second _ inductionHypothesis =>
    have before : second < 256 := Nat.lt_of_succ_lt bound
    exact List.lt_trans (inductionHypothesis before) (formatNumber3_next second before).2

/-- The files of an update have their names in the order of the numbers. -/
theorem frameFilename_lt (start : List Char) {first second : FLUpdateFrame}
    (less : first.seqNum < second.seqNum) (bound : second.seqNum < 256) :
    frameFilename start first < frameFilename start second := by
  have width : ∀ value < 256, (formatNumber3 value).length = 3 :=
    fun value small => (formatNumber3_next value small).1
  have same : (formatNumber3 first.seqNum).length = (formatNumber3 second.seqNum).length := by
    rw [width _ (Nat.lt_trans less bound), width _ bound]
  exact List.append_left_lt (List.cons_lt_cons_self.mpr
    (append_lt_append (formatNumber3_lt less bound) same _ _))

/-! ### What is written -/

/-- Frames that can be serialized to files of different names are written, and nothing else. -/
theorem writeFramesToFile_spec (start : List Char) {frames : List FLUpdateFrame}
    {bytes : FLUpdateFrame → List UInt8}
    (serialized : ∀ frame ∈ frames, frame.toBytes = some (bytes frame))
    (different : (frames.map (frameFilename start)).Nodup) (directory : Directory) :
    (writeFramesToFile start directory frames).2 = some (frames.map (frameFilename start)) ∧
      (∀ frame ∈ frames, (writeFramesToFile start directory frames).1 (frameFilename start frame) =
        some (bytes frame)) ∧
      ∀ name, name ∉ frames.map (frameFilename start) →
        (writeFramesToFile start directory frames).1 name = directory name := by
  induction frames generalizing directory with
  | nil => exact ⟨rfl, List.forall_mem_nil _, fun name _ => rfl⟩
  | cons frame rest inductionHypothesis =>
    rw [List.forall_mem_cons] at serialized
    rw [List.map_cons, List.nodup_cons] at different
    obtain ⟨returned, stored, others⟩ := inductionHypothesis serialized.2 different.2
      (Function.update directory (frameFilename start frame) (some (bytes frame)))
    rw [writeFramesToFile, serialized.1]
    refine ⟨?_, ?_, ?_⟩
    · dsimp only
      rw [returned]
      rfl
    · rw [List.forall_mem_cons]
      refine ⟨?_, stored⟩
      dsimp only
      rw [others _ different.1, Function.update_self]
    · intro name absent
      rw [List.map_cons, List.mem_cons, not_or] at absent
      dsimp only
      rw [others name absent.2, Function.update_of_ne absent.1]

/-- The text holds three lines for each frame, of which the last one is empty. -/
theorem writeHexFile_spec {frames : List FLUpdateFrame} {bytes : FLUpdateFrame → List UInt8}
    (serialized : ∀ frame ∈ frames, frame.toBytes = some (bytes frame)) :
    writeHexFile frames = (unlines (frames.flatMap fun frame =>
      [frameComment frame, (hexString (bytes frame)).map Char.toUpper, []]), true) := by
  induction frames with
  | nil => rfl
  | cons frame rest inductionHypothesis =>
    rw [List.forall_mem_cons] at serialized
    rw [writeHexFile, FLUpdateFrame.toHex, serialized.1, inductionHypothesis serialized.2]
    simp [unlines]

/-! ### What is read back -/

/-- A digit is read as its value in capital letters too, and stands in a line for a frame. -/
theorem hexDigit_toUpper : ∀ value < 16, hexDigit (hexChar value).toUpper = some value ∧
    isAsciiSpace (hexChar value).toUpper = false ∧ (hexChar value).toUpper.toNat < 128 ∧
      (hexChar value).toUpper ≠ '#' ∧ (hexChar value).toUpper ≠ '\n' := by
  decide

theorem mem_hexString_toUpper {bytes : List UInt8} {char : Char}
    (member : char ∈ (hexString bytes).map Char.toUpper) :
    ∃ value < 16, char = (hexChar value).toUpper := by
  obtain ⟨digit, isDigit, rfl⟩ := List.mem_map.mp member
  obtain ⟨value, bound, rfl⟩ := mem_hexString isDigit
  exact ⟨value, bound, rfl⟩

theorem fromHexAt_toUpper (bytes : List UInt8) (position : Nat) :
    fromHexAt position ((hexString bytes).map Char.toUpper) = .ok bytes := by
  induction bytes generalizing position with
  | nil => rfl
  | cons byte rest inductionHypothesis =>
    have bound := byte.toNat_lt
    obtain ⟨high, space, _⟩ := hexDigit_toUpper (byte.toNat / 16) (by omega)
    obtain ⟨low, _⟩ := hexDigit_toUpper (byte.toNat % 16) (Nat.mod_lt _ (by decide))
    have whole : UInt8.ofNat (16 * (byte.toNat / 16) + byte.toNat % 16) = byte := by
      rw [Nat.div_add_mod, UInt8.ofNat_toNat]
    show fromHexAt position ((hexChar _).toUpper :: (hexChar _).toUpper ::
      (hexString rest).map Char.toUpper) = _
    rw [fromHexAt, space, if_neg Bool.false_ne_true, high]
    dsimp only
    rw [low, inductionHypothesis]
    exact congrArg (fun char => Except.ok (char :: rest)) whole

theorem fromHex_toUpper (bytes : List UInt8) :
    fromHex ((hexString bytes).map Char.toUpper) = .ok bytes := by
  have ascii : ((hexString bytes).map Char.toUpper).findIdx?
      (fun char => decide (char.toNat ≥ 128)) = none := by
    refine List.findIdx?_eq_none_iff.mpr fun char member => ?_
    obtain ⟨value, bound, rfl⟩ := mem_hexString_toUpper member
    exact decide_eq_false (Nat.not_le_of_lt (hexDigit_toUpper value bound).2.2.1)
  rw [fromHex, ascii]
  exact fromHexAt_toUpper bytes 0

theorem isFrameLine_hexString {bytes : List UInt8} (some : bytes ≠ []) :
    isFrameLine ((hexString bytes).map Char.toUpper) = true := by
  cases bytes with
  | nil => exact absurd rfl some
  | cons byte rest =>
    have bound := byte.toNat_lt
    have noComment := (hexDigit_toUpper (byte.toNat / 16) (by omega)).2.2.2.1
    exact bne_iff_ne.mpr noComment

theorem frameComment_oneLine (frame : FLUpdateFrame) :
    ∀ char ∈ frameComment frame, (char == '\n') = false := by
  have digits : ∀ number, ∀ char ∈ Nat.toDigits 10 number, (char == '\n') = false := by
    intro number char member
    have digit : char.isDigit = true := Nat.isDigit_of_mem_toDigits (by decide) (by decide) member
    refine beq_eq_false_iff_ne.mpr fun newline => ?_
    rw [newline] at digit
    exact absurd digit (by decide)
  have words : "# Frame ".toList.any (· == '\n') = false := by decide
  intro char member
  unfold frameComment at member
  rw [List.append_assoc, List.mem_append, List.mem_append, List.mem_cons] at member
  obtain word | digit | rfl | digit := member
  · exact eq_false_of_ne_true (List.any_eq_false.mp words char word)
  · exact digits _ char digit
  · rfl
  · exact digits _ char digit

/-- The lines of the file that stand for frames are those with their bytes. -/
theorem filter_isFrameLine {frames : List FLUpdateFrame} {bytes : FLUpdateFrame → List UInt8}
    (filled : ∀ frame ∈ frames, bytes frame ≠ []) :
    (frames.flatMap fun frame => [frameComment frame, (hexString (bytes frame)).map Char.toUpper,
        []]).filter isFrameLine =
      frames.map fun frame => (hexString (bytes frame)).map Char.toUpper := by
  induction frames with
  | nil => rfl
  | cons frame rest inductionHypothesis =>
    rw [List.forall_mem_cons] at filled
    have comment : isFrameLine (frameComment frame) = false := rfl
    rw [List.flatMap_cons, List.filter_append, inductionHypothesis filled.2, List.map_cons,
      List.filter_cons, comment, List.filter_cons, isFrameLine_hexString filled.1]
    rfl

/-- The text is read back to the bytes of the frames. -/
theorem readHexFile_spec {frames : List FLUpdateFrame} {bytes : FLUpdateFrame → List UInt8}
    (serialized : ∀ frame ∈ frames, frame.toBytes = some (bytes frame))
    (filled : ∀ frame ∈ frames, bytes frame ≠ []) :
    readHexFile (writeHexFile frames).1 = some (frames.map bytes) := by
  have oneLine : ∀ line ∈ frames.flatMap (fun frame => [frameComment frame,
      (hexString (bytes frame)).map Char.toUpper, []]), ∀ char ∈ line, (char == '\n') = false := by
    intro line member
    obtain ⟨frame, _, isLine⟩ := List.mem_flatMap.mp member
    simp only [List.mem_cons, List.not_mem_nil, or_false] at isLine
    obtain rfl | rfl | rfl := isLine
    · exact frameComment_oneLine frame
    · intro char inside
      obtain ⟨value, bound, rfl⟩ := mem_hexString_toUpper inside
      exact beq_eq_false_iff_ne.mpr (hexDigit_toUpper value bound).2.2.2.2
    · exact List.forall_mem_nil _
  rw [writeHexFile_spec serialized, readHexFile, splitOnP_unlines rfl oneLine, List.filter_append,
    filter_isFrameLine filled]
  have last : [[]].filter isFrameLine = [] := rfl
  have read : (fun line => (fromHex line).toOption) ∘
      (fun frame => (hexString (bytes frame)).map Char.toUpper) =
        fun frame => some (bytes frame) := by
    funext frame
    show (fromHex ((hexString (bytes frame)).map Char.toUpper)).toOption = some (bytes frame)
    rw [fromHex_toUpper]
    rfl
  rw [last, List.append_nil, List.mapM_map, read]
  exact List.mapM_pure

/-! ### An update in files -/

/-- The bytes of a frame of an update. -/
def frameBytes (frame : FLUpdateFrame) : List UInt8 :=
  headerBytes frame.totalFrames frame.payload (frame.seqNum - 1) ++ frame.payload

theorem drop_frameBytes (frame : FLUpdateFrame) :
    (frameBytes frame).drop headerSize = frame.payload := rfl

theorem frameBytes_ne_nil (frame : FLUpdateFrame) : frameBytes frame ≠ [] := List.cons_ne_nil _ _

theorem toBytes_eq_frameBytes {modelData : List UInt8} (allowed : modelData.length ≤ 255 * 245)
    {frame : FLUpdateFrame}
    (member : frame ∈ chunkFrames (splitData modelData maxPayloadSize)) :
    frame.toBytes = some (frameBytes frame) ∧ frame.seqNum < 256 := by
  have few : (splitData modelData maxPayloadSize).length ≤ maxFrames := by
    rw [splitData_eq, Fragments.length_cut]
    exact (Fragments.count_le_iff (by decide)).mpr allowed
  have short : ∀ chunk ∈ splitData modelData maxPayloadSize, chunk.length ≤ maxPayloadSize :=
    fun chunk listed => (Fragments.length_of_mem_cut (by decide) listed).2
  obtain ⟨index, bound, rfl⟩ := mem_chunkFrames.mp member
  exact ⟨toBytes_of_mem few short bound, Nat.succ_le_succ (Nat.le_trans bound few)⟩

/-- The names of the files of an update are in the order of its frames. -/
theorem filenames_ordered {modelData : List UInt8} (allowed : modelData.length ≤ 255 * 245)
    (start : List Char) :
    ((chunkFrames (splitData modelData maxPayloadSize)).map (frameFilename start)).Pairwise
      (· < ·) := by
  have increasing : ((chunkFrames (splitData modelData maxPayloadSize)).map
      FLUpdateFrame.seqNum).Pairwise (· < ·) := by
    rw [map_seqNum_chunkFrames]
    exact List.pairwise_lt_range' 1
  rw [List.pairwise_map] at increasing ⊢
  exact increasing.imp_of_mem fun _ member less =>
    frameFilename_lt start less (toBytes_eq_frameBytes allowed member).2

/-- The files hold an update: they have their names in the order of the frames, their contents are
the serialized frames, and the other files are as they were; the text holds the same, and behind
the headers stands the update. -/
structure HoldsUpdate (modelData : List UInt8) (frames : List FLUpdateFrame) (start : List Char)
    (directory : Directory) (paths : List (List Char)) (contents : List (List UInt8)) : Prop where
  returned : (writeFramesToFile start directory frames).2 = some paths
  serialized : frames.map FLUpdateFrame.toBytes = contents.map some
  ordered : paths.Pairwise (· < ·)
  stored : paths.map (writeFramesToFile start directory frames).1 = contents.map some
  others : ∀ name, name ∉ paths → (writeFramesToFile start directory frames).1 name = directory name
  complete : (writeHexFile frames).2 = true
  readBack : readHexFile (writeHexFile frames).1 = some contents
  joined : contents.flatMap (List.drop headerSize) = modelData

/-- Whatever the update, its files hold it, whatever the directory contains. -/
theorem updateFiles_hold (modelData : List UInt8) (modelName modelVersion : String)
    (surroundings : Surroundings) (start : List Char) (directory : Directory)
    {frames : List FLUpdateFrame} {manifest : FLUpdateManifest}
    (built : buildUpdateFrames modelData modelName modelVersion surroundings =
      .ok (frames, manifest)) :
    ∃ paths contents, HoldsUpdate modelData frames start directory paths contents := by
  rcases buildUpdateFrames_cases modelData modelName modelVersion surroundings with
    ⟨_, text, refused⟩ | ⟨allowed, _, cut⟩
  · rw [refused] at built
    cases built
  · rw [cut] at built
    cases built
    have serialized := fun frame member => (@toBytes_eq_frameBytes _ allowed frame member).1
    have ordered := filenames_ordered allowed start
    have different : ((chunkFrames (splitData modelData maxPayloadSize)).map
        (frameFilename start)).Nodup := by
      refine List.Pairwise.imp ?_ ordered
      rintro first _ less rfl
      exact List.lt_irrefl first less
    obtain ⟨returned, stored, others⟩ := writeFramesToFile_spec start serialized different directory
    exact ⟨_, (chunkFrames (splitData modelData maxPayloadSize)).map frameBytes,
      { returned := returned
        serialized := by
          rw [List.map_map]
          exact List.map_congr_left serialized
        ordered := ordered
        stored := by
          rw [List.map_map, List.map_map]
          exact List.map_congr_left stored
        others := others
        complete := by rw [writeHexFile_spec serialized]
        readBack := readHexFile_spec serialized fun frame _ => frameBytes_ne_nil frame
        joined := by
          rw [List.flatMap_map]
          simp only [drop_frameBytes]
          exact (chunkFrames_fragmentation allowed).joined }⟩

/-- Two frames over what an earlier update left. -/
theorem updateFiles_hold_again : ∃ frames manifest paths contents,
    buildUpdateFrames (List.replicate 246 7) "unknown" "0.0.0" ⟨fun _ => "", "", ""⟩ =
      .ok (frames, manifest) ∧
    HoldsUpdate (List.replicate 246 7) frames "frame".toList
      (fun name => if name = "frame_001_of_002.bin".toList then some [1] else none)
      paths contents := by
  rcases buildUpdateFrames_cases (List.replicate 246 7) "unknown" "0.0.0" ⟨fun _ => "", "", ""⟩ with
    ⟨large, _⟩ | ⟨_, manifest, built⟩
  · rw [List.length_replicate] at large
    exact absurd large (by decide)
  · obtain ⟨paths, contents, holds⟩ := updateFiles_hold (List.replicate 246 7) "unknown" "0.0.0"
      ⟨fun _ => "", "", ""⟩ "frame".toList
      (fun name => if name = "frame_001_of_002.bin".toList then some [1] else none) built
    exact ⟨_, manifest, paths, contents, built, holds⟩

end SmartQso.Tools
