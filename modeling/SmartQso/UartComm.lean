/-
This file models the sending of `uart_comm.c` in the build that opens a device: the port
with its descriptor, the recovery that closes and opens it again, and the bytes that get
on the line. What the system answers to each call is an input. A write may accept any
part of a message, and the retry after the recovery sends the whole message again.
-/

import SmartQso.Types

namespace SmartQso

/-! ### The port -/

/-- `UartConfig_t`. -/
structure UartConfig where
  device : String
  baudrate : Int
  timeoutMs : UInt32
  deriving DecidableEq

/-- The statics of `uart_comm.c`, and the bytes that have been put on the line. No descriptor
stands for -1. -/
structure UartComm where
  uartFd : Option Nat
  config : UartConfig
  initialized : Bool
  line : List UInt8

/-- What the system answers to `open`, `tcgetattr` and `tcsetattr`. -/
structure UartOpening where
  fd : Option Nat
  attributesRead : Bool
  attributesSet : Bool

/-- The opening succeeds. -/
def UartOpening.Succeeds (opening : UartOpening) : Prop :=
  opening.fd.isSome = true ∧ opening.attributesRead = true ∧ opening.attributesSet = true

/-- `uart_close`. -/
def uartClose (uart : UartComm) : UartComm :=
  { uart with uartFd := none, initialized := false }

/-- `uart_init_with_config`. -/
def uartInitWithConfig (uart : UartComm) (config : UartConfig) (opening : UartOpening) :
    UartComm × SmartQsoResult :=
  let closed := if uart.initialized then uartClose uart else uart
  let configured := { closed with config := config, uartFd := none }
  match opening.fd with
  | none => (configured, .errorIo)
  | some fd =>
    if !opening.attributesRead then (configured, .errorIo)
    else if !opening.attributesSet then (configured, .errorIo)
    else ({ configured with uartFd := some fd, initialized := true }, .ok)

/-! ### Sending -/

/-- What a `write` of a message answers: an error, or how many bytes it has accepted. -/
abbrev WriteAnswer (message : List UInt8) := Option (Fin (message.length + 1))

/-- The bytes that a `write` puts on the line. -/
def WriteAnswer.bytes {message : List UInt8} (accepted : WriteAnswer message) : List UInt8 :=
  match accepted with
  | none => []
  | some count => message.take count.val

/-- The `write` has accepted the whole message. -/
def WriteAnswer.isWhole {message : List UInt8} (accepted : WriteAnswer message) : Bool :=
  accepted == some (Fin.last message.length)

/-- The answers to the calls of a `uart_send`, as far as it makes them. -/
structure UartAnswers (message : List UInt8) where
  first : WriteAnswer message
  opening : UartOpening
  retry : WriteAnswer message

/-- A `write` to the open device. -/
def uartWrite (uart : UartComm) {message : List UInt8} (accepted : WriteAnswer message) :
    UartComm :=
  { uart with line := uart.line ++ accepted.bytes }

/-- `uart_send`. The assertions on its arguments only print. -/
def uartSend (uart : UartComm) (message : List UInt8) (answers : UartAnswers message) :
    UartComm × SmartQsoResult :=
  if !uart.initialized || uart.uartFd.isNone then (uart, .error)
  else
    let written := uartWrite uart answers.first
    if !answers.first.isWhole then
      let (reopened, result) :=
        uartInitWithConfig (uartClose written) written.config answers.opening
      if result ≠ .ok then (reopened, .errorIo)
      else
        let retried := uartWrite reopened answers.retry
        if !answers.retry.isWhole then (retried, .errorIo) else (retried, .ok)
    else (written, .ok)

/-- A message that is sent has got on the line once and whole. -/
def SendsExactly (uart : UartComm) (message : List UInt8) (answers : UartAnswers message) : Prop :=
  (uartSend uart message answers).2 = .ok →
    (uartSend uart message answers).1.line = uart.line ++ message

/-- The first write accepts a part of the message, and the recovery from it succeeds. -/
def RepeatsPart (uart : UartComm) {message : List UInt8} (answers : UartAnswers message) : Prop :=
  (uart.initialized = true ∧ uart.uartFd.isSome = true) ∧
    (∃ count, answers.first = some count ∧ 0 < count.val ∧ count.val < message.length) ∧
    answers.opening.Succeeds ∧ answers.retry.isWhole = true

/-! ### The recovery -/

theorem uartInitWithConfig_ok_iff (uart : UartComm) (config : UartConfig) (opening : UartOpening) :
    (uartInitWithConfig uart config opening).2 = .ok ↔ opening.Succeeds := by
  unfold uartInitWithConfig UartOpening.Succeeds
  cases opening.fd with
  | none => simp
  | some fd => cases opening.attributesRead <;> cases opening.attributesSet <;> simp

theorem uartInitWithConfig_line (uart : UartComm) (config : UartConfig) (opening : UartOpening) :
    (uartInitWithConfig uart config opening).1.line = uart.line := by
  unfold uartInitWithConfig uartClose
  dsimp only
  split
  · split <;> rfl
  · split
    · split <;> rfl
    · split <;> split <;> rfl

/-! ### What gets on the line -/

section

variable {message : List UInt8}

theorem WriteAnswer.bytes_of_whole {accepted : WriteAnswer message}
    (whole : accepted.isWhole = true) : accepted.bytes = message := by
  rw [eq_of_beq whole]
  exact List.take_length

/-- A write puts nothing on the line, all of the message, or a part of it. -/
theorem WriteAnswer.cases (accepted : WriteAnswer message) :
    accepted.isWhole = true ∨ accepted.isWhole = false ∧ accepted.bytes = [] ∨
      accepted.isWhole = false ∧
        ∃ count, accepted = some count ∧ 0 < count.val ∧ count.val < message.length := by
  cases whole : accepted.isWhole with
  | true => exact Or.inl rfl
  | false =>
    refine Or.inr ?_
    cases accepted with
    | none => exact Or.inl ⟨rfl, rfl⟩
    | some count =>
      rcases Nat.eq_zero_or_pos count.val with none | some
      · refine Or.inl ⟨rfl, ?_⟩
        rw [bytes, none, List.take_zero]
      · have last : count ≠ Fin.last message.length := by
          rintro rfl
          exact absurd whole (by rw [isWhole, beq_self_eq_true]; decide)
        exact Or.inr ⟨rfl, count, rfl, some, Fin.val_lt_last last⟩

variable {uart : UartComm} {answers : UartAnswers message}

/-- A message that the first write accepts is sent. -/
theorem uartSend_whole (ready : uart.initialized = true ∧ uart.uartFd.isSome = true)
    (whole : answers.first.isWhole = true) :
    uartSend uart message answers = (uartWrite uart answers.first, .ok) := by
  unfold uartSend
  rw [ready.1, Option.isNone_eq_false_iff.mpr ready.2, whole]
  rfl

theorem uartSend_unready (unready : ¬ (uart.initialized = true ∧ uart.uartFd.isSome = true)) :
    uartSend uart message answers = (uart, .error) := by
  unfold uartSend
  rw [if_pos]
  rw [Bool.or_eq_true, Bool.not_eq_true', Option.isNone_iff_eq_none]
  by_contra neither
  rw [not_or, Bool.not_eq_false] at neither
  exact unready ⟨neither.1, Option.isSome_iff_ne_none.mpr neither.2⟩

/-- Otherwise it is sent when the recovery succeeds, behind what the first write has accepted. -/
theorem uartSend_recovers_iff (ready : uart.initialized = true ∧ uart.uartFd.isSome = true)
    (incomplete : answers.first.isWhole = false) :
    ((uartSend uart message answers).2 = .ok ↔
        answers.opening.Succeeds ∧ answers.retry.isWhole = true) ∧
      (answers.retry.isWhole = true → answers.opening.Succeeds →
        (uartSend uart message answers).1.line = uart.line ++ answers.first.bytes ++ message) := by
  have opened := uartInitWithConfig_ok_iff (uartClose (uartWrite uart answers.first))
    (uartWrite uart answers.first).config answers.opening
  have line := uartInitWithConfig_line (uartClose (uartWrite uart answers.first))
    (uartWrite uart answers.first).config answers.opening
  unfold uartSend
  rw [ready.1, Option.isNone_eq_false_iff.mpr ready.2, incomplete]
  simp only [Bool.not_true, Bool.or_self, Bool.false_eq_true, if_false, Bool.not_false, if_true]
  by_cases succeeds : answers.opening.Succeeds
  · rw [if_neg (not_not.mpr (opened.mpr succeeds))]
    cases whole : answers.retry.isWhole with
    | false => exact ⟨by simp, fun impossible => absurd impossible Bool.false_ne_true⟩
    | true =>
      refine ⟨by simp [succeeds], fun _ _ => ?_⟩
      show _ ++ answers.retry.bytes = _
      rw [line, WriteAnswer.bytes_of_whole whole]
      rfl
  · rw [if_pos (mt opened.mp succeeds)]
    exact ⟨by simp [succeeds], fun _ impossible => absurd impossible succeeds⟩

end

/-- A message is sent once and whole exactly when the recovery does not repeat a part of it that the
first write has accepted. -/
theorem sendsExactly_iff (uart : UartComm) (message : List UInt8)
    (answers : UartAnswers message) :
    SendsExactly uart message answers ↔ ¬ RepeatsPart uart answers := by
  unfold SendsExactly RepeatsPart
  by_cases ready : uart.initialized = true ∧ uart.uartFd.isSome = true
  · rcases answers.first.cases with whole | ⟨incomplete, nothing⟩ | ⟨incomplete, part⟩
    · rw [uartSend_whole ready whole]
      refine iff_of_true (fun _ => ?_) ?_
      · exact congrArg (uart.line ++ ·) (WriteAnswer.bytes_of_whole whole)
      · rintro ⟨-, ⟨count, first, -, short⟩, -⟩
        rw [first] at whole
        have last := congrArg Fin.val (Option.some.inj (eq_of_beq whole))
        exact absurd last (Nat.ne_of_lt short)
    · obtain ⟨sent, line⟩ := uartSend_recovers_iff ready incomplete
      refine iff_of_true (fun ok => ?_) ?_
      · obtain ⟨succeeds, retried⟩ := sent.mp ok
        rw [line retried succeeds, nothing, List.append_nil]
      · rintro ⟨-, ⟨count, first, some, short⟩, -⟩
        rw [first, WriteAnswer.bytes, List.take_eq_nil_iff] at nothing
        rcases nothing with none | empty
        · exact absurd none (Nat.ne_of_gt some)
        · exact absurd (List.length_eq_zero_iff.mpr empty) (Nat.ne_of_gt (some.trans short))
    · obtain ⟨sent, line⟩ := uartSend_recovers_iff ready incomplete
      rw [sent]
      constructor
      · rintro exactly ⟨-, ⟨count, first, some, short⟩, succeeds, retried⟩
        have lengths := congrArg List.length (exactly ⟨succeeds, retried⟩)
        rw [line retried succeeds, first, List.length_append, List.length_append,
          List.length_append, WriteAnswer.bytes, List.length_take] at lengths
        omega
      · intro unrepeated both
        exact absurd ⟨ready, part, both⟩ unrepeated
  · rw [uartSend_unready ready]
    exact iff_of_true (fun impossible => by cases impossible) fun repeats => ready repeats.1

/-- The first write accepts one byte of two, and the retry both of them. -/
theorem sendsExactly_fails :
    ¬ ∀ (uart : UartComm) (message : List UInt8) (answers : UartAnswers message),
      SendsExactly uart message answers := by
  intro claimed
  have line := claimed ⟨some 3, ⟨"/dev/ttyUSB0", 115200, 1000⟩, true, []⟩ [0x41, 0x0A]
    ⟨some 1, ⟨some 3, true, true⟩, some 2⟩ (by decide)
  revert line
  decide

end SmartQso
