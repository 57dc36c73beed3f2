/-
This file models the whole driver of `uart_comm.c` in the build that opens a device: the
configuration from the environment, opening, sending, receiving, the health check and
closing, with the calls to the system that each of them makes on a descriptor. A text is
a list of characters, one for each byte. The device number a system hands out, and what
it answers to every call, are inputs. What is printed is left out.
-/

import Mathlib.Data.Finset.Option
import SmartQso.CNumerals
import SmartQso.Handles
import SmartQso.UartComm

namespace SmartQso

/-! ### The port -/

/-- The rates that `baudrate_to_speed` and `parse_env_config` name. -/
def uartBaudrates : List Int := [9600, 19200, 38400, 57600, 115200, 230400]

/-- `baudrate_to_speed`, as the rate of the `termios` constant. -/
def baudrateToSpeed (baudrate : Int) : Int :=
  if baudrate ∈ uartBaudrates then baudrate else 115200

/-- `UART_DEVICE_MAX_LEN`. -/
def uartDeviceMaxLen : Nat := 64

/-- `s_config` at boot. -/
def UartConfig.boot : UartConfig := ⟨"/dev/ttyUSB0", 115200, 1000⟩

/-- The statics of `uart_comm.c`, with the speed that the device was last set to and the calls on
descriptors in their order. -/
structure UartPort where
  uart : UartComm
  telemetryIntervalMs : UInt32
  speed : Option Int
  trace : List (Handles.Access Nat)

/-- The statics at boot. -/
def UartPort.boot : UartPort where
  uart := ⟨none, .boot, false, []⟩
  telemetryIntervalMs := 60000
  speed := none
  trace := []

/-- A call on the descriptor of the port. -/
def UartPort.use (port : UartPort) : UartPort :=
  { port with trace := port.trace ++ port.uart.uartFd.toList.map .use }

/-- `uart_close`. -/
def UartPort.close (port : UartPort) : UartPort :=
  { port with
    uart := uartClose port.uart
    trace := port.trace ++ port.uart.uartFd.toList.map .release }

/-- The calls that open a device: `open`, `tcgetattr`, `tcsetattr`, and `close` when one of the
last two fails. -/
def UartOpening.accesses (opening : UartOpening) : List (Handles.Access Nat) :=
  match opening.fd with
  | none => []
  | some fd =>
    if !opening.attributesRead then [.acquire fd, .use fd, .release fd]
    else if !opening.attributesSet then [.acquire fd, .use fd, .use fd, .release fd]
    else [.acquire fd, .use fd, .use fd]

/-- `uart_init_with_config`. -/
def UartPort.initWithConfig (port : UartPort) (config : UartConfig) (opening : UartOpening) :
    UartPort × SmartQsoResult :=
  let closed := if port.uart.initialized then port.close else port
  let opened := uartInitWithConfig port.uart config opening
  ({ closed with
      uart := opened.1
      speed := if opened.2 = .ok then some (baudrateToSpeed config.baudrate) else closed.speed
      trace := closed.trace ++ opening.accesses }, opened.2)

/-! ### The environment -/

/-- The variables `UART_DEVICE`, `UART_BAUDRATE` and `TELEMETRY_INTERVAL_MS`. -/
structure UartEnvironment where
  device : Option (List Char)
  baudrate : Option (List Char)
  interval : Option (List Char)

/-- `atoi`, which converts with `strtol`. -/
def atoi (text : List Char) : Int32 := (CNumerals.strtol text).1.toInt32

/-- `parse_env_config`. -/
def UartPort.parseEnvConfig (port : UartPort) (environment : UartEnvironment) : UartPort :=
  let config := port.uart.config
  let config :=
    match environment.device with
    | none => config
    | some device =>
      if device.length < uartDeviceMaxLen then { config with device := String.ofList device }
      else config
  let config :=
    match environment.baudrate with
    | none => config
    | some baudrate =>
      if (atoi baudrate).toInt ∈ uartBaudrates then
        { config with baudrate := (atoi baudrate).toInt }
      else config
  let telemetryIntervalMs :=
    match environment.interval with
    | none => port.telemetryIntervalMs
    | some interval =>
      let ms := atoi interval
      if 0 < ms ∧ ms ≤ 3600000 then ms.toUInt32 else port.telemetryIntervalMs
  { port with
    uart := { port.uart with config := config }
    telemetryIntervalMs := telemetryIntervalMs }

/-- `uart_init`. -/
def UartPort.init (port : UartPort) (environment : UartEnvironment) (opening : UartOpening) :
    UartPort × SmartQsoResult :=
  if port.uart.initialized then (port, .ok)
  else
    let parsed := port.parseEnvConfig environment
    parsed.initWithConfig parsed.uart.config opening

/-! ### Messages -/

/-- A `write` to the descriptor. -/
def UartPort.write (port : UartPort) {message : List UInt8} (accepted : WriteAnswer message) :
    UartPort :=
  { port.use with uart := uartWrite port.uart accepted }

/-- `uart_send`. After a message is accepted it is drained. -/
def UartPort.send (port : UartPort) (message : List UInt8) (answers : UartAnswers message) :
    UartPort × SmartQsoResult :=
  if !port.uart.initialized || port.uart.uartFd.isNone then (port, .error)
  else
    let written := port.write answers.first
    if !answers.first.isWhole then
      let (reopened, result) := written.close.initWithConfig written.uart.config answers.opening
      if result ≠ .ok then (reopened, .errorIo)
      else
        let retried := reopened.write answers.retry
        if !answers.retry.isWhole then (retried, .errorIo) else (retried.use, .ok)
    else (written.use, .ok)

/-- `uart_receive`, for the bytes that `read` returns, or its error: the result and what it stores
in the buffer. -/
def UartPort.receive (port : UartPort) (answer : Option (List UInt8)) :
    UartPort × SmartQsoResult × List UInt8 :=
  if !port.uart.initialized || port.uart.uartFd.isNone then (port, .error, [])
  else
    match answer with
    | none => (port.use, .errorIo, [])
    | some bytes => (port.use, .ok, bytes)

/-- `uart_check_health`, without the fault it logs. -/
def UartPort.checkHealth (port : UartPort) (attributesRead : Bool) (opening : UartOpening) :
    UartPort × SmartQsoResult :=
  if !port.uart.initialized then (port, .error)
  else if !attributesRead then
    port.use.close.initWithConfig port.uart.config opening
  else (port.use, .ok)

/-! ### The two levels of the driver -/

theorem UartPort.close_uart (port : UartPort) : port.close.uart = uartClose port.uart := rfl

theorem UartPort.write_uart (port : UartPort) {message : List UInt8}
    (accepted : WriteAnswer message) :
    (port.write accepted).uart = uartWrite port.uart accepted := rfl

theorem UartPort.initWithConfig_uart (port : UartPort) (config : UartConfig)
    (opening : UartOpening) :
    (port.initWithConfig config opening).1.uart =
        (uartInitWithConfig port.uart config opening).1 ∧
      (port.initWithConfig config opening).2 =
        (uartInitWithConfig port.uart config opening).2 := ⟨rfl, rfl⟩

/-- The port sends as the driver without descriptors does. -/
theorem UartPort.send_uart (port : UartPort) (message : List UInt8)
    (answers : UartAnswers message) :
    (port.send message answers).1.uart = (uartSend port.uart message answers).1 ∧
      (port.send message answers).2 = (uartSend port.uart message answers).2 := by
  rw [send, uartSend]
  split
  · exact ⟨rfl, rfl⟩
  · cases answers.first.isWhole with
    | true => exact ⟨rfl, rfl⟩
    | false =>
      dsimp only [write_uart, close_uart, initWithConfig]
      by_cases opened : (uartInitWithConfig (uartClose (uartWrite port.uart answers.first))
          (uartWrite port.uart answers.first).config answers.opening).2 = .ok
      · simp only [opened, ne_eq, not_true_eq_false, if_false]
        cases answers.retry.isWhole <;> exact ⟨rfl, rfl⟩
      · simp only [opened, ne_eq, not_false_eq_true, if_true]
        exact ⟨rfl, rfl⟩

/-! ### Calls -/

/-- A call to the driver, with what the system answers during it. -/
inductive UartCall
  | init (environment : UartEnvironment) (opening : UartOpening)
  | initWithConfig (config : UartConfig) (opening : UartOpening)
  | close
  | send (message : List UInt8) (answers : UartAnswers message)
  | receive (answer : Option (List UInt8))
  | checkHealth (attributesRead : Bool) (opening : UartOpening)

/-- The port after a call. -/
def uartStep (port : UartPort) : UartCall → UartPort
  | .init environment opening => (port.init environment opening).1
  | .initWithConfig config opening => (port.initWithConfig config opening).1
  | .close => port.close
  | .send message answers => (port.send message answers).1
  | .receive answer => (port.receive answer).1
  | .checkHealth attributesRead opening => (port.checkHealth attributesRead opening).1

/-- The driver keeps its descriptors in order: it has used and closed only a descriptor that it had
open, and never had a second one; the one it stores is the one that is open, and it is initialized
when there is one. The device then runs at the speed of the configuration, and telemetry is due at
least every hour. -/
structure UartPort.Orderly (port : UartPort) : Prop where
  trace : Handles.Leads 1 ∅ port.trace port.uart.uartFd.toFinset
  initialized : port.uart.initialized = port.uart.uartFd.isSome
  speed : port.uart.initialized = true →
    port.speed = some (baudrateToSpeed port.uart.config.baudrate)
  interval : 0 < port.telemetryIntervalMs ∧ port.telemetryIntervalMs ≤ 3600000

theorem UartPort.boot_orderly : UartPort.boot.Orderly where
  trace := Handles.Leads.nil
  initialized := rfl
  speed initialized := absurd initialized Bool.false_ne_true
  interval := by decide

section

variable {port : UartPort}

/-- A call on the descriptor that is open leaves it open. -/
theorem leads_use (fd : Option Nat) :
    Handles.Leads 1 fd.toFinset (fd.toList.map .use) fd.toFinset := by
  cases fd with
  | none => exact Handles.Leads.nil
  | some fd => exact Handles.Leads.use (Finset.mem_singleton_self fd)

/-- Closing the descriptor that is open leaves none. -/
theorem leads_release (fd : Option Nat) :
    Handles.Leads 1 fd.toFinset (fd.toList.map .release) ∅ := by
  cases fd with
  | none => exact Handles.Leads.nil
  | some fd =>
    have released : Handles.Leads 1 {fd} [.release fd] (Finset.erase {fd} fd) :=
      Handles.Leads.release (Finset.mem_singleton_self fd)
    rwa [Finset.erase_singleton] at released

theorem UartPort.Orderly.use (orderly : port.Orderly) : port.use.Orderly where
  trace := orderly.trace.append (leads_use port.uart.uartFd)
  initialized := orderly.initialized
  speed := orderly.speed
  interval := orderly.interval

theorem UartPort.Orderly.write (orderly : port.Orderly) {message : List UInt8}
    (accepted : WriteAnswer message) : (port.write accepted).Orderly where
  trace := orderly.use.trace
  initialized := orderly.initialized
  speed := orderly.speed
  interval := orderly.interval

theorem UartPort.Orderly.close (orderly : port.Orderly) : port.close.Orderly where
  trace := orderly.trace.append (leads_release port.uart.uartFd)
  initialized := rfl
  speed initialized := absurd initialized Bool.false_ne_true
  interval := orderly.interval

/-- An opening ends with the descriptor that the driver stores. -/
theorem uartInitWithConfig_leads (uart : UartComm) (config : UartConfig) (opening : UartOpening) :
    Handles.Leads 1 ∅ opening.accesses
        (uartInitWithConfig uart config opening).1.uartFd.toFinset ∧
      (uartInitWithConfig uart config opening).1.config = config ∧
      (uartInitWithConfig uart config opening).1.initialized =
        (uartInitWithConfig uart config opening).1.uartFd.isSome ∧
      ((uartInitWithConfig uart config opening).1.initialized = true →
        (uartInitWithConfig uart config opening).2 = .ok) := by
  have closed : (if uart.initialized then uartClose uart else uart).initialized = false := by
    cases initialized : uart.initialized with
    | false => exact initialized
    | true => rfl
  rw [uartInitWithConfig, UartOpening.accesses]
  cases opening.fd with
  | none =>
    exact ⟨Handles.Leads.nil, rfl, closed,
      fun opened => absurd (closed.symm.trans opened) Bool.false_ne_true⟩
  | some fd =>
    have acquired : Handles.Leads 1 ∅ [.acquire fd] {fd} :=
      Handles.Leads.acquire (Finset.notMem_empty fd) Nat.one_pos
    have used : Handles.Leads 1 {fd} [.use fd] {fd} := leads_use (some fd)
    have released : Handles.Leads 1 {fd} [.release fd] ∅ := leads_release (some fd)
    cases opening.attributesRead with
    | false =>
      exact ⟨acquired.append (used.append released), rfl, closed,
        fun opened => absurd (closed.symm.trans opened) Bool.false_ne_true⟩
    | true =>
      cases opening.attributesSet with
      | false =>
        exact ⟨acquired.append (used.append (used.append released)), rfl, closed,
          fun opened => absurd (closed.symm.trans opened) Bool.false_ne_true⟩
      | true => exact ⟨acquired.append (used.append used), rfl, rfl, fun _ => rfl⟩

theorem UartPort.Orderly.initWithConfig (orderly : port.Orderly) (config : UartConfig)
    (opening : UartOpening) : (port.initWithConfig config opening).1.Orderly := by
  obtain ⟨leads, configured, initialized, succeeds⟩ :=
    uartInitWithConfig_leads port.uart config opening
  have shut : Handles.Leads 1 ∅ (if port.uart.initialized then port.close else port).trace ∅ ∧
      (if port.uart.initialized then port.close else port).telemetryIntervalMs =
        port.telemetryIntervalMs := by
    cases before : port.uart.initialized with
    | true => exact ⟨orderly.close.trace, rfl⟩
    | false =>
      have empty : port.uart.uartFd = none := by
        rw [← Option.not_isSome_iff_eq_none, ← orderly.initialized, before]
        exact Bool.false_ne_true
      have trace := orderly.trace
      rw [empty] at trace
      exact ⟨trace, rfl⟩
  refine ⟨shut.1.append leads, initialized, fun opened => ?_, ?_⟩
  · rw [UartPort.initWithConfig, configured]
    exact if_pos (succeeds opened)
  · rw [UartPort.initWithConfig, shut.2]
    exact orderly.interval

theorem UartPort.Orderly.send (orderly : port.Orderly) (message : List UInt8)
    (answers : UartAnswers message) : (port.send message answers).1.Orderly := by
  rw [UartPort.send]
  split
  · exact orderly
  · cases answers.first.isWhole with
    | true => exact (orderly.write answers.first).use
    | false =>
      have reopened := (orderly.write answers.first).close.initWithConfig
        (port.write answers.first).uart.config answers.opening
      rw [if_pos (show (!false) = true from rfl)]
      dsimp only
      split
      · exact reopened
      · cases answers.retry.isWhole with
        | true => exact (reopened.write answers.retry).use
        | false => exact reopened.write answers.retry

theorem UartPort.Orderly.receive (orderly : port.Orderly) (answer : Option (List UInt8)) :
    (port.receive answer).1.Orderly := by
  unfold UartPort.receive
  split
  · exact orderly
  · cases answer <;> exact orderly.use

theorem UartPort.Orderly.checkHealth (orderly : port.Orderly) (attributesRead : Bool)
    (opening : UartOpening) : (port.checkHealth attributesRead opening).1.Orderly := by
  rw [UartPort.checkHealth]
  split
  · exact orderly
  · split
    · exact orderly.use.close.initWithConfig port.uart.config opening
    · exact orderly.use

/-- A positive number is itself without a sign. -/
theorem toUInt32_bounds {ms : Int32} (positive : 0 < ms) (small : ms ≤ 3600000) :
    0 < ms.toUInt32 ∧ ms.toUInt32 ≤ 3600000 := by
  rw [Int32.lt_iff_toInt_lt] at positive
  rw [Int32.le_iff_toInt_le] at small
  rw [UInt32.lt_iff_toNat_lt, UInt32.le_iff_toNat_le]
  have value : ms.toInt = ms.toBitVec.toInt := rfl
  have natural : ms.toUInt32.toNat = ms.toBitVec.toNat := rfl
  rw [value, BitVec.toInt_eq_toNat_cond] at positive small
  rw [natural]
  have zero : (0 : Int32).toInt = 0 := rfl
  have hour : (3600000 : Int32).toInt = 3600000 := rfl
  rw [zero] at positive
  rw [hour] at small
  show 0 < _ ∧ _ ≤ 3600000
  split at positive
  · rename_i below
    rw [if_pos below] at small
    omega
  · exact absurd ms.toBitVec.isLt (by omega)

/-- The environment sets an interval of an hour at most. -/
theorem UartPort.parseEnvConfig_interval (environment : UartEnvironment)
    (interval : 0 < port.telemetryIntervalMs ∧ port.telemetryIntervalMs ≤ 3600000) :
    0 < (port.parseEnvConfig environment).telemetryIntervalMs ∧
      (port.parseEnvConfig environment).telemetryIntervalMs ≤ 3600000 := by
  rw [parseEnvConfig]
  cases environment.interval with
  | none => exact interval
  | some text =>
    dsimp only
    split
    · rename_i bounds
      exact toUInt32_bounds bounds.1 bounds.2
    · exact interval

theorem UartPort.Orderly.init (orderly : port.Orderly) (environment : UartEnvironment)
    (opening : UartOpening) : (port.init environment opening).1.Orderly := by
  rw [UartPort.init]
  cases before : port.uart.initialized with
  | true => exact orderly
  | false =>
    have parsed : (port.parseEnvConfig environment).Orderly :=
      { trace := orderly.trace
        initialized := orderly.initialized
        speed := fun initialized => absurd (before.symm.trans initialized) Bool.false_ne_true
        interval := UartPort.parseEnvConfig_interval environment orderly.interval }
    exact parsed.initWithConfig _ opening

theorem UartPort.Orderly.step (orderly : port.Orderly) (call : UartCall) :
    (uartStep port call).Orderly := by
  cases call with
  | init environment opening => exact orderly.init environment opening
  | initWithConfig config opening => exact orderly.initWithConfig config opening
  | close => exact orderly.close
  | send message answers => exact orderly.send message answers
  | receive answer => exact orderly.receive answer
  | checkHealth attributesRead opening => exact orderly.checkHealth attributesRead opening

end

/-- The driver keeps its descriptors in order throughout every run. -/
theorem uartPort_orderly (calls : List UartCall) :
    Runs.Throughout uartStep UartPort.Orderly .boot calls :=
  Runs.throughout_of_preserved (fun _ call orderly => orderly.step call) UartPort.boot_orderly calls

end SmartQso
