/-
This file closes the loop between the flight software and the sensors it simulates: the
value of a reading is computed from the environment and one call of `rnd_unit`, as the
read functions of `sensors.c` do. Every value then stays in a range of its own, so that no
reading and no health check of the temperatures ever enters a fault, and the flight
software does what it does without sensors. Numbers are exact rationals.
-/

import Mathlib.Tactic.Linarith
import SmartQso.CrashRecovery

namespace SmartQso

open Runs

/-! ### Readings -/

/-- What a reading draws: `rnd_unit`, and the time since the first reading of the timer. -/
structure Draw where
  unit : ℚ
  elapsedMs : UInt64
  nonneg : 0 ≤ unit
  le_one : unit ≤ 1

/-- The value of `read_eps_voltage`. -/
def valueOfEpsVoltage (sensor : Sensor) (bank : Sensors) (draw : Draw) : ℚ :=
  let base : ℚ :=
    if sensor.channel = "battery" then 81 / 10 + 15 / 100 * (bank.soc - 1 / 2)
    else if sensor.channel = "bus" then 5
    else if sensor.channel = "solar" then (if bank.sunlit then 75 / 10 else 2 / 10)
    else 0
  base + 2 / 100 * (draw.unit - 1 / 2)

/-- The value of `read_eps_current`. -/
def valueOfEpsCurrent (sensor : Sensor) (bank : Sensors) (payloadEnabled : Bool) (draw : Draw) :
    ℚ :=
  if sensor.channel = "battery_discharge" then
    if bank.sunlit then 5 / 100 else if payloadEnabled then 8 / 10 else 25 / 100
  else if sensor.channel = "jetson" then
    if payloadEnabled then 7 / 10 + 5 / 100 * (draw.unit - 1 / 2) else 0
  else if sensor.channel = "solar" then
    if bank.sunlit then 6 / 10 + 1 / 10 * (draw.unit - 1 / 2) else 0
  else 0

/-- The value of `read_eps_temperature`. -/
def valueOfEpsTemperature (bank : Sensors) (payloadEnabled : Bool) (draw : Draw) : ℚ :=
  (if bank.sunlit then 22 else 14) + (if payloadEnabled then 3 else 0) +
    5 / 10 * (draw.unit - 1 / 2)

/-- The value that the read function bound to a sensor gives. A status gives none. -/
def readingValue (sensor : Sensor) (bank : Sensors) (payloadEnabled : Bool) (draw : Draw) : ℚ :=
  match sensor.sensorType with
  | .softwareTimer => (draw.elapsedMs / 1000).toNat
  | .epsVoltage => valueOfEpsVoltage sensor bank draw
  | .epsCurrent => valueOfEpsCurrent sensor bank payloadEnabled draw
  | .epsTemperature => valueOfEpsTemperature bank payloadEnabled draw
  | .statusHex2 => 0

/-- The least and the greatest value a sensor can give when the state of charge is in its range. -/
def readingRange (sensor : Sensor) : ℚ × ℚ :=
  match sensor.sensorType with
  | .softwareTimer => (0, 18446744073709551)
  | .epsVoltage =>
    if sensor.channel = "battery" then (8015 / 1000, 8185 / 1000)
    else if sensor.channel = "bus" then (499 / 100, 501 / 100)
    else if sensor.channel = "solar" then (19 / 100, 751 / 100)
    else (-1 / 100, 1 / 100)
  | .epsCurrent =>
    if sensor.channel = "battery_discharge" then (5 / 100, 8 / 10)
    else if sensor.channel = "jetson" then (0, 725 / 1000)
    else if sensor.channel = "solar" then (0, 65 / 100)
    else (0, 0)
  | .epsTemperature => (1375 / 100, 2525 / 100)
  | .statusHex2 => (0, 0)

/-- The state of charge is in its range. -/
def InCharge (soc : ℚ) : Prop := 0 ≤ soc ∧ soc ≤ 1

theorem readingValue_inRange (sensor : Sensor) {bank : Sensors} (charged : InCharge bank.soc)
    (payloadEnabled : Bool) (draw : Draw) :
    (readingRange sensor).1 ≤ readingValue sensor bank payloadEnabled draw ∧
      readingValue sensor bank payloadEnabled draw ≤ (readingRange sensor).2 := by
  obtain ⟨empty, full⟩ := charged
  have nonneg := draw.nonneg
  have le_one := draw.le_one
  unfold readingRange readingValue
  cases sensor.sensorType with
  | softwareTimer =>
    have bounded : (draw.elapsedMs / 1000).toNat ≤ 18446744073709551 := by
      rw [UInt64.toNat_div]
      have bits := draw.elapsedMs.toNat_lt
      change draw.elapsedMs.toNat / 1000 ≤ _
      omega
    dsimp only
    exact ⟨Nat.cast_nonneg _, by exact_mod_cast bounded⟩
  | epsVoltage =>
    dsimp only [valueOfEpsVoltage]
    split_ifs <;> dsimp only <;> constructor <;> linarith
  | epsCurrent =>
    dsimp only [valueOfEpsCurrent]
    split_ifs <;> dsimp only <;> constructor <;> linarith
  | epsTemperature =>
    dsimp only [valueOfEpsTemperature]
    split_ifs <;> constructor <;> linarith
  | statusHex2 => exact ⟨le_refl _, le_refl _⟩

/-- A sensor is as the loaders leave it. -/
def Sensor.Unread (sensor : Sensor) : Prop :=
  sensor.nextPollMs = 0 ∧ sensor.lastValue = 0

/-- A sensor shows a value of its range. -/
def Sensor.InRange (sensor : Sensor) : Prop :=
  (readingRange sensor).1 ≤ sensor.lastValue ∧ sensor.lastValue ≤ (readingRange sensor).2

section

variable [CLayout EpsRecord] [CLayout FaultRecord]

/-! ### Readings change nothing -/

/-- A reading enters no fault when the state of charge is in its range. -/
theorem readSensor_eq (sensor : Sensor) {bank : Sensors} (charged : InCharge bank.soc) (eps : Eps)
    (now : UInt64) : readSensor sensor bank eps now = eps := by
  obtain ⟨empty, full⟩ := charged
  unfold readSensor
  cases sensor.sensorType with
  | softwareTimer => rfl
  | epsVoltage =>
    dsimp only [readEpsVoltage]
    have high : ¬(81 / 10 + 15 / 100 * (bank.soc - 1 / 2) < 7) := by linarith
    have near : ¬((5 : ℚ) < 45 / 10 ∨ (55 / 10 : ℚ) < 5) := by norm_num
    rw [if_neg high, if_neg near]
    simp only [ite_self]
  | epsCurrent =>
    dsimp only [readEpsCurrent]
    have low : ¬(1 < if bank.sunlit then (5 / 100 : ℚ)
        else if epsIsPayloadEnabled eps then 8 / 10 else 25 / 100) := by
      split_ifs <;> norm_num
    rw [if_neg low, ite_self]
  | epsTemperature =>
    dsimp only [readEpsTemperature]
    have cool : ¬(45 < (if bank.sunlit then (22 : ℚ) else 14) +
        if epsIsPayloadEnabled eps then 3 else 0) := by
      split_ifs <;> norm_num
    have warm : ¬((if bank.sunlit then (22 : ℚ) else 14) +
        (if epsIsPayloadEnabled eps then 3 else 0) < -10) := by
      split_ifs <;> norm_num
    rw [if_neg cool, if_neg warm]
  | statusHex2 => rfl

/-- A poll enters no fault when the state of charge is in its range. -/
theorem pollFrom_eq {bank : Sensors} (charged : InCharge bank.soc) (currentMs : UInt64)
    (values : Nat → ℚ) (sensors : List Sensor) (index : Nat) (eps : Eps) :
    (pollFrom bank currentMs values index eps sensors).1 = eps := by
  induction sensors generalizing index eps with
  | nil => rfl
  | cons sensor rest inductionHypothesis =>
    refine (inductionHypothesis (index + 1) _).trans ?_
    unfold pollSensor
    split
    · exact readSensor_eq sensor charged eps currentMs
    · rfl

omit [CLayout EpsRecord] [CLayout FaultRecord] in
theorem not_hot {sensor : Sensor} (shown : sensor.Unread ∨ sensor.InRange) :
    ¬(sensor.sensorType = .epsTemperature ∧ 40 < sensor.lastValue) := by
  rintro ⟨isTemperature, hot⟩
  rcases shown with unread | ⟨_, bounded⟩
  · rw [unread.2] at hot
    exact absurd hot (by norm_num)
  · unfold readingRange at bounded
    rw [isTemperature] at bounded
    dsimp only at bounded
    linarith

/-- The health check of the temperatures does nothing when all sensors are unread or in range. -/
theorem foldl_checkSensor_eq {sensors : List Sensor}
    (shown : ∀ sensor ∈ sensors, sensor.Unread ∨ sensor.InRange) (eps : Eps) (soc : ℚ)
    (now : UInt64) :
    sensors.foldl (fun eps sensor => checkSensor eps soc now sensor) eps = eps := by
  induction sensors generalizing eps with
  | nil => rfl
  | cons sensor rest inductionHypothesis =>
    obtain ⟨first, others⟩ := List.forall_mem_cons.mp shown
    rw [List.foldl_cons, inductionHypothesis others]
    exact if_neg (not_hot first)

/-! ### Simulated polls -/

/-- The values that the sensors from the one at `index` on give when they are polled. -/
def readValues (bank : Sensors) (currentMs : UInt64) (draws : Nat → Draw) :
    Nat → Eps → List Sensor → List ℚ
  | _, _, [] => []
  | index, eps, sensor :: rest =>
    let value := readingValue sensor bank (epsIsPayloadEnabled eps) (draws index)
    value :: readValues bank currentMs draws (index + 1)
      (pollSensor sensor bank eps currentMs value).1 rest

/-- Each value is one that its sensor gives. -/
theorem readValues_getD {bank : Sensors} {currentMs : UInt64} {draws : Nat → Draw} {index : Nat}
    {eps : Eps} {sensors : List Sensor} {offset : Nat} {sensor : Sensor}
    (here : sensors[offset]? = some sensor) :
    ∃ (payloadEnabled : Bool) (draw : Draw),
      (readValues bank currentMs draws index eps sensors).getD offset 0 =
        readingValue sensor bank payloadEnabled draw := by
  induction sensors generalizing index eps offset with
  | nil => exact nomatch here
  | cons first rest inductionHypothesis =>
    cases offset with
    | zero =>
      cases here
      exact ⟨_, _, rfl⟩
    | succ offset => exact inductionHypothesis here

omit [CLayout EpsRecord] [CLayout FaultRecord] in
/-- What has no numeric value shows zero for ever. -/
theorem inRange_of_status {sensor : Sensor} (status : ¬sensor.sensorType.isNumeric = true)
    (shown : sensor.Unread ∨ sensor.InRange) : sensor.InRange := by
  rcases shown with unread | inRange
  · unfold Sensor.InRange readingRange
    rw [unread.2]
    cases kind : sensor.sensorType with
    | statusHex2 => exact ⟨le_rfl, le_rfl⟩
    | _ =>
      rw [kind] at status
      exact absurd rfl status
  · exact inRange

/-- A poll leaves the sensors in range when each value is one that its sensor gives: a sensor that
has not been read is due. -/
theorem pollFrom_inRange {bank : Sensors} (charged : InCharge bank.soc) (currentMs : UInt64)
    {values : Nat → ℚ} {sensors : List Sensor} {index : Nat} (eps : Eps)
    (shown : ∀ sensor ∈ sensors, sensor.Unread ∨ sensor.InRange)
    (read : ∀ (offset : Nat) (sensor : Sensor), sensors[offset]? = some sensor →
      ∃ (payloadEnabled : Bool) (draw : Draw),
        values (index + offset) = readingValue sensor bank payloadEnabled draw) :
    ∀ sensor ∈ (pollFrom bank currentMs values index eps sensors).2, sensor.InRange := by
  induction sensors generalizing index eps with
  | nil => exact fun _ impossible => nomatch impossible
  | cons first rest inductionHypothesis =>
    obtain ⟨here, others⟩ := List.forall_mem_cons.mp shown
    refine List.forall_mem_cons.mpr ⟨?_, inductionHypothesis _ others fun offset sensor found => ?_⟩
    · unfold pollSensor
      split
      · by_cases numeric : first.sensorType.isNumeric = true
        · obtain ⟨payloadEnabled, draw, value⟩ := read 0 first rfl
          unfold Sensor.InRange readingRange
          dsimp only
          rw [Nat.add_zero] at value
          rw [if_pos numeric, value]
          exact readingValue_inRange first charged payloadEnabled draw
        · unfold Sensor.InRange readingRange
          dsimp only
          rw [if_neg numeric]
          exact inRange_of_status numeric here
      · next notDue =>
        refine here.resolve_left fun unread => notDue ?_
        rw [unread.1]
        exact UInt64.zero_le
    · have value := read (offset + 1) sensor found
      rwa [Nat.add_comm offset 1, ← Nat.add_assoc] at value

variable [CLayout MissionRecord]

/-! ### The simulated craft -/

/-- The values of an iteration: those the sensors give when its health check is behind it. -/
def simulatedValues (flight : Flight) (input : LoopInput) (draws : Nat → Draw) : Nat → ℚ :=
  let monitored := updateAndMonitor flight input
  let checked := sendAndCheck monitored input
  fun index =>
    (readValues monitored.bank input.loopMs draws 0 checked.1 monitored.bank.sensors).getD index 0

/-- A sensor as the loaders leave it. -/
def Sensor.unread (sensor : Sensor) : Sensor := { sensor with nextPollMs := 0, lastValue := 0 }

/-- What happens to the simulated craft; an iteration comes with what its readings draw. -/
inductive SimulatedEvent
  | boot (input : BootInput)
  | iterate (input : LoopInput) (draws : Nat → Draw)
  | shutdown

/-- The event of the craft: the sensors of a boot have not been read, and those of an iteration
give their values. -/
def SimulatedEvent.event (flight : Flight) : SimulatedEvent → CraftEvent
  | .boot input => .boot { input with sensors := input.sensors.map Sensor.unread }
  | .iterate input draws => .iterate { input with values := simulatedValues flight input draws }
  | .shutdown => .shutdown

/-- An event of the simulated craft. -/
def simulatedStep (craft : Craft) (event : SimulatedEvent) : Craft :=
  craftStep craft (event.event craft.flight)

/-- The event without sensors. -/
def SimulatedEvent.withoutSensors : SimulatedEvent → CraftEvent
  | .boot input => .boot { input with sensors := [] }
  | .iterate input _ => .iterate input
  | .shutdown => .shutdown

/-- The flight software without sensors. -/
def Flight.withoutSensors (flight : Flight) : Flight :=
  { flight with bank := { flight.bank with sensors := [] } }

/-- The craft without sensors. -/
def Craft.withoutSensors (craft : Craft) : Craft :=
  { craft with flight := craft.flight.withoutSensors }

/-- What holds of the simulated craft: both states of charge are in their range, and so are the
sensors that have been read. -/
structure Flight.Calm (flight : Flight) : Prop where
  charged : InCharge flight.soc
  bankCharged : InCharge flight.bank.soc
  shown : ∀ sensor ∈ flight.bank.sensors, sensor.Unread ∨ sensor.InRange

omit [CLayout EpsRecord] [CLayout FaultRecord] [CLayout MissionRecord] in
theorem integrateSoc_inCharge (sunlit payloadEnabled : Bool) (soc : ℚ) :
    InCharge (integrateSoc sunlit payloadEnabled soc) := by
  unfold integrateSoc
  dsimp only
  generalize (if sunlit then soc + 20 / 10000 else soc - discharge payloadEnabled) = integrated
  unfold InCharge
  split_ifs <;> constructor <;> linarith

theorem updateMissionState_calm {flight : Flight} (calm : flight.Calm) (now : UInt64) :
    (updateMissionState flight now).Calm :=
  ⟨integrateSoc_inCharge _ _ _, calm.charged, calm.shown⟩

omit [CLayout MissionRecord] in
/-- The health check of a calm craft is that of the craft without sensors, and leaves it calm. -/
theorem monitorSystemHealth_calm {flight : Flight} (calm : flight.Calm) (uartOpens : Bool)
    (now : UInt64) :
    (monitorSystemHealth flight uartOpens now).Calm ∧
      (monitorSystemHealth flight uartOpens now).withoutSensors =
        monitorSystemHealth flight.withoutSensors uartOpens now := by
  unfold monitorSystemHealth
  rw [foldl_checkSensor_eq calm.shown]
  by_cases recent : now - flight.lastHealthCheckMs < healthCheckIntervalMs
  · rw [if_pos recent]
    exact ⟨calm, (if_pos recent).symm⟩
  · rw [if_neg recent]
    exact ⟨⟨calm.charged, calm.bankCharged, calm.shown⟩, (if_neg recent).symm⟩

/-- The poll of a calm craft changes what it does to no more than the sensors. -/
theorem pollAndSave_withoutSensors {flight : Flight} (calm : flight.Calm) (input : LoopInput)
    (values : Nat → ℚ) :
    (pollAndSave flight { input with values := values }).withoutSensors =
      pollAndSave flight.withoutSensors input := by
  unfold pollAndSave Flight.withoutSensors sensorsPoll
  dsimp only
  rw [pollFrom_eq calm.bankCharged]
  rfl

/-- The poll leaves the sensors of a calm craft in range when the values are theirs. -/
theorem pollAndSave_inRange {flight : Flight} (calm : flight.Calm) (input : LoopInput)
    {values : Nat → ℚ}
    (read : ∀ (index : Nat) (sensor : Sensor), flight.bank.sensors[index]? = some sensor →
      ∃ (payloadEnabled : Bool) (draw : Draw),
        values index = readingValue sensor flight.bank payloadEnabled draw) :
    ∀ sensor ∈ (pollAndSave flight { input with values := values }).bank.sensors,
      sensor.InRange := by
  refine pollFrom_inRange calm.bankCharged _ _ calm.shown fun index sensor found => ?_
  rw [Nat.zero_add]
  exact read index sensor found

/-- An iteration of a calm craft leaves its sensors in range. -/
theorem mainLoopIteration_inRange {flight : Flight} (calm : flight.Calm) (input : LoopInput)
    (draws : Nat → Draw) :
    ∀ sensor ∈ (mainLoopIteration flight
      { input with values := simulatedValues flight input draws }).bank.sensors,
      sensor.InRange := by
  have monitored := (monitorSystemHealth_calm (updateMissionState_calm calm input.updateMs)
    input.uartOpens input.healthMs).1
  exact pollAndSave_inRange monitored input fun index sensor found => readValues_getD found

/-- An iteration of a calm craft is one of the craft without sensors, and leaves it calm. -/
theorem mainLoopIteration_calm {flight : Flight} (calm : flight.Calm) (input : LoopInput)
    (draws : Nat → Draw) :
    (mainLoopIteration flight { input with values := simulatedValues flight input draws }).Calm ∧
      (mainLoopIteration flight
          { input with values := simulatedValues flight input draws }).withoutSensors =
        mainLoopIteration flight.withoutSensors input := by
  obtain ⟨monitored, same⟩ := monitorSystemHealth_calm
    (updateMissionState_calm calm input.updateMs) input.uartOpens input.healthMs
  refine ⟨⟨monitored.charged, monitored.bankCharged, fun sensor member => Or.inr ?_⟩, ?_⟩
  · exact mainLoopIteration_inRange calm input draws sensor member
  · refine (pollAndSave_withoutSensors monitored input _).trans ?_
    exact congrArg (fun flight => pollAndSave flight input) same

omit [CLayout EpsRecord] [CLayout FaultRecord] [CLayout MissionRecord] in
theorem unread_of_boot {sensors : List Sensor} {sensor : Sensor}
    (member : sensor ∈ sensors.map Sensor.unread) : sensor.Unread := by
  obtain ⟨loaded, -, rfl⟩ := List.mem_map.mp member
  exact ⟨rfl, rfl⟩

/-- A boot of a craft is one of the craft without sensors, and leaves it calm. -/
theorem initSystem_calm (disk : Disk) (input : BootInput) :
    (initSystem disk { input with sensors := input.sensors.map Sensor.unread }).Calm ∧
      (initSystem disk { input with sensors := input.sensors.map Sensor.unread }).withoutSensors =
        initSystem disk { input with sensors := [] } := by
  have charged : InCharge startSoc := by
    unfold InCharge startSoc
    norm_num
  refine ⟨⟨charged, charged, fun sensor member => ?_⟩, rfl⟩
  exact Or.inl (unread_of_boot member)

/-- An event of a calm craft is one of the craft without sensors, and leaves it calm. -/
theorem simulatedStep_calm {craft : Craft} (calm : craft.flight.Calm) (event : SimulatedEvent) :
    (simulatedStep craft event).flight.Calm ∧
      (simulatedStep craft event).withoutSensors =
        craftStep craft.withoutSensors event.withoutSensors := by
  obtain ⟨flight, running⟩ := craft
  cases event with
  | boot input =>
    obtain ⟨booted, same⟩ := initSystem_calm flight.disk input
    exact ⟨booted, congrArg (Craft.mk · true) same⟩
  | iterate input draws =>
    cases running with
    | false => exact ⟨calm, rfl⟩
    | true =>
      obtain ⟨iterated, same⟩ := mainLoopIteration_calm calm input draws
      exact ⟨iterated, congrArg (Craft.mk · true) same⟩
  | shutdown =>
    cases running with
    | false => exact ⟨calm, rfl⟩
    | true => exact ⟨⟨calm.charged, calm.bankCharged, calm.shown⟩, rfl⟩

/-! ### Runs -/

/-- A boot of the simulated craft. -/
def simulatedBoot (disk : Disk) (input : BootInput) : Craft :=
  bootCraft disk { input with sensors := input.sensors.map Sensor.unread }

theorem simulatedBoot_calm (disk : Disk) (input : BootInput) :
    (simulatedBoot disk input).flight.Calm ∧
      (simulatedBoot disk input).withoutSensors =
        bootCraft disk { input with sensors := [] } := by
  obtain ⟨booted, same⟩ := initSystem_calm disk input
  exact ⟨booted, congrArg (Craft.mk · true) same⟩

/-- In every run of the simulated craft, over its boots, iterations and shutdowns, the readings of
the sensors and the health checks of their temperatures change nothing: the run is that of the craft
without sensors. -/
theorem simulation_undisturbed (disk : Disk) (input : BootInput)
    (events : List SimulatedEvent) :
    (finalState simulatedStep (simulatedBoot disk input) events).withoutSensors =
      finalState craftStep (bootCraft disk { input with sensors := [] })
        (events.map SimulatedEvent.withoutSensors) := by
  unfold finalState
  rw [List.foldl_map]
  refine (finalState_related
    (fun (simulated plain : Craft) => simulated.flight.Calm ∧ simulated.withoutSensors = plain)
    ?_ (simulatedBoot_calm disk input) events).2
  rintro simulated _ event ⟨calm, rfl⟩
  exact simulatedStep_calm calm event

/-- The simulated craft, and whether an iteration has polled its sensors since the boot. -/
structure PolledCraft where
  craft : Craft
  polled : Bool

/-- An event; an iteration polls unless the craft is shut down. -/
def polledStep (state : PolledCraft) (event : SimulatedEvent) : PolledCraft where
  craft := simulatedStep state.craft event
  polled :=
    match event with
    | .boot _ => false
    | .iterate _ _ => state.polled || state.craft.running
    | .shutdown => state.polled

/-- Every sensor is unread before the first poll since the boot, and shows a value in the range of
its type and channel after it. -/
def PolledCraft.InRange (state : PolledCraft) : Prop :=
  ∀ sensor ∈ state.craft.flight.bank.sensors,
    if state.polled then sensor.InRange else sensor.Unread

theorem polledStep_inRange {state : PolledCraft} (calm : state.craft.flight.Calm)
    (inRange : state.InRange) (event : SimulatedEvent) : (polledStep state event).InRange := by
  obtain ⟨⟨flight, running⟩, polled⟩ := state
  cases event with
  | boot input => exact fun sensor member => unread_of_boot member
  | iterate input draws =>
    cases running with
    | false =>
      unfold PolledCraft.InRange polledStep
      rw [Bool.or_false]
      exact inRange
    | true =>
      unfold PolledCraft.InRange polledStep
      rw [Bool.or_true]
      exact mainLoopIteration_inRange calm input draws
  | shutdown =>
    cases running with
    | false => exact inRange
    | true => exact inRange

/-- In every run of the simulated craft every sensor is at all times unread when no iteration has
been since the boot, and shows a value in the range of its type and channel otherwise. -/
theorem simulation_inRange (disk : Disk) (input : BootInput) (events : List SimulatedEvent) :
    Throughout polledStep PolledCraft.InRange ⟨simulatedBoot disk input, false⟩ events := by
  have preserved : ∀ (state : PolledCraft) (event : SimulatedEvent),
      state.craft.flight.Calm ∧ state.InRange →
        (polledStep state event).craft.flight.Calm ∧ (polledStep state event).InRange := by
    rintro state event ⟨calm, inRange⟩
    exact ⟨(simulatedStep_calm calm event).1, polledStep_inRange calm inRange event⟩
  have initial : (⟨simulatedBoot disk input, false⟩ : PolledCraft).InRange :=
    fun sensor member => unread_of_boot member
  have both := throughout_of_preserved preserved ⟨(simulatedBoot_calm disk input).1, initial⟩ events
  exact both.mono fun _ kept => kept.2

end

end SmartQso
