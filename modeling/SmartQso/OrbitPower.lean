/-
This file follows the charge of the battery through the simulated orbits: a hundred ticks
in the sun and eighty in the shadow. In the active mode the payload takes more out of the
battery than the sun puts in, in the idle mode less. The modes therefore take turns, and
from a spacecraft without an EPS configuration on, the charge never gets to where a health
check or the power management would intervene.
-/

import SmartQso.EpsModes
import SmartQso.SimulatedSensors

namespace SmartQso

open Runs

/-! ### The least charge in the idle mode -/

/-- The least charge in the idle mode, by the place in the orbit: it rises in the sun, and in the
shadow it falls from where the active mode is left. -/
def idleFloor (place : ℕ) : ℚ :=
  if place ≤ 100 then 317 / 1000 + 2 / 1000 * place else 396 / 1000 - 1 / 1000 * (place - 101)

theorem idleFloor_ge {place : ℕ} (within : place ≤ 180) : 317 / 1000 ≤ idleFloor place := by
  have bound : (place : ℚ) ≤ 180 := by exact_mod_cast within
  have nonneg : (0 : ℚ) ≤ place := Nat.cast_nonneg place
  unfold idleFloor
  split_ifs <;> linarith

theorem idleFloor_le_one {place : ℕ} : idleFloor place ≤ 1 := by
  unfold idleFloor
  split_ifs with sunlit
  · have bound : (place : ℚ) ≤ 100 := by exact_mod_cast sunlit
    linarith
  · have bound : (100 : ℚ) < place := by exact_mod_cast Nat.lt_of_not_le sunlit
    linarith

/-- In the sun the least charge rises by the charge of a tick. -/
theorem idleFloor_sunlit {place : ℕ} (sunlit : place < 100) :
    idleFloor (place + 1) = idleFloor place + 2 / 1000 := by
  unfold idleFloor
  rw [if_pos (Nat.succ_le_of_lt sunlit), if_pos (Nat.le_of_lt sunlit)]
  push_cast
  linarith

/-- In the shadow it falls by the discharge without payload, or further. -/
theorem idleFloor_shadow {place : ℕ} (shadow : 100 ≤ place) (within : place < 180) :
    idleFloor ((place + 1) % 180) ≤ idleFloor place - 1 / 1000 := by
  have bound : (place : ℚ) ≤ 179 := by exact_mod_cast Nat.le_of_lt_succ within
  have after : (100 : ℚ) ≤ place := by exact_mod_cast shadow
  by_cases last : place = 179
  · subst last
    norm_num [idleFloor]
  · rw [Nat.mod_eq_of_lt (by omega)]
    unfold idleFloor
    rw [if_neg (by omega : ¬place + 1 ≤ 100)]
    push_cast
    split_ifs <;> linarith

/-- In the shadow the least charge is one that a tick in the active mode leaves. -/
theorem idleFloor_le {place : ℕ} (shadow : 100 ≤ place) (within : place < 180) :
    idleFloor ((place + 1) % 180) ≤ 396 / 1000 := by
  have after : (100 : ℚ) ≤ place := by exact_mod_cast shadow
  by_cases last : place = 179
  · subst last
    norm_num [idleFloor]
  · rw [Nat.mod_eq_of_lt (by omega)]
    unfold idleFloor
    rw [if_neg (by omega : ¬place + 1 ≤ 100)]
    push_cast
    linarith

/-! ### The mode fits the charge -/

/-- The mode is idle or active. -/
def EpsRecord.Awake (record : EpsRecord) : Prop := record.InMode .idle ∨ record.InMode .active

/-- The file holds no mode but these. -/
def Eps.SavedAwake (eps : Eps) : Prop :=
  ∀ snapshot : Sealed EpsRecord, eps.written.head? = some snapshot → snapshot.record.Awake

/-- The mode fits the charge: idle above its least charge, or active above the idle threshold. -/
structure Eps.Fits (eps : Eps) (floor soc : ℚ) : Prop where
  saved : eps.SavedAwake
  charged : eps.state.record.InMode .idle ∧ floor ≤ soc ∨
    eps.state.record.InMode .active ∧ epsSocIdleThreshold ≤ soc

theorem Eps.Fits.mono {eps : Eps} {floor lower soc : ℚ} (fits : eps.Fits floor soc)
    (less : lower ≤ floor) : eps.Fits lower soc :=
  ⟨fits.saved, fits.charged.imp (fun idle => ⟨idle.1, less.trans idle.2⟩) id⟩

section

variable [CLayout EpsRecord] [CLayout FaultRecord]

/-- A request of one of these modes leaves the file with one of them. -/
theorem epsSetPowerMode_savedAwake {eps : Eps} (saved : eps.SavedAwake) {target : PowerMode}
    (consistent : eps.state.record.Consistent) (awake : target = .idle ∨ target = .active)
    (soc : ℚ) (now : UInt64) : (epsSetPowerMode eps target.value soc now).1.SavedAwake := by
  have inMode := epsSetPowerMode_inMode consistent target soc now
  by_cases already : eps.state.record.powerMode = target.code
  · rw [epsSetPowerMode_same already]
    exact saved
  · rw [epsSetPowerMode_change already] at inMode ⊢
    intro snapshot head
    cases head
    rcases awake with rfl | rfl
    · exact Or.inl inMode
    · exact Or.inr inMode

/-- The power management goes to the mode that fits. -/
theorem managePower_fits {eps : Eps} (saved : eps.SavedAwake) {floor soc : ℚ}
    (before : eps.state.record.InMode .idle ∧ floor ≤ soc ∨
      eps.state.record.InMode .active ∧ (epsSocIdleThreshold ≤ soc ∨ floor ≤ soc))
    (uncritical : ¬soc < epsSocSafeThreshold) (sunlit : Bool) (now : UInt64) :
    (managePower eps sunlit soc now).Fits floor soc := by
  have consistent : eps.state.record.Consistent := by
    rcases before with ⟨idle, _⟩ | ⟨active, _⟩
    · exact ⟨_, idle⟩
    · exact ⟨_, active⟩
  have requested := fun mode => epsSetPowerMode_inMode consistent mode soc now
  have resaved := fun {mode : PowerMode} awake =>
    @epsSetPowerMode_savedAwake _ _ eps saved mode consistent awake soc now
  unfold managePower epsGetPowerMode
  dsimp only
  rw [if_neg uncritical]
  by_cases low : soc < epsSocIdleThreshold
  · rw [if_pos low]
    have above : floor ≤ soc := by
      rcases before with ⟨_, above⟩ | ⟨_, high | above⟩
      · exact above
      · exact absurd low (not_lt.mpr high)
      · exact above
    split
    · exact ⟨resaved (Or.inl rfl), Or.inl ⟨requested .idle, above⟩⟩
    · next notAbove =>
      rcases before with ⟨idle, _⟩ | ⟨active, _⟩
      · exact ⟨saved, Or.inl ⟨idle, above⟩⟩
      · exact absurd (by rw [active.stored]; decide) notAbove
  · rw [if_neg low]
    split
    · exact ⟨resaved (Or.inr rfl), Or.inr ⟨requested .active, not_lt.mp low⟩⟩
    · refine ⟨saved, before.imp id fun active => ⟨active.1, not_lt.mp low⟩⟩

/-! ### The parts of an iteration -/

omit [CLayout EpsRecord] in
theorem manageWatchdog_fits {eps : Eps} {floor soc : ℚ} (fits : eps.Fits floor soc)
    (lastResetMs : UInt64) (now : UInt64) :
    (manageWatchdog eps lastResetMs soc now).1.Fits floor soc := by
  unfold manageWatchdog
  split
  · exact ⟨fits.saved, fits.charged⟩
  · exact fits

theorem recoverFromSafe_eq {eps : Eps} {currentMode : UInt8}
    (awake : currentMode ≠ PowerMode.safe.code) (tick : UInt64) (soc : ℚ) (now : UInt64) :
    recoverFromSafe eps currentMode tick soc now = eps := by
  unfold recoverFromSafe
  split
  · exact if_neg fun both => awake both.1
  · rfl

omit [CLayout EpsRecord] [CLayout FaultRecord] in
theorem Eps.Fits.awake {eps : Eps} {floor soc : ℚ} (fits : eps.Fits floor soc) :
    epsGetPowerMode eps ≠ PowerMode.safe.code := by
  unfold epsGetPowerMode
  rcases fits.charged with ⟨idle, _⟩ | ⟨active, _⟩
  · rw [idle.stored]
    decide
  · rw [active.stored]
    decide

omit [CLayout EpsRecord] [CLayout FaultRecord] in
theorem le_integrateSoc {sunlit payloadEnabled : Bool} {soc floor : ℚ}
    (reached : floor ≤ if sunlit then soc + 20 / 10000 else soc - discharge payloadEnabled)
    (full : floor ≤ 1) : floor ≤ integrateSoc sunlit payloadEnabled soc := by
  unfold integrateSoc
  dsimp only
  generalize (if sunlit then soc + 20 / 10000 else soc - discharge payloadEnabled) = integrated
    at reached
  split_ifs <;> linarith

omit [CLayout EpsRecord] [CLayout FaultRecord] in
/-- A tick in the idle mode leaves the charge above the next least charge. -/
theorem integrateSoc_idle {soc : ℚ} {place : ℕ} (within : place < 180)
    (above : idleFloor place ≤ soc) :
    idleFloor ((place + 1) % 180) ≤ integrateSoc (decide (place < 100)) false soc := by
  refine le_integrateSoc ?_ idleFloor_le_one
  by_cases sunlit : place < 100
  · rw [if_pos (decide_eq_true sunlit), Nat.mod_eq_of_lt (by omega), idleFloor_sunlit sunlit]
    linarith
  · rw [if_neg (by simpa using sunlit)]
    have falls := idleFloor_shadow (not_lt.mp sunlit) within
    unfold discharge
    rw [if_neg Bool.false_ne_true]
    linarith

omit [CLayout EpsRecord] [CLayout FaultRecord] in
/-- A tick in the active mode leaves the charge above the idle threshold, or above the next least
charge and little below the threshold. -/
theorem integrateSoc_active {soc : ℚ} {place : ℕ} (within : place < 180)
    (above : epsSocIdleThreshold ≤ soc) (payloadEnabled : Bool) :
    let charged := integrateSoc (decide (place < 100)) payloadEnabled soc
    epsSocIdleThreshold ≤ charged ∨
      idleFloor ((place + 1) % 180) ≤ charged ∧ 396 / 1000 ≤ charged := by
  intro charged
  unfold epsSocIdleThreshold at above ⊢
  by_cases sunlit : place < 100
  · refine Or.inl (le_integrateSoc ?_ (by norm_num))
    rw [if_pos (decide_eq_true sunlit)]
    linarith
  · have drained : 396 / 1000 ≤ charged := by
      refine le_integrateSoc ?_ (by norm_num)
      rw [if_neg (by simpa using sunlit)]
      unfold discharge
      split_ifs <;> linarith
    exact Or.inr ⟨(idleFloor_le (not_lt.mp sunlit) within).trans drained, drained⟩

/-- `update_mission_state` leaves a mode that fits, and the charge above the least one. -/
theorem updateMissionState_fits [CLayout MissionRecord] {flight : Flight}
    (fits : flight.eps.Fits (idleFloor (flight.tick.toNat % 180)) flight.soc) (now : UInt64) :
    (updateMissionState flight now).eps.Fits (idleFloor ((flight.tick.toNat % 180 + 1) % 180))
        (updateMissionState flight now).soc ∧
      317 / 1000 ≤ (updateMissionState flight now).soc := by
  have within : flight.tick.toNat % 180 < 180 := Nat.mod_lt _ (by decide)
  have sunlit : decide (flight.tick % 180 < 100) = decide (flight.tick.toNat % 180 < 100) := by
    rw [decide_eq_decide, UInt64.lt_iff_toNat_lt, UInt64.toNat_mod]
    rfl
  have charge : (updateMissionState flight now).soc =
      integrateSoc (decide (flight.tick.toNat % 180 < 100)) (epsIsPayloadEnabled flight.eps)
        flight.soc := by
    rw [← sunlit]
    rfl
  have lowest := @idleFloor_ge ((flight.tick.toNat % 180 + 1) % 180) (by omega)
  have managed : (flight.eps.state.record.InMode .idle ∧
        idleFloor ((flight.tick.toNat % 180 + 1) % 180) ≤ (updateMissionState flight now).soc ∨
      flight.eps.state.record.InMode .active ∧
        (epsSocIdleThreshold ≤ (updateMissionState flight now).soc ∨
          idleFloor ((flight.tick.toNat % 180 + 1) % 180) ≤
            (updateMissionState flight now).soc)) ∧
      317 / 1000 ≤ (updateMissionState flight now).soc := by
    rw [charge]
    rcases fits.charged with ⟨idle, above⟩ | ⟨active, above⟩
    · have unloaded : epsIsPayloadEnabled flight.eps = false :=
        idle.unloaded PowerMode.noConfusion
      have kept := integrateSoc_idle within above
      rw [unloaded]
      exact ⟨Or.inl ⟨idle, kept⟩, lowest.trans kept⟩
    · have threshold : 317 / 1000 ≤ epsSocIdleThreshold := by norm_num [epsSocIdleThreshold]
      rcases integrateSoc_active within above (epsIsPayloadEnabled flight.eps) with
        high | ⟨kept, drained⟩
      · exact ⟨Or.inr ⟨active, Or.inl high⟩, threshold.trans high⟩
      · exact ⟨Or.inr ⟨active, Or.inr kept⟩, lowest.trans kept⟩
  obtain ⟨before, least⟩ := managed
  have uncritical : ¬(updateMissionState flight now).soc < epsSocSafeThreshold := by
    unfold epsSocSafeThreshold
    linarith
  refine ⟨?_, least⟩
  change (recoverFromSafe _ (epsGetPowerMode flight.eps) _ _ now).Fits _ _
  rw [recoverFromSafe_eq fits.awake]
  exact manageWatchdog_fits (managePower_fits fits.saved before uncritical _ now) _ now

theorem monitorSystemHealth_soc (flight : Flight) (uartOpens : Bool) (now : UInt64) :
    (monitorSystemHealth flight uartOpens now).soc = flight.soc := by
  unfold monitorSystemHealth
  split <;> rfl

/-- The health check of a calm craft leaves a mode that fits. -/
theorem monitorSystemHealth_fits {flight : Flight} {floor : ℚ} (calm : flight.Calm)
    (fits : flight.eps.Fits floor flight.soc) (least : 317 / 1000 ≤ flight.soc)
    (uartOpens : Bool) (now : UInt64) :
    (monitorSystemHealth flight uartOpens now).eps.Fits floor
      (monitorSystemHealth flight uartOpens now).soc := by
  rw [monitorSystemHealth_soc]
  unfold monitorSystemHealth
  rw [foldl_checkSensor_eq calm.shown]
  split
  · exact fits
  · have powered : checkPower flight.eps flight.soc now = flight.eps :=
      if_neg (by linarith)
    dsimp only
    rw [powered]
    unfold checkCommunication
    split
    · exact ⟨fits.saved, fits.charged⟩
    · exact fits

/-- The rest of an iteration of a calm craft leaves a mode that fits. -/
theorem pollAndSave_fits [CLayout MissionRecord] {flight : Flight} {floor : ℚ}
    (calm : flight.Calm) (fits : flight.eps.Fits floor flight.soc) (input : LoopInput) :
    (pollAndSave flight input).eps.Fits floor flight.soc := by
  have checked : (sendAndCheck flight input).1.Fits floor flight.soc := by
    unfold sendAndCheck uartCheckHealth
    dsimp only
    split
    · split
      · exact fits
      split
      · exact fits
      · exact ⟨fits.saved, fits.charged⟩
    · exact fits
  unfold pollAndSave sensorsPoll
  dsimp only
  rw [pollFrom_eq calm.bankCharged]
  split
  · refine ⟨fun snapshot head => ?_, checked.charged⟩
    cases head
    exact checked.charged.imp And.left And.left
  · exact checked

/-! ### Runs -/

omit [CLayout EpsRecord] [CLayout FaultRecord] in
/-- The next tick is at the next place, or at the first one when the counter wraps. -/
theorem idleFloor_succ (tick : UInt64) :
    idleFloor ((tick + 1).toNat % 180) ≤ idleFloor ((tick.toNat % 180 + 1) % 180) := by
  by_cases wraps : tick.toNat + 1 = 18446744073709551616
  · have first : (tick + 1).toNat = 0 := by
      rw [UInt64.toNat_add]
      change (tick.toNat + 1) % 18446744073709551616 = 0
      rw [wraps]
    rw [first]
    refine le_trans ?_ (idleFloor_ge (Nat.le_of_lt (Nat.mod_lt _ (by decide))))
    norm_num [idleFloor]
  · have next : (tick + 1).toNat = tick.toNat + 1 := by
      rw [UInt64.toNat_add]
      have bound := tick.toNat_lt
      change (tick.toNat + 1) % 18446744073709551616 = _
      omega
    rw [next]
    exact le_of_eq (congrArg idleFloor (by omega))

/-- The charge of a calm craft is above the least one, and its mode fits. -/
structure Flight.Powered (flight : Flight) : Prop where
  calm : flight.Calm
  fits : flight.eps.Fits (idleFloor (flight.tick.toNat % 180)) flight.soc
  least : 317 / 1000 ≤ flight.soc

variable [CLayout MissionRecord]

theorem mainLoopIteration_powered {flight : Flight} (powered : flight.Powered)
    (input : LoopInput) (draws : Nat → Draw) :
    (mainLoopIteration flight
      { input with values := simulatedValues flight input draws }).Powered := by
  obtain ⟨calm, fits, least⟩ := powered
  obtain ⟨updated, above⟩ := updateMissionState_fits fits input.updateMs
  have updatedCalm := updateMissionState_calm calm input.updateMs
  have monitoredCalm := (monitorSystemHealth_calm updatedCalm input.uartOpens input.healthMs).1
  have monitored := monitorSystemHealth_fits updatedCalm updated above input.uartOpens
    input.healthMs
  refine ⟨(mainLoopIteration_calm calm input draws).1, ?_, ?_⟩
  · rw [mainLoopIteration_tick]
    exact (pollAndSave_fits monitoredCalm monitored _).mono (idleFloor_succ flight.tick)
  · refine le_of_le_of_eq above (Eq.symm ?_)
    exact monitorSystemHealth_soc _ input.uartOpens input.healthMs

omit [CLayout FaultRecord] in
theorem shutdownSystem_powered {flight : Flight} (powered : flight.Powered) :
    (shutdownSystem flight).Powered := by
  obtain ⟨calm, fits, least⟩ := powered
  refine ⟨⟨calm.charged, calm.bankCharged, calm.shown⟩, ⟨fun snapshot head => ?_, fits.charged⟩,
    least⟩
  cases head
  exact fits.charged.imp And.left And.left

omit [CLayout FaultRecord] [CLayout MissionRecord] in
/-- `eps_init` starts in a mode that fits the charge at a boot. -/
theorem epsInit_fits {eps : Eps} (saved : eps.SavedAwake) (now : UInt64) :
    (epsInit eps now).Fits (idleFloor 0) startSoc := by
  have floor : idleFloor 0 ≤ startSoc := by norm_num [idleFloor, startSoc]
  have threshold : epsSocIdleThreshold ≤ startSoc := by
    norm_num [epsSocIdleThreshold, startSoc]
  unfold epsInit epsLoadConfig
  cases head : eps.written.head? with
  | none => exact ⟨saved, Or.inl ⟨epsDefaults_inMode now.toUInt32, floor⟩⟩
  | some snapshot =>
    dsimp only
    by_cases verifies : snapshot.verifies = true
    · rw [if_pos verifies]
      have awake := saved snapshot head
      exact ⟨saved, awake.imp (fun idle => ⟨idle, floor⟩) fun active => ⟨active, threshold⟩⟩
    · rw [if_neg verifies]
      exact ⟨saved, Or.inl ⟨epsDefaults_inMode now.toUInt32, floor⟩⟩

/-- A boot over a file that holds no mode but these is powered. -/
theorem initSystem_powered {disk : Disk} (input : BootInput)
    (saved : ∀ snapshot : Sealed EpsRecord, disk.epsConfig.head? = some snapshot →
      snapshot.record.Awake) :
    (initSystem disk { input with sensors := input.sensors.map Sensor.unread }).Powered := by
  refine ⟨(initSystem_calm disk input).1, ?_, by norm_num [initSystem, startSoc]⟩
  have loaded : (Eps.boot disk.epsConfig
      (faultMgmtInit (FaultMgmt.unloaded disk.faultLog))).SavedAwake := saved
  have booted := epsInit_fits loaded input.nowMs
  change (logUartInit _ _).Fits (idleFloor 0) startSoc
  unfold logUartInit
  split
  · exact booted
  · exact ⟨booted.saved, booted.charged⟩

theorem simulatedStep_powered (craft : Craft) (event : SimulatedEvent)
    (powered : craft.flight.Powered) : (simulatedStep craft event).flight.Powered := by
  obtain ⟨flight, running⟩ := craft
  cases event with
  | boot input => exact initSystem_powered input powered.fits.saved
  | iterate input draws =>
    cases running with
    | false => exact powered
    | true => exact mainLoopIteration_powered powered input draws
  | shutdown =>
    cases running with
    | false => exact powered
    | true => exact shutdownSystem_powered powered

/-- What the power management is there to keep up: charge in the battery, a mode above the safe
mode, and the payload only above the idle threshold. -/
structure Flight.Sustained (flight : Flight) : Prop where
  least : 317 / 1000 ≤ flight.soc
  most : flight.soc ≤ 1
  awake : epsGetPowerMode flight.eps ≠ PowerMode.safe.code
  payload : epsIsPayloadEnabled flight.eps = true → epsSocIdleThreshold ≤ flight.soc

omit [CLayout EpsRecord] [CLayout FaultRecord] [CLayout MissionRecord] in
theorem Flight.Powered.sustained {flight : Flight} (powered : flight.Powered) :
    flight.Sustained := by
  refine ⟨powered.least, powered.calm.charged.2, powered.fits.awake, fun loaded => ?_⟩
  rcases powered.fits.charged with ⟨idle, _⟩ | ⟨_, above⟩
  · exact absurd (idle.unloaded PowerMode.noConfusion) (by
      unfold epsIsPayloadEnabled at loaded
      rw [loaded]
      decide)
  · exact above

/-- In every run of the simulated craft, over its boots, iterations and shutdowns and without an EPS
configuration at the first boot, the battery never gets below 31.7 percent, the safe mode is never
entered and the payload is on only above the idle threshold. -/
theorem simulation_sustained (missionData : Option (Sealed MissionRecord))
    (faultLog : Option (List FaultLogEntry)) (input : BootInput) (events : List SimulatedEvent) :
    Throughout simulatedStep (fun craft => craft.flight.Sustained)
      (simulatedBoot ⟨[], missionData, faultLog⟩ input) events := by
  have initial : (simulatedBoot ⟨[], missionData, faultLog⟩ input).flight.Powered :=
    initSystem_powered input fun _ impossible => nomatch impossible
  exact (throughout_of_preserved simulatedStep_powered initial events).mono
    fun _ powered => powered.sustained

end

end SmartQso
