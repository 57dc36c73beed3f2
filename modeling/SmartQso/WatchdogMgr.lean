/-
This file models `watchdog_mgr.c` over the watchdog of the simulated hardware,
`hal_sim.c`. Every call takes the mission time it reads, and a kick also takes the time
of the hardware timer. A kick answers whether it has called `hal_wdt_kick`. The callback
before a reset, which the simulated hardware never makes, is left out.
-/

import Mathlib.Data.List.FinRange
import Mathlib.Logic.Function.Basic
import SmartQso.FaultMgmt

namespace SmartQso

/-! ### The watchdog of the hardware -/

/-- `HAL_WDT_MIN_TIMEOUT_MS`. -/
def halWdtMinTimeoutMs : UInt32 := 1000

/-- `HAL_WDT_MAX_TIMEOUT_MS`. -/
def halWdtMaxTimeoutMs : UInt32 := 60000

/-- The statics of the watchdog simulation, apart from the reset flag, which nothing sets. -/
structure HalWdt where
  timeoutMs : UInt32
  initialized : Bool
  running : Bool
  lastKickMs : UInt64
  deriving DecidableEq

/-- `hal_wdt_init`. -/
def halWdtInit (wdt : HalWdt) (timeoutMs : UInt32) : HalWdt × SmartQsoResult :=
  if timeoutMs < halWdtMinTimeoutMs ∨ timeoutMs > halWdtMaxTimeoutMs then (wdt, .errorInvalid)
  else ({ wdt with timeoutMs := timeoutMs, initialized := true }, .ok)

/-- `hal_wdt_start`. -/
def halWdtStart (wdt : HalWdt) (timerMs : UInt64) : HalWdt × SmartQsoResult :=
  if wdt.initialized then ({ wdt with running := true, lastKickMs := timerMs }, .ok)
  else (wdt, .error)

/-- `hal_wdt_kick`. -/
def halWdtKick (wdt : HalWdt) (timerMs : UInt64) : HalWdt :=
  if wdt.running then { wdt with lastKickMs := timerMs } else wdt

/-! ### State -/

/-- `WDT_TASK_NAME_LEN`. -/
def wdtTaskNameLen : Nat := 16

/-- `WDT_HW_TIMEOUT_MS`. -/
def wdtHwTimeoutMs : UInt32 := 30000

/-- `WDT_TASK_CHECK_INTERVAL_MS`. -/
def wdtTaskCheckIntervalMs : UInt64 := 1000

/-- `WDT_TASK_MISS_THRESHOLD`. -/
def wdtTaskMissThreshold : UInt32 := 3

/-- A task number below `WDT_MAX_TASKS`. -/
abbrev WdtSlot := Fin 8

/-- `WdtTaskEntry_t`. -/
structure WdtTaskEntry where
  name : String
  expectedPeriodMs : UInt32
  lastCheckinMs : UInt64
  missCount : UInt32
  totalCheckins : UInt32
  active : Bool
  stalled : Bool
  deriving DecidableEq

/-- An entry that `wdt_mgr_init` has cleared. -/
def WdtTaskEntry.clear : WdtTaskEntry := ⟨"", 0, 0, 0, 0, false, false⟩

/-- `WdtStats_t`. -/
structure WdtStats where
  hwKicks : UInt32
  taskCheckRuns : UInt32
  taskStallsDetected : UInt32
  resetsCaused : UInt32
  lastResetTimeS : UInt32
  lastStalledTask : UInt8
  hwWdtRunning : Bool
  deriving DecidableEq

/-- The statics of `watchdog_mgr.c`, with the modules it calls. -/
structure WatchdogMgr where
  tasks : WdtSlot → WdtTaskEntry
  stats : WdtStats
  lastTaskCheckMs : UInt64
  initialized : Bool
  hal : HalWdt
  faults : FaultMgmt

/-- Store an entry. -/
def WatchdogMgr.setTask (mgr : WatchdogMgr) (slot : WdtSlot) (entry : WdtTaskEntry) :
    WatchdogMgr := { mgr with tasks := Function.update mgr.tasks slot entry }

/-- `wdt_mgr_init`. -/
def wdtMgrInit (mgr : WatchdogMgr) : WatchdogMgr × SmartQsoResult :=
  let cleared : WatchdogMgr :=
    { mgr with
      tasks := fun _ => WdtTaskEntry.clear
      stats := ⟨0, 0, 0, mgr.stats.resetsCaused, 0, 0, false⟩
      lastTaskCheckMs := 0 }
  let (hal, result) := halWdtInit mgr.hal wdtHwTimeoutMs
  if result = .ok then ({ cleared with hal := hal, initialized := true }, .ok)
  else ({ cleared with hal := hal }, result)

/-- `wdt_mgr_start`. -/
def wdtMgrStart (mgr : WatchdogMgr) (now timerMs : UInt64) : WatchdogMgr × SmartQsoResult :=
  if mgr.initialized then
    let (hal, result) := halWdtStart mgr.hal timerMs
    if result = .ok then
      ({ mgr with
        hal := hal
        stats := { mgr.stats with hwWdtRunning := true }
        lastTaskCheckMs := now }, .ok)
    else ({ mgr with hal := hal }, result)
  else (mgr, .error)

/-! ### Tasks -/

/-- `wdt_mgr_register_task` for a name that is not null. -/
def wdtMgrRegisterTask (mgr : WatchdogMgr) (taskId : UInt32) (name : String)
    (expectedPeriodMs : UInt32) (now : UInt64) : WatchdogMgr × SmartQsoResult :=
  if inRange : taskId.toNat < 8 then
    if expectedPeriodMs = 0 then (mgr, .errorParam)
    else
      (mgr.setTask ⟨taskId.toNat, inRange⟩
        { name := String.ofList (name.toList.take (wdtTaskNameLen - 1))
          expectedPeriodMs := expectedPeriodMs
          lastCheckinMs := now
          missCount := 0
          totalCheckins := 0
          active := true
          stalled := false }, .ok)
  else (mgr, .errorParam)

/-- `wdt_mgr_unregister_task`. -/
def wdtMgrUnregisterTask (mgr : WatchdogMgr) (taskId : UInt32) : WatchdogMgr × SmartQsoResult :=
  if inRange : taskId.toNat < 8 then
    let slot : WdtSlot := ⟨taskId.toNat, inRange⟩
    (mgr.setTask slot { mgr.tasks slot with active := false }, .ok)
  else (mgr, .errorParam)

/-- `wdt_mgr_checkin`. -/
def wdtMgrCheckin (mgr : WatchdogMgr) (taskId : UInt32) (now : UInt64) :
    WatchdogMgr × SmartQsoResult :=
  if inRange : taskId.toNat < 8 then
    let slot : WdtSlot := ⟨taskId.toNat, inRange⟩
    let entry := mgr.tasks slot
    if entry.active then
      (mgr.setTask slot
        { entry with
          lastCheckinMs := now
          missCount := 0
          stalled := false
          totalCheckins := entry.totalCheckins + 1 }, .ok)
    else (mgr, .error)
  else (mgr, .errorParam)

/-- `wdt_mgr_any_task_stalled`. -/
def wdtMgrAnyTaskStalled (mgr : WatchdogMgr) : Bool :=
  (List.finRange 8).any fun slot => (mgr.tasks slot).active && (mgr.tasks slot).stalled

/-! ### Checks -/

/-- The time since the last check-in is longer than the period. -/
def WdtTaskEntry.overdue (entry : WdtTaskEntry) (now : UInt64) : Bool :=
  decide (now - entry.lastCheckinMs > entry.expectedPeriodMs.toUInt64)

section

variable [CLayout FaultRecord]

/-- A round of the loop of `check_task_watchdogs`. A name always fits in the message. -/
def checkTask (now : UInt64) (mgr : WatchdogMgr) (slot : WdtSlot) : WatchdogMgr :=
  let entry := mgr.tasks slot
  if !entry.active then mgr
  else if entry.overdue now then
    let missed : WdtTaskEntry := { entry with missCount := entry.missCount + 1 }
    if decide (missed.missCount ≥ wdtTaskMissThreshold) && !entry.stalled then
      { mgr.setTask slot { missed with stalled := true } with
        stats :=
          { mgr.stats with
            taskStallsDetected := mgr.stats.taskStallsDetected + 1
            lastStalledTask := UInt8.ofNat slot.val
            lastResetTimeS := (now / 1000).toUInt32 }
        faults := faultLogAdd mgr.faults .watchdog .warning s!"Task {entry.name} stalled" 0 now }
    else mgr.setTask slot missed
  else mgr.setTask slot { entry with missCount := 0, stalled := false }

/-- `check_task_watchdogs`. -/
def checkTaskWatchdogs (mgr : WatchdogMgr) (now : UInt64) : WatchdogMgr :=
  let checked := (List.finRange 8).foldl (checkTask now) mgr
  { checked with stats := { checked.stats with taskCheckRuns := checked.stats.taskCheckRuns + 1 } }

/-- A kick at this time runs the task check. -/
def WatchdogMgr.checkDue (mgr : WatchdogMgr) (now : UInt64) : Bool :=
  decide (now - mgr.lastTaskCheckMs ≥ wdtTaskCheckIntervalMs)

/-- `wdt_mgr_kick`, and whether it calls `hal_wdt_kick`. -/
def wdtMgrKick (mgr : WatchdogMgr) (now timerMs : UInt64) : WatchdogMgr × Bool :=
  if mgr.initialized then
    let kicked : WatchdogMgr :=
      { mgr with
        hal := halWdtKick mgr.hal timerMs
        stats := { mgr.stats with hwKicks := mgr.stats.hwKicks + 1 } }
    if mgr.checkDue now then
      ({ checkTaskWatchdogs kicked now with lastTaskCheckMs := now }, true)
    else (kicked, true)
  else (mgr, false)

end

end SmartQso
