/-
This file settles what `sys_update_uptime` counts when it is polled. A poll that finds
a whole second behind the mark counts the seconds and moves the mark to the present,
so the rest of the second it stands in is never counted. How much a series of polls
leaves uncounted depends on when they are made, and the uptime is the time elapsed
exactly when that stays below a second.
-/

import SmartQso.Runs
import SmartQso.SystemState
import Mathlib.Algebra.Group.Nat.Defs
import Mathlib.Data.List.Pairwise

namespace SmartQso

open Runs

/-! ### Polls -/

/-- A call of `sys_update_uptime` at the given time, on the state and its static mark. -/
def pollUptime (polled : SystemState × UInt64) (now : UInt64) : SystemState × UInt64 :=
  sysUpdateUptime polled.1 polled.2 now

/-- The milliseconds behind `mark` that the polls to come leave uncounted, where `last` is the time
of the poll before: what is left of a second at each poll that counts, and the time since the last
of these. -/
def uncountedMs : UInt64 → UInt64 → List UInt64 → Nat
  | mark, last, [] => last.toNat - mark.toNat
  | mark, _, now :: rest =>
    if (now.toNat - mark.toNat) / 1000 % 2 ^ 32 = 0 then uncountedMs mark now rest
    else (now.toNat - mark.toNat) % 1000 + uncountedMs now now rest

/-- The state counts so many seconds more than before. -/
def Counted (before after : SystemState) (seconds : Nat) : Prop :=
  sysGetUptimeS after = sysGetUptimeS before + UInt32.ofNat seconds ∧
    after.record.mission.totalUptimeS =
      before.record.mission.totalUptimeS + UInt32.ofNat seconds

/-! ### One poll -/

theorem Counted.refl (sys : SystemState) : Counted sys sys 0 :=
  ⟨(UInt32.add_zero _).symm, (UInt32.add_zero _).symm⟩

theorem Counted.trans {before middle after : SystemState} {first second : Nat}
    (earlier : Counted before middle first) (later : Counted middle after second) :
    Counted before after (first + second) := by
  constructor
  · rw [later.1, earlier.1, UInt32.ofNat_add, UInt32.add_assoc]
  · rw [later.2, earlier.2, UInt32.ofNat_add, UInt32.add_assoc]

/-- The whole seconds between two readings of the clock, as the poll computes them. -/
theorem elapsedSeconds {mark now : UInt64} (ordered : mark ≤ now) :
    ((now - mark) / 1000).toUInt32 = UInt32.ofNat ((now.toNat - mark.toNat) / 1000) := by
  rw [← UInt32.toNat_inj, UInt64.toNat_toUInt32, UInt64.toNat_div,
    UInt64.toNat_sub_of_le _ _ ordered, UInt32.toNat_ofNat']
  rfl

theorem elapsedSeconds_pos_iff {mark now : UInt64} (ordered : mark ≤ now) :
    0 < ((now - mark) / 1000).toUInt32 ↔ (now.toNat - mark.toNat) / 1000 % 2 ^ 32 ≠ 0 := by
  rw [elapsedSeconds ordered, UInt32.lt_iff_toNat_lt, UInt32.toNat_ofNat', UInt32.toNat_zero,
    Nat.pos_iff_ne_zero]

/-- A poll at the first time sets the mark and counts nothing. -/
theorem pollUptime_first (sys : SystemState) (first : UInt64) :
    pollUptime (sys, 0) first = (sys, first) := by
  unfold pollUptime sysUpdateUptime
  simp only [if_true, UInt64.sub_self]
  exact if_neg (by decide)

/-- A poll that finds no whole second leaves everything as it is. -/
theorem pollUptime_waits (sys : SystemState) {mark now : UInt64} (marked : 0 < mark)
    (ordered : mark ≤ now) (waits : (now.toNat - mark.toNat) / 1000 % 2 ^ 32 = 0) :
    pollUptime (sys, mark) now = (sys, mark) := by
  have set : mark ≠ 0 := (UInt64.ne_of_lt marked).symm
  unfold pollUptime sysUpdateUptime
  simp only [if_neg set]
  exact if_neg fun counts => (elapsedSeconds_pos_iff ordered).mp counts waits

/-- A poll that finds a whole second counts the seconds and moves the mark to the present. -/
theorem pollUptime_counts (sys : SystemState) {mark now : UInt64} (marked : 0 < mark)
    (ordered : mark ≤ now) (counts : (now.toNat - mark.toNat) / 1000 % 2 ^ 32 ≠ 0) :
    Counted sys (pollUptime (sys, mark) now).1 ((now.toNat - mark.toNat) / 1000) ∧
      (pollUptime (sys, mark) now).2 = now := by
  have set : mark ≠ 0 := (UInt64.ne_of_lt marked).symm
  unfold pollUptime sysUpdateUptime
  rw [if_neg set]
  simp only []
  rw [if_pos ((elapsedSeconds_pos_iff ordered).mpr counts), elapsedSeconds ordered]
  exact ⟨⟨rfl, rfl⟩, rfl⟩

/-! ### Every series of polls -/

theorem steady_le_last {first : UInt64} {later : List UInt64}
    (steady : (first :: later).Pairwise (· ≤ ·)) : first ≤ later.getLastD first := by
  rcases List.mem_cons.mp (List.getLastD_mem_cons (l := later) (a := first)) with same | member
  · exact UInt64.le_of_eq same.symm
  · exact (List.pairwise_cons.mp steady).1 _ member

/-- What the polls count and what they leave uncounted add up to the time elapsed. -/
theorem polls_counted (sys : SystemState) {mark last : UInt64} (marked : 0 < mark)
    (behind : mark ≤ last) {later : List UInt64} (steady : (last :: later).Pairwise (· ≤ ·)) :
    ∃ seconds, Counted sys (finalState pollUptime (sys, mark) later).1 seconds ∧
      1000 * seconds + uncountedMs mark last later =
        (later.getLastD last).toNat - mark.toNat := by
  induction later generalizing sys mark last with
  | nil => exact ⟨0, Counted.refl sys, Nat.zero_add _⟩
  | cons now rest inductionHypothesis =>
    obtain ⟨since, steadyRest⟩ := List.pairwise_cons.mp steady
    have forward : mark ≤ now := UInt64.le_trans behind (since now List.mem_cons_self)
    have ends : (now :: rest).getLastD last = rest.getLastD now := List.getLastD_cons
    rw [finalState_cons, ends, uncountedMs]
    by_cases waits : (now.toNat - mark.toNat) / 1000 % 2 ^ 32 = 0
    · rw [pollUptime_waits sys marked forward waits, if_pos waits]
      exact inductionHypothesis sys marked forward steadyRest
    · obtain ⟨counted, moved⟩ := pollUptime_counts sys marked forward waits
      obtain ⟨seconds, counts, total⟩ := inductionHypothesis (pollUptime (sys, mark) now).1
        (UInt64.lt_of_lt_of_le marked forward) (UInt64.le_refl now) steadyRest
      have pair : pollUptime (sys, mark) now = ((pollUptime (sys, mark) now).1, now) :=
        Prod.ext rfl moved
      rw [pair, if_neg waits]
      refine ⟨_, counted.trans counts, ?_⟩
      -- the seconds counted by this poll, what it drops, and the polls behind it
      have split := Nat.div_add_mod (now.toNat - mark.toNat) 1000
      have ordered : mark.toNat ≤ now.toNat := UInt64.le_iff_toNat_le.mp forward
      have onward := UInt64.le_iff_toNat_le.mp (steady_le_last steadyRest)
      omega

/-- For every nondecreasing series of polls, the first one of them after boot, the uptime is the
whole seconds from the first poll to the last, and the total has grown by the same, exactly when
the polls leave less than a second uncounted, up to the wrap of the counters. -/
theorem uptime_of_polls_iff (sys : SystemState) (first : UInt64) (later : List UInt64)
    (booted : sysGetUptimeS sys = 0) (positive : 0 < first)
    (steady : (first :: later).Pairwise (· ≤ ·)) :
    (let reached := (finalState pollUptime (sys, 0) (first :: later)).1
      let elapsedS := ((later.getLastD first - first) / 1000).toUInt32
      sysGetUptimeS reached = elapsedS ∧
        reached.record.mission.totalUptimeS = sys.record.mission.totalUptimeS + elapsedS) ↔
      uncountedMs first first later / 1000 % 2 ^ 32 = 0 := by
  obtain ⟨seconds, ⟨uptime, total⟩, balance⟩ :=
    polls_counted sys positive (UInt64.le_refl first) steady
  have reached : finalState pollUptime (sys, 0) (first :: later) =
      finalState pollUptime (sys, first) later := by
    rw [finalState_cons, pollUptime_first]
  have whole : ((later.getLastD first).toNat - first.toNat) / 1000 =
      seconds + uncountedMs first first later / 1000 := by
    rw [← balance, Nat.mul_add_div (by decide)]
  have elapsed : ((later.getLastD first - first) / 1000).toUInt32 = UInt32.ofNat seconds +
      UInt32.ofNat (uncountedMs first first later / 1000) := by
    rw [elapsedSeconds (steady_le_last steady), whole, UInt32.ofNat_add]
  have none : UInt32.ofNat (uncountedMs first first later / 1000) = 0 ↔
      uncountedMs first first later / 1000 % 2 ^ 32 = 0 := by
    rw [← UInt32.toNat_inj, UInt32.toNat_ofNat', UInt32.toNat_zero]
  simp only [reached, uptime, total, elapsed, booted, UInt32.zero_add, ← none]
  constructor
  · rintro ⟨same, _⟩
    exact UInt32.left_eq_add.mp same
  · intro nothing
    rw [nothing, UInt32.add_zero]
    exact ⟨rfl, rfl⟩

/-- The state `sys_state_init` leaves, polled on whole seconds. -/
theorem uptime_of_polls_whole_seconds :
    letI := CLayout.blank SystemRecord
    let reached := (finalState pollUptime (sysStateInit 0, 0) [1000, 2000, 4000]).1
    let elapsedS := (([2000, 4000].getLastD (1000 : UInt64) - 1000) / 1000).toUInt32
    sysGetUptimeS reached = elapsedS ∧
      reached.record.mission.totalUptimeS =
        (sysStateInit 0).record.mission.totalUptimeS + elapsedS :=
  (uptime_of_polls_iff (@sysStateInit (CLayout.blank SystemRecord) 0) 1000 [2000, 4000] rfl
    (by decide) (by decide)).mpr (by decide)

/-- Two polls, each a second and a half behind the one before: three seconds pass and two are
counted, where one poll at the end counts them all. -/
theorem uptime_lost :
    letI := CLayout.blank SystemRecord
    let uptime := fun polls => sysGetUptimeS (finalState pollUptime (sysStateInit 0, 0) polls).1
    uptime [1, 1501, 3001] = 2 ∧ uptime [1, 3001] = 3 ∧
      ((([1501, 3001] : List UInt64).getLastD 1 - 1) / 1000).toUInt32 = 3 := by
  decide +kernel

end SmartQso
