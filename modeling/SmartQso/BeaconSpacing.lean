/-
This file is about the spacing of beacons. The schedule compares 64-bit times with a
mark that is stored in 32 bits, so the mark of a time from 2^32 on lies in the past
by a multiple of 2^32 milliseconds and every question after it is answered with yes.
-/

import SmartQso.Beacon
import SmartQso.Runs

namespace SmartQso

open Runs

/-! ### Calls -/

/-- A change of the power mode, a transmission that is marked, or the question whether to
transmit, at a time. -/
inductive SpacingCall
  | updateInterval (mode : PowerMode)
  | mark (now : UInt64)
  | query (now : UInt64)

/-- The beacon with a ghost: the time of the last mark in full and the last mode set. -/
structure Spaced where
  beacon : Beacon
  lastMark : UInt64
  mode : PowerMode

/-- The beacon after `beacon_init`, which counts as a mark at time zero in the active mode. -/
def Spaced.start : Spaced := ⟨beaconInit, 0, .active⟩

/-- The effect of a call. -/
def spacingCall (spaced : Spaced) : SpacingCall → Spaced
  | .updateInterval mode =>
    { spaced with beacon := beaconUpdateInterval spaced.beacon mode.value, mode := mode }
  | .mark now => { spaced with beacon := beaconMarkTransmitted spaced.beacon now, lastMark := now }
  | .query _ => spaced

/-- The time between two beacons is up. -/
def Spaced.Due (spaced : Spaced) (now : UInt64) : Prop :=
  spaced.mode.beaconIntervalMs.toNat ≤ now.toNat - spaced.lastMark.toNat

/-- A question at a time from the last mark on is answered with yes when the time is up. -/
def AnswersDue (spaced : Spaced) : SpacingCall → Prop
  | .query now =>
    spaced.lastMark ≤ now → (beaconShouldTransmit spaced.beacon now = true ↔ spaced.Due now)
  | _ => True

/-- The last mark fits in 32 bits, or the time is up anyway. -/
def MarkFits (spaced : Spaced) : SpacingCall → Prop
  | .query now => spaced.lastMark ≤ now → spaced.lastMark.toNat < 2 ^ 32 ∨ spaced.Due now
  | _ => True

/-! ### The stored mark -/

/-- The state of the beacon follows the ghost, the mark modulo 2^32. -/
structure Spaced.Tracks (spaced : Spaced) : Prop where
  initialized : spaced.beacon.initialized = true
  mark : spaced.beacon.state.lastBeaconMs = spaced.lastMark.toUInt32
  interval : spaced.beacon.state.intervalMs = spaced.mode.beaconIntervalMs

theorem spacingCall_tracks {spaced : Spaced} (tracks : spaced.Tracks) (call : SpacingCall) :
    (spacingCall spaced call).Tracks := by
  obtain ⟨initialized, mark, interval⟩ := tracks
  cases call with
  | updateInterval mode =>
    unfold spacingCall beaconUpdateInterval
    dsimp only
    rw [if_pos initialized, PowerMode.ofValue?_value]
    exact ⟨initialized, mark, rfl⟩
  | mark now =>
    unfold spacingCall beaconMarkTransmitted
    dsimp only
    rw [if_pos initialized]
    exact ⟨initialized, rfl, interval⟩
  | query now => exact ⟨initialized, mark, interval⟩

/-- The question compares the interval with the time since the stored mark. -/
theorem beaconShouldTransmit_iff {spaced : Spaced} (tracks : spaced.Tracks) {now : UInt64}
    (later : spaced.lastMark ≤ now) :
    beaconShouldTransmit spaced.beacon now = true ↔
      spaced.mode.beaconIntervalMs.toNat ≤ now.toNat - spaced.lastMark.toNat % 2 ^ 32 := by
  have stored : spaced.beacon.state.lastBeaconMs.toUInt64.toNat =
      spaced.lastMark.toNat % 2 ^ 32 := by
    rw [tracks.mark, UInt32.toNat_toUInt64, UInt64.toNat_toUInt32]
  have before : spaced.beacon.state.lastBeaconMs.toUInt64 ≤ now := by
    rw [UInt64.le_iff_toNat_le, stored]
    exact (Nat.mod_le _ _).trans (UInt64.le_iff_toNat_le.mp later)
  unfold beaconShouldTransmit
  rw [if_pos tracks.initialized]
  dsimp only
  rw [decide_eq_true_iff, ge_iff_le, UInt64.le_iff_toNat_le, UInt64.toNat_sub_of_le _ _ before,
    stored, tracks.interval, UInt32.toNat_toUInt64]

theorem PowerMode.beaconIntervalMs_lt (mode : PowerMode) :
    mode.beaconIntervalMs.toNat < 2 ^ 32 :=
  mode.beaconIntervalMs.toNat_lt

theorem answersDue_iff {spaced : Spaced} (tracks : spaced.Tracks) (call : SpacingCall) :
    AnswersDue spaced call ↔ MarkFits spaced call := by
  cases call with
  | updateInterval mode => exact Iff.rfl
  | mark now => exact Iff.rfl
  | query now =>
    refine imp_congr_right fun later => ?_
    rw [beaconShouldTransmit_iff tracks later]
    have ordered := UInt64.le_iff_toNat_le.mp later
    have short := spaced.mode.beaconIntervalMs_lt
    unfold Spaced.Due
    constructor
    · intro agree
      -- A mark from 2^32 on is at least 2^32 later than the one that is stored.
      by_cases fits : spaced.lastMark.toNat < 2 ^ 32
      · exact Or.inl fits
      · exact Or.inr (agree.mp (by omega))
    · rintro (fits | due)
      · rw [Nat.mod_eq_of_lt fits]
      · exact iff_of_true (by omega) due

/-! ### Every run -/

/-- In every run of the beacon's schedule after `beacon_init`, all questions are answered by the
time since the last mark, if and only if each is asked with a mark below 2^32 or when the time is
up anyway. -/
theorem beacon_spacing_iff (calls : List SpacingCall) :
    EachStep spacingCall AnswersDue .start calls ↔ EachStep spacingCall MarkFits .start calls := by
  have preserved : ∀ (spaced : Spaced) (call : SpacingCall), spaced.Tracks →
      AnswersDue spaced call → (spacingCall spaced call).Tracks :=
    fun _ call tracks _ => spacingCall_tracks tracks call
  have agree : ∀ (spaced : Spaced) (call : SpacingCall), spaced.Tracks →
      (AnswersDue spaced call ↔ MarkFits spaced call) :=
    fun _ call tracks => answersDue_iff tracks call
  exact eachStep_iff_of_invariant preserved agree ⟨rfl, rfl, rfl⟩ calls

/-- The mark of a time of January 2026 is stored modulo 2^32, and one millisecond later the beacon
is due again. -/
theorem beacon_due_at_once :
    ¬ EachStep spacingCall AnswersDue .start [.mark 1767312000000, .query 1767312000001] := by
  intro answers
  have due := (answers.2.1 (by decide)).mp (by decide)
  exact absurd due (by unfold Spaced.Due; decide)

end SmartQso
