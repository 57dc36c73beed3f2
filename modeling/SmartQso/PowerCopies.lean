/-
This file compares the two copies of the power configuration: the one ground
commands write and telemetry reports, in the system state, and the one the EPS
applies. They start apart, no function writes both, and each side checks its own
conditions, so they agree after every step only if the first step happens to bring
them together and no later step changes either of them.
-/

import SmartQso.CommandAuthority
import SmartQso.EpsModes

namespace SmartQso

open Runs

/-! ### Commands and EPS operations -/

/-- The on-board computer with the EPS. Both enter faults into one log, which each holds. -/
structure Spacecraft (Handler : Type) where
  obc : Obc Handler
  eps : Eps

/-- A ground command, or an operation of the EPS. -/
inductive PowerCall
  | command (call : CommandCall)
  | setPowerMode (mode : PowerMode) (soc : ℚ) (now : UInt64)
  | controlPayload (enable : Bool) (soc : ℚ) (now : UInt64)

section

variable {Handler : Type}

/-- The spacecraft after a step of the EPS. -/
def Spacecraft.withEps (craft : Spacecraft Handler) (eps : Eps) : Spacecraft Handler :=
  ⟨{ craft.obc with faults := eps.faults }, eps⟩

/-- The spacecraft after a step of the on-board computer. -/
def Spacecraft.withObc (craft : Spacecraft Handler) (obc : Obc Handler) : Spacecraft Handler :=
  ⟨obc, { craft.eps with faults := obc.faults }⟩

/-- The getters of the system state and those of the EPS answer the same. -/
def CopiesAgree (craft : Spacecraft Handler) : Prop :=
  (sysGetPowerMode craft.obc.sys).code = epsGetPowerMode craft.eps ∧
    sysIsPayloadEnabled craft.obc.sys = epsIsPayloadEnabled craft.eps

/-- The calls that bring the copies together from the start: the system state takes the mode
of the EPS, or the other way round. -/
def AlignsCopies : PowerCall → Prop
  | .command call =>
    call.cmd.cmdId = cmdEpsSetMode ∧ call.cmd.payloadLen ≥ 1 ∧ call.cmd.payload.get 0 = 1
  | .setPowerMode mode _ _ => mode = .safe
  | .controlPayload _ _ _ => False

/-- The calls that change neither copy. -/
def KeepsCopies (craft : Spacecraft Handler) : PowerCall → Prop
  | .command call =>
    let cmd := call.cmd
    let sys := craft.obc.sys
    cmdIsAllowed (sysGetOperationalState sys) cmd.cmdId = true →
      (cmd.cmdId = cmdEpsSetMode → cmd.payloadLen ≥ 1 → ∀ mode,
        PowerMode.ofValue? (cmd.payload.get 0).toUInt32 = some mode → mode = sysGetPowerMode sys) ∧
      (cmd.cmdId = cmdPldEnable → cmdVerifyAuth cmd = true → sysIsPayloadEnabled sys = true) ∧
      (cmd.cmdId = cmdPldDisable → sysIsPayloadEnabled sys = false)
  | .setPowerMode mode _ _ => mode = sysGetPowerMode craft.obc.sys
  | .controlPayload enable soc _ =>
    epsIsPayloadEnabled craft.eps = enable ∨ enable = true ∧ soc < epsSocPayloadThreshold

variable [CLayout FaultRecord] [CLayout EpsRecord]

/-- The effect of a call. -/
def powerCall (invoke : Invoke Handler) (craft : Spacecraft Handler) :
    PowerCall → Spacecraft Handler
  | .command call => craft.withObc (commandCall invoke craft.obc call)
  | .setPowerMode mode soc now =>
    craft.withEps (epsSetPowerMode craft.eps mode.value soc now).1
  | .controlPayload enable soc now =>
    craft.withEps (epsControlPayload craft.eps enable soc now).1

/-- The first call aligns the copies, and every later one keeps them. -/
def AlignedRun (invoke : Invoke Handler) (start : Spacecraft Handler) : List PowerCall → Prop
  | [] => True
  | first :: rest =>
    AlignsCopies first ∧ EachStep (powerCall invoke) KeepsCopies (powerCall invoke start first) rest

/-- The spacecraft after `sys_state_init`, `cmd_handler_init` and `eps_init`, without a stored
configuration. -/
def Spacecraft.start [CLayout SystemRecord] (faults : FaultMgmt) (now : UInt64) :
    Spacecraft Handler :=
  ⟨Obc.start faults now, epsInit (Eps.boot [] faults) now⟩

/-! ### Effects of commands -/

/-- What the agreement of the copies asks of an effect. -/
def CommandEffect.KeepsPower (effect : CommandEffect) (sys : SystemState) : Prop :=
  match effect with
  | .setPowerMode mode => mode = sysGetPowerMode sys
  | .setPayload enabled => enabled = sysIsPayloadEnabled sys
  | _ => True

omit [CLayout EpsRecord] in
/-- An effect leaves mode and payload as they are exactly when it keeps them. -/
theorem CommandEffect.keepsPower_iff (effect : CommandEffect) (sys : SystemState)
    (faults : FaultMgmt) (now : UInt64) :
    sysGetPowerMode (effect.onSystem sys faults now) = sysGetPowerMode sys ∧
        sysIsPayloadEnabled (effect.onSystem sys faults now) = sysIsPayloadEnabled sys ↔
      effect.KeepsPower sys := by
  unfold sysGetPowerMode sysIsPayloadEnabled
  rw [effect.onSystem_powerMode, effect.onSystem_payload]
  cases effect with
  | setPowerMode mode => exact and_iff_left rfl
  | setPayload enabled => exact and_iff_right rfl
  | _ => exact iff_of_true ⟨rfl, rfl⟩ trivial

omit [CLayout FaultRecord] [CLayout EpsRecord] in
/-- The condition on a command is the one on the effect it is granted. -/
theorem keepsCopies_command (craft : Spacecraft Handler) (call : CommandCall) :
    KeepsCopies craft (.command call) ↔
      ∀ effect, Granted craft.obc call.cmd effect → effect.KeepsPower craft.obc.sys := by
  constructor
  · intro kept effect granted
    obtain ⟨power, enabling, disabling⟩ := kept granted.allowed
    have commanded := granted.commanded
    cases effect with
    | setPowerMode mode =>
      obtain ⟨same, given, named⟩ := commanded
      exact power same given mode named
    | setPayload enabled =>
      cases enabled with
      | true =>
        have enable : call.cmd.cmdId = cmdPldEnable := commanded
        exact (enabling enable (granted.verified enable (by decide))).symm
      | false => exact (disabling commanded).symm
    | _ => trivial
  · intro kept allowed
    refine ⟨fun same given mode named => ?_, fun enable verified => ?_, fun disable => ?_⟩
    · exact kept (.setPowerMode mode)
        ⟨allowed, authorised_of_free same (by decide), same, given, named⟩
    · exact (kept (.setPayload true) ⟨allowed, fun _ => verified, enable⟩).symm
    · exact (kept (.setPayload false)
        ⟨allowed, authorised_of_free disable (by decide), disable⟩).symm

/-! ### Operations of the EPS -/

/-- A mode request stores its mode. -/
theorem epsSetPowerMode_stored (eps : Eps) (target : PowerMode) (soc : ℚ) (now : UInt64) :
    epsGetPowerMode (epsSetPowerMode eps target.value soc now).1 = target.code := by
  by_cases already : eps.state.record.powerMode = target.code
  · rw [epsSetPowerMode_same already]
    exact already
  · rw [epsSetPowerMode_change already]
    exact (enterPowerMode_inMode target _ soc now target.value_toUInt8).stored

/-- The payload switch stays as it is when it is there already, or when it is blocked. -/
theorem epsControlPayload_same_iff (eps : Eps) (enable : Bool) (soc : ℚ) (now : UInt64) :
    epsIsPayloadEnabled eps = epsIsPayloadEnabled (epsControlPayload eps enable soc now).1 ↔
      epsIsPayloadEnabled eps = enable ∨ enable = true ∧ soc < epsSocPayloadThreshold := by
  have onIff := epsControlPayload_on_iff eps enable soc now
  unfold epsIsPayloadEnabled
  rw [Bool.eq_iff_iff, onIff]
  cases enable with
  | true =>
    rw [and_iff_right rfl, and_iff_right rfl, ← not_le]
    by_cases on : eps.state.record.payloadEnabled = true
    · exact iff_of_true (iff_of_true on (Or.inl on)) (Or.inl on)
    · rw [or_iff_right on, iff_false_left on, or_iff_right on]
  | false =>
    constructor
    · intro same
      exact Or.inl (Bool.eq_false_iff.mpr fun on => absurd (same.mp on).1 Bool.false_ne_true)
    · rintro (off | ⟨impossible, _⟩)
      · exact iff_of_false (Bool.eq_false_iff.mp off) fun both => absurd both.1 Bool.false_ne_true
      · exact absurd impossible Bool.false_ne_true

/-! ### Each call -/

/-- What holds after each call. -/
structure InStep (craft : Spacecraft Handler) : Prop where
  agree : CopiesAgree craft
  plain : NoCustomHandlers craft.obc

omit [CLayout EpsRecord] in
theorem copiesAgree_command (invoke : Invoke Handler) {craft : Spacecraft Handler}
    (inStep : InStep craft) (call : CommandCall) :
    CopiesAgree (craft.withObc (commandCall invoke craft.obc call)) ↔
      KeepsCopies craft (.command call) := by
  obtain ⟨⟨sameMode, samePayload⟩, plain⟩ := inStep
  rw [keepsCopies_command]
  have executed := cmdExecute_executed invoke craft.obc call.cmd call.response call.now
    (plain call.cmd.cmdId)
  have kept : ∀ effect : CommandEffect,
      (sysGetPowerMode (effect.onSystem craft.obc.sys craft.obc.faults call.now)).code =
            epsGetPowerMode craft.eps ∧
          sysIsPayloadEnabled (effect.onSystem craft.obc.sys craft.obc.faults call.now) =
            epsIsPayloadEnabled craft.eps ↔
        effect.KeepsPower craft.obc.sys := by
    intro effect
    rw [← effect.keepsPower_iff craft.obc.sys craft.obc.faults call.now, ← sameMode,
      ← samePayload, PowerMode.code_inj]
  exact executed.holds_iff (fun sys => (sysGetPowerMode sys).code = epsGetPowerMode craft.eps ∧
    sysIsPayloadEnabled sys = epsIsPayloadEnabled craft.eps) ⟨sameMode, samePayload⟩
    (fun _ => Iff.rfl) kept

theorem copiesAgree_setPowerMode {craft : Spacecraft Handler} (agree : CopiesAgree craft)
    (mode : PowerMode) (soc : ℚ) (now : UInt64) :
    CopiesAgree (craft.withEps (epsSetPowerMode craft.eps mode.value soc now).1) ↔
      mode = sysGetPowerMode craft.obc.sys := by
  obtain ⟨sameMode, samePayload⟩ := agree
  show (sysGetPowerMode craft.obc.sys).code =
        epsGetPowerMode (epsSetPowerMode craft.eps mode.value soc now).1 ∧
      sysIsPayloadEnabled craft.obc.sys =
        epsIsPayloadEnabled (epsSetPowerMode craft.eps mode.value soc now).1 ↔ _
  rw [epsSetPowerMode_stored, PowerMode.code_inj]
  constructor
  · rintro ⟨same, _⟩
    exact same.symm
  · rintro rfl
    rw [epsSetPowerMode_same sameMode.symm]
    exact ⟨rfl, samePayload⟩

theorem copiesAgree_controlPayload {craft : Spacecraft Handler} (agree : CopiesAgree craft)
    (enable : Bool) (soc : ℚ) (now : UInt64) :
    CopiesAgree (craft.withEps (epsControlPayload craft.eps enable soc now).1) ↔
      KeepsCopies craft (.controlPayload enable soc now) := by
  obtain ⟨sameMode, samePayload⟩ := agree
  have stored : epsGetPowerMode (epsControlPayload craft.eps enable soc now).1 =
      epsGetPowerMode craft.eps := (epsControlPayload_frame craft.eps enable soc now).1
  show (sysGetPowerMode craft.obc.sys).code =
        epsGetPowerMode (epsControlPayload craft.eps enable soc now).1 ∧
      sysIsPayloadEnabled craft.obc.sys =
        epsIsPayloadEnabled (epsControlPayload craft.eps enable soc now).1 ↔ _
  rw [and_iff_right (sameMode.trans stored.symm), samePayload]
  exact epsControlPayload_same_iff craft.eps enable soc now

/-- From copies that agree, a call leaves them so exactly when it changes neither. -/
theorem copiesAgree_step (invoke : Invoke Handler) {craft : Spacecraft Handler}
    (inStep : InStep craft) (call : PowerCall) :
    CopiesAgree (powerCall invoke craft call) ↔ KeepsCopies craft call := by
  cases call with
  | command call => exact copiesAgree_command invoke inStep call
  | setPowerMode mode soc now => exact copiesAgree_setPowerMode inStep.agree mode soc now
  | controlPayload enable soc now =>
    exact copiesAgree_controlPayload inStep.agree enable soc now

theorem powerCall_plain (invoke : Invoke Handler) {craft : Spacecraft Handler}
    (plain : NoCustomHandlers craft.obc) (call : PowerCall) :
    NoCustomHandlers (powerCall invoke craft call).obc := by
  cases call with
  | command call => exact commandCall_noCustomHandlers invoke plain call
  | setPowerMode mode soc now => exact plain
  | controlPayload enable soc now => exact plain

/-! ### The first call -/

omit [CLayout FaultRecord] [CLayout EpsRecord] in
/-- Right after the initializations the aligning command is granted. -/
theorem granted_idle_iff [CLayout SystemRecord] (faults : FaultMgmt) (now : UInt64)
    (call : CommandCall) :
    Granted (Obc.start faults now : Obc Handler) call.cmd (.setPowerMode .idle) ↔
      AlignsCopies (.command call) := by
  constructor
  · intro granted
    obtain ⟨same, given, named⟩ := granted.commanded
    exact ⟨same, given, (PowerMode.ofValue?_byte _ .idle).mp named⟩
  · rintro ⟨same, given, one⟩
    refine ⟨?_, authorised_of_free same (by decide), same, given,
      (PowerMode.ofValue?_byte _ .idle).mpr one⟩
    rw [same]
    rfl

omit [CLayout EpsRecord] in
/-- From the defaults of the system state, only the idle mode matches the defaults of the EPS. -/
theorem CommandEffect.matches_defaults_iff (effect : CommandEffect) {sys : SystemState}
    (safe : sysGetPowerMode sys = .safe) (off : sysIsPayloadEnabled sys = false)
    (faults : FaultMgmt) (now : UInt64) :
    sysGetPowerMode (effect.onSystem sys faults now) = .idle ∧
        sysIsPayloadEnabled (effect.onSystem sys faults now) = false ↔
      effect = .setPowerMode .idle := by
  unfold sysGetPowerMode sysIsPayloadEnabled at *
  rw [effect.onSystem_powerMode, effect.onSystem_payload]
  have other : sys.record.power.powerMode ≠ .idle := by
    rw [safe]
    decide
  cases effect with
  | setPowerMode mode =>
    rw [and_iff_left off]
    exact ⟨congrArg CommandEffect.setPowerMode, CommandEffect.setPowerMode.inj⟩
  | _ => exact iff_of_false (fun both => other both.1) CommandEffect.noConfusion

theorem copiesAgree_first_command [CLayout SystemRecord] (invoke : Invoke Handler)
    (faults : FaultMgmt) (now : UInt64) (call : CommandCall) :
    CopiesAgree (powerCall invoke (Spacecraft.start faults now) (.command call)) ↔
      AlignsCopies (.command call) := by
  have aligned : Granted (Obc.start faults now : Obc Handler) call.cmd (.setPowerMode .idle) ↔
      AlignsCopies (.command call) := granted_idle_iff faults now call
  have executed := cmdExecute_executed invoke (Obc.start faults now) call.cmd call.response
    call.now (noCustomHandlers_init (sysStateInit now) faults call.cmd.cmdId)
  rw [← aligned]
  show (sysGetPowerMode (cmdExecute invoke (Obc.start faults now) call.cmd call.response
        call.now).1.sys).code = PowerMode.idle.code ∧
      sysIsPayloadEnabled (cmdExecute invoke (Obc.start faults now) call.cmd call.response
        call.now).1.sys = false ↔ _
  rw [PowerMode.code_inj]
  rcases executed.granted_or_refused with ⟨effect, granted, _, reached, _⟩ | ⟨refused, _, same⟩
  · rw [reached]
    refine (effect.matches_defaults_iff rfl rfl faults call.now).trans ?_
    constructor
    · rintro rfl
      exact granted
    · intro aligning
      exact granted.unique aligning
  · rw [same]
    refine iff_of_false (fun both => ?_) (refused (.setPowerMode .idle))
    have impossible : PowerMode.safe = .idle := both.1
    exact PowerMode.noConfusion impossible

omit [CLayout FaultRecord] in
/-- Without a stored configuration the EPS starts in the idle mode. -/
theorem epsInit_inMode (faults : FaultMgmt) (now : UInt64) :
    (epsInit (Eps.boot [] faults) now).state.record.InMode .idle :=
  epsDefaults_inMode now.toUInt32

/-- From the start, where the mode is SAFE here and IDLE there, a call makes the copies agree
exactly when it aligns them. -/
theorem copiesAgree_first [CLayout SystemRecord] (invoke : Invoke Handler) (faults : FaultMgmt)
    (now : UInt64) (first : PowerCall) :
    CopiesAgree (powerCall invoke (Spacecraft.start faults now) first) ↔ AlignsCopies first := by
  have initial := epsInit_inMode faults now
  cases first with
  | command call => exact copiesAgree_first_command invoke faults now call
  | setPowerMode mode soc later =>
    have stored : CopiesAgree (powerCall invoke (Spacecraft.start faults now)
          (.setPowerMode mode soc later)) ↔ PowerMode.safe.code = mode.code ∧
        false = epsIsPayloadEnabled (epsSetPowerMode (epsInit (Eps.boot [] faults) now) mode.value
          soc later).1 := by
      rw [← epsSetPowerMode_stored (epsInit (Eps.boot [] faults) now) mode soc later]
      exact Iff.rfl
    rw [stored, PowerMode.code_inj]
    constructor
    · rintro ⟨same, _⟩
      exact same.symm
    · rintro rfl
      have reached := epsSetPowerMode_inMode ⟨.idle, initial⟩ .safe soc later
      exact ⟨rfl, (reached.unloaded PowerMode.noConfusion).symm⟩
  | controlPayload enable soc later =>
    refine iff_of_false (fun agree => ?_) not_false
    have stored : epsGetPowerMode (epsControlPayload (epsInit (Eps.boot [] faults) now) enable soc
        later).1 = PowerMode.idle.code :=
      (epsControlPayload_frame _ enable soc later).1.trans initial.stored
    have same : PowerMode.safe = .idle := PowerMode.code_injective (agree.1.trans stored)
    exact PowerMode.noConfusion same

/-! ### Every run -/

/-- In a run of ground commands and EPS operations from the initializations the copies agree
after every call, if and only if the first call aligns them and no later call changes either. -/
theorem copies_agree_iff [CLayout SystemRecord] (invoke : Invoke Handler) (faults : FaultMgmt)
    (now : UInt64) (calls : List PowerCall) :
    EachStep (powerCall invoke) (fun craft call => CopiesAgree (powerCall invoke craft call))
        (Spacecraft.start faults now) calls ↔
      AlignedRun invoke (Spacecraft.start faults now) calls := by
  cases calls with
  | nil => exact Iff.rfl
  | cons first rest =>
    refine (and_congr_right fun agree => ?_).trans
      (and_congr_left' (copiesAgree_first invoke faults now first))
    have initial : InStep (powerCall invoke (Spacecraft.start faults now) first) := by
      refine ⟨agree, powerCall_plain invoke ?_ first⟩
      exact noCustomHandlers_init (sysStateInit now) faults
    have exactly : ∀ (craft : Spacecraft Handler) (call : PowerCall), InStep craft →
        (CopiesAgree (powerCall invoke craft call) ↔ KeepsCopies craft call) :=
      fun craft call inStep => copiesAgree_step invoke inStep call
    have preserved : ∀ (craft : Spacecraft Handler) (call : PowerCall), InStep craft →
        CopiesAgree (powerCall invoke craft call) → InStep (powerCall invoke craft call) :=
      fun craft call inStep kept => ⟨kept, powerCall_plain invoke inStep.plain call⟩
    exact eachStep_iff_of_invariant preserved exactly initial rest

omit [CLayout FaultRecord] [CLayout EpsRecord] in
/-- The ground commands ACTIVE: the system state stores and reports it, the EPS stays idle. -/
theorem commanded_mode_not_applied :
    letI := CLayout.blank FaultRecord
    letI := CLayout.blank EpsRecord
    letI := CLayout.blank SystemRecord
    ¬ EachStep (powerCall noHandler)
      (fun craft call => CopiesAgree (powerCall noHandler craft call))
      (Spacecraft.start FaultMgmt.boot 0) [.command (groundCommand cmdEpsSetMode [2])] := by
  intro steps
  exact absurd steps.1.1 (by decide)

end

end SmartQso
