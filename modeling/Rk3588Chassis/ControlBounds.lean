/-
  File:      Rk3588Chassis/ControlBounds.lean
  Subject:   Every number the controller holds or sends is bounded, over exact rationals.

  * `wheelPeak_ge`, `normalizeWheelTargets_le` -- the peak search finds a bound for all four
    wheels, and scaling by `max / peak` brings each wheel below `|max|`, also when the limit is
    zero or negative;
  * `Bounded` -- the invariant: command, targets, integrals and outputs in their ranges;
  * `bounded_after` -- it holds after every history;
  * `chassis_bounds` -- and so the currents fit the wire: the conversion to `int16_t` is exact.
-/
import Rk3588Chassis.ControlSafety

namespace Rk3588Chassis

open CFloat Reactive Rounding

/-! ## 1. Targets -/

/-- The loop of the peak search, unrolled. -/
theorem wheelPeak_rat (target : Slot → ℚ) :
    wheelPeak target = max (max (max |target 1| |target 2|) |target 3|) |target 4| := by
  simp only [wheelPeak, List.foldl_cons, List.foldl_nil, absFloat_rat, ← max_def_lt]

/-- The peak is at least every wheel's magnitude. -/
theorem wheelPeak_ge (target : Slot → ℚ) : ∀ i : Slot, i ≠ 0 → |target i| ≤ wheelPeak target := by
  intro i hi
  rw [wheelPeak_rat]
  match i, hi with
  | 1, _ => simp
  | 2, _ => simp
  | 3, _ => simp
  | 4, _ => simp

/-- **No normalised target exceeds the limit in magnitude.** -/
theorem normalizeWheelTargets_le (target : Slot → ℚ) (maxAbsRpm : ℚ) {i : Slot} (hi : i ≠ 0) :
    |normalizeWheelTargets target maxAbsRpm i| ≤ |maxAbsRpm| := by
  have hpeak := wheelPeak_ge target i hi
  unfold normalizeWheelTargets
  split
  · rename_i h
    have hpos : 0 < wheelPeak target := h.2
    rw [forMotors_motor _ _ hi, abs_mul, abs_div, abs_of_pos hpos]
    calc |target i| * (|maxAbsRpm| / wheelPeak target)
        ≤ wheelPeak target * (|maxAbsRpm| / wheelPeak target) :=
          mul_le_mul_of_nonneg_right hpeak (div_nonneg (abs_nonneg _) hpos.le)
      _ = |maxAbsRpm| := mul_div_cancel₀ _ hpos.ne'
  · rename_i h
    rcases not_and_or.mp h with h | h
    · exact hpeak.trans ((not_lt.mp h).trans (le_abs_self _))
    · exact hpeak.trans ((not_lt.mp h).trans (abs_nonneg _))

/-! ## 2. The invariant -/

theorem clampFloat_unit (x : ℚ) : |clampFloat x (-1) 1| ≤ 1 :=
  abs_le.mpr (saturate_mem (by norm_num) x)

/-- Command, targets, integrals and outputs in their ranges. -/
structure Bounded (config : ChassisConfig ℚ) (c : ChassisController ℚ) : Prop where
  forward : |c.command.forward| ≤ 1
  strafe : |c.command.strafe| ≤ 1
  rotate : |c.command.rotate| ≤ 1
  target : ∀ i, |c.targetRpm i| ≤ |config.maxTranslateRpm|
  integral : ∀ i, i ≠ 0 → |(c.pid i).integral| ≤ 2500
  output : ∀ i, i ≠ 0 → |(c.pid i).output| ≤ 6500

/-- The limits `chassis_init` gives to every wheel's PID. -/
structure WheelLimits (p : PIDController ℚ) : Prop where
  outputMin : p.outputMin = -6500
  outputMax : p.outputMax = 6500
  integralMin : p.integralMin = -2500
  integralMax : p.integralMax = 2500

theorem wheelLimits_after (memory : ChassisController ℚ) (config : ChassisConfig ℚ)
    (initMs : UInt64) (hist : List (ControlOp ℚ)) {i : Slot} (hi : i ≠ 0) :
    WheelLimits (((chassis memory config initMs).after hist).pid i) := by
  have h := chassis_gains zeroIsStill_rat memory config initMs hist i hi
  rw [chassisInit_pid memory config initMs hi] at h
  exact ⟨h.outputMin, h.outputMax, h.integralMin, h.integralMax⟩

/-- **The output of a wheel's PID is within the current limit**, whatever it is fed. -/
theorem pidOutput_le {p : PIDController ℚ} (h : WheelLimits p) (target actual dtS : ℚ) :
    |pidOutput p target actual dtS| ≤ 6500 := by
  have hle : p.outputMin ≤ p.outputMax := by
    rw [h.outputMin, h.outputMax]
    norm_num
  have hmem := pidOutput_mem hle target actual dtS
  rw [h.outputMin, h.outputMax] at hmem
  exact abs_le.mpr hmem

/-- A calculation keeps the integral within its limit. -/
theorem pidCalculate_integral_le {p : PIDController ℚ} (h : WheelLimits p)
    (hp : |p.integral| ≤ 2500) (target actual dtS : ℚ) :
    |(pidCalculate p target actual dtS).1.integral| ≤ 2500 := by
  have hle : p.integralMin ≤ p.integralMax := by
    rw [h.integralMin, h.integralMax]
    norm_num
  have hmem : p.integralMin ≤ p.integral ∧ p.integral ≤ p.integralMax := by
    rw [h.integralMin, h.integralMax]
    exact abs_le.mp hp
  have hnew := pidCalculate_integral_mem hle hmem target actual dtS
  rw [h.integralMin, h.integralMax] at hnew
  exact abs_le.mpr hnew

/-! ## 3. Every operation keeps it -/

/-- Erasing targets and PIDs keeps the ranges. -/
theorem Bounded.dropTargets {config : ChassisConfig ℚ} {c : ChassisController ℚ}
    (h : Bounded config c) : Bounded config (dropTargets c) where
  forward := h.forward
  strafe := h.strafe
  rotate := h.rotate
  target i := by
    show |forMotors (fun _ _ => (0 : ℚ)) c.targetRpm i| ≤ _
    by_cases hi : i = 0
    · rw [hi]
      exact h.target 0
    · rw [forMotors_motor _ _ hi, abs_zero]
      exact abs_nonneg _
  integral i hi := by
    show |(forMotors (fun _ p => pidReset p) c.pid i).integral| ≤ _
    rw [forMotors_motor _ _ hi, pidReset, abs_zero]
    norm_num
  output i hi := by
    show |(forMotors (fun _ p => pidReset p) c.pid i).output| ≤ _
    rw [forMotors_motor _ _ hi, pidReset, abs_zero]
    norm_num

/-- So does erasing the command with them. -/
theorem Bounded.resetMotionState {config : ChassisConfig ℚ} {c : ChassisController ℚ}
    (h : Bounded config c) : Bounded config (resetMotionState c) where
  forward := by simp [Rk3588Chassis.resetMotionState, zeroCommand]
  strafe := by simp [Rk3588Chassis.resetMotionState, zeroCommand]
  rotate := by simp [Rk3588Chassis.resetMotionState, zeroCommand]
  target := h.dropTargets.target
  integral := h.dropTargets.integral
  output := h.dropTargets.output

/-- An active step keeps the ranges: new targets, then one calculation per wheel. -/
theorem Bounded.runWheels {config : ChassisConfig ℚ} {c : ChassisController ℚ}
    (h : Bounded config c) (hcfg : c.config = config)
    (hlim : ∀ i, i ≠ 0 → WheelLimits (c.pid i)) (dtS : ℚ) :
    Bounded config (runWheels (updateTargetsFromCommand c) dtS) where
  forward := h.forward
  strafe := h.strafe
  rotate := h.rotate
  target i := by
    show |(updateTargetsFromCommand c).targetRpm i| ≤ _
    by_cases hi : i = 0
    · rw [hi, targets_slot_zero]
      exact h.target 0
    · rw [← hcfg]
      exact normalizeWheelTargets_le _ _ hi
  integral i hi := by
    show |(forMotors _ c.pid i).integral| ≤ _
    rw [forMotors_motor _ _ hi]
    exact pidCalculate_integral_le (hlim i hi) (h.integral i hi) _ _ _
  output i hi := by
    show |(forMotors _ c.pid i).output| ≤ _
    rw [forMotors_motor _ _ hi]
    exact pidOutput_le (hlim i hi) _ _ _

/-- One operation keeps the ranges. -/
theorem bounded_step {config : ChassisConfig ℚ} {c : ChassisController ℚ} (h : Bounded config c)
    (hcfg : c.config = config) (hlim : ∀ i, i ≠ 0 → WheelLimits (c.pid i)) (op : ControlOp ℚ) :
    Bounded config (controlStep c op).1 := by
  cases op with
  | setCommand f s r t =>
    exact ⟨clampFloat_unit f, clampFloat_unit s, clampFloat_unit r, h.target, h.integral, h.output⟩
  | stop t =>
    have hlast : Bounded config { c with lastCommandMs := t } :=
      ⟨h.forward, h.strafe, h.rotate, h.target, h.integral, h.output⟩
    exact hlast.resetMotionState
  | updateFeedback fb =>
    show Bounded config (chassisUpdateFeedback c fb)
    rcases chassisUpdateFeedback_cases c fb with ⟨he, _⟩ | ⟨i, _, _, he⟩ <;> rw [he]
    · exact h
    · exact ⟨h.forward, h.strafe, h.rotate, h.target, h.integral, h.output⟩
  | step t dt =>
    show Bounded config (chassisStep c t dt).1
    rcases chassisStep_cases zeroIsStill_rat c t dt with ⟨_, he⟩ | ⟨_, _, _, he⟩ | ⟨_, _, _, he⟩ <;>
      rw [he]
    · exact h.resetMotionState
    · exact h.dropTargets
    · exact h.runWheels hcfg hlim dt

/-- **Every reachable controller is bounded.** -/
theorem bounded_after (memory : ChassisController ℚ) (config : ChassisConfig ℚ) (initMs : UInt64) :
    ∀ hist, Bounded config ((chassis memory config initMs).after hist)
  | [] =>
      { forward := by simp [chassis, chassisInit, zeroCommand]
        strafe := by simp [chassis, chassisInit, zeroCommand]
        rotate := by simp [chassis, chassisInit, zeroCommand]
        target := fun i => by simp [chassis, chassisInit]
        integral := fun i hi => by
          simp [chassis, chassisInit_pid memory config initMs hi, pidInit, pidReset]
        output := fun i hi => by
          simp [chassis, chassisInit_pid memory config initMs hi, pidInit, pidReset] }
  | op :: hist =>
      bounded_step (bounded_after memory config initMs hist)
        (chassis_config zeroIsStill_rat memory config initMs hist)
        (fun _ hi => wheelLimits_after memory config initMs hist hi) op

/-! ## 4. The wire -/

/-- Rounding and narrowing to `int16_t` lose nothing within the current limit. -/
theorem toInt_lrintf {x : ℚ} (h : |x| ≤ 6500) :
    (Int16.ofInt (lrintf x)).toInt = lrintf x ∧ |lrintf x| ≤ 6500 := by
  obtain ⟨h1, h2⟩ := abs_le.mp h
  have hb : (-6500 : ℤ) ≤ lrintf x ∧ lrintf x ≤ (6500 : ℤ) :=
    roundHalfEven_mono_int (by push_cast; exact h1) (by push_cast; exact h2)
  exact ⟨Int16.toInt_ofInt_of_le (by omega) (by omega), abs_le.mpr hb⟩

/-- **The bounds, in every reachable state and at every step.** The stored command lies in
    `[-1, 1]` in each component, the targets within the translation limit, the integrals and
    outputs of the four PIDs within theirs; a step writes 0 to `currents[0]` and at most 6500
    in magnitude to the others, and the narrowing of a wheel's rounded output to `int16_t`
    keeps its value. -/
theorem chassis_bounds (memory : ChassisController ℚ) (config : ChassisConfig ℚ)
    (initMs : UInt64) (hist : List (ControlOp ℚ)) :
    let c := (chassis memory config initMs).after hist
    (|c.command.forward| ≤ 1 ∧ |c.command.strafe| ≤ 1 ∧ |c.command.rotate| ≤ 1) ∧
    (∀ i, |c.targetRpm i| ≤ |config.maxTranslateRpm|) ∧
    (∀ k : Fin 4, |(c.pid k.succ).integral| ≤ 2500 ∧ |(c.pid k.succ).output| ≤ 6500) ∧
    ∀ (nowMs : UInt64) (dtS : ℚ),
      (chassisStep c nowMs dtS).2.currents 0 = 0 ∧
      (∀ i, |((chassisStep c nowMs dtS).2.currents i).toInt| ≤ 6500) ∧
      ∀ k : Fin 4, (Int16.ofInt (lrintf (wheelPid (updateTargetsFromCommand c) dtS k.succ).2)).toInt =
        lrintf (wheelPid (updateTargetsFromCommand c) dtS k.succ).2 := by
  intro c
  have hb : Bounded config c := bounded_after memory config initMs hist
  have hlim : ∀ i, i ≠ 0 → WheelLimits (c.pid i) :=
    fun i hi => wheelLimits_after memory config initMs hist hi
  have hwire : ∀ dtS i, i ≠ 0 →
      (Int16.ofInt (lrintf (wheelPid (updateTargetsFromCommand c) dtS i).2)).toInt =
          lrintf (wheelPid (updateTargetsFromCommand c) dtS i).2 ∧
        |lrintf (wheelPid (updateTargetsFromCommand c) dtS i).2| ≤ 6500 :=
    fun dtS i hi => toInt_lrintf (pidOutput_le (hlim i hi) _ _ _)
  refine ⟨⟨hb.forward, hb.strafe, hb.rotate⟩, hb.target,
    fun k => ⟨hb.integral _ (Fin.succ_ne_zero k), hb.output _ (Fin.succ_ne_zero k)⟩,
    fun nowMs dtS => ⟨?_, fun i => ?_, fun k => (hwire dtS _ (Fin.succ_ne_zero k)).1⟩⟩
  · rcases chassisStep_cases zeroIsStill_rat c nowMs dtS with ⟨_, h⟩ | ⟨_, _, _, h⟩ | ⟨_, _, _, h⟩
    · rw [h]
    · rw [h]
    · rw [h]
      rfl
  · rcases chassisStep_cases zeroIsStill_rat c nowMs dtS with ⟨_, h⟩ | ⟨_, _, _, h⟩ | ⟨_, _, _, h⟩ <;>
      rw [h]
    · simp
    · simp
    · show |(wheelCurrents (updateTargetsFromCommand c) dtS i).toInt| ≤ 6500
      by_cases hi : i = 0
      · subst hi
        simp [wheelCurrents]
      · rw [wheelCurrents, forMotors_motor _ _ hi, (hwire dtS i hi).1]
        exact (hwire dtS i hi).2

end Rk3588Chassis
