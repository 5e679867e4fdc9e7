/-
  File:      Rk3588Chassis/ControlErasure.lean
  Subject:   A stop erases all motion history: what comes after it cannot be told from a fresh
             controller.

  `freshWith` is a controller just out of `chassis_init`, on any memory and at any time, that has
  been given another controller's feedback slots. What a stop, an idle step and a step with lost
  feedback leave behind is `Alike` such a controller -- the gains are those of `chassis_init`
  (`chassis_gains`), and a reset forgets everything else (`pidReset_congr`) -- hence
  observationally equal to it (`obsEq_of_alike`).
-/
import Rk3588Chassis.ControlBounds
import Rk3588Chassis.ControlRelation

namespace Rk3588Chassis

open CFloat Reactive Rounding

/-- A freshly initialised controller given the motors' feedback slots of `c`. -/
def freshWith (memory : ChassisController ℚ) (config : ChassisConfig ℚ) (initMs : UInt64)
    (c : ChassisController ℚ) : ChassisController ℚ :=
  { chassisInit memory config initMs with
    feedback := forMotors (fun i _ => c.feedback i) (chassisInit memory config initMs).feedback }

theorem freshWith_feedback (memory : ChassisController ℚ) (config : ChassisConfig ℚ)
    (initMs : UInt64) (c : ChassisController ℚ) {i : Slot} (hi : i ≠ 0) :
    (freshWith memory config initMs c).feedback i = c.feedback i := by
  simp only [freshWith, forMotors_motor _ _ hi]

/-- Resetting a PID that has the gains of one `chassis_init` gives the PID of any other. -/
theorem pidReset_eq_init {memory : ChassisController ℚ} {config : ChassisConfig ℚ}
    {initMs : UInt64} (memory' : ChassisController ℚ) (initMs' : UInt64) {p : PIDController ℚ}
    {i : Slot} (hi : i ≠ 0) (h : SameGains p ((chassisInit memory config initMs).pid i)) :
    pidReset p = (chassisInit memory' config initMs').pid i := by
  rw [chassisInit_pid memory config initMs hi] at h
  rw [chassisInit_pid memory' config initMs' hi, pidReset_congr h,
    pidInit_eq (memory'.pid i) (memory.pid i)]
  rfl

section Erasure

variable {memory : ChassisController ℚ} {config : ChassisConfig ℚ} {initMs : UInt64}
  {c : ChassisController ℚ}

/-- **A motion reset leaves a fresh controller.** -/
theorem alike_fresh_of_reset (hcfg : c.config = config)
    (hgains : ∀ i, i ≠ 0 → SameGains (c.pid i) ((chassisInit memory config initMs).pid i))
    (memory' : ChassisController ℚ) (initMs' : UInt64) :
    Alike (fun _ => False) (resetMotionState c) (freshWith memory' config initMs' c) where
  config := hcfg
  command := rfl
  clock := Or.inr zeroIsStill_rat
  target i hi := by
    simp only [resetMotionState, forMotors_motor _ _ hi]
    rfl
  pid i hi _ := by
    simp only [resetMotionState, forMotors_motor _ _ hi]
    exact pidReset_eq_init memory' initMs' hi (hgains i hi)
  feedback i hi := by
    rw [freshWith_feedback memory' config initMs' c hi]
    exact SlotAlike.refl _ _

/-- A command within the unit range is stored as it is. -/
theorem clampFloat_of_unit {x : ℚ} (h : |x| ≤ 1) : clampFloat x (-1) 1 = x :=
  saturate_eq_self (abs_le.mp h).1 (abs_le.mp h).2

/-- **Lost feedback leaves a fresh controller with the stored command.** -/
theorem alike_fresh_of_drop (hcfg : c.config = config) (hb : Bounded config c)
    (hgains : ∀ i, i ≠ 0 → SameGains (c.pid i) ((chassisInit memory config initMs).pid i))
    (memory' : ChassisController ℚ) (initMs' : UInt64) :
    Alike (fun _ => False) (dropTargets c)
      (chassisSetCommand (freshWith memory' config initMs' c) c.command.forward c.command.strafe
        c.command.rotate c.lastCommandMs) where
  config := hcfg
  command := by
    have hset : clampedCommand c.command.forward c.command.strafe c.command.rotate = c.command := by
      unfold clampedCommand
      rw [clampFloat_of_unit hb.forward, clampFloat_of_unit hb.strafe, clampFloat_of_unit hb.rotate]
    exact hset.symm
  clock := Or.inl rfl
  target i hi := by
    simp only [dropTargets, forMotors_motor _ _ hi]
    rfl
  pid i hi _ := by
    simp only [dropTargets, forMotors_motor _ _ hi]
    exact pidReset_eq_init memory' initMs' hi (hgains i hi)
  feedback i hi := by
    show SlotAlike _ (c.feedback i) ((freshWith memory' config initMs' c).feedback i)
    rw [freshWith_feedback memory' config initMs' c hi]
    exact SlotAlike.refl _ _

end Erasure

/-- **A stop erases all motion history.** For every reachable controller `c`, and a fresh one
    with the same configuration and the same feedback slots: after a stop, and after a step that
    finds the command expired or zero, no future sequence of operations tells the two apart.
    After a step that returns 0 although the command is live and noticeable, none tells `c`
    apart from the fresh controller that was given the stored command at its time. -/
theorem stop_erases_history (memory : ChassisController ℚ) (config : ChassisConfig ℚ)
    (initMs : UInt64) (hist : List (ControlOp ℚ)) (memory' : ChassisController ℚ)
    (initMs' : UInt64) :
    let c := (chassis memory config initMs).after hist
    let fresh := freshWith memory' config initMs' c
    (∀ nowMs, ObsEq controlStep (chassisStop c nowMs) fresh) ∧
    (∀ nowMs dtS, commandExpired c nowMs = true ∨ commandIsZero c.command = true →
      ObsEq controlStep (chassisStep c nowMs dtS).1 fresh) ∧
    (∀ nowMs dtS, commandExpired c nowMs = false → commandIsZero c.command = false →
      (chassisStep c nowMs dtS).2.ret = false →
      ObsEq controlStep (chassisStep c nowMs dtS).1
        (chassisSetCommand fresh c.command.forward c.command.strafe c.command.rotate
          c.lastCommandMs)) := by
  intro c fresh
  have hcfg : c.config = config := chassis_config zeroIsStill_rat memory config initMs hist
  have hgains := chassis_gains zeroIsStill_rat memory config initMs hist
  have hb : Bounded config c := bounded_after memory config initMs hist
  refine ⟨fun nowMs => ?_, fun nowMs dtS hidle => ?_, fun nowMs dtS he hn hret => ?_⟩
  · -- the command clock was moved before the reset; a zero command does not read it
    have hstop : Alike (fun _ => False) (chassisStop c nowMs)
        (freshWith memory' config initMs' { c with lastCommandMs := nowMs }) :=
      alike_fresh_of_reset (c := { c with lastCommandMs := nowMs }) hcfg hgains memory' initMs'
    exact obsEq_of_alike zeroIsStill_rat hstop
  · rw [chassisStep_idle zeroIsStill_rat hidle]
    exact obsEq_of_alike zeroIsStill_rat (alike_fresh_of_reset hcfg hgains memory' initMs')
  · have ho : chassisFeedbackAllOnline c nowMs = false := by
      by_contra ho
      rw [Bool.not_eq_false] at ho
      rw [chassisStep_active he hn ho] at hret
      cases hret
    rw [chassisStep_lost he hn ho]
    exact obsEq_of_alike zeroIsStill_rat (alike_fresh_of_drop hcfg hb hgains memory' initMs')

/-- Motor 1 has been given a current at 20 ms. At 1000 ms the command of 10 ms has expired; at 300 ms it
    is live, but the feedback is gone and the step returns 0. Neither leaves a trace of the motion. -/
theorem expiry_and_loss_erase :
    let start := chassis blankMemory chassisDefaultConfig 0
    let c := start.after (.step 20 (1 / 100) :: driveHist)
    (chassisStep (start.after driveHist) 20 (1 / 100)).2.currents 1 ≠ 0 ∧
    ObsEq controlStep (chassisStep c 1000 (1 / 100)).1
      (freshWith blankMemory chassisDefaultConfig 0 c) ∧
    ObsEq controlStep (chassisStep c 300 (1 / 100)).1
      (chassisSetCommand (freshWith blankMemory chassisDefaultConfig 0 c) c.command.forward
        c.command.strafe c.command.rotate c.lastCommandMs) := by
  have h := stop_erases_history blankMemory chassisDefaultConfig 0 (.step 20 (1 / 100) :: driveHist)
    blankMemory 0
  exact ⟨by decide +kernel, h.2.1 1000 (1 / 100) (Or.inl (by decide +kernel)),
    h.2.2 300 (1 / 100) (by decide +kernel) (by decide +kernel) (by decide +kernel)⟩

end Rk3588Chassis
