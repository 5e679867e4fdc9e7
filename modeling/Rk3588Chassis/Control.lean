/-
  File:      Rk3588Chassis/Control.lean
  Subject:   The chassis controller (`src/chassis_control.c`), over any float arithmetic.

  Every function keeps the order of tests and writes of the C function it models. An array
  that a loop over the motors rewrites is rewritten by `forMotors`: entry 0 stays.

  `chassisStep_cases` is the inversion lemma every later proof about a step goes through: a
  step is idle (command expired or zero), has lost a motor's feedback, or is active, and for
  each the new controller, the currents and the return value are given.
-/
import Rk3588Chassis.Motor3508
import Rk3588Chassis.Pid

set_option linter.unusedSectionVars false

namespace Rk3588Chassis

open CFloat Rounding

/-! ## 1. The controller -/

/-- `ChassisCommand`. -/
structure ChassisCommand (F : Type) where
  forward : F
  strafe : F
  rotate : F
  deriving DecidableEq

/-- `ChassisConfig`. -/
structure ChassisConfig (F : Type) where
  maxTranslateRpm : F
  maxRotateRpm : F
  commandTimeoutMs : F
  feedbackTimeoutMs : F

/-- `ChassisController`. -/
structure ChassisController (F : Type) where
  config : ChassisConfig F
  pid : Slot → PIDController F
  feedback : Slot → Motor3508Feedback
  targetRpm : Slot → F
  command : ChassisCommand F
  lastCommandMs : UInt64

/-- What a `chassis_step` hands back: the array it filled and its return value. -/
structure StepResult where
  currents : Slot → Int16
  ret : Bool

/-- `elapsed_ms`: 0 when the clock of `previous` is ahead. -/
def elapsedMs (nowMs previousMs : UInt64) : UInt64 :=
  if previousMs ≤ nowMs then nowMs - previousMs else 0

variable {F : Type} [Zero F] [Neg F] [Add F] [Sub F] [Mul F] [Div F] [LT F] [LE F] [BEq F]
  [DecidableLT F] [DecidableLE F] [CFloat F]

/-- `(float)ms`. -/
def floatMs (ms : UInt64) : F := ofRat (ms.toNat : ℚ)

/-! ## 2. Commands and targets -/

/-- `clamp_float`. -/
def clampFloat (value minValue maxValue : F) : F := saturate minValue maxValue value

/-- `abs_float`. -/
def absFloat (value : F) : F := if 0 ≤ value then value else -value

/-- `command_is_zero`. -/
def commandIsZero (command : ChassisCommand F) : Bool :=
  decide (absFloat command.forward < ofRat 0.0001) &&
  decide (absFloat command.strafe < ofRat 0.0001) &&
  decide (absFloat command.rotate < ofRat 0.0001)

/-- The command `{0.0f, 0.0f, 0.0f}`. -/
def zeroCommand : ChassisCommand F := ⟨0, 0, 0⟩

/-- `reset_motion_state`. -/
def resetMotionState (controller : ChassisController F) : ChassisController F :=
  { controller with
    command := zeroCommand
    targetRpm := forMotors (fun _ _ => 0) controller.targetRpm
    pid := forMotors (fun _ p => pidReset p) controller.pid }

/-- The peak search of `normalize_wheel_targets`: wheel 1 first, then wheels 2..4. -/
def wheelPeak (target : Slot → F) : F :=
  [2, 3, 4].foldl (fun peak i => if peak < absFloat (target i) then absFloat (target i) else peak)
    (absFloat (target 1))

/-- `normalize_wheel_targets`. -/
def normalizeWheelTargets (target : Slot → F) (maxAbsRpm : F) : Slot → F :=
  if maxAbsRpm < wheelPeak target ∧ 0 < wheelPeak target then
    forMotors (fun _ t => t * (maxAbsRpm / wheelPeak target)) target
  else target

/-- The four mixing formulas of `update_targets_from_command`, before normalisation. -/
def mixCommand (config : ChassisConfig F) (command : ChassisCommand F) (target : Slot → F) :
    Slot → F :=
  let forward := -clampFloat command.forward (-ofRat 1) (ofRat 1) * config.maxTranslateRpm
  let strafe := clampFloat command.strafe (-ofRat 1) (ofRat 1) * config.maxTranslateRpm
  let rotate := clampFloat command.rotate (-ofRat 1) (ofRat 1) * config.maxRotateRpm
  fun
    | 0 => target 0
    | 1 => -(forward + strafe) - rotate
    | 2 => -(forward - strafe) - rotate
    | 3 => (forward - strafe) - rotate
    | 4 => (forward + strafe) - rotate

/-- `update_targets_from_command`. -/
def updateTargetsFromCommand (controller : ChassisController F) : ChassisController F :=
  { controller with
    targetRpm := normalizeWheelTargets
      (mixCommand controller.config controller.command controller.targetRpm)
      controller.config.maxTranslateRpm }

/-! ## 3. Life cycle and commands -/

/-- The speed gains `chassis_init` gives to motors 1..4: `kp` and `ki`. -/
def wheelGains : Slot → ℚ × ℚ
  | 1 => (2.0, 0.35)
  | 2 => (2.0, 0.30)
  | 3 => (2.0, 0.40)
  | _ => (2.0, 0.60)

/-- `chassis_default_config`. -/
def chassisDefaultConfig : ChassisConfig F where
  maxTranslateRpm := ofRat 500
  maxRotateRpm := ofRat 400
  commandTimeoutMs := ofRat 300
  feedbackTimeoutMs := ofRat 250

/-- `chassis_init`, on a controller whose memory holds anything at all. -/
def chassisInit (memory : ChassisController F) (config : ChassisConfig F) (nowMs : UInt64) :
    ChassisController F where
  config := config
  command := zeroCommand
  lastCommandMs := nowMs
  feedback i := { memory.feedback i with id := UInt8.ofNat i.val, online := 0 }
  targetRpm _ := 0
  pid := forMotors (fun i p => pidInit p (ofRat (wheelGains i).1) (ofRat (wheelGains i).2) 0
    (ofRat 6500) (-ofRat 6500) (ofRat 2500) (-ofRat 2500)) memory.pid

/-- `chassis_set_command`. -/
def chassisSetCommand (controller : ChassisController F) (forward strafe rotate : F)
    (nowMs : UInt64) : ChassisController F :=
  { controller with
    command := ⟨clampFloat forward (-ofRat 1) (ofRat 1), clampFloat strafe (-ofRat 1) (ofRat 1),
      clampFloat rotate (-ofRat 1) (ofRat 1)⟩
    lastCommandMs := nowMs }

/-- `chassis_stop`. -/
def chassisStop (controller : ChassisController F) (nowMs : UInt64) : ChassisController F :=
  resetMotionState { controller with lastCommandMs := nowMs }

/-- `chassis_update_feedback`. -/
def chassisUpdateFeedback (controller : ChassisController F) (feedback : Motor3508Feedback) :
    ChassisController F :=
  if feedback.id < 1 || UInt8.ofNat chassisMotorCount < feedback.id then controller
  else { controller with
    feedback := Function.update controller.feedback (slotOf feedback.id) feedback }

/-! ## 4. The control step -/

/-- One turn of the loop of `chassis_feedback_all_online`. -/
def feedbackOnline (controller : ChassisController F) (nowMs : UInt64) (i : Slot) : Bool :=
  (controller.feedback i).online != 0 &&
  !decide (controller.config.feedbackTimeoutMs <
    floatMs (elapsedMs nowMs (controller.feedback i).lastUpdateMs))

/-- `chassis_feedback_all_online`: the loop returns 0 at the first motor that fails. -/
def chassisFeedbackAllOnline (controller : ChassisController F) (nowMs : UInt64) : Bool :=
  motors.all (feedbackOnline controller nowMs)

/-- The expiry test of `chassis_step`. -/
def commandExpired (controller : ChassisController F) (nowMs : UInt64) : Bool :=
  decide (controller.config.commandTimeoutMs < floatMs (elapsedMs nowMs controller.lastCommandMs))

/-- The feedback-lost branch of `chassis_step`: PIDs and targets, but not the command. -/
def dropTargets (controller : ChassisController F) : ChassisController F :=
  { controller with
    targetRpm := forMotors (fun _ _ => 0) controller.targetRpm
    pid := forMotors (fun _ p => pidReset p) controller.pid }

/-- The `pid_calculate` call of wheel `i`. -/
def wheelPid (controller : ChassisController F) (dtS : F) (i : Slot) : PIDController F × F :=
  pidCalculate (controller.pid i) (controller.targetRpm i)
    (ofRat ((controller.feedback i).speedRpm.toInt : ℚ)) dtS

/-- The active branch of `chassis_step`: all four PIDs run. -/
def runWheels (controller : ChassisController F) (dtS : F) : ChassisController F :=
  { controller with pid := forMotors (fun i _ => (wheelPid controller dtS i).1) controller.pid }

/-- `currents[i] = (int16_t)lrintf(output)` for the four wheels, 0 in entry 0. -/
def wheelCurrents (controller : ChassisController F) (dtS : F) : Slot → Int16 :=
  forMotors (fun i _ => Int16.ofInt (lrintf (wheelPid controller dtS i).2)) fun _ => 0

@[simp] theorem wheelCurrents_zero (controller : ChassisController F) (dtS : F) :
    wheelCurrents controller dtS 0 = 0 := rfl

/-- `chassis_step`. -/
def chassisStep (controller : ChassisController F) (nowMs : UInt64) (dtS : F) :
    ChassisController F × StepResult :=
  let controller := if commandExpired controller nowMs then resetMotionState controller
    else controller
  if commandIsZero controller.command then
    (resetMotionState controller, ⟨fun _ => 0, chassisFeedbackAllOnline controller nowMs⟩)
  else
    let controller := updateTargetsFromCommand controller
    if !chassisFeedbackAllOnline controller nowMs then
      (dropTargets controller, ⟨fun _ => 0, false⟩)
    else
      (runWheels controller dtS, ⟨wheelCurrents controller dtS, true⟩)

/-! ## 5. What a step can do -/

/-- The command `{0, 0, 0}` passes the zero test: true of the exact reading and of every
    IEEE format, and all the steps below need of the comparison operators. -/
def ZeroIsStill (F : Type) [Zero F] [Neg F] [LT F] [LE F] [DecidableLT F] [DecidableLE F]
    [CFloat F] : Prop :=
  commandIsZero (zeroCommand : ChassisCommand F) = true

theorem forMotors_forMotors {α : Type} (f g : Slot → α → α) (a : Slot → α) :
    forMotors f (forMotors g a) = forMotors (fun i x => f i (g i x)) a := by
  funext i
  by_cases hi : i = 0
  · rw [hi]
    rfl
  · simp only [forMotors_motor _ _ hi]

theorem resetMotionState_idem (c : ChassisController F) :
    resetMotionState (resetMotionState c) = resetMotionState c := by
  simp only [resetMotionState, forMotors_forMotors]
  rfl

theorem targets_slot_zero (c : ChassisController F) :
    (updateTargetsFromCommand c).targetRpm 0 = c.targetRpm 0 := by
  simp only [updateTargetsFromCommand, normalizeWheelTargets]
  split <;> rfl

/-- What the lost-feedback branch leaves does not depend on the targets computed just before. -/
theorem dropTargets_update (c : ChassisController F) :
    dropTargets (updateTargetsFromCommand c) = dropTargets c := by
  have ht : forMotors (fun _ _ => (0 : F)) (updateTargetsFromCommand c).targetRpm =
      forMotors (fun _ _ => 0) c.targetRpm := by
    funext i
    by_cases hi : i = 0
    · rw [hi]
      exact targets_slot_zero c
    · simp only [forMotors_motor _ _ hi]
  simp only [dropTargets, ht]
  rfl

/-- **Exit 1**: an expired command, or a zero one. Motion state erased, currents 0. -/
theorem chassisStep_idle (hz : ZeroIsStill F) {c : ChassisController F} {nowMs : UInt64} {dtS : F}
    (h : commandExpired c nowMs = true ∨ commandIsZero c.command = true) :
    chassisStep c nowMs dtS =
      (resetMotionState c, ⟨fun _ => 0, chassisFeedbackAllOnline c nowMs⟩) := by
  have hzero : commandIsZero (resetMotionState c).command = true := hz
  unfold chassisStep
  by_cases he : commandExpired c nowMs = true
  · simp only [he, if_true, hzero, resetMotionState_idem]
    rfl
  · simp only [he, h.resolve_left he, Bool.false_eq_true, if_false, if_true]

/-- **Exit 2**: a live command, but some motor's feedback is lost. Targets and PIDs erased, the
    command kept, currents 0. -/
theorem chassisStep_lost {c : ChassisController F} {nowMs : UInt64} {dtS : F}
    (he : commandExpired c nowMs = false) (hc : commandIsZero c.command = false)
    (ho : chassisFeedbackAllOnline c nowMs = false) :
    chassisStep c nowMs dtS = (dropTargets c, ⟨fun _ => 0, false⟩) := by
  have ho' : chassisFeedbackAllOnline (updateTargetsFromCommand c) nowMs = false := ho
  unfold chassisStep
  simp only [he, hc, ho', dropTargets_update, Bool.false_eq_true, if_false, Bool.not_false, if_true]

/-- **Exit 3**: a live command and all four motors online. The PIDs run. -/
theorem chassisStep_active {c : ChassisController F} {nowMs : UInt64} {dtS : F}
    (he : commandExpired c nowMs = false) (hc : commandIsZero c.command = false)
    (ho : chassisFeedbackAllOnline c nowMs = true) :
    chassisStep c nowMs dtS = (runWheels (updateTargetsFromCommand c) dtS,
      ⟨wheelCurrents (updateTargetsFromCommand c) dtS, true⟩) := by
  have ho' : chassisFeedbackAllOnline (updateTargetsFromCommand c) nowMs = true := ho
  unfold chassisStep
  simp only [he, hc, ho', Bool.false_eq_true, if_false, Bool.not_true]

/-- **A step leaves through one of the three exits.** -/
theorem chassisStep_cases (hz : ZeroIsStill F) (c : ChassisController F) (nowMs : UInt64)
    (dtS : F) :
    ((commandExpired c nowMs = true ∨ commandIsZero c.command = true) ∧
      chassisStep c nowMs dtS =
        (resetMotionState c, ⟨fun _ => 0, chassisFeedbackAllOnline c nowMs⟩)) ∨
    (commandExpired c nowMs = false ∧ commandIsZero c.command = false ∧
      chassisFeedbackAllOnline c nowMs = false ∧
      chassisStep c nowMs dtS = (dropTargets c, ⟨fun _ => 0, false⟩)) ∨
    (commandExpired c nowMs = false ∧ commandIsZero c.command = false ∧
      chassisFeedbackAllOnline c nowMs = true ∧
      chassisStep c nowMs dtS = (runWheels (updateTargetsFromCommand c) dtS,
        ⟨wheelCurrents (updateTargetsFromCommand c) dtS, true⟩)) := by
  cases he : commandExpired c nowMs with
  | true => exact Or.inl ⟨Or.inl rfl, chassisStep_idle hz (Or.inl he)⟩
  | false =>
    cases hc : commandIsZero c.command with
    | true => exact Or.inl ⟨Or.inr rfl, chassisStep_idle hz (Or.inr hc)⟩
    | false =>
      cases ho : chassisFeedbackAllOnline c nowMs with
      | false => exact Or.inr (Or.inl ⟨rfl, rfl, rfl, chassisStep_lost he hc ho⟩)
      | true => exact Or.inr (Or.inr ⟨rfl, rfl, rfl, chassisStep_active he hc ho⟩)

theorem zeroIsStill_rat : ZeroIsStill ℚ := by
  unfold ZeroIsStill
  decide +kernel

/-! ## 6. Feedback slots -/

theorem chassisFeedbackAllOnline_iff {c : ChassisController F} {nowMs : UInt64} :
    chassisFeedbackAllOnline c nowMs = true ↔ ∀ i, i ≠ 0 → feedbackOnline c nowMs i = true := by
  simp only [chassisFeedbackAllOnline, List.all_eq_true, mem_motors]

/-- An id is outside `1..CHASSIS_MOTOR_COUNT`, or it is a motor's. -/
theorem motorId_cases (id : UInt8) : (id < 1 || UInt8.ofNat chassisMotorCount < id) = true ∨
    ∃ i : Slot, i ≠ 0 ∧ id = UInt8.ofNat i.val := by
  rw [or_iff_not_imp_left, Bool.not_eq_true, Bool.or_eq_false_iff, decide_eq_false_iff_not,
    decide_eq_false_iff_not, UInt8.not_lt, UInt8.not_lt]
  rintro ⟨h1, h4⟩
  have hlo : 1 ≤ id.toNat := h1
  have hhi : id.toNat ≤ 4 := h4
  refine ⟨Fin.ofNat 5 id.toNat, fun h => ?_, UInt8.toNat_inj.mp ?_⟩
  · rw [Fin.ext_iff, Fin.val_ofNat, Fin.val_zero] at h
    omega
  · simp only [Fin.val_ofNat, UInt8.toNat_ofNat']
    omega

/-- A record whose id names no motor is not stored. -/
theorem chassisUpdateFeedback_foreign (c : ChassisController F) {fb : Motor3508Feedback}
    (h : (fb.id < 1 || UInt8.ofNat chassisMotorCount < fb.id) = true) :
    chassisUpdateFeedback c fb = c := if_pos h

/-- **A record of motor `i` overwrites slot `i` and nothing else.** -/
theorem chassisUpdateFeedback_motor (c : ChassisController F) {fb : Motor3508Feedback} {i : Slot}
    (hi : i ≠ 0) (h : fb.id = UInt8.ofNat i.val) :
    chassisUpdateFeedback c fb = { c with feedback := Function.update c.feedback i fb } := by
  have hr : ∀ j : Slot, j ≠ 0 → (UInt8.ofNat j.val < 1 ||
      UInt8.ofNat chassisMotorCount < UInt8.ofNat j.val) = false := by decide
  have hs : ∀ j : Slot, j ≠ 0 → slotOf (UInt8.ofNat j.val) = j := by decide
  simp only [chassisUpdateFeedback, h, hr i hi, hs i hi, Bool.false_eq_true, if_false]

end Rk3588Chassis
