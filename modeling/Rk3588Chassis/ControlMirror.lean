/-
  File:      Rk3588Chassis/ControlMirror.lean
  Subject:   Direction symmetry: negated commands and speeds give negated targets and currents.

  `Mirror c d` says that `d` is `c` seen in the mirror: the command, the wheel targets, and the
  error and integral of every PID are negated, the speeds in online slots too; clocks, time
  stamps, gains and limits are the same. Every stage of a step is odd -- the clamps because
  their ranges are symmetric, the peak because it is a magnitude, the three-case test of the
  integral because it treats the two limits alike, the rounding because ties go to even on
  both sides -- so one mirrored operation keeps the relation (`mirror_step`).
-/
import Rk3588Chassis.ControlBounds
import Rk3588Chassis.ControlRelation

namespace Rk3588Chassis

open CFloat Reactive Rounding

/-! ## 1. Every stage of the arithmetic is odd -/

theorem clampFloat_neg (x : ℚ) : clampFloat (-x) (-1) 1 = -clampFloat x (-1) 1 :=
  saturate_neg (by norm_num) x

theorem wheelPeak_neg {a b : Slot → ℚ} (h : ∀ i, i ≠ 0 → b i = -a i) : wheelPeak b = wheelPeak a := by
  simp only [wheelPeak, List.foldl_cons, List.foldl_nil, absFloat_rat, h 1 (by decide),
    h 2 (by decide), h 3 (by decide), h 4 (by decide), abs_neg]

theorem normalizeWheelTargets_neg {a b : Slot → ℚ} (h : ∀ i, i ≠ 0 → b i = -a i) (maxAbsRpm : ℚ)
    {i : Slot} (hi : i ≠ 0) :
    normalizeWheelTargets b maxAbsRpm i = -normalizeWheelTargets a maxAbsRpm i := by
  unfold normalizeWheelTargets
  rw [wheelPeak_neg h]
  split
  · rw [forMotors_motor _ _ hi, forMotors_motor _ _ hi, h i hi, neg_mul]
  · exact h i hi

/-- The command with every component negated. -/
def ChassisCommand.neg (command : ChassisCommand ℚ) : ChassisCommand ℚ :=
  ⟨-command.forward, -command.strafe, -command.rotate⟩

theorem commandIsZero_neg (command : ChassisCommand ℚ) :
    commandIsZero command.neg = commandIsZero command := by
  simp only [commandIsZero, ChassisCommand.neg, absFloat_rat, abs_neg]

theorem mixCommand_neg (config : ChassisConfig ℚ) (command : ChassisCommand ℚ)
    (target target' : Slot → ℚ) {i : Slot} (hi : i ≠ 0) :
    mixCommand config command.neg target' i = -mixCommand config command target i := by
  match i, hi with
  | 1, _ =>
    simp only [mixCommand, ChassisCommand.neg, ofRat_rat, clampFloat_neg]
    ring
  | 2, _ =>
    simp only [mixCommand, ChassisCommand.neg, ofRat_rat, clampFloat_neg]
    ring
  | 3, _ =>
    simp only [mixCommand, ChassisCommand.neg, ofRat_rat, clampFloat_neg]
    ring
  | 4, _ =>
    simp only [mixCommand, ChassisCommand.neg, ofRat_rat, clampFloat_neg]
    ring

/-! ## 2. The PID in the mirror -/

/-- The same PID with a negated memory. -/
structure PidMirror (p q : PIDController ℚ) : Prop where
  gains : SameGains p q
  error : q.error = -p.error
  integral : q.integral = -p.integral

theorem pidError_neg (target actual : ℚ) :
    pidError (-target) (-actual) = -pidError target actual := by
  unfold pidError
  ring

section Pid

variable {p q : PIDController ℚ} (h : PidMirror p q) (hl : WheelLimits p) (target actual dtS : ℚ)
include h

theorem pidDerivative_neg :
    pidDerivative q (-target) (-actual) dtS = -pidDerivative p target actual dtS := by
  unfold pidDerivative
  rw [pidError_neg, h.error]
  ring

include hl

theorem pidNewIntegral_neg :
    pidNewIntegral q (-target) (-actual) dtS = -pidNewIntegral p target actual dtS := by
  unfold pidNewIntegral
  rw [← h.gains.integralMin, ← h.gains.integralMax, hl.integralMin, hl.integralMax, pidError_neg,
    h.integral, ← saturate_neg (by norm_num)]
  congr 1
  ring

theorem pidOutput_neg : pidOutput q (-target) (-actual) dtS = -pidOutput p target actual dtS := by
  unfold pidOutput
  rw [← h.gains.outputMin, ← h.gains.outputMax, hl.outputMin, hl.outputMax, pidError_neg,
    pidNewIntegral_neg h hl, pidDerivative_neg h, ← h.gains.kp, ← h.gains.ki, ← h.gains.kd,
    ← saturate_neg (by norm_num)]
  congr 1
  ring

/-- **The test that stores the integral treats the two limits alike.** -/
theorem pidStored_neg (output error : ℚ) :
    pidStored q (-output) (-error) = pidStored p output error := by
  rw [Bool.eq_iff_iff]
  simp only [pidStored, ← h.gains.outputMin, ← h.gains.outputMax, hl.outputMin, hl.outputMax,
    Bool.or_eq_true, Bool.and_eq_true, decide_eq_true_eq, beq_iff_eq]
  constructor
  · rintro ((⟨h1, h2⟩ | ⟨h1, h2⟩) | ⟨h1, h2⟩)
    · exact Or.inl (Or.inl ⟨by linarith, by linarith⟩)
    · exact Or.inr ⟨by linarith, by linarith⟩
    · exact Or.inl (Or.inr ⟨by linarith, by linarith⟩)
  · rintro ((⟨h1, h2⟩ | ⟨h1, h2⟩) | ⟨h1, h2⟩)
    · exact Or.inl (Or.inl ⟨by linarith, by linarith⟩)
    · exact Or.inr ⟨by linarith, by linarith⟩
    · exact Or.inl (Or.inr ⟨by linarith, by linarith⟩)

/-- **One mirrored calculation mirrors the PID and negates the output.** -/
theorem pidCalculate_mirror :
    PidMirror (pidCalculate p target actual dtS).1 (pidCalculate q (-target) (-actual) dtS).1 ∧
      (pidCalculate q (-target) (-actual) dtS).2 = -(pidCalculate p target actual dtS).2 := by
  refine ⟨⟨?_, pidError_neg target actual, ?_⟩, pidOutput_neg h hl target actual dtS⟩
  · exact ((pidCalculate_gains p target actual dtS).trans h.gains).trans
      ⟨rfl, rfl, rfl, rfl, rfl, rfl, rfl⟩
  · simp only [pidCalculate, pidOutput_neg h hl, pidError_neg, pidStored_neg h hl,
      pidNewIntegral_neg h hl, h.integral]
    split <;> rfl

end Pid

/-! ## 3. The controller in the mirror -/

/-- Two slots the code reads as mirror images. -/
structure SlotMirror (a b : Motor3508Feedback) : Prop where
  online : a.online = b.online
  stamp : a.online ≠ 0 → a.lastUpdateMs = b.lastUpdateMs
  speed : a.online ≠ 0 → b.speedRpm.toInt = -a.speedRpm.toInt

/-- `d` is `c` seen in the mirror. -/
structure Mirror (c d : ChassisController ℚ) : Prop where
  config : c.config = d.config
  command : d.command = c.command.neg
  clock : c.lastCommandMs = d.lastCommandMs
  target : ∀ i, i ≠ 0 → d.targetRpm i = -c.targetRpm i
  pid : ∀ i, i ≠ 0 → PidMirror (c.pid i) (d.pid i)
  limits : ∀ i, i ≠ 0 → WheelLimits (c.pid i)
  feedback : ∀ i, i ≠ 0 → SlotMirror (c.feedback i) (d.feedback i)

section Mirrored

variable {c d : ChassisController ℚ}

/-- The resets write the same in both runs: zeros, and zeros are their own mirror images. -/
theorem PidMirror.reset {p q : PIDController ℚ} (h : PidMirror p q) :
    PidMirror (pidReset p) (pidReset q) :=
  ⟨⟨h.gains.kp, h.gains.ki, h.gains.kd, h.gains.outputMax, h.gains.outputMin, h.gains.integralMax,
    h.gains.integralMin⟩, neg_zero.symm, neg_zero.symm⟩

theorem WheelLimits.of_gains {p q : PIDController ℚ} (h : SameGains p q) (hq : WheelLimits q) :
    WheelLimits p :=
  ⟨h.outputMin.trans hq.outputMin, h.outputMax.trans hq.outputMax,
    h.integralMin.trans hq.integralMin, h.integralMax.trans hq.integralMax⟩

theorem Mirror.dropTargets (h : Mirror c d) : Mirror (dropTargets c) (dropTargets d) where
  config := h.config
  command := h.command
  clock := h.clock
  target i hi := by simp only [Rk3588Chassis.dropTargets, forMotors_motor _ _ hi, neg_zero]
  pid i hi := by
    simp only [Rk3588Chassis.dropTargets, forMotors_motor _ _ hi]
    exact (h.pid i hi).reset
  limits i hi := by
    simp only [Rk3588Chassis.dropTargets, forMotors_motor _ _ hi]
    exact (h.limits i hi).of_gains (pidReset_gains _)
  feedback := h.feedback

theorem Mirror.reset (h : Mirror c d) : Mirror (resetMotionState c) (resetMotionState d) where
  config := h.config
  command := by simp only [resetMotionState, zeroCommand, ChassisCommand.neg, neg_zero]
  clock := h.clock
  target := h.dropTargets.target
  pid := h.dropTargets.pid
  limits := h.dropTargets.limits
  feedback := h.feedback

theorem Mirror.updateTargets (h : Mirror c d) :
    Mirror (updateTargetsFromCommand c) (updateTargetsFromCommand d) where
  config := h.config
  command := h.command
  clock := h.clock
  target i hi := by
    simp only [updateTargetsFromCommand, h.command, ← h.config]
    exact normalizeWheelTargets_neg (fun i hi => mixCommand_neg _ _ _ _ hi) _ hi
  pid := h.pid
  limits := h.limits
  feedback := h.feedback

/-! ## 4. The step in the mirror -/

/-- The tests of a step read the same in the mirror. -/
theorem Mirror.expired (h : Mirror c d) (nowMs : UInt64) :
    commandExpired d nowMs = commandExpired c nowMs := by
  rw [commandExpired, commandExpired, ← h.config, ← h.clock]

theorem Mirror.isZero (h : Mirror c d) : commandIsZero d.command = commandIsZero c.command := by
  rw [h.command, commandIsZero_neg]

theorem Mirror.allOnline (h : Mirror c d) (nowMs : UInt64) :
    chassisFeedbackAllOnline d nowMs = chassisFeedbackAllOnline c nowMs := by
  rw [Bool.eq_iff_iff, chassisFeedbackAllOnline_iff, chassisFeedbackAllOnline_iff]
  refine forall_congr' fun i => imp_congr_right fun hi => ?_
  have hs := h.feedback i hi
  unfold feedbackOnline
  rw [← hs.online, ← h.config]
  by_cases hon : (c.feedback i).online = 0
  · simp only [hon, bne_self_eq_false, Bool.false_and]
  · rw [hs.stamp hon]

/-- Wheel `i` runs the mirrored calculation, when it is online. -/
theorem Mirror.wheelPid (h : Mirror c d) {i : Slot} (hi : i ≠ 0)
    (hon : (c.feedback i).online ≠ 0) (dtS : ℚ) :
    PidMirror (wheelPid c dtS i).1 (wheelPid d dtS i).1 ∧
      (wheelPid d dtS i).2 = -(wheelPid c dtS i).2 := by
  have hspeed : (((d.feedback i).speedRpm.toInt : ℤ) : ℚ) =
      -(((c.feedback i).speedRpm.toInt : ℤ) : ℚ) := by
    rw [(h.feedback i hi).speed hon, Int.cast_neg]
  unfold Rk3588Chassis.wheelPid
  rw [h.target i hi, ofRat_rat, ofRat_rat, hspeed]
  exact pidCalculate_mirror (h.pid i hi) (h.limits i hi) _ _ _

/-- **A negated output is a negated current on the wire.** -/
theorem toInt_lrintf_neg {x : ℚ} (h : |x| ≤ 6500) :
    (Int16.ofInt (lrintf (-x))).toInt = -(Int16.ofInt (lrintf x)).toInt := by
  have hneg : |-x| ≤ 6500 := (abs_neg x).trans_le h
  rw [(toInt_lrintf hneg).1, (toInt_lrintf h).1, lrintf_rat, lrintf_rat, roundHalfEven_neg]

/-- Mirrored step results. -/
structure ResultMirror (a b : StepResult) : Prop where
  ret : b.ret = a.ret
  currents : ∀ i, i ≠ 0 → (b.currents i).toInt = -(a.currents i).toInt

/-- **A step keeps the mirror, and its results are mirrored.** -/
theorem mirror_chassisStep (h : Mirror c d) (nowMs : UInt64) (dtS : ℚ) :
    Mirror (chassisStep c nowMs dtS).1 (chassisStep d nowMs dtS).1 ∧
      ResultMirror (chassisStep c nowMs dtS).2 (chassisStep d nowMs dtS).2 := by
  have hon := h.allOnline nowMs
  rcases chassisStep_cases zeroIsStill_rat c nowMs dtS with
    ⟨hi, hc⟩ | ⟨he, hn, ho, hc⟩ | ⟨he, hn, ho, hc⟩
  · have hd : commandExpired d nowMs = true ∨ commandIsZero d.command = true := by
      rw [h.expired, h.isZero]
      exact hi
    rw [hc, chassisStep_idle zeroIsStill_rat hd]
    exact ⟨h.reset, hon, fun _ _ => rfl⟩
  · rw [hc, chassisStep_lost ((h.expired nowMs).trans he) (h.isZero.trans hn) (hon.trans ho)]
    exact ⟨h.dropTargets, rfl, fun _ _ => rfl⟩
  · rw [hc, chassisStep_active ((h.expired nowMs).trans he) (h.isZero.trans hn) (hon.trans ho)]
    have hu := h.updateTargets
    have hwheel := fun (i : Slot) (hi : i ≠ 0) => hu.wheelPid hi (online_of_allOnline ho hi) dtS
    refine ⟨⟨hu.config, hu.command, hu.clock, hu.target, fun i hi => ?_, fun i hi => ?_,
      hu.feedback⟩, rfl, fun i hi => ?_⟩
    · simp only [runWheels, forMotors_motor _ _ hi]
      exact (hwheel i hi).1
    · simp only [runWheels, forMotors_motor _ _ hi]
      exact (hu.limits i hi).of_gains (pidCalculate_gains _ _ _ _)
    · simp only [wheelCurrents, forMotors_motor _ _ hi, (hwheel i hi).2]
      exact toInt_lrintf_neg (pidOutput_le (hu.limits i hi) _ _ _)

end Mirrored

/-! ## 5. Mirrored operations and runs -/

/-- The mirrored feedback record. -/
def mirrorFeedback (fb : Motor3508Feedback) : Motor3508Feedback :=
  { fb with speedRpm := -fb.speedRpm }

/-- The mirrored operation. -/
def mirrorOp : ControlOp ℚ → ControlOp ℚ
  | .setCommand forward strafe rotate nowMs => .setCommand (-forward) (-strafe) (-rotate) nowMs
  | .stop nowMs => .stop nowMs
  | .updateFeedback fb => .updateFeedback (mirrorFeedback fb)
  | .step nowMs dtS => .step nowMs dtS

/-- The one speed `int16_t` cannot negate. -/
def Negatable (op : ControlOp ℚ) : Prop :=
  ∀ fb, op = .updateFeedback fb → fb.speedRpm.toInt ≠ -32768

theorem toInt_neg_speed {x : Int16} (h : x.toInt ≠ -32768) : (-x).toInt = -x.toInt := by
  have h1 := Int16.le_toInt x
  have h2 := Int16.toInt_lt x
  rw [Int16.toInt_neg, Int.bmod_eq_of_le] <;> omega

theorem slotMirror_mirrorFeedback {fb : Motor3508Feedback} (h : fb.speedRpm.toInt ≠ -32768) :
    SlotMirror fb (mirrorFeedback fb) :=
  ⟨rfl, fun _ => rfl, fun _ => toInt_neg_speed h⟩

/-- **One mirrored operation keeps the mirror.** -/
theorem mirror_step {c d : ChassisController ℚ} (h : Mirror c d) {op : ControlOp ℚ}
    (hop : Negatable op) : Mirror (controlStep c op).1 (controlStep d (mirrorOp op)).1 := by
  cases op with
  | setCommand f s r t =>
    refine ⟨h.config, ?_, rfl, h.target, h.pid, h.limits, h.feedback⟩
    show clampedCommand (-f) (-s) (-r) = (clampedCommand f s r).neg
    simp only [clampedCommand, ChassisCommand.neg, clampFloat_neg]
  | stop t =>
    have hlast : Mirror { c with lastCommandMs := t } { d with lastCommandMs := t } :=
      ⟨h.config, h.command, rfl, h.target, h.pid, h.limits, h.feedback⟩
    exact hlast.reset
  | updateFeedback fb =>
    have hs := slotMirror_mirrorFeedback (hop fb rfl)
    show Mirror (chassisUpdateFeedback c fb) (chassisUpdateFeedback d (mirrorFeedback fb))
    rcases motorId_cases fb.id with hforeign | ⟨i, hi, hid⟩
    · have hforeign' : ((mirrorFeedback fb).id < 1 ||
          UInt8.ofNat chassisMotorCount < (mirrorFeedback fb).id) = true := hforeign
      rw [chassisUpdateFeedback_foreign c hforeign, chassisUpdateFeedback_foreign d hforeign']
      exact h
    · have hid' : (mirrorFeedback fb).id = UInt8.ofNat i.val := hid
      rw [chassisUpdateFeedback_motor c hi hid, chassisUpdateFeedback_motor d hi hid']
      exact ⟨h.config, h.command, h.clock, h.target, h.pid, h.limits,
        update_related h.feedback hs⟩
  | step t dt => exact (mirror_chassisStep h t dt).1

/-- A fresh controller is its own mirror image, on any two memories. -/
theorem mirror_init (memory memory' : ChassisController ℚ) (config : ChassisConfig ℚ)
    (initMs : UInt64) :
    Mirror (chassisInit memory config initMs) (chassisInit memory' config initMs) where
  config := rfl
  command := by simp only [chassisInit, zeroCommand, ChassisCommand.neg, neg_zero]
  clock := rfl
  target i _ := neg_zero.symm
  pid i hi := by
    rw [chassisInit_pid memory config initMs hi, chassisInit_pid memory' config initMs hi]
    exact ⟨⟨rfl, rfl, rfl, rfl, rfl, rfl, rfl⟩, neg_zero.symm, neg_zero.symm⟩
  limits i hi := wheelLimits_after memory config initMs [] hi
  feedback i _ := ⟨rfl, fun h => absurd rfl h, fun h => absurd rfl h⟩

/-- **The mirrored history leaves the mirrored controller.** -/
theorem mirror_after (memory memory' : ChassisController ℚ) (config : ChassisConfig ℚ)
    (initMs : UInt64) : ∀ hist : List (ControlOp ℚ), (∀ op ∈ hist, Negatable op) →
      Mirror ((chassis memory config initMs).after hist)
        ((chassis memory' config initMs).after (hist.map mirrorOp))
  | [], _ => mirror_init memory memory' config initMs
  | op :: hist, h =>
      mirror_step (mirror_after memory memory' config initMs hist
        fun o ho => h o (List.mem_cons_of_mem _ ho)) (h op (List.mem_cons_self ..))

/-! ## 6. The theorem -/

/-- **Direction symmetry.** After a history and after its mirror image, a step at the same time
    with the same `dt_s` returns the same value, computes exactly negated targets and writes
    exactly negated currents, for the four wheels. -/
theorem direction_symmetry (memory memory' : ChassisController ℚ) (config : ChassisConfig ℚ)
    (initMs : UInt64) (hist : List (ControlOp ℚ))
    (hspeed : ∀ fb, .updateFeedback fb ∈ hist → fb.speedRpm.toInt ≠ -32768)
    (nowMs : UInt64) (dtS : ℚ) :
    let run := chassisStep ((chassis memory config initMs).after hist) nowMs dtS
    let mirrored :=
      chassisStep ((chassis memory' config initMs).after (hist.map mirrorOp)) nowMs dtS
    mirrored.2.ret = run.2.ret ∧
    ∀ k : Fin 4, mirrored.1.targetRpm k.succ = -run.1.targetRpm k.succ ∧
      (mirrored.2.currents k.succ).toInt = -(run.2.currents k.succ).toInt := by
  intro run mirrored
  have hop : ∀ op ∈ hist, Negatable op := by
    intro op hmem fb heq
    subst heq
    exact hspeed fb hmem
  have h := mirror_chassisStep (mirror_after memory memory' config initMs hist hop) nowMs dtS
  exact ⟨h.2.ret, fun k => ⟨h.1.target k.succ (Fin.succ_ne_zero k),
    h.2.currents k.succ (Fin.succ_ne_zero k)⟩⟩

/-- Full speed ahead and full speed astern draw opposite currents. -/
theorem astern_mirrors_ahead :
    ((chassisStep ((chassis blankMemory chassisDefaultConfig 0).after (driveHist.map mirrorOp)) 20
        (1 / 100)).2.currents 1).toInt =
      -((chassisStep ((chassis blankMemory chassisDefaultConfig 0).after driveHist) 20
        (1 / 100)).2.currents 1).toInt := by
  have hspeed : ∀ fb, .updateFeedback fb ∈ driveHist → fb.speedRpm.toInt ≠ -32768 := by
    intro fb hfb
    simp only [driveHist, List.mem_cons, ControlOp.updateFeedback.injEq, List.not_mem_nil, or_false,
      reduceCtorEq] at hfb
    rcases hfb with rfl | rfl | rfl | rfl <;> decide
  have h := direction_symmetry blankMemory blankMemory chassisDefaultConfig 0 driveHist hspeed 20
    (1 / 100)
  exact (h.2 0).2

end Rk3588Chassis
