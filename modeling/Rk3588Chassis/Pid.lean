/-
  File:      Rk3588Chassis/Pid.lean
  Subject:   The speed PID (`src/pid.c`).

  `pidCalculate` is split into the values its body computes one after the other
  (`pidStepTime`, `pidError`, `pidDerivative`, `pidNewIntegral`, `pidOutput`, `pidStored`), so
  that a proof speaks about one of them at a time.

  * `pidReset_congr`, `pidInit_eq` -- a reset forgets everything but the gains and limits, and
    a set-up forgets everything;
  * `pidCalculate_gains` -- a calculation keeps the gains and limits;
  * `pidOutput_mem`, `pidCalculate_integral_mem` -- over exact rationals the output lies inside
    its limits, and the stored integral stays inside its own.
-/
import Rk3588Chassis.Types

namespace Rk3588Chassis

open CFloat Rounding

/-- `PIDController`. -/
structure PIDController (F : Type) where
  kp : F
  ki : F
  kd : F
  target : F
  actual : F
  error : F
  lastError : F
  prevError : F
  integral : F
  derivative : F
  output : F
  outputMax : F
  outputMin : F
  integralMax : F
  integralMin : F
  deriving DecidableEq

variable {F : Type}

/-- Two controllers with the same gains and limits. -/
structure SameGains (p q : PIDController F) : Prop where
  kp : p.kp = q.kp
  ki : p.ki = q.ki
  kd : p.kd = q.kd
  outputMax : p.outputMax = q.outputMax
  outputMin : p.outputMin = q.outputMin
  integralMax : p.integralMax = q.integralMax
  integralMin : p.integralMin = q.integralMin

theorem SameGains.symm {p q : PIDController F} (h : SameGains p q) : SameGains q p :=
  ⟨h.kp.symm, h.ki.symm, h.kd.symm, h.outputMax.symm, h.outputMin.symm, h.integralMax.symm,
    h.integralMin.symm⟩

theorem SameGains.trans {p q r : PIDController F} (h : SameGains p q) (h' : SameGains q r) :
    SameGains p r :=
  ⟨h.kp.trans h'.kp, h.ki.trans h'.ki, h.kd.trans h'.kd, h.outputMax.trans h'.outputMax,
    h.outputMin.trans h'.outputMin, h.integralMax.trans h'.integralMax,
    h.integralMin.trans h'.integralMin⟩

/-! ## 1. Reset and set-up -/

section Reset

variable [Zero F]

/-- `pid_reset`. -/
def pidReset (pid : PIDController F) : PIDController F :=
  { pid with
    target := 0
    actual := 0
    error := 0
    lastError := 0
    prevError := 0
    integral := 0
    derivative := 0
    output := 0 }

/-- `pid_init`. -/
def pidInit (pid : PIDController F) (kp ki kd outputMax outputMin integralMax integralMin : F) :
    PIDController F :=
  pidReset { pid with
    kp := kp
    ki := ki
    kd := kd
    outputMax := outputMax
    outputMin := outputMin
    integralMax := integralMax
    integralMin := integralMin }

theorem pidReset_gains (p : PIDController F) : SameGains (pidReset p) p :=
  ⟨rfl, rfl, rfl, rfl, rfl, rfl, rfl⟩

/-- **A reset forgets everything but the gains and limits.** -/
theorem pidReset_congr {p q : PIDController F} (h : SameGains p q) : pidReset p = pidReset q := by
  cases p
  cases q
  obtain ⟨h1, h2, h3, h4, h5, h6, h7⟩ := h
  simp only at h1 h2 h3 h4 h5 h6 h7
  subst h1 h2 h3 h4 h5 h6 h7
  rfl

/-- `pid_init` writes every field: what was in memory before is gone. -/
theorem pidInit_eq (p q : PIDController F) (kp ki kd omax omin imax imin : F) :
    pidInit p kp ki kd omax omin imax imin = pidInit q kp ki kd omax omin imax imin :=
  pidReset_congr ⟨rfl, rfl, rfl, rfl, rfl, rfl, rfl⟩

end Reset

/-! ## 2. One calculation -/

section Calculate

variable [Zero F] [Add F] [Sub F] [Mul F] [Div F] [LT F] [LE F] [BEq F] [DecidableLT F]
  [DecidableLE F] [CFloat F]

/-- `if (dt_s <= 0.0f) dt_s = 0.001f;` -/
def pidStepTime (dtS : F) : F := if dtS ≤ 0 then ofRat 0.001 else dtS

/-- `pid->error` of this call. -/
def pidError (target actual : F) : F := target - actual

/-- `pid->derivative` of this call; the error of the call before is still in `pid->error`. -/
def pidDerivative (pid : PIDController F) (target actual dtS : F) : F :=
  (pidError target actual - pid.error) / pidStepTime dtS

/-- `new_integral` after its clamp (`if (> max) .. else if (< min) ..`). -/
def pidNewIntegral (pid : PIDController F) (target actual dtS : F) : F :=
  saturate pid.integralMin pid.integralMax
    (pid.integral + pidError target actual * pidStepTime dtS)

/-- `output` after its clamp. -/
def pidOutput (pid : PIDController F) (target actual dtS : F) : F :=
  saturate pid.outputMin pid.outputMax
    (pid.kp * pidError target actual + pid.ki * pidNewIntegral pid target actual dtS +
      pid.kd * pidDerivative pid target actual dtS)

/-- The three-case test that decides whether the candidate integral is stored. -/
def pidStored (pid : PIDController F) (output error : F) : Bool :=
  (decide (output < pid.outputMax) && decide (pid.outputMin < output)) ||
  (output == pid.outputMax && decide (error < 0)) ||
  (output == pid.outputMin && decide (0 < error))

/-- `pid_calculate`: the new controller and the returned output. -/
def pidCalculate (pid : PIDController F) (target actual dtS : F) : PIDController F × F :=
  let output := pidOutput pid target actual dtS
  ({ pid with
      target := target
      actual := actual
      prevError := pid.lastError
      lastError := pid.error
      error := pidError target actual
      derivative := pidDerivative pid target actual dtS
      integral :=
        if pidStored pid output (pidError target actual)
        then pidNewIntegral pid target actual dtS else pid.integral
      output := output },
   output)

theorem pidCalculate_gains (p : PIDController F) (target actual dtS : F) :
    SameGains (pidCalculate p target actual dtS).1 p :=
  ⟨rfl, rfl, rfl, rfl, rfl, rfl, rfl⟩

end Calculate

/-! ## 3. Limits, over exact rationals -/

/-- The returned output lies inside the output limits. -/
theorem pidOutput_mem {p : PIDController ℚ} (h : p.outputMin ≤ p.outputMax)
    (target actual dtS : ℚ) : p.outputMin ≤ pidOutput p target actual dtS ∧
      pidOutput p target actual dtS ≤ p.outputMax :=
  saturate_mem h _

/-- **The integral never leaves its limits**, whether the candidate is stored or not. -/
theorem pidCalculate_integral_mem {p : PIDController ℚ} (h : p.integralMin ≤ p.integralMax)
    (hp : p.integralMin ≤ p.integral ∧ p.integral ≤ p.integralMax) (target actual dtS : ℚ) :
    p.integralMin ≤ (pidCalculate p target actual dtS).1.integral ∧
      (pidCalculate p target actual dtS).1.integral ≤ p.integralMax := by
  simp only [pidCalculate]
  split
  · exact saturate_mem h _
  · exact hp

end Rk3588Chassis
