/-
  File:      Rk3588Chassis/PidRun.lean
  Subject:   The speed PID over whole runs of `pid_calculate`, over exact rationals.

  `regulator` is a PID and the calls made to it, as a machine; a run starts from what `pid_init`
  or `pid_reset` leaves behind.

  * `stored_at_max`, `stored_at_min` -- at a limit the candidate integral is stored only if the
    error points back inside;
  * `anti_windup` -- so a saturated output never winds the integral up, and a block of saturated
    calls leaves no trace in it;
  * `tracks_after` -- the invariant of the linear range: the integral is the running sum and
    `error` the error of the last call;
  * `textbook_output` -- and so the incremental code computes the closed formula.
-/
import Mathlib.Algebra.BigOperators.Group.List.Basic
import Mathlib.Data.List.Infix
import Mathlib.Tactic.NormNum
import Rk3588Chassis.Library.Machine
import Rk3588Chassis.Pid

namespace Rk3588Chassis

open CFloat Reactive Rounding

/-! ## 1. Runs -/

/-- The arguments of a `pid_calculate` call. -/
structure PidCall (F : Type) where
  target : F
  actual : F
  dtS : F

section Run

variable {F : Type} [Zero F] [Add F] [Sub F] [Mul F] [Div F] [LT F] [LE F] [BEq F] [DecidableLT F]
  [DecidableLE F] [CFloat F]

/-- The error of a call. -/
def PidCall.error (call : PidCall F) : F := pidError call.target call.actual

/-- A PID, and `pid_calculate` calls made to it. -/
def regulator (start : PIDController F) : Machine (PIDController F) (PidCall F) F where
  start := start
  step p call := pidCalculate p call.target call.actual call.dtS

/-- **No call touches the gains and limits.** -/
theorem regulator_gains (start : PIDController F) (hist : List (PidCall F)) :
    SameGains ((regulator start).after hist) start :=
  Machine.after_invariant (regulator start) (P := fun p => SameGains p start)
    ⟨rfl, rfl, rfl, rfl, rfl, rfl, rfl⟩
    (fun p call h => (pidCalculate_gains p call.target call.actual call.dtS).trans h) hist

end Run

/-- The substitution for `dt_s <= 0` leaves a positive time. -/
theorem pidStepTime_pos (dtS : ℚ) : 0 < pidStepTime dtS := by
  unfold pidStepTime
  split
  · rw [ofRat_rat]
    norm_num
  · rename_i h
    exact not_le.mp h

/-! ## 2. What is stored at a limit -/

/-- The integral after a call: the candidate, if the three-case test lets it through. -/
theorem integral_after (p : PIDController ℚ) (call : PidCall ℚ) :
    (pidCalculate p call.target call.actual call.dtS).1.integral =
      if pidStored p (pidOutput p call.target call.actual call.dtS) call.error then
        pidNewIntegral p call.target call.actual call.dtS else p.integral := by
  simp only [pidCalculate, PidCall.error]
  rfl

theorem stored_at_max {p : PIDController ℚ} (h : p.outputMin < p.outputMax) (error : ℚ) :
    pidStored p p.outputMax error = decide (error < 0) := by
  have hne : (p.outputMax == p.outputMin) = false := beq_eq_false_iff_ne.mpr h.ne'
  simp only [pidStored, lt_irrefl, decide_false, Bool.false_and, Bool.false_or, beq_self_eq_true,
    Bool.true_and, hne, Bool.or_false]

theorem stored_at_min {p : PIDController ℚ} (h : p.outputMin < p.outputMax) (error : ℚ) :
    pidStored p p.outputMin error = decide (0 < error) := by
  have hne : (p.outputMin == p.outputMax) = false := beq_eq_false_iff_ne.mpr h.ne
  simp only [pidStored, lt_irrefl, decide_false, Bool.and_false, Bool.false_or, beq_self_eq_true,
    Bool.true_and, hne, Bool.false_and]

/-- A negative error does not raise a candidate above an integral within its limits. -/
theorem candidate_le {p : PIDController ℚ} (hp : p.integralMin ≤ p.integral)
    (hp' : p.integral ≤ p.integralMax) {call : PidCall ℚ} (he : call.error < 0) :
    pidNewIntegral p call.target call.actual call.dtS ≤ p.integral := by
  have hdown : pidError call.target call.actual * pidStepTime call.dtS < 0 :=
    mul_neg_of_neg_of_pos he (pidStepTime_pos call.dtS)
  unfold pidNewIntegral saturate
  split
  · rename_i h
    linarith
  · split
    · exact hp
    · linarith

/-- A positive one does not lower it. -/
theorem le_candidate {p : PIDController ℚ} (hp : p.integralMin ≤ p.integral)
    (hp' : p.integral ≤ p.integralMax) {call : PidCall ℚ} (he : 0 < call.error) :
    p.integral ≤ pidNewIntegral p call.target call.actual call.dtS := by
  have hup : 0 < pidError call.target call.actual * pidStepTime call.dtS :=
    mul_pos he (pidStepTime_pos call.dtS)
  unfold pidNewIntegral saturate
  split
  · exact hp'
  · split
    · rename_i h
      linarith
    · linarith

/-! ## 3. Anti-windup -/

/-- A PID whose limits are in order and whose integral is within its own. -/
structure InLimits (p : PIDController ℚ) : Prop where
  output : p.outputMin < p.outputMax
  integralMin : p.integralMin ≤ p.integral
  integralMax : p.integral ≤ p.integralMax

/-- **Reachable integrals are within their limits.** -/
theorem inLimits_after {start : PIDController ℚ} (h : InLimits start) (hist : List (PidCall ℚ)) :
    InLimits ((regulator start).after hist) := by
  refine Machine.after_invariant (regulator start) (P := InLimits) h (fun p call hp => ?_) hist
  have hmem := pidCalculate_integral_mem (hp.integralMin.trans hp.integralMax)
    ⟨hp.integralMin, hp.integralMax⟩ call.target call.actual call.dtS
  exact ⟨hp.output, hmem.1, hmem.2⟩

/-- One call that returns the upper limit: the integral does not rise, and stays if the error
    does not point back inside. -/
theorem integral_at_max {p : PIDController ℚ} (hp : InLimits p) {call : PidCall ℚ}
    (h : (pidCalculate p call.target call.actual call.dtS).2 = p.outputMax) :
    (pidCalculate p call.target call.actual call.dtS).1.integral ≤ p.integral ∧
      (0 ≤ call.error →
        (pidCalculate p call.target call.actual call.dtS).1.integral = p.integral) := by
  have hout : pidOutput p call.target call.actual call.dtS = p.outputMax := h
  rw [integral_after, hout, stored_at_max hp.output]
  by_cases he : call.error < 0
  · rw [if_pos (decide_eq_true he)]
    exact ⟨candidate_le hp.integralMin hp.integralMax he, fun h0 => absurd he (not_lt.mpr h0)⟩
  · rw [decide_eq_false he, if_neg Bool.false_ne_true]
    exact ⟨le_refl _, fun _ => rfl⟩

/-- One call that returns the lower limit. -/
theorem integral_at_min {p : PIDController ℚ} (hp : InLimits p) {call : PidCall ℚ}
    (h : (pidCalculate p call.target call.actual call.dtS).2 = p.outputMin) :
    p.integral ≤ (pidCalculate p call.target call.actual call.dtS).1.integral ∧
      (call.error ≤ 0 →
        (pidCalculate p call.target call.actual call.dtS).1.integral = p.integral) := by
  have hout : pidOutput p call.target call.actual call.dtS = p.outputMin := h
  rw [integral_after, hout, stored_at_min hp.output]
  by_cases he : 0 < call.error
  · rw [if_pos (decide_eq_true he)]
    exact ⟨le_candidate hp.integralMin hp.integralMax he, fun h0 => absurd he (not_lt.mpr h0)⟩
  · rw [decide_eq_false he, if_neg Bool.false_ne_true]
    exact ⟨le_refl _, fun _ => rfl⟩

/-- Every call of a block (newest first) made after `hist` returns `limit`, with an error of the
    given sign. -/
def AllReturn (start : PIDController ℚ) (hist : List (PidCall ℚ)) (limit : ℚ) (sign : ℚ → Prop) :
    List (PidCall ℚ) → Prop
  | [] => True
  | call :: block => (regulator start).answer (block ++ hist) call = limit ∧ sign call.error ∧
      AllReturn start hist limit sign block

/-- A block of calls that all push into the same output limit. -/
def SaturatedBlock (start : PIDController ℚ) (hist block : List (PidCall ℚ)) : Prop :=
  AllReturn start hist start.outputMax (fun e => 0 ≤ e) block ∨
    AllReturn start hist start.outputMin (fun e => e ≤ 0) block

/-- **What every call of a block leaves, the block leaves.** -/
theorem allReturn_integral {start : PIDController ℚ} {hist : List (PidCall ℚ)} {limit : ℚ}
    {sign : ℚ → Prop} (hcall : ∀ h call, (regulator start).answer h call = limit →
      sign call.error → ((regulator start).after (call :: h)).integral =
        ((regulator start).after h).integral) :
    ∀ {block : List (PidCall ℚ)}, AllReturn start hist limit sign block →
      ((regulator start).after (block ++ hist)).integral = ((regulator start).after hist).integral
  | [], _ => rfl
  | call :: block, h => by
    have ih : ((regulator start).after (block ++ hist)).integral =
        ((regulator start).after hist).integral := allReturn_integral hcall h.2.2
    exact (hcall (block ++ hist) call h.1 h.2.1).trans ih

/-- **A saturated block leaves no trace in the integral.** -/
theorem saturatedBlock_integral {start : PIDController ℚ} (hs : InLimits start)
    {hist block : List (PidCall ℚ)} (h : SaturatedBlock start hist block) :
    ((regulator start).after (block ++ hist)).integral =
      ((regulator start).after hist).integral := by
  rcases h with h | h
  · refine allReturn_integral (fun rest call hret he => ?_) h
    exact (integral_at_max (inLimits_after hs rest)
      (hret.trans (regulator_gains start rest).outputMax.symm)).2 he
  · refine allReturn_integral (fun rest call hret he => ?_) h
    exact (integral_at_min (inLimits_after hs rest)
      (hret.trans (regulator_gains start rest).outputMin.symm)).2 he

/-- Without a derivative term the integral is all a PID remembers. -/
theorem obsEq_of_integral {p q : PIDController ℚ} (hg : SameGains p q) (hkd : p.kd = 0)
    (hi : p.integral = q.integral) (start : PIDController ℚ) : ObsEq (regulator start).step p q := by
  refine obsEq_of_bisim
    (R := fun a b => SameGains a b ∧ a.kd = 0 ∧ a.integral = b.integral) ?_ ⟨hg, hkd, hi⟩
  rintro a b call ⟨hg, hkd, hi⟩
  have hcand : pidNewIntegral a call.target call.actual call.dtS =
      pidNewIntegral b call.target call.actual call.dtS := by
    simp only [pidNewIntegral, hi, hg.integralMax, hg.integralMin]
  have hout : pidOutput a call.target call.actual call.dtS =
      pidOutput b call.target call.actual call.dtS := by
    have hkd' : b.kd = 0 := hg.kd.symm.trans hkd
    simp only [pidOutput, hcand, hg.kp, hg.ki, hg.outputMax, hg.outputMin, hkd, hkd', zero_mul]
  have hstored : pidStored a (pidOutput b call.target call.actual call.dtS) call.error =
      pidStored b (pidOutput b call.target call.actual call.dtS) call.error := by
    unfold pidStored
    rw [hg.outputMax, hg.outputMin]
  refine ⟨⟨⟨hg.kp, hg.ki, hg.kd, hg.outputMax, hg.outputMin, hg.integralMax, hg.integralMin⟩,
    hkd, ?_⟩, hout⟩
  show (pidCalculate a _ _ _).1.integral = (pidCalculate b _ _ _).1.integral
  rw [integral_after, integral_after, hout, hcand, hi, hstored]

/-- `pid_init` leaves the integral at 0, within limits that enclose 0. -/
theorem inLimits_init (memory : PIDController ℚ) (kp ki kd : ℚ) {omax omin imax imin : ℚ}
    (hout : omin < omax) (hmin : imin ≤ 0) (hmax : 0 ≤ imax) :
    InLimits (pidInit memory kp ki kd omax omin imax imin) :=
  ⟨hout, hmin, hmax⟩

/-- **Anti-windup.** For every PID set up by `pid_init` with output limits in order and integral
    limits around 0, after every run of calls: a call that returns the upper output limit does
    not raise the integral, one that returns the lower limit does not lower it; a block of
    calls that all return the upper limit with an error of at least 0 (or all the lower limit
    with an error of at most 0) leaves the integral as it was; and with `kd = 0` no later output
    tells how long the block was, or whether there was one. -/
theorem anti_windup (memory : PIDController ℚ) (kp ki kd omax omin imax imin : ℚ)
    (hout : omin < omax) (hmin : imin ≤ 0) (hmax : 0 ≤ imax) (hist : List (PidCall ℚ)) :
    let pid := regulator (pidInit memory kp ki kd omax omin imax imin)
    (∀ call, (pid.answer hist call = omax →
        (pid.after (call :: hist)).integral ≤ (pid.after hist).integral) ∧
      (pid.answer hist call = omin →
        (pid.after hist).integral ≤ (pid.after (call :: hist)).integral)) ∧
    (∀ block, SaturatedBlock (pidInit memory kp ki kd omax omin imax imin) hist block →
      (pid.after (block ++ hist)).integral = (pid.after hist).integral) ∧
    (kd = 0 → ∀ block block',
      SaturatedBlock (pidInit memory kp ki kd omax omin imax imin) hist block →
      SaturatedBlock (pidInit memory kp ki kd omax omin imax imin) hist block' →
      ObsEq pid.step (pid.after (block ++ hist)) (pid.after (block' ++ hist))) := by
  intro pid
  have hs : InLimits (pidInit memory kp ki kd omax omin imax imin) :=
    inLimits_init memory kp ki kd hout hmin hmax
  have hgains : ∀ h, SameGains (pid.after h) (pidInit memory kp ki kd omax omin imax imin) :=
    regulator_gains _
  have hlim : InLimits (pid.after hist) := inLimits_after hs hist
  refine ⟨fun call => ⟨fun h => ?_, fun h => ?_⟩, fun block hb => saturatedBlock_integral hs hb,
    fun hkd block block' hb hb' => ?_⟩
  · exact (integral_at_max hlim (h.trans (hgains hist).outputMax.symm)).1
  · exact (integral_at_min hlim (h.trans (hgains hist).outputMin.symm)).1
  · have hsame : SameGains (pid.after (block ++ hist)) (pid.after (block' ++ hist)) :=
      (hgains _).trans (hgains _).symm
    refine obsEq_of_integral hsame ((hgains _).kd.trans hkd) ?_ _
    exact (saturatedBlock_integral hs hb).trans (saturatedBlock_integral hs hb').symm

/-- The speed PID of motor 1, told twice to be at 10000 rpm at once: both calls return 6500, and
    the integral is still 0. -/
theorem wheel_pid_unwound :
    let start := pidInit (⟨0, 0, 0, 0, 0, 0, 0, 0, 0, 0, 0, 0, 0, 0, 0⟩ : PIDController ℚ)
      2 (35 / 100) 0 6500 (-6500) 2500 (-2500)
    ((regulator start).after [⟨10000, 0, 1 / 100⟩, ⟨10000, 0, 1 / 100⟩]).integral = 0 := by
  intro start
  have hblock : SaturatedBlock start [] [⟨10000, 0, 1 / 100⟩, ⟨10000, 0, 1 / 100⟩] := by
    refine Or.inl ⟨?_, ?_, ?_, ?_, trivial⟩ <;> decide +kernel
  exact (anti_windup _ 2 (35 / 100) 0 6500 (-6500) 2500 (-2500) (by norm_num) (by norm_num)
    (by norm_num) []).2.1 _ hblock

/-! ## 4. The linear range -/

/-- The time of a call, 1 ms standing for a time that is not positive. -/
def PidCall.dt (call : PidCall ℚ) : ℚ := if call.dtS ≤ 0 then 0.001 else call.dtS

/-- The running sum of `e_j * dt_j`. -/
def errorSum (calls : List (PidCall ℚ)) : ℚ := (calls.map fun call => call.error * call.dt).sum

/-- The error of the newest call, 0 before the first. -/
def lastError : List (PidCall ℚ) → ℚ
  | [] => 0
  | call :: _ => call.error

/-- The textbook PID: proportional, integral and derivative part. -/
def textbookPid (kp ki kd : ℚ) (hist : List (PidCall ℚ)) (call : PidCall ℚ) : ℚ :=
  kp * call.error + ki * errorSum (call :: hist) +
    kd * (call.error - lastError hist) / call.dt

/-- At the call the running sum is within the integral limits, and the textbook output strictly
    within the output limits. -/
def LinearCall (start : PIDController ℚ) (hist : List (PidCall ℚ)) (call : PidCall ℚ) : Prop :=
  (start.integralMin ≤ errorSum (call :: hist) ∧ errorSum (call :: hist) ≤ start.integralMax) ∧
    start.outputMin < textbookPid start.kp start.ki start.kd hist call ∧
    textbookPid start.kp start.ki start.kd hist call < start.outputMax

/-- What the PID remembers of its calls: the running sum, and the last error. -/
structure Tracks (start : PIDController ℚ) (hist : List (PidCall ℚ)) (p : PIDController ℚ) :
    Prop where
  gains : SameGains p start
  integral : p.integral = errorSum hist
  error : p.error = lastError hist

/-- **A call in the linear range returns the textbook output and stores the running sum.** -/
theorem tracks_call {start : PIDController ℚ} {hist : List (PidCall ℚ)} {p : PIDController ℚ}
    (h : Tracks start hist p) {call : PidCall ℚ} (hlin : LinearCall start hist call) :
    (pidCalculate p call.target call.actual call.dtS).2 =
        textbookPid start.kp start.ki start.kd hist call ∧
      Tracks start (call :: hist) (pidCalculate p call.target call.actual call.dtS).1 := by
  obtain ⟨⟨hmin, hmax⟩, hlo, hhi⟩ := hlin
  have hsum : errorSum (call :: hist) = call.error * call.dt + errorSum hist := List.sum_cons
  have htime : pidStepTime call.dtS = call.dt := rfl
  have herror : pidError call.target call.actual = call.error := rfl
  have hcand : pidNewIntegral p call.target call.actual call.dtS = errorSum (call :: hist) := by
    rw [pidNewIntegral, h.integral, htime, herror, h.gains.integralMin, h.gains.integralMax, hsum,
      add_comm (errorSum hist)]
    exact saturate_eq_self (hsum ▸ hmin) (hsum ▸ hmax)
  have hout : pidOutput p call.target call.actual call.dtS =
      textbookPid start.kp start.ki start.kd hist call := by
    rw [pidOutput, pidDerivative, hcand, h.error, htime, herror, h.gains.kp, h.gains.ki, h.gains.kd,
      h.gains.outputMin, h.gains.outputMax, ← mul_div_assoc]
    exact saturate_eq_self hlo.le hhi.le
  refine ⟨hout, (pidCalculate_gains p _ _ _).trans h.gains, ?_, rfl⟩
  -- strictly inside the output limits the candidate is stored
  have hstored : pidStored p (textbookPid start.kp start.ki start.kd hist call) call.error = true := by
    rw [pidStored, h.gains.outputMax, h.gains.outputMin, decide_eq_true hhi, decide_eq_true hlo]
    rfl
  rw [integral_after, hout, if_pos hstored, hcand]

/-- Every call of a history is in the linear range. -/
def LinearRun (start : PIDController ℚ) (hist : List (PidCall ℚ)) : Prop :=
  ∀ call rest, (call :: rest) <:+ hist → LinearCall start rest call

/-- What `pid_init` and `pid_reset` leave behind. -/
def JustReset (start : PIDController ℚ) : Prop :=
  (∃ p, start = pidReset p) ∨
    ∃ memory kp ki kd omax omin imax imin, start = pidInit memory kp ki kd omax omin imax imin

theorem tracks_start {start : PIDController ℚ} (h : JustReset start) : Tracks start [] start := by
  rcases h with ⟨p, rfl⟩ | ⟨memory, kp, ki, kd, omax, omin, imax, imin, rfl⟩
  · exact ⟨⟨rfl, rfl, rfl, rfl, rfl, rfl, rfl⟩, rfl, rfl⟩
  · exact ⟨⟨rfl, rfl, rfl, rfl, rfl, rfl, rfl⟩, rfl, rfl⟩

/-- **In the linear range the integral is the running sum.** -/
theorem tracks_after {start : PIDController ℚ} (h : JustReset start) :
    ∀ {hist : List (PidCall ℚ)}, LinearRun start hist →
      Tracks start hist ((regulator start).after hist)
  | [], _ => tracks_start h
  | call :: hist, hlin => by
    have ih : Tracks start hist ((regulator start).after hist) :=
      tracks_after h fun c rest hs => hlin c rest (hs.trans (List.suffix_cons call hist))
    exact (tracks_call ih (hlin call hist (List.suffix_refl _))).2

/-- **The textbook PID.** For every run of calls after `pid_init` or `pid_reset` in which, at
    every call, the running sum stays within the integral limits and the unclipped output
    strictly within the output limits, the last call returns the proportional, integral and
    derivative part of the closed formula. -/
theorem textbook_output (start : PIDController ℚ) (h : JustReset start) (hist : List (PidCall ℚ))
    (call : PidCall ℚ) (hlin : LinearRun start (call :: hist)) :
    (regulator start).answer hist call = textbookPid start.kp start.ki start.kd hist call := by
  have hbefore : LinearRun start hist :=
    fun c rest hs => hlin c rest (hs.trans (List.suffix_cons call hist))
  exact (tracks_call (tracks_after h hbefore) (hlin call hist (List.suffix_refl _))).1

/-- Two calls to the speed PID of motor 1 with some derivative gain, the second with no time
    measured: the closed formula, worked out. -/
theorem two_calls_textbook :
    let start := pidInit (⟨0, 0, 0, 0, 0, 0, 0, 0, 0, 0, 0, 0, 0, 0, 0⟩ : PIDController ℚ)
      2 (35 / 100) (1 / 100) 6500 (-6500) 2500 (-2500)
    (regulator start).answer [⟨100, 0, 1 / 100⟩] ⟨100, 20, 0⟩ =
      2 * 80 + 35 / 100 * (80 * (1 / 1000) + 100 * (1 / 100)) + 1 / 100 * (80 - 100) / (1 / 1000) := by
  intro start
  have hlin : LinearRun start [⟨100, 20, 0⟩, ⟨100, 0, 1 / 100⟩] := by
    refine forall_turn_cons.mpr ⟨?_, forall_turn_cons.mpr ⟨?_, forall_turn_nil⟩⟩
    · refine ⟨⟨?_, ?_⟩, ?_, ?_⟩ <;> decide +kernel
    · refine ⟨⟨?_, ?_⟩, ?_, ?_⟩ <;> decide +kernel
  have hstart : JustReset start := Or.inr ⟨_, _, _, _, _, _, _, _, rfl⟩
  refine (textbook_output start hstart [⟨100, 0, 1 / 100⟩] ⟨100, 20, 0⟩ hlin).trans ?_
  decide +kernel

end Rk3588Chassis
