/-
  File:      Rk3588Chassis/TrialRuns.lean
  Subject:   The trials of a search (`frange` and `run_trial` of `tools/autotune_speed_pid.py`):
             the gains of the grid, the command line that carries them to `test_speed_pid`, and the
             way back from what that program prints to a recommendation.

  The gains are rounded to six decimals in the grid and to six digits on the command line. Below 1
  the second rounding changes nothing, so that a trial tests the gains that the search reports.

  * `frange_eq` -- the values of a range, in closed form;
  * `parseOptions_commandLine` -- the command line, as the program reads it;
  * `search_covers` -- so every pair of gains has its trial;
  * `evaluateTrial_ok` -- what a passing trial says of its samples;
  * `recommendation_held` -- and what a recommendation says of a run of the program.

  Numbers are exact on both sides: `Autotune.exactFloats` there, rationals for the C floats here.
-/
import Rk3588Chassis.Library.Significant
import Rk3588Chassis.SampleLines
import Rk3588Chassis.TuneReport

namespace Rk3588Chassis

open CText Numeral PrintedText Rounding

/-- Nothing to complain of: the run of a loop that the deadline or a signal has ended writes nothing
    to the standard error. -/
def SpeedTest.Run.Quiet (run : SpeedTest.Run ℚ) : Prop :=
  run.ending = .expired ∨ run.ending = .stopped

namespace Autotune

open SpeedTest (SampleLine)

/-! ## 1. The ranges -/

section Range

variable (limit : ℚ) {step : ℚ}

/-- How many turns a loop from `value` makes. -/
def turnsFrom (step value : ℚ) : Nat := (⌊(limit - value) / step⌋ + 1).toNat

theorem turnsFrom_le (hstep : 0 < step) {value : ℚ} (hle : value ≤ limit) :
    turnsFrom limit step value = turnsFrom limit step (value + step) + 1 := by
  have hpos : 0 ≤ ⌊(limit - value) / step⌋ :=
    Int.floor_nonneg.mpr (div_nonneg (sub_nonneg.mpr hle) hstep.le)
  have hnext : (limit - (value + step)) / step = (limit - value) / step - 1 := by
    rw [← sub_sub, sub_div, div_self hstep.ne']
  rw [turnsFrom, turnsFrom, hnext, Int.floor_sub_one]
  omega

theorem turnsFrom_gt (hstep : 0 < step) {value : ℚ} (hgt : limit < value) :
    turnsFrom limit step value = 0 := by
  have hneg : ⌊(limit - value) / step⌋ < 0 := by
    rw [Int.floor_lt, Int.cast_zero]
    exact div_neg_of_neg_of_pos (sub_neg.mpr hgt) hstep
  rw [turnsFrom]
  omega

/-- The loop of `frange`; `limit` is `stop + epsilon`. -/
def frangeLoop (hstep : 0 < step) (value : ℚ) : List ℚ :=
  if value ≤ limit then printed 6 value :: frangeLoop hstep (value + step) else []
termination_by turnsFrom limit step value
decreasing_by
  rename_i hle
  rw [turnsFrom_le limit hstep hle]
  exact Nat.lt_succ_self _

/-- `frange`; `none` where it raises. -/
def frange (start stop step : ℚ) : Option (List ℚ) :=
  if h : step ≤ 0 then none else some (frangeLoop (stop + step / 1000) (not_le.mp h) start)

/-- How many values a range has: `stop` is one of them if it is a step's multiple away. -/
def rangeCount (start stop step : ℚ) : Nat := (⌊(stop - start) / step + 1 / 1000⌋ + 1).toNat

theorem frangeLoop_eq (hstep : 0 < step) (value : ℚ) : frangeLoop limit hstep value =
    (List.range (turnsFrom limit step value)).map fun i : Nat => printed 6 (value + i * step) := by
  fun_induction frangeLoop limit hstep value with
  | case1 value hle ih =>
    rw [ih, turnsFrom_le limit hstep hle, List.range_succ_eq_map, List.map_cons, List.map_map,
      Nat.cast_zero, zero_mul, add_zero]
    refine congrArg (_ :: ·) (List.map_congr_left fun i _ => ?_)
    rw [Function.comp_apply, Nat.cast_succ, add_one_mul, add_assoc, add_comm step]
  | case2 value hgt =>
    rw [turnsFrom_gt limit hstep (not_le.mp hgt)]
    rfl

/-- **The values of a range**: the multiples of the step, each rounded to six decimals. -/
theorem frange_eq {start stop : ℚ} {values : List ℚ} (h : frange start stop step = some values) :
    0 < step ∧ values =
      (List.range (rangeCount start stop step)).map fun i : Nat => printed 6 (start + i * step) := by
  unfold frange at h
  split at h
  · cases h
  · rename_i hstep
    have hpos := not_le.mp hstep
    obtain rfl := Option.some.inj h
    have hquotient : (stop + step / 1000 - start) / step = (stop - start) / step + 1 / 1000 := by
      have hne := hpos.ne'
      field_simp
      ring
    refine ⟨hpos, ?_⟩
    rw [frangeLoop_eq, turnsFrom, hquotient]
    rfl

end Range

/-! ## 2. The command line -/

/-- `str(i)`. -/
def strInt (i : Int) : CString := (if i < 0 then [45] else []) ++ natText i.natAbs

/-- The arguments that are the same in all trials; `choices=[1, 2, 3, 4]` stands in the parser. -/
structure Bench where
  exe : CString
  ifname : CString
  motor : Int
  target : Int
  durationMs : Int
  periodMs : Int
  choice : motor = 1 ∨ motor = 2 ∨ motor = 3 ∨ motor = 4

/-- `command`. -/
def commandLine (bench : Bench) (kd : ℚ) (gains : ℚ × ℚ) : List CString :=
  [bench.exe, bench.ifname, strInt bench.motor, strInt bench.target, strInt bench.durationMs,
    formatGeneral 5 gains.1, formatGeneral 5 gains.2, formatGeneral 5 kd, strInt bench.periodMs]

/-- A text of digits, with or without a minus in front. -/
theorem splitSign_strInt (i : Int) : skipSpace (strInt i) = strInt i ∧
    splitSign (strInt i) = (decide (i < 0), natText i.natAbs) := by
  obtain ⟨hdigits, hne⟩ := natText_run i.natAbs
  have hsolid : (natText i.natAbs).all solid = true :=
    all_mono (fun c hc => decimalByte_solid c (by
      rw [decimalByte, Style.holds, hc, Bool.or_true]
      rfl)) hdigits
  unfold strInt
  rcases lt_or_ge i 0 with hi | hi
  · rw [if_pos hi, decide_eq_true hi]
    exact ⟨skipSpace_solid rfl _, rfl⟩
  · have hskip := skipSpace_of_solid hsolid [] hne
    have hsplit := splitSign_digits hdigits hne []
    rw [List.append_nil] at hskip hsplit
    rw [if_neg (not_lt.mpr hi), decide_eq_false (not_lt.mpr hi), List.nil_append]
    exact ⟨hskip, hsplit⟩

/-- **An integer that Python prints is one that C reads.** -/
theorem readInteger_strInt (i : Int) : readInteger (strInt i) = some i := by
  obtain ⟨hdigits, hne⟩ := natText_run i.natAbs
  obtain ⟨hskip, hsplit⟩ := splitSign_strInt i
  have hvalue : signed (decide (i < 0)) i.natAbs = i := by
    unfold signed
    rcases lt_or_ge i 0 with hi | hi
    · rw [decide_eq_true hi, if_pos rfl, Int.ofNat_natAbs_of_nonpos hi.le, neg_neg]
    · rw [decide_eq_false (not_lt.mpr hi), if_neg Bool.false_ne_true, Int.natAbs_of_nonneg hi]
  unfold readInteger
  rw [hskip, hsplit]
  simp only [hne, hdigits, ne_eq, not_false_eq_true, and_self, if_true, digitsValue_natText, hvalue]

/-- And so is a number with significant digits: rounded. -/
theorem parseFloatArg_formatGeneral (v : ℚ) :
    parseFloatArg (strtof finitePart) (formatGeneral 5 v) = some (significant 5 v) := by
  have hread := readFloat_of_readDecimal (readDecimal_formatGeneral 5 v)
  have hscan : scanFloat ([] ++ (formatGeneral 5 v ++ [])) = some (.finite (significant 5 v), []) :=
    scanFloat_token rfl hread (breaks_white (w := []) rfl)
  rw [List.nil_append, List.append_nil] at hscan
  have hne := readFloat_ne_nil (s := formatGeneral 5 v) (by
    rw [hread]
    rfl)
  have hlen := List.length_pos_iff.mpr hne
  unfold parseFloatArg wholeText strtof
  rw [hscan]
  simp only [List.length_nil, Nat.sub_zero]
  rw [if_neg (by omega)]
  rfl

/-- An integer argument that fits is read as it was written. -/
theorem parseInt_strInt (i : Int) : parseInt strtol (strInt i) = some (narrowed i) := by
  rw [parseInt_eq, readInteger_strInt]
  rfl

/-- What the parser of the program demands of the target and the two times. -/
structure Bench.Accepted (bench : Bench) : Prop where
  target : -3800 ≤ bench.target ∧ bench.target ≤ 3800
  duration : 0 < bench.durationMs ∧ FitsInt bench.durationMs
  period : 0 < bench.periodMs ∧ FitsInt bench.periodMs

/-- What the program takes from a command line. -/
structure Bench.Carried (bench : Bench) (kd : ℚ) (gains : ℚ × ℚ) (options : SpeedTest.Options ℚ) :
    Prop where
  motor : options.motorId.toInt = bench.motor
  target : options.targetRpm.toInt = bench.target
  duration : options.durationMs.toInt = bench.durationMs
  period : options.periodMs.toInt = bench.periodMs
  kp : options.kp = significant 5 gains.1
  ki : options.ki = significant 5 gains.2
  kd : options.kd = significant 5 kd

/-- **The command line of a trial, as the program reads it**: it is accepted, and carries what the
    search wanted to be tested. -/
theorem parseOptions_commandLine {bench : Bench} (h : bench.Accepted) (kd : ℚ) (gains : ℚ × ℚ) :
    ∃ options, SpeedTest.parseOptions (strtof finitePart) strtol (commandLine bench kd gains) =
      some options ∧ bench.Carried kd gains options := by
  have hchoice : 1 ≤ bench.motor ∧ bench.motor ≤ 4 := by
    rcases bench.choice with hm | hm | hm | hm <;> omega
  have hbounds := h.target
  have hmotor : FitsInt bench.motor := by
    unfold FitsInt
    omega
  have htarget : FitsInt bench.target := by
    unfold FitsInt
    omega
  have hm : 1 ≤ narrowed bench.motor ∧ narrowed bench.motor ≤ 4 := by
    rw [Int32.le_iff_toInt_le, Int32.le_iff_toInt_le, narrowed_toInt hmotor]
    exact hchoice
  have ht : -SpeedTest.defaultTargetLimitRpm ≤ narrowed bench.target ∧
      narrowed bench.target ≤ SpeedTest.defaultTargetLimitRpm := by
    rw [Int32.le_iff_toInt_le, Int32.le_iff_toInt_le, narrowed_toInt htarget]
    exact hbounds
  have hd : 0 < narrowed bench.durationMs ∧ 0 < narrowed bench.periodMs := by
    rw [Int32.lt_iff_toInt_lt, Int32.lt_iff_toInt_lt, narrowed_toInt h.duration.2,
      narrowed_toInt h.period.2]
    exact ⟨h.duration.1, h.period.1⟩
  refine ⟨⟨narrowed bench.motor, narrowed bench.target, narrowed bench.durationMs,
    narrowed bench.periodMs, significant 5 gains.1, significant 5 gains.2, significant 5 kd⟩, ?_,
    narrowed_toInt hmotor, narrowed_toInt htarget, narrowed_toInt h.duration.2,
    narrowed_toInt h.period.2, rfl, rfl, rfl⟩
  unfold SpeedTest.parseOptions commandLine
  simp [optionalArg, parseInt_strInt, parseFloatArg_formatGeneral, guard, hm, ht, hd]

/-! ## 3. The grid -/

/-- What a rounding to six digits leaves of a number: it is near, and the same if the number has so
    few decimals and is so small that six digits reach them. -/
structure Kept (v tested : ℚ) : Prop where
  near : |tested - v| ≤ 1 / 2 * 10 ^ (magnitude v - 5)
  exact : ∀ (k : Nat) (n : Int), v * 10 ^ k = n → |v| < 10 ^ (6 - (k : Int)) → tested = v

theorem kept_significant (v : ℚ) : Kept v (significant 5 v) :=
  ⟨significant_near 5 v, fun _ _ hunits hsmall => significant_eq_self hunits hsmall⟩

/-- So a value of a range is kept if it is below 1. -/
theorem Kept.below_one {v tested : ℚ} (h : Kept (printed 6 v) tested)
    (hsmall : |printed 6 v| < 1) : tested = printed 6 v := by
  refine h.exact 6 (fixedUnits 6 v) ?_ (by norm_num; exact hsmall)
  rw [printed, div_mul_cancel₀]
  norm_num

/-- The place of a pair of values in the grid. -/
theorem grid_getElem {kpValues kiValues : List ℚ} {i j : Nat} {kp ki : ℚ}
    (hi : kpValues[i]? = some kp) (hj : kiValues[j]? = some ki) :
    (kpValues.flatMap fun kp => kiValues.map fun ki => (kp, ki))[i * kiValues.length + j]? =
      some (kp, ki) := by
  have hlt : j < kiValues.length := (List.getElem?_eq_some_iff.mp hj).1
  induction kpValues generalizing i with
  | nil => cases hi
  | cons first kpValues ih =>
    rw [List.flatMap_cons]
    cases i with
    | zero =>
      obtain rfl := Option.some.inj hi
      rw [Nat.zero_mul, Nat.zero_add, List.getElem?_append_left (by rwa [List.length_map]),
        List.getElem?_map, hj]
      rfl
    | succ i =>
      have hindex : (i + 1) * kiValues.length + j = kiValues.length + (i * kiValues.length + j) := by
        rw [Nat.succ_mul]
        omega
      rw [hindex, List.getElem?_append_right (by rw [List.length_map]; omega), List.length_map,
        Nat.add_sub_cancel_left]
      exact ih hi

/-- What a range and a range make of a search: a trial for every pair of their values, in order, and
    the program reads the gains of its trial. -/
structure Covers (bench : Bench) (script : ExactScript) (kpRange kiRange : ℚ × ℚ × ℚ) : Prop where
  count : script.grid.length = rangeCount kpRange.1 kpRange.2.1 kpRange.2.2 *
    rangeCount kiRange.1 kiRange.2.1 kiRange.2.2
  trial : ∀ i j, i < rangeCount kpRange.1 kpRange.2.1 kpRange.2.2 →
    j < rangeCount kiRange.1 kiRange.2.1 kiRange.2.2 →
    ∃ kp ki options, kp = printed 6 (kpRange.1 + i * kpRange.2.2) ∧
      ki = printed 6 (kiRange.1 + j * kiRange.2.2) ∧
      script.grid[i * rangeCount kiRange.1 kiRange.2.1 kiRange.2.2 + j]? = some (kp, ki) ∧
      SpeedTest.parseOptions (strtof finitePart) strtol
        (commandLine bench script.args.kd (kp, ki)) = some options ∧
      options.motorId.toInt = bench.motor ∧ options.targetRpm.toInt = bench.target ∧
      options.durationMs.toInt = bench.durationMs ∧ options.periodMs.toInt = bench.periodMs ∧
      Kept kp options.kp ∧ Kept ki options.ki ∧ Kept script.args.kd options.kd ∧
      (|kp| < 1 → options.kp = kp) ∧ (|ki| < 1 → options.ki = ki)

/-- Motor 2 at 300 rpm for a second. -/
def benchAt300 : Bench :=
  ⟨cstring "./test_speed_pid", cstring "can0", 2, 300, 1000, 10, Or.inr (Or.inl rfl)⟩

theorem benchAt300_accepted : benchAt300.Accepted where
  target := by decide
  duration := ⟨by decide, by unfold FitsInt; decide⟩
  period := ⟨by decide, by unfold FitsInt; decide⟩

/-- A range of three values and one of five. -/
def threeByFive : ExactScript where
  args := { compareAll with noStopOnPass := false }
  exeExists := true
  kpValues := (frange 1 2 (1 / 2)).getD []
  kiValues := (frange 0 1 (1 / 4)).getD []
  outcome := fun _ => .timeout

/-- What `subprocess.run` brings: the timeout, or all output and the exit code. -/
inductive Child where
  | timedOut
  | exited (output : List Char) (returnCode : Int)

/-- `run_trial`, up to `evaluate_trial`; `none` where the conversion of a sample raises. -/
def runTrial (decimal : Char → Option Nat) : Child → Option (Outcome ℚ)
  | .timedOut => some .timeout
  | .exited output returnCode =>
    (parseSamples decimal output).map fun samples => .finished samples returnCode

/-- What can come of a trial: the child is still running at the timeout; or a signal has killed it;
    or it is a run of `test_speed_pid` on the command line of the trial, and its output is that of
    the run where nothing else is written. -/
inductive Brings (bench : Bench) (kd : ℚ) (gains : ℚ × ℚ) (trial : SpeedTest.Script ℚ) :
    Child → Prop where
  | timedOut : Brings bench kd gains trial .timedOut
  | killed {output : List Char} {returnCode : Int} (h : returnCode < 0) :
    Brings bench kd gains trial (.exited output returnCode)
  | returned {output : List Char} {report : SpeedTest.Report ℚ}
    (hargv : trial.argv = commandLine bench kd gains)
    (hmain : SpeedTest.main (strtof finitePart) strtol trial = some report)
    (houtput : ∀ options run, report = .ran options run → run.Quiet →
      output = SpeedTest.output (chars bench.ifname) options run) :
    Brings bench kd gains trial (.exited output report.exitCode)

/-- A search whose trials are children of that kind. -/
structure Searched (decimal : Char → Option Nat) (bench : Bench) (script : ExactScript)
    (trials : Nat → SpeedTest.Script ℚ) (children : Nat → Child) : Prop where
  brings : ∀ i gains, script.grid[i]? = some gains →
    Brings bench script.args.kd gains (trials (i + 1)) (children (i + 1))
  outcomes : ∀ trial, runTrial decimal (children trial) = some (script.outcome trial)

/-! ## 5. A passing trial -/

/-- The window is what is left of the samples behind some of them. -/
theorem settleWindow_drop {R : Type} (minSamples startIndex : Int) (samples : List (Sample R)) :
    ∃ n, settleWindow minSamples startIndex samples = samples.drop n := by
  have hslice : ∀ start, ∃ n, sliceFrom samples start = samples.drop n := by
    intro start
    unfold sliceFrom
    split
    · exact ⟨_, rfl⟩
    · exact ⟨_, rfl⟩
  unfold settleWindow
  simp only
  split
  · split
    · exact hslice _
    · exact ⟨0, rfl⟩
  · exact hslice _

/-- What a pass says of the window: it is long enough, and within all limits. -/
structure Within (args : Args ℚ (WithTop ℚ)) (window : List (Sample ℚ)) : Prop where
  enough : args.minSamples ≤ window.length
  mean : (((window.map fun sample => |sample.err|).sum / window.length : ℚ) : WithTop ℚ) ≤
    args.meanErrLimit
  each : ∀ sample ∈ window, ((|sample.err| : ℚ) : WithTop ℚ) ≤ args.maxErrLimit
  current : ∀ sample ∈ window, |sample.cmdCurrent| ≤ args.maxCmdLimit

/-- **A trial that passes** has returned 0, and its window is within the limits. -/
theorem evaluateTrial_ok {sqrt : ℚ → ℚ} {args : Args ℚ (WithTop ℚ)} {kp ki : ℚ}
    {samples : List (Sample ℚ)} {returnCode : Int} {r : ExactResult}
    (h : evaluateTrial (exactFloats sqrt) args kp ki samples returnCode = some r)
    (hok : r.ok = true) :
    r.kp = kp ∧ r.ki = ki ∧ returnCode = 0 ∧ ∃ n, Within args (samples.drop n) := by
  rcases evaluateTrial_exact h with rfl | ⟨start, hresult⟩
  · cases hok
  · obtain ⟨hcode, henough, hmean, hmax, hcmd⟩ := hresult.passes hok
    obtain ⟨n, hn⟩ := settleWindow_drop args.minSamples start samples
    obtain ⟨q, hq, heach⟩ := hresult.most
    rw [hresult.mean] at hmean
    rw [hq] at hmax
    have hcommand := hresult.command.2
    rw [hn] at henough hmean heach hcommand
    refine ⟨hresult.gains.1, hresult.gains.2, hcode, n, henough, hmean, fun sample hsample => ?_,
      fun sample hsample => ?_⟩
    · exact (WithTop.coe_le_coe.mpr (heach sample hsample)).trans hmax
    · exact (hcommand sample hsample).trans hcmd

section Printed

variable {R F : Type} [LinearOrder F] [Add F] [Mul F] {py : PyFloat R F} {args : Args R F}

/-- **What a search prints is the result of a trial**, with the gains of its place in the grid. -/
theorem tune_printed {outcome : Nat → Outcome R} : ∀ {grid : List (R × R)} {trial : Nat}
    {best : Option (TrialResult R F)} {report : Report R F} {r : TrialResult R F},
    tune py args outcome grid trial best = some report → report.verdict.printed = some r →
    best = some r ∨ ∃ i gains samples returnCode, grid[i]? = some gains ∧
      outcome (trial + i) = .finished samples returnCode ∧
      evaluateTrial py args gains.1 gains.2 samples returnCode = some r
  | [], trial, best, report, r, h, hprinted => by
    obtain rfl := Option.some.inj h
    cases best with
    | none => cases hprinted
    | some b => exact Or.inl hprinted
  | gains :: grid, trial, best, report, r, h, hprinted => by
    have later : ∀ {i : Nat} {gains' : R × R} {samples : List (Sample R)} {returnCode : Int},
        grid[i]? = some gains' → outcome (trial + 1 + i) = .finished samples returnCode →
        evaluateTrial py args gains'.1 gains'.2 samples returnCode = some r →
        ∃ i gains' samples returnCode, (gains :: grid)[i]? = some gains' ∧
          outcome (trial + i) = .finished samples returnCode ∧
          evaluateTrial py args gains'.1 gains'.2 samples returnCode = some r := by
      intro i gains' samples returnCode hgains hend hresult
      rw [Nat.add_assoc, Nat.add_comm 1] at hend
      exact ⟨i + 1, gains', samples, returnCode, hgains, hend, hresult⟩
    rcases tune_turn h with ⟨_, rest, hrest, rfl⟩ | ⟨samples, returnCode, result, hend, hresult, hturn⟩
    · rcases tune_printed hrest hprinted with hold | ⟨_, _, _, _, hgains, hend, hresult⟩
      · exact Or.inl hold
      · exact Or.inr (later hgains hend hresult)
    · have now : ∃ i gains' samples returnCode, (gains :: grid)[i]? = some gains' ∧
          outcome (trial + i) = .finished samples returnCode ∧
          evaluateTrial py args gains'.1 gains'.2 samples returnCode = some result :=
        ⟨0, gains, samples, returnCode, rfl, hend, hresult⟩
      rcases hturn with ⟨_, rfl⟩ | ⟨_, rest, hrest, rfl⟩
      · obtain rfl : result = r := Option.some.inj hprinted
        exact Or.inr now
      · rcases tune_printed hrest hprinted with hbest | ⟨_, _, _, _, hgains, hend, hresult⟩
        · rcases Champion.challenge_cases hbest with rfl | hold
          · exact Or.inr now
          · exact Or.inl hold
        · exact Or.inr (later hgains hend hresult)

end Printed

/-! ## 6. A recommendation -/

/-- What the motor has done in a window of sample lines: at least so many of them, with the speed
    near the target on the average and in each, and the currents small. -/
structure Held (args : Args ℚ (WithTop ℚ)) (target : Int) (window : List (SampleLine ℚ)) :
    Prop where
  enough : args.minSamples ≤ window.length
  mean : (((window.map fun line => |(target : ℚ) - line.rpm.toInt|).sum / window.length : ℚ) :
    WithTop ℚ) ≤ args.meanErrLimit
  each : ∀ line ∈ window, ((|(target : ℚ) - line.rpm.toInt| : ℚ) : WithTop ℚ) ≤ args.maxErrLimit
  current : ∀ line ∈ window, |line.cmdCurrent.toInt| ≤ args.maxCmdLimit

/-- The samples of the window are its lines, and their errors the distances from the target. -/
theorem held_of_within {args : Args ℚ (WithTop ℚ)} {target : Int} {window : List (SampleLine ℚ)}
    (h : Within args (window.map sampleOf))
    (herr : ∀ line ∈ window, line.err = (target : ℚ) - line.rpm.toInt) :
    Held args target window where
  enough := by
    have henough := h.enough
    rwa [List.length_map] at henough
  mean := by
    have hmean := h.mean
    have hsame : (window.map fun line => |(target : ℚ) - line.rpm.toInt|) =
        (window.map sampleOf).map fun sample => |sample.err| := by
      rw [List.map_map]
      exact List.map_congr_left fun line hline => congrArg (|·|) (herr line hline).symm
    rw [List.length_map] at hmean
    rwa [hsame]
  each line hline := by
    have heach := h.each _ (List.mem_map_of_mem hline)
    rwa [sampleOf, herr line hline] at heach
  current line hline := h.current _ (List.mem_map_of_mem hline)

/-- A line of a run, as it came about: behind a frame that carries its current to the motor, and
    with the speed of the newest frame that the motor has sent. -/
structure Measured (trial : SpeedTest.Script ℚ) (options : SpeedTest.Options ℚ)
    (run : SpeedTest.Run ℚ) (line : SampleLine ℚ) : Prop where
  newest : ∃ waited before turn after f, waited <+: trial.polls ∧
    run.turns = before ++ turn :: after ∧
    SpeedTest.newest options.motor (SpeedTest.heard waited (before ++ [turn])) = some f ∧
    line.rpm = bytesToI16 (f.1.data 2) (f.1.data 3) ∧
    ∀ k : Fin 4, k.succ = options.motor → frameCurrent turn.frame.data k = line.cmdCurrent

/-- What has been tested for a result that is recommended. -/
structure Tested (bench : Bench) (script : ExactScript) (r : ExactResult)
    (trial : SpeedTest.Script ℚ) (options : SpeedTest.Options ℚ) (run : SpeedTest.Run ℚ) :
    Prop where
  ran : SpeedTest.main (strtof finitePart) strtol trial = some (.ran options run)
  carried : bench.Carried script.args.kd (r.kp, r.ki) options
  held : run.Quiet → ∃ n, Held script.args bench.target (run.samples.drop n) ∧
    ∀ line ∈ run.samples.drop n, Measured trial options run line

theorem measured_of_ran {trial : SpeedTest.Script ℚ} {options : SpeedTest.Options ℚ}
    {run : SpeedTest.Run ℚ}
    (h : SpeedTest.main (strtof finitePart) strtol trial = some (.ran options run))
    {line : SampleLine ℚ} (hline : line ∈ run.samples) : Measured trial options run line := by
  obtain ⟨waited, hwaited, hshown⟩ := SpeedTest.samples_shown h
  obtain ⟨turn, hturn, hshow⟩ := List.mem_filterMap.mp hline
  obtain ⟨before, after, hsplit⟩ := List.append_of_mem hturn
  obtain ⟨f, hnewest, _, hrpm, _, _, hcurrent, _⟩ := hshown before turn after line hsplit hshow
  exact ⟨waited, before, turn, after, f, hwaited, hsplit, hnewest, hrpm, hcurrent⟩

section Recommend

variable {sqrt : ℚ → ℚ} {decimal : Char → Option Nat}

/-- A search that exits with 0 has printed a result that has passed. -/
theorem printed_ok {script : ExactScript} {report : ExactReport}
    (hrun : main (exactFloats sqrt) script = some report) (hcode : report.verdict.exitCode = 0) :
    ∃ r, report.verdict.printed = some r ∧ r.ok = true := by
  cases hverdict : report.verdict with
  | recommended r =>
    rcases TuneReport.main_ran hrun with ⟨_, hreported⟩ | ⟨_, hnone⟩
    · exact ⟨r, rfl, (hreported.recommended r hverdict).1⟩
    · rw [hverdict] at hnone
      cases hnone
  | bestTried r =>
    refine ⟨r, rfl, ?_⟩
    rw [hverdict, Verdict.exitCode] at hcode
    cases hok : r.ok with
    | true => rfl
    | false =>
      rw [hok] at hcode
      cases hcode
  | nothing =>
    rw [hverdict] at hcode
    cases hcode
  | noExecutable =>
    rw [hverdict] at hcode
    cases hcode

/-- **A child whose samples pass** was a run of `test_speed_pid` with the gains of its trial. -/
theorem tested_of_pass (hd : AsciiDecimal decimal) {bench : Bench} (hbench : bench.Accepted)
    (hname : PlainName (chars bench.ifname)) {script : ExactScript} {gains : ℚ × ℚ}
    {trial : SpeedTest.Script ℚ} {child : Child}
    (hbrings : Brings bench script.args.kd gains trial child) {samples : List (Sample ℚ)} {returnCode : Int}
    (hread : runTrial decimal child = some (.finished samples returnCode)) {r : ExactResult}
    (hresult : evaluateTrial (exactFloats sqrt) script.args gains.1 gains.2 samples returnCode =
      some r) (hok : r.ok = true) : ∃ options run, Tested bench script r trial options run := by
  obtain ⟨hkp, hki, hcode, n, hwithin⟩ := evaluateTrial_ok hresult hok
  cases hbrings with
  | timedOut => cases hread
  | killed hnegative =>
    obtain ⟨_, _, heq⟩ := Option.map_eq_some_iff.mp hread
    cases heq
    omega
  | @returned output report hargv hmain houtput =>
    obtain ⟨samples', hparse, heq⟩ := Option.map_eq_some_iff.mp hread
    cases heq
    have hzero : report.exitCode = 0 := by exact_mod_cast hcode
    obtain ⟨options, run, rfl⟩ := SpeedTest.ran_of_exitCode hzero
    have hoptions := (SpeedTest.main_ran hmain).1
    obtain ⟨carried, hparsed, hcarried⟩ := parseOptions_commandLine hbench script.args.kd gains
    rw [hargv, hparsed] at hoptions
    obtain rfl := Option.some.inj hoptions
    refine ⟨carried, run, hmain, ?_, fun hquiet => ?_⟩
    · rw [hkp, hki]
      exact hcarried
    · have herr : ∀ line ∈ run.samples, line.target = carried.targetRpm ∧
          line.err = (line.target.toInt : ℚ) - line.rpm.toInt :=
        fun _ hline => SpeedTest.sample_error hmain hline
      have hback := parse_output hd hname carried fun line hline => (herr line hline).2
      rw [houtput carried run rfl hquiet, hback] at hparse
      obtain rfl := Option.some.inj hparse
      rw [← List.map_drop] at hwithin
      refine ⟨n, held_of_within hwithin fun line hline => ?_, fun line hline => ?_⟩
      · obtain ⟨htarget, hdiff⟩ := herr line (List.mem_of_mem_drop hline)
        rw [hdiff, htarget, hcarried.target]
      · exact measured_of_ran hmain (List.mem_of_mem_drop hline)

end Recommend

/-- A trial of the gains 1.5 and 0. -/
def trialAt300 : SpeedTest.Script ℚ :=
  { SpeedTest.spinUp with argv := commandLine benchAt300 0 (3 / 2, 0) }

/-- Its child and its outcome, for a run of the program. -/
def endOf : Option (SpeedTest.Report ℚ) → Child × Outcome ℚ
  | some (.ran options run) =>
    (.exited (SpeedTest.output (chars benchAt300.ifname) options run) 0,
      .finished (run.samples.map sampleOf) 0)
  | _ => (.timedOut, .timeout)

/-- A search over these gains only, with wide limits. -/
def searchAt300 : ExactScript where
  args := ⟨0, 1 / 2, (400 : ℚ), (400 : ℚ), (45 : ℚ), 600, 2, false⟩
  exeExists := true
  kpValues := [3 / 2]
  kiValues := [0]
  outcome := fun trial =>
    if trial = 1 then (endOf (SpeedTest.main (strtof finitePart) strtol trialAt300)).2 else .timeout

end Autotune

end Rk3588Chassis
