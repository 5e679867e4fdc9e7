/-
  File:      Rk3588Chassis/Autotune.lean
  Subject:   The grid search for speed gains (`tools/autotune_speed_pid.py`): which trial it
             recommends, and its exit status.

  A trial passes by four thresholds, a sample count and a return code. It is ranked by a score that
  weighs the same four numbers and looks at neither count nor return code. With the option
  `--no-stop-on-pass` all trials are run and the best score decides alone (`tune_all`); without it
  the first pass ends the search (`tune_stops`). The two orders are different:
  `autotune_reports_iff`.

  The arithmetic of a score is a parameter (`PyFloat`): of the scores nothing is used but their
  order, so that these results are about doubles as they are rounded. `exactFloats` is the exact
  reading. `none` stands for an exception that nobody catches.
-/
import Mathlib.Algebra.Order.AddGroupWithTop
import Mathlib.Algebra.Order.Floor.Ring
import Mathlib.Algebra.Order.Group.Abs
import Mathlib.Algebra.Order.Ring.WithTop
import Mathlib.Data.Rat.Floor
import Rk3588Chassis.Library.Champion

set_option linter.unusedSectionVars false

namespace Rk3588Chassis

open Champion

namespace Autotune

/-! ## 1. Floats -/

/-- What the script needs of `float`: from the numbers `R` that it reads to the numbers `F` that it
    compares. In Python both are doubles. The numbers compared are absolute values, deviations and
    sums of these, so that no NaN is among them: beside `+` and `*`, `F` has a linear order, with
    the infinity in it. An operation is `none` where it raises. -/
structure PyFloat (R F : Type) where
  inf : F
  /-- the value of a literal -/
  ofRat : ℚ → F
  /-- an integer as an operand -/
  ofInt : Int → Option F
  abs : R → F
  /-- `int(len(samples) * settle_fraction)` -/
  startIndex : Nat → R → Option Int
  /-- `statistics.fmean` -/
  fmean : List F → Option F
  /-- `statistics.pstdev`, on integers -/
  pstdev : List Int → Option F

/-- `int(x)`, of a rational: towards zero. -/
def truncate (x : ℚ) : Int := if 0 ≤ x then ⌊x⌋ else ⌈x⌉

/-- `statistics.fmean` of exact numbers; it raises on no data. -/
def fmean (data : List (WithTop ℚ)) : Option (WithTop ℚ) :=
  if data.isEmpty then none else some (data.sum.map fun sum => sum / data.length)

/-- `statistics.pstdev`, but for the root. -/
def pstdev (sqrt : ℚ → ℚ) (data : List Int) : ℚ :=
  let mean : ℚ := (data.sum : ℚ) / data.length
  sqrt ((data.map fun x => ((x : ℚ) - mean) ^ 2).sum / data.length)

/-- The exact reading: rationals are read, and rationals or the infinity compared. Of `sqrt` nothing
    is assumed. -/
def exactFloats (sqrt : ℚ → ℚ) : PyFloat ℚ (WithTop ℚ) where
  inf := ⊤
  ofRat q := q
  ofInt i := some ((i : ℚ) : WithTop ℚ)
  abs x := ((|x| : ℚ) : WithTop ℚ)
  startIndex length fraction := some (truncate (length * fraction))
  fmean := fmean
  pstdev data := some ((pstdev sqrt data : ℚ) : WithTop ℚ)

/-! ## 2. Trials -/

/-- `Sample`. -/
structure Sample (R : Type) where
  rpm : Int
  cmdCurrent : Int
  fbCurrent : Int
  err : R

/-- `TrialResult`. -/
structure TrialResult (R F : Type) where
  kp : R
  ki : R
  kd : R
  ok : Bool
  score : F
  meanAbsErr : F
  maxAbsErr : F
  rpmStd : F
  maxAbsCmd : Int
  sampleCount : Nat
  returnCode : Int

/-- The arguments that a trial and the search read. A limit that is NaN does what a negative one
    does: nothing is within it. -/
structure Args (R F : Type) where
  kd : R
  settleFraction : R
  meanErrLimit : F
  maxErrLimit : F
  rpmStdLimit : F
  maxCmdLimit : Int
  minSamples : Int
  noStopOnPass : Bool

/-- `samples[start:]`: a negative start counts from the end. -/
def sliceFrom {α : Type} (samples : List α) (start : Int) : List α :=
  if 0 ≤ start then samples.drop start.toNat
  else samples.drop (samples.length - (-start).toNat)

section Search

variable {R F : Type} [LinearOrder F] [Add F] [Mul F] (py : PyFloat R F)

/-- The settling window of `evaluate_trial`. -/
def settleWindow (minSamples startIndex : Int) (samples : List (Sample R)) : List (Sample R) :=
  let window := sliceFrom samples startIndex
  if (window.length : Int) < minSamples then
    if minSamples ≤ samples.length then sliceFrom samples (-minSamples) else samples
  else window

/-- `rpm_std`. -/
def rpmStd (rpms : List Int) : Option F :=
  if 1 < rpms.length then py.pstdev rpms else some (py.ofRat 0)

/-- `evaluate_trial`; `none` where an operation raises. -/
def evaluateTrial (args : Args R F) (kp ki : R) (samples : List (Sample R)) (returnCode : Int) :
    Option (TrialResult R F) :=
  if samples.isEmpty then
    some ⟨kp, ki, args.kd, false, py.inf, py.inf, py.inf, py.inf, 0, 0, returnCode⟩
  else do
    let startIndex ← py.startIndex samples.length args.settleFraction
    let window := settleWindow args.minSamples startIndex samples
    let absErrors := window.map fun sample => py.abs sample.err
    let rpms := window.map fun sample => sample.rpm
    let commands := window.map fun sample => |sample.cmdCurrent|
    let meanAbsErr ← py.fmean absErrors
    let maxAbsErr ← absErrors.max?
    let rpmStd ← rpmStd py rpms
    let maxAbsCmd := commands.max?.getD 0
    let current ← py.ofInt maxAbsCmd
    let ok := decide (returnCode = 0) && decide (args.minSamples ≤ window.length) &&
      decide (meanAbsErr ≤ args.meanErrLimit) && decide (maxAbsErr ≤ args.maxErrLimit) &&
      decide (rpmStd ≤ args.rpmStdLimit) && decide (maxAbsCmd ≤ args.maxCmdLimit)
    let score := meanAbsErr + py.ofRat 0.35 * maxAbsErr + py.ofRat 0.25 * rpmStd +
      py.ofRat 0.01 * current
    return {
      kp := kp
      ki := ki
      kd := args.kd
      ok := ok
      score := score
      meanAbsErr := meanAbsErr
      maxAbsErr := maxAbsErr
      rpmStd := rpmStd
      maxAbsCmd := maxAbsCmd
      sampleCount := window.length
      returnCode := returnCode }

/-! ## 3. The search -/

/-- How a run of `test_speed_pid` ends, for `run_trial`. -/
inductive Outcome (R : Type) where
  | timeout
  | finished (samples : List (Sample R)) (returnCode : Int)

/-- The last lines that `main` prints. -/
inductive Verdict (R F : Type) where
  | recommended (result : TrialResult R F)
  | bestTried (result : TrialResult R F)
  | nothing
  | noExecutable

/-- What `main` prints: a line for each trial, `none` for a timeout, and the verdict. -/
structure Report (R F : Type) where
  lines : List (Option (TrialResult R F))
  verdict : Verdict R F

/-- The trials that were run to an end. -/
def Report.ran (report : Report R F) : List (TrialResult R F) := report.lines.reduceOption

/-- The trial whose parameters are printed last. -/
def Verdict.printed : Verdict R F → Option (TrialResult R F)
  | .recommended result => some result
  | .bestTried result => some result
  | .nothing => none
  | .noExecutable => none

/-- The exit status. -/
def Verdict.exitCode : Verdict R F → Nat
  | .recommended _ => 0
  | .bestTried result => if result.ok then 0 else 1
  | .nothing => 1
  | .noExecutable => 2

/-- What is printed behind the loops. -/
def verdictOf : Option (TrialResult R F) → Verdict R F
  | none => .nothing
  | some best => .bestTried best

/-- A line more, in front. -/
def Report.after (line : Option (TrialResult R F)) (report : Report R F) : Report R F :=
  ⟨line :: report.lines, report.verdict⟩

/-- The two loops of `main`, over what is left of the grid; `trial` is `trial_index`. -/
def tune (args : Args R F) (outcome : Nat → Outcome R) :
    List (R × R) → Nat → Option (TrialResult R F) → Option (Report R F)
  | [], _, best => some ⟨[], verdictOf best⟩
  | (kp, ki) :: grid, trial, best =>
    match outcome trial with
    | .timeout => (tune args outcome grid (trial + 1) best).map (Report.after none)
    | .finished samples returnCode =>
      match evaluateTrial py args kp ki samples returnCode with
      | none => none
      | some result =>
        let best := challenge TrialResult.score best result
        if result.ok && !args.noStopOnPass then some ⟨[some result], .recommended result⟩
        else (tune args outcome grid (trial + 1) best).map (Report.after (some result))

/-- A run of the script: the arguments, the two ranges of gains, and what the trials bring. -/
structure Script (R F : Type) where
  args : Args R F
  exeExists : Bool
  kpValues : List R
  kiValues : List R
  outcome : Nat → Outcome R

/-- The gains in the order in which they are tried. -/
def Script.grid (script : Script R F) : List (R × R) :=
  script.kpValues.flatMap fun kp => script.kiValues.map fun ki => (kp, ki)

/-- `main`. -/
def main (script : Script R F) : Option (Report R F) :=
  if !script.exeExists then some ⟨[], .noExecutable⟩
  else tune py script.args script.outcome script.grid 1 none

/-- The results of all trials of a grid that end, whether the search comes to them or not. -/
def results (args : Args R F) (outcome : Nat → Outcome R) :
    List (R × R) → Nat → List (TrialResult R F)
  | [], _ => []
  | (kp, ki) :: grid, trial =>
    match outcome trial with
    | .timeout => results args outcome grid (trial + 1)
    | .finished samples returnCode =>
      (evaluateTrial py args kp ki samples returnCode).toList ++
        results args outcome grid (trial + 1)

/-- The results that a script can have. -/
def Script.results (script : Script R F) : List (TrialResult R F) :=
  if !script.exeExists then []
  else Autotune.results py script.args script.outcome script.grid 1

/-! ## 4. Runs of the search -/

variable {py} {args : Args R F} {outcome : Nat → Outcome R}

@[simp] theorem ran_after_timeout (report : Report R F) :
    (report.after none).ran = report.ran := rfl

@[simp] theorem ran_after_result (result : TrialResult R F) (report : Report R F) :
    (report.after (some result)).ran = result :: report.ran := rfl

@[simp] theorem verdict_after (line : Option (TrialResult R F)) (report : Report R F) :
    (report.after line).verdict = report.verdict := rfl

/-- A turn on a trial that times out. -/
theorem tune_timeout {trial : Nat} (h : outcome trial = .timeout) (gains : R × R)
    (grid : List (R × R)) (best : Option (TrialResult R F)) :
    tune py args outcome (gains :: grid) trial best =
      (tune py args outcome grid (trial + 1) best).map (Report.after none) := by
  rw [tune, h]

/-- A turn on a trial whose evaluation raises. -/
theorem tune_raises {trial : Nat} {samples : List (Sample R)} {returnCode : Int}
    (h : outcome trial = .finished samples returnCode) {gains : R × R}
    (hresult : evaluateTrial py args gains.1 gains.2 samples returnCode = none)
    (grid : List (R × R)) (best : Option (TrialResult R F)) :
    tune py args outcome (gains :: grid) trial best = none := by
  rw [tune, h]
  simp only [hresult]

/-- A turn on a trial that has a result. -/
theorem tune_result {trial : Nat} {samples : List (Sample R)} {returnCode : Int}
    (h : outcome trial = .finished samples returnCode) {gains : R × R} {result : TrialResult R F}
    (hresult : evaluateTrial py args gains.1 gains.2 samples returnCode = some result)
    (grid : List (R × R)) (best : Option (TrialResult R F)) :
    tune py args outcome (gains :: grid) trial best =
      if result.ok && !args.noStopOnPass then some ⟨[some result], .recommended result⟩
      else (tune py args outcome grid (trial + 1)
        (challenge TrialResult.score best result)).map (Report.after (some result)) := by
  rw [tune, h]
  simp only [hresult]

/-- A window of at least one sample, as long as one is asked for. -/
theorem settleWindow_ne_nil {minSamples : Int} (hmin : 0 < minSamples) (startIndex : Int)
    {samples : List (Sample R)} (hsamples : samples ≠ []) :
    settleWindow minSamples startIndex samples ≠ [] := by
  have hlen : 0 < samples.length := List.length_pos_iff.mpr hsamples
  have hlast : 0 < (sliceFrom samples (-minSamples)).length := by
    rw [sliceFrom, if_neg (by omega), List.length_drop]
    omega
  unfold settleWindow
  generalize sliceFrom samples startIndex = window
  by_cases hshort : (window.length : Int) < minSamples
  · simp only [hshort, if_true]
    split_ifs
    · exact List.length_pos_iff.mp hlast
    · exact hsamples
  · simp only [hshort, if_false]
    exact List.length_pos_iff.mp (by omega)

/-- Floats whose operations raise on no samples. -/
structure Total (py : PyFloat R F) (settleFraction : R) : Prop where
  startIndex : ∀ length, ∃ start, py.startIndex length settleFraction = some start
  ofInt : ∀ i, ∃ x, py.ofInt i = some x
  fmean : ∀ data, data ≠ [] → ∃ mean, py.fmean data = some mean
  pstdev : ∀ data, ∃ std, py.pstdev data = some std

/-- Exact arithmetic is total. -/
theorem exactFloats_total (sqrt : ℚ → ℚ) (settleFraction : ℚ) :
    Total (exactFloats sqrt) settleFraction where
  startIndex _ := ⟨_, rfl⟩
  ofInt _ := ⟨_, rfl⟩
  fmean data hne := ⟨_, if_neg (by rwa [List.isEmpty_iff])⟩
  pstdev _ := ⟨_, rfl⟩

theorem Total.rpmStd {settleFraction : R} (h : Total py settleFraction) (rpms : List Int) :
    ∃ std, rpmStd py rpms = some std := by
  unfold Autotune.rpmStd
  split_ifs
  · exact h.pstdev rpms
  · exact ⟨_, rfl⟩

/-- Then no evaluation raises. -/
theorem evaluateTrial_isSome (htotal : Total py args.settleFraction) (hmin : 0 < args.minSamples)
    (kp ki : R) (samples : List (Sample R)) (returnCode : Int) :
    (evaluateTrial py args kp ki samples returnCode).isSome = true := by
  unfold evaluateTrial
  split_ifs with hempty
  · rfl
  · obtain ⟨start, hstart⟩ := htotal.startIndex samples.length
    have hne := settleWindow_ne_nil hmin start fun hnil => hempty (List.isEmpty_iff.mpr hnil)
    obtain ⟨sample, rest, hwindow⟩ := List.exists_cons_of_ne_nil hne
    obtain ⟨mean, hmean⟩ := htotal.fmean
      ((sample :: rest).map fun sample => py.abs sample.err) (List.cons_ne_nil _ _)
    obtain ⟨std, hstd⟩ := htotal.rpmStd ((sample :: rest).map fun sample => sample.rpm)
    obtain ⟨current, hcurrent⟩ := htotal.ofInt
      (((sample :: rest).map fun sample => |sample.cmdCurrent|).max?.getD 0)
    simp only [hstart, hwindow, hmean, hstd, hcurrent, bind, Option.bind_some, pure]
    rw [List.map_cons, List.max?_cons]
    rfl

/-- **And the search returns.** -/
theorem tune_isSome (htotal : Total py args.settleFraction) (hmin : 0 < args.minSamples)
    (grid : List (R × R)) (trial : Nat) (best : Option (TrialResult R F)) :
    (tune py args outcome grid trial best).isSome = true := by
  induction grid generalizing trial best with
  | nil => rfl
  | cons gains grid ih =>
    cases hend : outcome trial with
    | timeout =>
      rw [tune_timeout hend, Option.isSome_map]
      exact ih _ _
    | finished samples returnCode =>
      obtain ⟨result, hresult⟩ := Option.isSome_iff_exists.mp
        (evaluateTrial_isSome htotal hmin gains.1 gains.2 samples returnCode)
      rw [tune_result hend hresult]
      split_ifs
      · rfl
      · rw [Option.isSome_map]
        exact ih _ _

/-- **What the first turn of a search that returns has done**: its trial has timed out; or the trial
    has a result, which ends the search or is one more line of it. -/
theorem tune_turn {gains : R × R} {grid : List (R × R)} {trial : Nat}
    {best : Option (TrialResult R F)} {report : Report R F}
    (h : tune py args outcome (gains :: grid) trial best = some report) :
    (outcome trial = .timeout ∧ ∃ rest, tune py args outcome grid (trial + 1) best = some rest ∧
      report = rest.after none) ∨
    ∃ samples returnCode result, outcome trial = .finished samples returnCode ∧
      evaluateTrial py args gains.1 gains.2 samples returnCode = some result ∧
      (((result.ok && !args.noStopOnPass) = true ∧ report = ⟨[some result], .recommended result⟩) ∨
        ((result.ok && !args.noStopOnPass) = false ∧ ∃ rest,
          tune py args outcome grid (trial + 1) (challenge TrialResult.score best result) =
            some rest ∧ report = rest.after (some result))) := by
  cases hend : outcome trial with
  | timeout =>
    rw [tune_timeout hend] at h
    obtain ⟨rest, hrest, hreport⟩ := Option.map_eq_some_iff.mp h
    exact Or.inl ⟨rfl, rest, hrest, hreport.symm⟩
  | finished samples returnCode =>
    cases hresult : evaluateTrial py args gains.1 gains.2 samples returnCode with
    | none =>
      rw [tune_raises hend hresult] at h
      cases h
    | some result =>
      refine Or.inr ⟨samples, returnCode, result, rfl, hresult, ?_⟩
      rw [tune_result hend hresult] at h
      split_ifs at h with hstop
      · exact Or.inl ⟨hstop, (Option.some.inj h).symm⟩
      · obtain ⟨rest, hrest, hreport⟩ := Option.map_eq_some_iff.mp h
        exact Or.inr ⟨Bool.eq_false_iff.mpr hstop, rest, hrest, hreport.symm⟩

/-- **With the option, every trial is run**, and the champion by score is printed. -/
theorem tune_all (hoption : args.noStopOnPass = true) : ∀ {grid : List (R × R)} {trial : Nat}
    {best : Option (TrialResult R F)} {report : Report R F},
    tune py args outcome grid trial best = some report →
    report.ran = results py args outcome grid trial ∧ report.verdict =
      verdictOf ((results py args outcome grid trial).foldl (challenge TrialResult.score) best)
  | [], trial, best, report, h => by
    obtain rfl := Option.some.inj h
    exact ⟨rfl, rfl⟩
  | gains :: grid, trial, best, report, h => by
    rcases tune_turn h with hturn | hturn
    · obtain ⟨hend, rest, hrest, rfl⟩ := hturn
      rw [results, hend, ran_after_timeout, verdict_after]
      exact tune_all hoption hrest
    · obtain ⟨samples, returnCode, result, hend, hresult, hturn⟩ := hturn
      rw [hoption, Bool.not_true, Bool.and_false] at hturn
      rcases hturn with hstop | hline
      · exact absurd hstop.1 Bool.false_ne_true
      · obtain ⟨_, rest, hrest, rfl⟩ := hline
        have hall := tune_all hoption hrest
        have hresults : results py args outcome (gains :: grid) trial =
            result :: results py args outcome grid (trial + 1) := by
          rw [results, hend]
          simp only [hresult, Option.toList_some, List.singleton_append]
        rw [hresults, ran_after_result, verdict_after, List.foldl_cons]
        exact ⟨congrArg (result :: ·) hall.1, hall.2⟩

/-- What `main` reports of passes: exit status 0 exactly if a trial has passed, and then a trial
    that has is the last to be printed. -/
structure ReportsPass (report : Report R F) : Prop where
  status : report.verdict.exitCode = 0 ↔ ∃ r ∈ report.ran, r.ok = true
  printed : (∃ r ∈ report.ran, r.ok = true) →
    ∃ r ∈ report.ran, report.verdict.printed = some r ∧ r.ok = true

/-- A report that recommends a trial that has passed. -/
theorem ReportsPass.of_pass {report : Report R F} {result : TrialResult R F}
    (hmem : result ∈ report.ran) (hok : result.ok = true)
    (hcode : report.verdict.exitCode = 0) (hprinted : report.verdict.printed = some result) :
    ReportsPass report :=
  ⟨⟨fun _ => ⟨result, hmem, hok⟩, fun _ => hcode⟩, fun _ => ⟨result, hmem, hprinted, hok⟩⟩

/-- A report of failed trials only. -/
theorem ReportsPass.of_failures {report : Report R F} (hfail : ∀ r ∈ report.ran, r.ok = false)
    (hcode : report.verdict.exitCode ≠ 0) : ReportsPass report := by
  have hno : ¬ ∃ r ∈ report.ran, r.ok = true := by
    intro h
    obtain ⟨r, hr, hok⟩ := h
    rw [hfail r hr] at hok
    cases hok
  exact ⟨⟨fun h => absurd h hcode, fun h => absurd h hno⟩, fun h => absurd h hno⟩

/-- A failed best is no success. -/
theorem exitCode_verdictOf {best : Option (TrialResult R F)}
    (h : ∀ b, best = some b → b.ok = false) : (verdictOf best).exitCode ≠ 0 := by
  cases best with
  | none => exact Nat.one_ne_zero
  | some b =>
    rw [verdictOf, Verdict.exitCode, h b rfl, if_neg Bool.false_ne_true]
    exact Nat.one_ne_zero

/-- The search never keeps but what it has and what it meets. -/
theorem challenge_fails {best : Option (TrialResult R F)} {result : TrialResult R F}
    (hbest : ∀ b, best = some b → b.ok = false) (hresult : result.ok = false) :
    ∀ b, challenge TrialResult.score best result = some b → b.ok = false := by
  intro b hb
  rcases challenge_cases hb with rfl | hold
  · exact hresult
  · exact hbest b hold

/-- **Without the option, the first pass is recommended**; until then all have failed. -/
theorem tune_stops (hoption : args.noStopOnPass = false) : ∀ {grid : List (R × R)} {trial : Nat}
    {best : Option (TrialResult R F)} {report : Report R F}, (∀ b, best = some b → b.ok = false) →
    tune py args outcome grid trial best = some report →
    (∃ r ∈ report.ran, r.ok = true ∧ report.verdict = .recommended r) ∨
      ((∀ r ∈ report.ran, r.ok = false) ∧ report.verdict.exitCode ≠ 0)
  | [], trial, best, report, hbest, h => by
    obtain rfl := Option.some.inj h
    exact Or.inr ⟨fun _ hr => absurd hr List.not_mem_nil, exitCode_verdictOf hbest⟩
  | gains :: grid, trial, best, report, hbest, h => by
    rcases tune_turn h with hturn | hturn
    · obtain ⟨_, rest, hrest, rfl⟩ := hturn
      rw [ran_after_timeout, verdict_after]
      exact tune_stops hoption hbest hrest
    · obtain ⟨samples, returnCode, result, _, _, hturn⟩ := hturn
      rw [hoption, Bool.not_false, Bool.and_true] at hturn
      rcases hturn with hstop | hline
      · obtain ⟨hok, rfl⟩ := hstop
        exact Or.inl ⟨result, List.mem_singleton_self _, hok, rfl⟩
      · obtain ⟨hfail, rest, hrest, rfl⟩ := hline
        rcases tune_stops hoption (challenge_fails hbest hfail) hrest with hpass | hnone
        · obtain ⟨r, hr, hrok, hverdict⟩ := hpass
          exact Or.inl ⟨r, List.mem_cons_of_mem _ hr, hrok, hverdict⟩
        · refine Or.inr ⟨fun r hr => ?_, hnone.2⟩
          rw [ran_after_result] at hr
          rcases List.mem_cons.mp hr with rfl | hr
          · exact hfail
          · exact hnone.1 r hr

/-! ## 5. Passes and scores -/

/-- A passing trial that scores less than every failing one before it, and no more than any failing
    one behind it. -/
def PassLeads (results : List (TrialResult R F)) : Prop :=
  GoodLeads TrialResult.score (fun r => r.ok = true) results

/-- What is reported of a champion. -/
theorem reportsPass_champion_iff {report : Report R F} {best : TrialResult R F}
    (hbest : champion TrialResult.score report.ran = some best)
    (hverdict : report.verdict = .bestTried best) :
    ReportsPass report ↔ (∀ r ∈ report.ran, r.ok = false) ∨ PassLeads report.ran := by
  have hgood : best.ok = true ↔ PassLeads report.ran :=
    @champion_good_iff _ _ _ _ (fun r : TrialResult R F => r.ok = true) _ _ hbest
  have hmem : best ∈ report.ran := (champion_leads hbest).mem
  constructor
  · intro hreports
    by_cases hpass : ∃ r ∈ report.ran, r.ok = true
    · obtain ⟨r, _, hprinted, hok⟩ := hreports.printed hpass
      rw [hverdict] at hprinted
      obtain rfl : best = r := Option.some.inj hprinted
      exact Or.inr (hgood.mp hok)
    · exact Or.inl fun r hr => Bool.eq_false_iff.mpr fun hok => hpass ⟨r, hr, hok⟩
  · intro hcond
    rcases hcond with hfail | hleads
    · refine ReportsPass.of_failures hfail ?_
      rw [hverdict, Verdict.exitCode, hfail best hmem, if_neg Bool.false_ne_true]
      exact Nat.one_ne_zero
    · have hok := hgood.mpr hleads
      refine ReportsPass.of_pass hmem hok ?_ (by rw [hverdict]; rfl)
      rw [hverdict, Verdict.exitCode, hok, if_pos rfl]

/-- What is reported when all trials were run. -/
theorem reportsPass_compared_iff {report : Report R F}
    (hverdict : report.verdict = verdictOf (champion TrialResult.score report.ran)) :
    ReportsPass report ↔ (∀ r ∈ report.ran, r.ok = false) ∨ PassLeads report.ran := by
  cases hbest : champion TrialResult.score report.ran with
  | none =>
    -- no trial has come to an end
    have hnil : report.ran = [] := by
      by_contra hne
      obtain ⟨best, hsome⟩ := @champion_exists _ _ _ TrialResult.score _ hne
      rw [hbest] at hsome
      cases hsome
    have hnone : ∀ r ∈ report.ran, r.ok = false := by
      rw [hnil]
      exact fun _ hr => absurd hr List.not_mem_nil
    refine ⟨fun _ => Or.inl hnone, fun _ => ReportsPass.of_failures hnone ?_⟩
    rw [hverdict]
    exact exitCode_verdictOf fun b hb => nomatch hbest.symm.trans hb
  | some best =>
    rw [hbest] at hverdict
    exact reportsPass_champion_iff hbest hverdict

/-- **When the search reports a pass exactly if there is one**: if it stops at the first, if no
    trial passes, or if a passing trial beats all failing ones by its score. -/
theorem autotune_reports_iff {script : Script R F} {report : Report R F}
    (h : main py script = some report) : ReportsPass report ↔
      script.args.noStopOnPass = false ∨ (∀ r ∈ script.results py, r.ok = false) ∨
        PassLeads (script.results py) := by
  unfold main at h
  unfold Script.results
  split_ifs at h ⊢ with hexe
  · -- no executable: nothing is run
    obtain rfl := Option.some.inj h
    refine ⟨fun _ => Or.inr (Or.inl fun _ hr => absurd hr List.not_mem_nil), fun _ => ?_⟩
    exact ReportsPass.of_failures (fun _ hr => absurd hr List.not_mem_nil) (Nat.succ_ne_zero 1)
  cases hoption : script.args.noStopOnPass with
  | false =>
    refine ⟨fun _ => Or.inl rfl, fun _ => ?_⟩
    have hnobest : ∀ b : TrialResult R F, none = some b → b.ok = false := fun _ hb => nomatch hb
    rcases tune_stops hoption hnobest h with hpass | hfail
    · obtain ⟨r, hr, hok, hverdict⟩ := hpass
      exact ReportsPass.of_pass hr hok (by rw [hverdict]; rfl) (by rw [hverdict]; rfl)
    · exact ReportsPass.of_failures hfail.1 hfail.2
  | true =>
    obtain ⟨hran, hverdict⟩ := tune_all hoption h
    rw [← hran] at hverdict ⊢
    simp only [Bool.true_eq_false, false_or]
    exact reportsPass_compared_iff hverdict

end Search

/-! ## 6. Exact trials -/

/-- A search, a result and a report in exact arithmetic. -/
abbrev ExactScript : Type := Script ℚ (WithTop ℚ)
abbrev ExactResult : Type := TrialResult ℚ (WithTop ℚ)
abbrev ExactReport : Type := Report ℚ (WithTop ℚ)

/-- A sum of numbers is a number. -/
theorem sum_coe (data : List ℚ) :
    (data.map fun x : ℚ => (x : WithTop ℚ)).sum = ((data.sum : ℚ) : WithTop ℚ) := by
  induction data with
  | nil => rfl
  | cons x data ih => rw [List.map_cons, List.sum_cons, List.sum_cons, ih, WithTop.coe_add]

/-- So a mean of numbers is one. -/
theorem fmean_coe {data : List ℚ} {mean : WithTop ℚ}
    (h : fmean (data.map fun x : ℚ => (x : WithTop ℚ)) = some mean) :
    mean = ((data.sum / data.length : ℚ) : WithTop ℚ) := by
  unfold fmean at h
  split at h
  · cases h
  · rw [sum_coe, List.length_map] at h
    exact (Option.some.inj h).symm

/-- The largest of some numbers is one, and none of them is larger. -/
theorem max_coe {data : List ℚ} {most : WithTop ℚ}
    (h : (data.map fun x : ℚ => (x : WithTop ℚ)).max? = some most) :
    ∃ q : ℚ, most = q ∧ ∀ x ∈ data, x ≤ q := by
  obtain ⟨q, _, hq⟩ := List.mem_map.mp (List.max?_mem h)
  refine ⟨q, hq.symm, fun x hx => ?_⟩
  have hle := (List.max?_le_iff h).mp (le_refl most) _ (List.mem_map_of_mem hx)
  rw [← hq] at hle
  exact WithTop.coe_le_coe.mp hle

/-- The largest of some absolute values, or 0. -/
theorem maxAbs (commands : List Int) : 0 ≤ (commands.map fun c => |c|).max?.getD 0 ∧
    ∀ c ∈ commands, |c| ≤ (commands.map fun c => |c|).max?.getD 0 := by
  cases hmax : (commands.map fun c => |c|).max? with
  | none =>
    have hnil := List.map_eq_nil_iff.mp (List.max?_eq_none_iff.mp hmax)
    rw [hnil]
    exact ⟨le_refl 0, fun _ hc => nomatch hc⟩
  | some most =>
    obtain ⟨c, _, rfl⟩ := List.mem_map.mp (List.max?_mem hmax)
    exact ⟨abs_nonneg c, fun d hd =>
      (List.max?_le_iff hmax).mp (le_refl _) _ (List.mem_map_of_mem hd)⟩

/-- A deviation of integers is a number. -/
theorem rpmStd_coe {sqrt : ℚ → ℚ} {rpms : List Int} {std : WithTop ℚ}
    (h : rpmStd (exactFloats sqrt) rpms = some std) : ∃ d : ℚ, std = d := by
  unfold rpmStd at h
  split at h
  · exact ⟨_, (Option.some.inj h).symm⟩
  · exact ⟨0, (Option.some.inj h).symm⟩

/-- What exact arithmetic makes of a window of samples. -/
structure Evaluated (args : Args ℚ (WithTop ℚ)) (kp ki : ℚ) (returnCode : Int)
    (window : List (Sample ℚ)) (r : ExactResult) : Prop where
  gains : r.kp = kp ∧ r.ki = ki
  mean : r.meanAbsErr = (((window.map fun s => |s.err|).sum / window.length : ℚ) : WithTop ℚ)
  most : ∃ q : ℚ, r.maxAbsErr = q ∧ ∀ s ∈ window, |s.err| ≤ q
  numbers : ∃ std score : ℚ, r.rpmStd = std ∧ r.score = score
  command : 0 ≤ r.maxAbsCmd ∧ ∀ s ∈ window, |s.cmdCurrent| ≤ r.maxAbsCmd
  passes : r.ok = true → returnCode = 0 ∧ args.minSamples ≤ window.length ∧
    r.meanAbsErr ≤ args.meanErrLimit ∧ r.maxAbsErr ≤ args.maxErrLimit ∧
    r.maxAbsCmd ≤ args.maxCmdLimit

/-- **An exact evaluation**: of no samples, or of a window of them. -/
theorem evaluateTrial_exact {sqrt : ℚ → ℚ} {args : Args ℚ (WithTop ℚ)} {kp ki : ℚ}
    {samples : List (Sample ℚ)} {returnCode : Int} {r : ExactResult}
    (h : evaluateTrial (exactFloats sqrt) args kp ki samples returnCode = some r) :
    r = ⟨kp, ki, args.kd, false, ⊤, ⊤, ⊤, ⊤, 0, 0, returnCode⟩ ∨
      ∃ start, Evaluated args kp ki returnCode (settleWindow args.minSamples start samples) r := by
  unfold evaluateTrial at h
  split at h
  · exact Or.inl (Option.some.inj h).symm
  · simp only [bind, Option.bind_eq_some_iff] at h
    obtain ⟨start, _, mean, hmean, most, hmost, std, hstd, current, hcurrent, hresult⟩ := h
    have herrors : ((settleWindow args.minSamples start samples).map fun sample =>
        (exactFloats sqrt).abs sample.err) =
        ((settleWindow args.minSamples start samples).map fun sample => |sample.err|).map
          fun x : ℚ => (x : WithTop ℚ) := by
      rw [List.map_map]
      rfl
    rw [herrors] at hmean hmost
    obtain ⟨q, rfl, hq⟩ := max_coe hmost
    obtain rfl := fmean_coe hmean
    obtain ⟨d, rfl⟩ := rpmStd_coe hstd
    obtain rfl := Option.some.inj hcurrent
    obtain rfl := Option.some.inj hresult
    have hcommand := maxAbs ((settleWindow args.minSamples start samples).map fun s => s.cmdCurrent)
    rw [List.map_map] at hcommand
    refine Or.inr ⟨start, ⟨rfl, rfl⟩, ?_, ⟨q, rfl, fun s hs => hq _ (List.mem_map_of_mem hs)⟩,
      ⟨d, _, rfl, rfl⟩, ⟨hcommand.1, fun s hs => hcommand.2 _ (List.mem_map_of_mem hs)⟩,
      fun hok => ?_⟩
    · rw [List.length_map]
    · simp only [Bool.and_eq_true, decide_eq_true_eq] at hok
      obtain ⟨⟨⟨⟨⟨hcode, henough⟩, hmeanLe⟩, hmaxLe⟩, _⟩, hcmd⟩ := hok
      exact ⟨hcode, henough, hmeanLe, hmaxLe, hcmd⟩

/-! ## 7. Two trials -/

/-- A square root of the squares of fractions. -/
def fractionSqrt (x : ℚ) : ℚ := (Nat.sqrt x.num.toNat : ℚ) / Nat.sqrt x.den

/-- Exact arithmetic with this root. -/
def fractionFloats : PyFloat ℚ (WithTop ℚ) := exactFloats fractionSqrt

/-- The default limits, with every combination tried. -/
def compareAll : Args ℚ (WithTop ℚ) := ⟨0, 1 / 2, (35 : ℚ), (90 : ℚ), (45 : ℚ), 600, 8, true⟩

/-- A motor that has settled: the same line sixteen times. -/
def settled (cmdCurrent : Int) (err : ℚ) : Outcome ℚ :=
  .finished (List.replicate 16 ⟨300, cmdCurrent, 0, err⟩) 0

/-- Two values of `ki`; the first trial brings one outcome, the second another. -/
def twoTrials (first second : Outcome ℚ) : ExactScript where
  args := compareAll
  exeExists := true
  kpValues := [2]
  kiValues := [1 / 5, 3 / 10]
  outcome trial := if trial = 1 then first else second

/-- On target at a current of 601: no pass, and a score of 6.01. -/
def overCurrent : Outcome ℚ := settled 601 0

/-- Twenty rpm off at a current of 500: a pass, and a score of 32. -/
def withinLimits : Outcome ℚ := settled 500 20

/-- A hundred rpm off at a current of 700: no pass, and a score of 142. -/
def farOff : Outcome ℚ := settled 700 100

/-- A trial that passes with the lower score is reported as a pass. -/
theorem lower_pass_reported : ∃ report,
    main fractionFloats (twoTrials farOff withinLimits) = some report ∧ ReportsPass report := by
  have hruns : (main fractionFloats (twoTrials farOff withinLimits)).isSome = true := by
    decide +kernel
  have hchampion : (champion TrialResult.score
      ((twoTrials farOff withinLimits).results fractionFloats)).map (fun r => r.ok) =
        some true := by
    decide +kernel
  obtain ⟨report, hreport⟩ := Option.isSome_iff_exists.mp hruns
  obtain ⟨best, hbest, hok⟩ := Option.map_eq_some_iff.mp hchampion
  have hleads : PassLeads ((twoTrials farOff withinLimits).results fractionFloats) :=
    (@champion_good_iff _ _ _ _ (fun r : ExactResult => r.ok = true) _ _ hbest).mp hok
  exact ⟨report, hreport, (autotune_reports_iff hreport).mpr (Or.inr (Or.inr hleads))⟩

/-- **A pass is missed** behind a failed trial with the lower score: exit status 1, and the trial
    that has failed is printed. -/
theorem pass_missed : ∃ report,
    main fractionFloats (twoTrials overCurrent withinLimits) = some report ∧
      ¬ ReportsPass report := by
  have hruns : (main fractionFloats (twoTrials overCurrent withinLimits)).map
      (fun report => (report.verdict.exitCode, report.ran.any fun r => r.ok)) = some (1, true) := by
    decide +kernel
  obtain ⟨report, hreport, hshown⟩ := Option.map_eq_some_iff.mp hruns
  have hcode : report.verdict.exitCode = 1 := congrArg Prod.fst hshown
  have hpass : (report.ran.any fun r => r.ok) = true := congrArg Prod.snd hshown
  refine ⟨report, hreport, fun hreports => ?_⟩
  have hzero := hreports.status.mpr (List.any_eq_true.mp hpass)
  rw [hcode] at hzero
  cases hzero

end Autotune

end Rk3588Chassis
