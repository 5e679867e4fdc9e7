/-
  File:      Rk3588Chassis/BatchAutotune.lean
  Subject:   The batch of grid searches (`tools/batch_autotune_speed_pid.py`): one search for each
             motor and target, a row for what it printed, and the exit status.

  The status of a row is what three patterns find in the output of the search. The exit status asks
  whether all collected rows are PASS. A failure that ends the sweep is among the rows, so it shows;
  an interrupt leaves no row, so it does not: `exit_iff_complete`.

  Texts are lists of characters. `decimal` is the value of a decimal digit, in all scripts that have
  one; nothing is assumed of it.
-/
import Rk3588Chassis.Library.Pattern

namespace Rk3588Chassis

namespace BatchAutotune

/-! ## 1. The lists of motors and targets -/

/-- White space, for `str.strip` and for `\s`. -/
def isSpace (c : Char) : Bool :=
  decide (0x09 ≤ c.toNat ∧ c.toNat ≤ 0x0d) || decide (0x1c ≤ c.toNat ∧ c.toNat ≤ 0x20) ||
    decide (0x2000 ≤ c.toNat ∧ c.toNat ≤ 0x200a) ||
    [0x85, 0xa0, 0x1680, 0x2028, 0x2029, 0x202f, 0x205f, 0x3000].contains c.toNat

/-- `str.strip`. -/
def strip (text : List Char) : List Char :=
  ((text.dropWhile isSpace).reverse.dropWhile isSpace).reverse

section Script

variable (decimal : Char → Option Nat)

/-- The digits of an integer behind the first, with a single `_` allowed before each. -/
def intDigits : Nat → List Char → Option Nat
  | value, [] => some value
  | value, '_' :: c :: s => decimal c >>= fun digit => intDigits (10 * value + digit) s
  | value, c :: s => decimal c >>= fun digit => intDigits (10 * value + digit) s

/-- An integer without its sign. -/
def intValue : List Char → Option Nat
  | [] => none
  | c :: s => decimal c >>= fun digit => intDigits decimal digit s

/-- `int`; `none` where it raises. -/
def int (text : List Char) : Option Int :=
  match strip text with
  | '-' :: s => (intValue decimal s).map fun n => -(n : Int)
  | '+' :: s => (intValue decimal s).map Int.ofNat
  | s => (intValue decimal s).map Int.ofNat

/-- `parse_list`; `none` where `int` raises. -/
def parseList (text : List Char) : Option (List Int) :=
  (((text.splitOn ',').map strip).filter fun part => !part.isEmpty).mapM (int decimal)

/-! ## 2. What a search has printed -/

/-- The names of the groups. -/
inductive Field where
  | kp
  | ki
  | kd
  | ok
  | score
  | mean
  | max
  | std
  | cmd
  deriving DecidableEq

/-- `\d`. -/
def isDecimal (c : Char) : Bool := (decimal c).isSome

/-- `\s+`. -/
def spaces : Pattern Field := .many isSpace

/-- `-?\d+(?:\.\d+)?`. -/
def number : Pattern Field :=
  .all [.maybe (.text ['-']), .many (isDecimal decimal),
    .maybe (.all [.text ['.'], .many (isDecimal decimal)])]

/-- A number behind its label, as a group. -/
def labelled (label : String) (field : Field) : Pattern Field :=
  .seq (.text label.toList) (.group field (number decimal))

/-- `PASS_RE`. -/
def passRe : Pattern Field :=
  .all [.text "Recommended:".toList, spaces, labelled decimal "kp=" .kp, spaces,
    labelled decimal "ki=" .ki, spaces, labelled decimal "kd=" .kd]

/-- `TRIAL_RE`. -/
def trialRe : Pattern Field :=
  .all [.text "ok=".toList, .group .ok (.either (.text "True".toList) (.text "False".toList)), spaces,
    labelled decimal "score=" .score, spaces, labelled decimal "mean_abs_err=" .mean, spaces,
    labelled decimal "max_abs_err=" .max, spaces, labelled decimal "rpm_std=" .std, spaces,
    .text "max_abs_cmd=".toList, .group .cmd (.many (isDecimal decimal))]

/-- `BEST_RE`: behind the gains it is `TRIAL_RE`. -/
def bestRe : Pattern Field :=
  .all [.text "Best tried:".toList, spaces, labelled decimal "kp=" .kp, spaces,
    labelled decimal "ki=" .ki, spaces, labelled decimal "kd=" .kd, spaces, trialRe decimal]

/-- The texts that `status` can have. -/
inductive Status where
  | pass
  | best
  | failed
  deriving DecidableEq

/-- `DirectionResult`. -/
structure DirectionResult where
  motor : Int
  target : Int
  status : Status
  kp : List Char
  ki : List Char
  kd : List Char
  meanAbsErr : List Char
  maxAbsErr : List Char
  rpmStd : List Char
  maxAbsCmd : List Char
  returnCode : Int

/-- `parse_result`. -/
def parseResult (motor target returnCode : Int) (output : List Char) : DirectionResult :=
  match (passRe decimal).search output with
  | some recommended =>
    let lastTrial := ((trialRe decimal).findAll output).getLast?
    let ofTrial : Field → List Char := fun field =>
      match lastTrial with
      | some trial => trial.get field
      | none => []
    { motor := motor
      target := target
      status := .pass
      kp := recommended.get .kp
      ki := recommended.get .ki
      kd := recommended.get .kd
      meanAbsErr := ofTrial .mean
      maxAbsErr := ofTrial .max
      rpmStd := ofTrial .std
      maxAbsCmd := ofTrial .cmd
      returnCode := returnCode }
  | none =>
    match (bestRe decimal).search output with
    | some best =>
      { motor := motor
        target := target
        status := if best.get .ok = "False".toList then .best else .pass
        kp := best.get .kp
        ki := best.get .ki
        kd := best.get .kd
        meanAbsErr := best.get .mean
        maxAbsErr := best.get .max
        rpmStd := best.get .std
        maxAbsCmd := best.get .cmd
        returnCode := returnCode }
    | none =>
      { motor := motor
        target := target
        status := .failed
        kp := []
        ki := []
        kd := []
        meanAbsErr := []
        maxAbsErr := []
        rpmStd := []
        maxAbsCmd := []
        returnCode := returnCode }

/-- The status of an output. -/
def outputStatus (output : List Char) : Status :=
  match (passRe decimal).search output with
  | some _ => .pass
  | none =>
    match (bestRe decimal).search output with
    | some best => if best.get .ok = "False".toList then .best else .pass
    | none => .failed

/-! ## 3. The sweep -/

/-- What a search leaves behind, for `subprocess.run`. -/
structure Completed where
  returnCode : Int
  stdout : List Char

/-- A point at which Ctrl+C can hit the sweep: in the turn with this many turns before it, while
    its row is still missing or when it has been appended. -/
structure Interrupt where
  turn : Nat
  afterRow : Bool
  deriving DecidableEq

/-- How many rows have been appended at that point. -/
def Interrupt.rows (i : Interrupt) : Nat := if i.afterRow then i.turn + 1 else i.turn

/-- A run of the script: its arguments, and what the environment decides. -/
structure Script where
  motors : List Char
  targets : List Char
  keepGoing : Bool
  autotuneExists : Bool
  exeExists : Bool
  completed : Nat → Completed
  interrupt : Option Interrupt

/-- What the loops carry along. -/
structure Sweep where
  index : Nat
  results : List DirectionResult

/-- The ways out of the inner loop. -/
inductive Exit where
  | completed
  | broke
  | interrupted

/-- The row that a turn appends. -/
def Script.row (script : Script) (index : Nat) (motor target : Int) : DirectionResult :=
  parseResult decimal motor target (script.completed index).returnCode (script.completed index).stdout

/-- `result.status == "FAILED" and not args.keep_going`. -/
def Script.stops (script : Script) (result : DirectionResult) : Bool :=
  decide (result.status = .failed) && !script.keepGoing

/-- `for target in targets`. -/
def innerLoop (script : Script) (motor : Int) : List Int → Sweep → Exit × Sweep
  | [], s => (.completed, s)
  | target :: targets, s =>
    if script.interrupt = some ⟨s.index, false⟩ then (.interrupted, s)
    else
      let result := script.row decimal s.index motor target
      let s' : Sweep := ⟨s.index + 1, s.results ++ [result]⟩
      if script.interrupt = some ⟨s.index, true⟩ then (.interrupted, s')
      else if script.stops result then (.broke, s')
      else innerLoop script motor targets s'

/-- `for motor in motors`, with the `else` of the inner loop. -/
def outerLoop (script : Script) (targets : List Int) : List Int → Sweep → Sweep
  | [], s => s
  | motor :: motors, s =>
    match innerLoop decimal script motor targets s with
    | (.completed, s) => outerLoop script targets motors s
    | (.broke, s) => s
    | (.interrupted, s) => s

/-- How a run of the script ends. -/
inductive Report where
  /-- `int` has raised, and nobody has caught it. -/
  | valueError
  | notFound
  | swept (results : List DirectionResult)

/-- The exit status. -/
def Report.exitCode : Report → Nat
  | .valueError => 1
  | .notFound => 2
  | .swept results => if results.all fun result => decide (result.status = .pass) then 0 else 1

/-- `main`. -/
def main (script : Script) : Report :=
  match parseList decimal script.motors, parseList decimal script.targets with
  | some motors, some targets =>
    if !script.autotuneExists then .notFound
    else if !script.exeExists then .notFound
    else .swept (outerLoop decimal script targets motors ⟨0, []⟩).results
  | _, _ => .valueError

/-! ## 4. What a row says -/

variable {decimal}

/-- The status of a row is that of the output alone. -/
theorem parseResult_status (motor target returnCode : Int) (output : List Char) :
    (parseResult decimal motor target returnCode output).status = outputStatus decimal output := by
  unfold parseResult outputStatus
  split
  · rfl
  · split
    · rfl
    · rfl

/-- A row is about the pair of its turn. -/
theorem parseResult_pair (motor target returnCode : Int) (output : List Char) :
    (parseResult decimal motor target returnCode output).motor = motor ∧
      (parseResult decimal motor target returnCode output).target = target := by
  unfold parseResult
  split
  · exact ⟨rfl, rfl⟩
  · split
    · exact ⟨rfl, rfl⟩
    · exact ⟨rfl, rfl⟩

/-- **A recommendation passes**, whatever stands around it in the output. -/
theorem recommended_passes {line : List Char} (h : ((passRe decimal).search line).isSome)
    (before after : List Char) : outputStatus decimal (before ++ line ++ after) = .pass := by
  obtain ⟨found, hfound⟩ := Option.isSome_iff_exists.mp (Pattern.search_within h before after)
  unfold outputStatus
  rw [hfound]

/-- The searches behind a failure. -/
theorem outputStatus_eq_failed {output : List Char} :
    outputStatus decimal output = .failed ↔
      (passRe decimal).search output = none ∧ (bestRe decimal).search output = none := by
  unfold outputStatus
  split
  · rename_i hpass
    simp only [hpass, reduceCtorEq, false_and]
  · rename_i hpass
    split
    · rename_i hbest
      simp only [hbest, reduceCtorEq, and_false, iff_false]
      split
      · simp only [reduceCtorEq, not_false_eq_true]
      · simp only [reduceCtorEq, not_false_eq_true]
    · rename_i hbest
      simp only [hpass, hbest, and_self]

/-- **A row fails exactly if neither line is anywhere in the output.** -/
theorem outputStatus_failed_iff {output : List Char} :
    outputStatus decimal output = .failed ↔
      ∀ t, t <:+ output → (passRe decimal).ways t = [] ∧ (bestRe decimal).ways t = [] := by
  rw [outputStatus_eq_failed, Pattern.search_eq_none_iff, Pattern.search_eq_none_iff, ← forall_and]
  simp only [imp_and, forall_and]

/-! ## 5. The loops as one -/

variable (decimal) in
/-- The rows of all pairs, whether the sweep comes to them or not. -/
def rows (script : Script) : Nat → List (Int × Int) → List DirectionResult
  | _, [] => []
  | index, pair :: pairs =>
    script.row decimal index pair.1 pair.2 :: rows script (index + 1) pairs

/-- The entries up to the first on which a list is left, and that one. -/
def through {α : Type} (stop : α → Bool) : List α → List α
  | [] => []
  | a :: rest => if stop a then [a] else a :: through stop rest

/-- What comes before the interrupt, of a list whose first entry has the number `index`. -/
def Script.window {α : Type} (script : Script) (index : Nat) (entries : List α) : List α :=
  match script.interrupt with
  | none => entries
  | some i => entries.take (i.rows - index)

/-- The pairs in the order in which they are searched. -/
def pairsOf (motors targets : List Int) : List (Int × Int) :=
  motors.flatMap fun motor => targets.map fun target => (motor, target)

variable (decimal) in
/-- The two loops as one, over the pairs. -/
def sweepPairs (script : Script) : List (Int × Int) → Sweep → Exit × Sweep
  | [], s => (.completed, s)
  | (motor, target) :: pairs, s =>
    if script.interrupt = some ⟨s.index, false⟩ then (.interrupted, s)
    else
      let result := script.row decimal s.index motor target
      let s' : Sweep := ⟨s.index + 1, s.results ++ [result]⟩
      if script.interrupt = some ⟨s.index, true⟩ then (.interrupted, s')
      else if script.stops result then (.broke, s')
      else sweepPairs script pairs s'

/-- The inner loop is the part of it that belongs to one motor. -/
theorem innerLoop_eq (script : Script) (motor : Int) (targets : List Int) (s : Sweep) :
    innerLoop decimal script motor targets s =
      sweepPairs decimal script (targets.map fun target => (motor, target)) s := by
  induction targets generalizing s with
  | nil => rfl
  | cons target targets ih =>
    rw [List.map_cons]
    unfold innerLoop sweepPairs
    simp only [ih]

/-- One part after another, unless the first is left early. -/
theorem sweepPairs_append (script : Script) (pairs pairs' : List (Int × Int)) (s : Sweep) :
    sweepPairs decimal script (pairs ++ pairs') s =
      match sweepPairs decimal script pairs s with
      | (.completed, s') => sweepPairs decimal script pairs' s'
      | (exit, s') => (exit, s') := by
  induction pairs generalizing s with
  | nil => rfl
  | cons pair pairs ih =>
    simp only [List.cons_append, sweepPairs, ih]
    split_ifs
    · rfl
    · rfl
    · rfl
    · rfl

/-- **The nested loops are the one loop.** -/
theorem outerLoop_eq (script : Script) (targets motors : List Int) (s : Sweep) :
    outerLoop decimal script targets motors s =
      (sweepPairs decimal script (pairsOf motors targets) s).2 := by
  induction motors generalizing s with
  | nil => rfl
  | cons motor motors ih =>
    have hpairs : pairsOf (motor :: motors) targets =
        targets.map (fun target => (motor, target)) ++ pairsOf motors targets := rfl
    rw [hpairs, sweepPairs_append, outerLoop, innerLoop_eq]
    cases sweepPairs decimal script (targets.map fun target => (motor, target)) s with
    | mk exit s' =>
      cases exit with
      | completed => exact ih s'
      | broke => rfl
      | interrupted => rfl

/-! ## 6. The rows of a run -/

section Through

variable {α : Type} {stop : α → Bool} {good : α → Prop}

/-- If what stops is not good, then all is good as soon as it is so up to the stop. -/
theorem forall_through (hstop : ∀ a, stop a = true → ¬ good a) {entries : List α} :
    (∀ a ∈ through stop entries, good a) ↔ ∀ a ∈ entries, good a := by
  induction entries with
  | nil => exact Iff.rfl
  | cons a entries ih =>
    unfold through
    split
    · rename_i ha
      have hbad : ¬ good a := hstop a ha
      exact iff_of_false (fun h => hbad (h a List.mem_cons_self))
        (fun h => hbad (h a List.mem_cons_self))
    · rw [List.forall_mem_cons, List.forall_mem_cons, ih]

/-- And then nothing stops. -/
theorem through_eq_self (hstop : ∀ a, stop a = true → ¬ good a) {entries : List α}
    (h : ∀ a ∈ entries, good a) : through stop entries = entries := by
  induction entries with
  | nil => rfl
  | cons a entries ih =>
    obtain ⟨ha, hentries⟩ := List.forall_mem_cons.mp h
    unfold through
    rw [if_neg fun hs => hstop a hs ha, ih hentries]

/-- The list up to the stop is the head of the list. -/
theorem through_head (stop : α → Bool) (entries : List α) : through stop entries <+: entries := by
  induction entries with
  | nil => exact List.prefix_refl _
  | cons a entries ih =>
    unfold through
    split
    · exact List.cons_prefix_cons.mpr ⟨rfl, List.nil_prefix⟩
    · exact List.cons_prefix_cons.mpr ⟨rfl, ih⟩

end Through

/-- The interrupt is still to come in the turn with this number. -/
def Script.Ahead (script : Script) (index : Nat) : Prop :=
  ∀ i, script.interrupt = some i → index ≤ i.turn

theorem window_nil {α : Type} (script : Script) (index : Nat) :
    script.window index ([] : List α) = [] := by
  unfold Script.window
  split
  · rfl
  · exact List.take_nil

/-- An interrupt before the row. -/
theorem window_before {α : Type} {script : Script} {index : Nat}
    (h : script.interrupt = some ⟨index, false⟩) (entries : List α) :
    script.window index entries = [] := by
  simp only [Script.window, h, Interrupt.rows, Bool.false_eq_true, if_false, Nat.sub_self,
    List.take_zero]

/-- An interrupt behind it. -/
theorem window_after {α : Type} {script : Script} {index : Nat}
    (h : script.interrupt = some ⟨index, true⟩) (a : α) (entries : List α) :
    script.window index (a :: entries) = [a] := by
  simp only [Script.window, h, Interrupt.rows, if_true, Nat.add_sub_cancel_left, List.take_succ_cons,
    List.take_zero]

/-- An interrupt that is in neither place comes in a later turn. -/
theorem Script.Ahead.next {script : Script} {index : Nat} (h : script.Ahead index)
    (hbefore : script.interrupt ≠ some ⟨index, false⟩)
    (hafter : script.interrupt ≠ some ⟨index, true⟩) : script.Ahead (index + 1) := by
  intro i hi
  refine Nat.lt_of_le_of_ne (h i hi) fun hturn => ?_
  cases hrow : i.afterRow with
  | false => exact hbefore (hi.trans (by rw [hturn, ← hrow]))
  | true => exact hafter (hi.trans (by rw [hturn, ← hrow]))

/-- Then the turn is not cut. -/
theorem window_cons {α : Type} {script : Script} {index : Nat} (h : script.Ahead (index + 1)) (a : α)
    (entries : List α) :
    script.window index (a :: entries) = a :: script.window (index + 1) entries := by
  unfold Script.window
  split
  · rfl
  · rename_i i hi
    have hrows : i.rows - index = i.rows - (index + 1) + 1 := by
      have hturn : index + 1 ≤ i.turn := h i hi
      have hle : i.turn ≤ i.rows := by
        unfold Interrupt.rows
        split <;> omega
      omega
    rw [hrows, List.take_succ_cons]

/-- **What the sweep collects**: the rows before the interrupt, up to the first that stops it. -/
theorem sweepPairs_results (script : Script) (pairs : List (Int × Int)) (s : Sweep)
    (h : script.Ahead s.index) :
    (sweepPairs decimal script pairs s).2.results = s.results ++
      through script.stops (script.window s.index (rows decimal script s.index pairs)) := by
  induction pairs generalizing s with
  | nil =>
    rw [rows, window_nil]
    exact (List.append_nil _).symm
  | cons pair pairs ih =>
    rw [rows]
    unfold sweepPairs
    simp only
    split
    · rename_i hbefore
      rw [window_before hbefore]
      exact (List.append_nil _).symm
    · rename_i hbefore
      split
      · rename_i hafter
        rw [window_after hafter]
        unfold through
        split <;> rfl
      · rename_i hafter
        have hahead := h.next hbefore hafter
        rw [window_cons hahead]
        unfold through
        split
        · rfl
        · rw [ih _ hahead, List.append_assoc]
          rfl

/-- The rows of a run of the whole sweep. -/
theorem main_swept {script : Script} {motors targets : List Int}
    (hmotors : parseList decimal script.motors = some motors)
    (htargets : parseList decimal script.targets = some targets)
    (hautotune : script.autotuneExists = true) (hexe : script.exeExists = true) :
    main decimal script = .swept (through script.stops
      (script.window 0 (rows decimal script 0 (pairsOf motors targets)))) := by
  have hresults := @sweepPairs_results decimal script (pairsOf motors targets) ⟨0, []⟩
    fun i _ => Nat.zero_le _
  unfold main
  simp only [hmotors, htargets, hautotune, hexe, Bool.not_true, Bool.false_eq_true, if_false,
    outerLoop_eq, hresults, List.nil_append]

/-- All the rows are about the pairs, in their order. -/
theorem rows_pairs (script : Script) (index : Nat) (pairs : List (Int × Int)) :
    (rows decimal script index pairs).map (fun result => (result.motor, result.target)) = pairs := by
  induction pairs generalizing index with
  | nil => rfl
  | cons pair pairs ih =>
    obtain ⟨hmotor, htarget⟩ := @parseResult_pair decimal pair.1 pair.2
      (script.completed index).returnCode (script.completed index).stdout
    rw [rows, List.map_cons, ih, Script.row, hmotor, htarget]

/-- **No pair is left out in between or reported twice**: the rows of a sweep are about the head of
    the list of pairs. -/
theorem swept_pairs {script : Script} {motors targets : List Int} {results : List DirectionResult}
    (hmotors : parseList decimal script.motors = some motors)
    (htargets : parseList decimal script.targets = some targets)
    (h : main decimal script = .swept results) :
    results.map (fun result => (result.motor, result.target)) <+: pairsOf motors targets := by
  have hfound : script.autotuneExists = true ∧ script.exeExists = true := by
    unfold main at h
    rw [hmotors, htargets] at h
    cases hautotune : script.autotuneExists with
    | false =>
      rw [hautotune] at h
      cases h
    | true =>
      cases hexe : script.exeExists with
      | false =>
        rw [hautotune, hexe] at h
        cases h
      | true => exact ⟨rfl, rfl⟩
  rw [main_swept hmotors htargets hfound.1 hfound.2, Report.swept.injEq] at h
  have hwindow : script.window 0 (rows decimal script 0 (pairsOf motors targets)) <+:
      rows decimal script 0 (pairsOf motors targets) := by
    unfold Script.window
    split
    · exact List.prefix_refl _
    · exact List.take_prefix _ _
  have hmap := ((through_head script.stops _).trans hwindow).map
    fun result : DirectionResult => (result.motor, result.target)
  rw [h, rows_pairs] at hmap
  exact hmap

/-- The row of one pair. -/
theorem rows_getElem? (script : Script) (index k : Nat) (pairs : List (Int × Int)) :
    (rows decimal script index pairs)[k]? =
      pairs[k]?.map fun pair => script.row decimal (index + k) pair.1 pair.2 := by
  induction pairs generalizing index k with
  | nil => rfl
  | cons pair pairs ih =>
    rw [rows]
    cases k with
    | zero => rfl
    | succ k =>
      rw [List.getElem?_cons_succ, List.getElem?_cons_succ, ih, Nat.add_right_comm]
      rfl

/-! ## 7. The exit status -/

/-- The results have a PASS for every pair that was requested, and nothing else. -/
def Complete (pairs : List (Int × Int)) (results : List DirectionResult) : Prop :=
  (∀ pair ∈ pairs, ∃ result ∈ results,
    result.motor = pair.1 ∧ result.target = pair.2 ∧ result.status = .pass) ∧
  ∀ result ∈ results, result.status = .pass

variable (decimal) in
/-- The interrupt, if there is one, hides nothing: some search before it has not passed, or every
    pair has had its row before it. -/
def Script.HidesNothing (script : Script) (pairs : List (Int × Int)) : Prop :=
  ∀ i, script.interrupt = some i →
    (∃ k, k < i.rows ∧ k < pairs.length ∧
      outputStatus decimal (script.completed k).stdout ≠ .pass) ∨
    ∀ pair ∈ pairs, pair ∈ pairs.take i.rows

theorem stops_not_pass {script : Script} {result : DirectionResult}
    (h : script.stops result = true) : ¬ result.status = .pass := by
  intro hpass
  unfold Script.stops at h
  rw [hpass] at h
  cases h

theorem exitCode_swept {results : List DirectionResult} :
    (Report.swept results).exitCode = 0 ↔ ∀ result ∈ results, result.status = .pass := by
  have hall : (results.all fun result => decide (result.status = .pass)) = true ↔
      ∀ result ∈ results, result.status = .pass := by
    simp only [List.all_eq_true, decide_eq_true_eq]
  rw [← hall, Report.exitCode]
  cases results.all fun result => decide (result.status = .pass) with
  | false => exact iff_of_false Nat.one_ne_zero Bool.false_ne_true
  | true => exact iff_of_true rfl rfl

/-- A sweep is complete if all rows before the interrupt are PASS and are about all pairs. -/
theorem complete_through {script : Script} {pairs : List (Int × Int)}
    {entries : List DirectionResult} :
    Complete pairs (through script.stops entries) ↔
      (∀ result ∈ entries, result.status = .pass) ∧
        ∀ pair ∈ pairs, pair ∈ entries.map fun result => (result.motor, result.target) := by
  unfold Complete
  rw [forall_through fun _ => stops_not_pass, and_comm]
  refine and_congr_right fun hpass => ?_
  rw [through_eq_self (fun _ => stops_not_pass) hpass]
  refine forall₂_congr fun pair _ => ?_
  rw [List.mem_map]
  refine ⟨fun h => ?_, fun h => ?_⟩
  · obtain ⟨result, hmem, hmotor, htarget, _⟩ := h
    exact ⟨result, hmem, Prod.ext hmotor htarget⟩
  · obtain ⟨result, hmem, hpair⟩ := h
    exact ⟨result, hmem, congrArg Prod.fst hpair, congrArg Prod.snd hpair, hpass result hmem⟩

/-- Some row before an interrupt is not a PASS. -/
theorem exists_not_pass_iff {script : Script} {pairs : List (Int × Int)} {n : Nat} :
    (∃ result ∈ (rows decimal script 0 pairs).take n, result.status ≠ .pass) ↔
      ∃ k, k < n ∧ k < pairs.length ∧
        outputStatus decimal (script.completed k).stdout ≠ .pass := by
  have hstatus : ∀ k, ∀ pair : Int × Int, (script.row decimal (0 + k) pair.1 pair.2).status =
      outputStatus decimal (script.completed k).stdout := by
    intro k pair
    rw [Nat.zero_add]
    exact parseResult_status _ _ _ _
  refine ⟨fun h => ?_, fun h => ?_⟩
  · obtain ⟨result, hmem, hresult⟩ := h
    obtain ⟨k, hk⟩ := List.mem_iff_getElem?.mp hmem
    have hlt : k < n := by
      by_contra hge
      rw [List.getElem?_take_eq_none (Nat.not_lt.mp hge)] at hk
      cases hk
    rw [List.getElem?_take_of_lt hlt, rows_getElem?, Option.map_eq_some_iff] at hk
    obtain ⟨pair, hpair, rfl⟩ := hk
    obtain ⟨hlen, _⟩ := List.getElem?_eq_some_iff.mp hpair
    rw [hstatus] at hresult
    exact ⟨k, hlt, hlen, hresult⟩
  · obtain ⟨k, hlt, hlen, hresult⟩ := h
    refine ⟨script.row decimal (0 + k) pairs[k].1 pairs[k].2, ?_, ?_⟩
    · refine List.mem_iff_getElem?.mpr ⟨k, ?_⟩
      rw [List.getElem?_take_of_lt hlt, rows_getElem?, List.getElem?_eq_getElem hlen]
      rfl
    · rw [hstatus]
      exact hresult

/-- What the interrupt hides, as a question on the rows before it. -/
theorem hidesNothing_iff {script : Script} {pairs : List (Int × Int)} {i : Interrupt}
    (h : script.interrupt = some i) :
    script.HidesNothing decimal pairs ↔
      ((∀ result ∈ (rows decimal script 0 pairs).take i.rows, result.status = .pass) →
        ∀ pair ∈ pairs, pair ∈ pairs.take i.rows) := by
  have hnot : (∃ result ∈ (rows decimal script 0 pairs).take i.rows, result.status ≠ .pass) ↔
      ¬ ∀ result ∈ (rows decimal script 0 pairs).take i.rows, result.status = .pass := by
    simp only [not_forall, ne_eq, exists_prop]
  rw [imp_iff_not_or, ← hnot, exists_not_pass_iff]
  refine ⟨fun hhides => ?_, fun hcases j hj => ?_⟩
  · exact hhides i h
  · have hij : i = j := Option.some.inj (h.symm.trans hj)
    rw [← hij]
    exact hcases

/-- **The exit status tells whether the sweep is complete** exactly if the interrupt hides
    nothing. -/
theorem exit_iff_complete {script : Script} {motors targets : List Int}
    (hmotors : parseList decimal script.motors = some motors)
    (htargets : parseList decimal script.targets = some targets)
    (hautotune : script.autotuneExists = true) (hexe : script.exeExists = true) :
    ∃ results, main decimal script = .swept results ∧
      (((main decimal script).exitCode = 0 ↔ Complete (pairsOf motors targets) results) ↔
        script.HidesNothing decimal (pairsOf motors targets)) := by
  refine ⟨_, main_swept hmotors htargets hautotune hexe, ?_⟩
  rw [main_swept hmotors htargets hautotune hexe, exitCode_swept,
    forall_through fun _ => stops_not_pass, complete_through, iff_self_and]
  generalize pairsOf motors targets = pairs
  have hpairs := @rows_pairs decimal script 0 pairs
  cases hpoint : script.interrupt with
  | none =>
    have hwindow : script.window 0 (rows decimal script 0 pairs) = rows decimal script 0 pairs := by
      rw [Script.window, hpoint]
    rw [hwindow, hpairs]
    refine iff_of_true (fun _ _ hpair => hpair) fun i hi => ?_
    rw [hpoint] at hi
    cases hi
  | some i =>
    have hwindow : script.window 0 (rows decimal script 0 pairs) =
        (rows decimal script 0 pairs).take i.rows := by
      rw [Script.window, hpoint]
      rfl
    rw [hwindow, List.map_take, hpairs, hidesNothing_iff hpoint]

end Script

/-! ## 8. Two runs -/

/-- The digits of ASCII. -/
def asciiDecimal (c : Char) : Option Nat := if c.isDigit then some (c.toNat - '0'.toNat) else none

/-- Two motors, one target, and searches that all end with a recommendation. -/
def passingRun (interrupt : Option Interrupt) : Script where
  motors := "1,2".toList
  targets := "300".toList
  keepGoing := false
  autotuneExists := true
  exeExists := true
  completed _ := ⟨0, "PASS\nRecommended: kp=2.000 ki=0.300 kd=0.000\n".toList⟩
  interrupt := interrupt

/-- Left alone it is complete. -/
theorem exit_iff_complete_passing :
    ∃ results, main asciiDecimal (passingRun none) = .swept results ∧
      (((main asciiDecimal (passingRun none)).exitCode = 0 ↔ Complete (pairsOf [1, 2] [300]) results) ↔
        (passingRun none).HidesNothing asciiDecimal (pairsOf [1, 2] [300])) :=
  exit_iff_complete (by decide) (by decide) rfl rfl

/-- Interrupted in its first search it has no row, and exits with 0. -/
theorem interrupted_exits_zero :
    ∃ results, main asciiDecimal (passingRun (some ⟨0, false⟩)) = .swept results ∧
      (main asciiDecimal (passingRun (some ⟨0, false⟩))).exitCode = 0 ∧
      ¬ Complete (pairsOf [1, 2] [300]) results := by
  refine ⟨[], rfl, rfl, fun hcomplete => ?_⟩
  obtain ⟨result, hmem, _⟩ := hcomplete.1 (1, 300) (by decide)
  cases hmem

end BatchAutotune

end Rk3588Chassis
