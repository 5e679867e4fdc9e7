/-
  File:      Rk3588Chassis/TimedMotion.lean
  Subject:   The two tools that drive the chassis for a given time (`tools/chassis_velocity.c`,
             `tools/test_chassis_command.c`).

  Both are one program but for the arguments that give the command: wait for the motors, set the
  command anew in every turn of a loop, send four zeros twenty times. The loop ends when the
  elapsed time, narrowed to `int`, has reached `duration_ms`. Their siblings `test_speed_pid` and
  `test_single_motor` compare 64 bits (`durationOver64`).

  The narrow test never fires early (`durationOver_neverEarly`). It misses the deadline where the
  first reading past it lies so far past it that the low 32 bits show less than the duration, or a
  negative number: `ends_on_time_iff`.
-/
import Rk3588Chassis.CommandLine
import Rk3588Chassis.Library.Deadline
import Rk3588Chassis.WayOut

set_option linter.unusedSectionVars false

namespace Rk3588Chassis

open CFloat Deadline

/-! ## 1. The test of the loop -/

/-- `(int)(now - start_ms)`: the low 32 bits, as a signed number. -/
def elapsedInt (startMs nowMs : UInt64) : Int32 := (nowMs - startMs).toUInt32.toInt32

/-- `elapsed_ms >= duration_ms`. -/
def durationOver (startMs : UInt64) (durationMs : Int32) (nowMs : UInt64) : Bool :=
  decide (durationMs ≤ elapsedInt startMs nowMs)

/-- `(now - start_ms) >= (uint64_t)duration_ms`, in `test_speed_pid` and `test_single_motor`. -/
def durationOver64 (startMs : UInt64) (durationMs : Int32) (nowMs : UInt64) : Bool :=
  decide (durationMs.toInt64.toUInt64 ≤ nowMs - startMs)

/-- The reading is at least `start_ms + duration_ms`, without overflow. -/
def pastDeadline (startMs : UInt64) (durationMs : Int32) (nowMs : UInt64) : Bool :=
  decide ((startMs.toNat : Int) + durationMs.toInt ≤ nowMs.toNat)

/-- The low 32 bits of the elapsed time show that the duration is over. -/
def ShowsOver (startMs : UInt64) (durationMs : Int32) (nowMs : UInt64) : Prop :=
  durationMs.toInt ≤ ((nowMs.toNat - startMs.toNat) % 2 ^ 32 : Nat) ∧
    (nowMs.toNat - startMs.toNat) % 2 ^ 32 < 2 ^ 31

/-- The elapsed time of a clock that does not run backwards. -/
theorem elapsed_toNat {startMs nowMs : UInt64} (h : startMs ≤ nowMs) :
    (nowMs - startMs).toNat = nowMs.toNat - startMs.toNat := UInt64.toNat_sub_of_le _ _ h

/-- What the narrowing leaves of it. -/
theorem elapsedInt_toInt {startMs nowMs : UInt64} (h : startMs ≤ nowMs) :
    (elapsedInt startMs nowMs).toInt =
      (((nowMs.toNat - startMs.toNat) % 2 ^ 32 : Nat) : Int).bmod (2 ^ 32) := by
  have hlow : (nowMs - startMs).toUInt32.toNat = (nowMs.toNat - startMs.toNat) % 2 ^ 32 := by
    rw [UInt64.toNat_toUInt32, elapsed_toNat h]
  rw [← hlow]
  exact BitVec.toInt_eq_toNat_bmod _

/-- **The narrow test fires where the low bits show it.** -/
theorem durationOver_iff {startMs nowMs : UInt64} {durationMs : Int32} (h : startMs ≤ nowMs)
    (hpos : 0 < durationMs) :
    durationOver startMs durationMs nowMs = true ↔ ShowsOver startMs durationMs nowMs := by
  have hd : 0 < durationMs.toInt := Int32.lt_iff_toInt_lt.mp hpos
  have hmod := Nat.mod_lt (nowMs.toNat - startMs.toNat) (Nat.two_pow_pos 32)
  unfold ShowsOver durationOver
  rw [decide_eq_true_iff, Int32.le_iff_toInt_le, elapsedInt_toInt h, Int.bmod_def]
  generalize (nowMs.toNat - startMs.toNat) % 2 ^ 32 = low at hmod ⊢
  split <;> omega

/-- **The wide test fires exactly past the deadline.** -/
theorem durationOver64_eq {startMs nowMs : UInt64} {durationMs : Int32} (h : startMs ≤ nowMs)
    (hpos : 0 < durationMs) :
    durationOver64 startMs durationMs nowMs = pastDeadline startMs durationMs nowMs := by
  have hd : 0 < durationMs.toInt := Int32.lt_iff_toInt_lt.mp hpos
  have hle : startMs.toNat ≤ nowMs.toNat := UInt64.le_iff_toNat_le.mp h
  have hnonneg : 0 ≤ durationMs.toInt64 := by
    rw [Int64.le_iff_toInt_le, Int32.toInt_toInt64]
    exact hd.le
  have hwide : durationMs.toInt64.toUInt64.toNat = durationMs.toInt.toNat := by
    rw [Int64.toNat_toUInt64_of_le hnonneg]
    exact congrArg Int.toNat (Int32.toInt_toInt64 durationMs)
  unfold durationOver64 pastDeadline
  rw [decide_eq_decide, UInt64.le_iff_toNat_le, hwide, elapsed_toNat h]
  omega

/-- Short of the deadline the narrow test is quiet: nothing is lost from so small a number. -/
theorem durationOver_late {startMs nowMs : UInt64} {durationMs : Int32} (h : startMs ≤ nowMs)
    (hpos : 0 < durationMs) (hover : durationOver startMs durationMs nowMs = true) :
    pastDeadline startMs durationMs nowMs = true := by
  have hshows := (durationOver_iff h hpos).mp hover
  have hle : startMs.toNat ≤ nowMs.toNat := UInt64.le_iff_toNat_le.mp h
  have hmod := Nat.mod_le (nowMs.toNat - startMs.toNat) (2 ^ 32)
  unfold pastDeadline
  rw [decide_eq_true_iff]
  have hlow := hshows.1
  omega

section Tools

variable {F : Type} [Zero F] [Neg F] [Add F] [Sub F] [Mul F] [Div F] [LT F] [LE F] [BEq F]
  [DecidableLT F] [DecidableLE F] [CFloat F]

/-! ## 2. What the two tools share -/

namespace MotionTool

/-- What `main` takes from its arguments. -/
structure Options (F : Type) where
  config : ChassisConfig F
  command : ChassisCommand F
  durationMs : Int32

/-- One turn of `drain_feedback`, on a frame that was pending. -/
def drainFrame (controller : ChassisController F) (frame : CanFrame) (stampMs : UInt64) :
    ChassisController F :=
  match receiveFeedback frame stampMs with
  | none => controller
  | some feedback => chassisUpdateFeedback controller feedback

/-- `drain_feedback`: every pending frame, with the clock reading taken for it. -/
def drainFeedback (controller : ChassisController F) (pending : List (CanFrame × UInt64)) :
    ChassisController F :=
  pending.foldl (fun c f => drainFrame c f.1 f.2) controller

theorem drainFrame_daemon (c : ChassisController F) (stats : DaemonStats) (frame : CanFrame)
    (stampMs : UInt64) :
    (Rk3588Chassis.drainFrame c stats frame stampMs).1 = drainFrame c frame stampMs := by
  unfold Rk3588Chassis.drainFrame drainFrame
  cases receiveFeedback frame stampMs with
  | none => rfl
  | some feedback => rfl

/-- **It is the drain of the daemon**, without the counting. -/
theorem drainFeedback_daemon (c : ChassisController F) (stats : DaemonStats)
    (pending : List (CanFrame × UInt64)) :
    (Rk3588Chassis.drainFeedback c stats pending).1 = drainFeedback c pending := by
  unfold Rk3588Chassis.drainFeedback drainFeedback
  induction pending generalizing c stats with
  | nil => rfl
  | cons f pending ih =>
    rw [List.foldl_cons, List.foldl_cons, ← drainFrame_daemon c stats]
    exact ih _ _

/-- `wait_for_all_feedback`; `none` as long as it has not returned. -/
def waitForAllFeedback (timeoutMs startMs : UInt64) (controller : ChassisController F) :
    List WaitPoll → Option (Bool × ChassisController F)
  | [] => none
  | poll :: polls =>
    if timeoutMs ≤ poll.testMs - startMs then some (false, controller)
    else
      let controller := drainFeedback controller poll.frames
      if chassisFeedbackAllOnline controller poll.onlineMs then some (true, controller)
      else waitForAllFeedback timeoutMs startMs controller polls

/-- What the loop carries from turn to turn. -/
structure State (F : Type) where
  controller : ChassisController F
  lastLoopMs : UInt64

/-- What the environment decides in one turn of the loop. -/
structure Input where
  nowMs : UInt64
  frames : List (CanFrame × UInt64)
  canWriteOk : Bool

/-- One turn of the main loop behind its test, up to the frame it hands to `socketcan_send`. -/
def controlTurn (command : ChassisCommand F) (s : State F) (input : Input) : State F × CanFrame :=
  let commanded := chassisSetCommand s.controller command.forward command.strafe command.rotate
    input.nowMs
  let received := drainFeedback commanded input.frames
  let dtS := floatMs (input.nowMs - s.lastLoopMs) / ofRat 1000
  let (controller, result) := chassisStep received input.nowMs dtS
  let currents : Slot → Int16 := if !result.ret then fun _ => 0 else result.currents
  (⟨controller, input.nowMs⟩, currentFrame currents)

/-- The loop as the clock sees it. -/
def controlLoop (command : ChassisCommand F) : Loop (State F) Input CanFrame where
  step := controlTurn command
  delivered input := input.canWriteOk

/-- `while (g_running)`, with the test at its head as a parameter. -/
def mainLoop (test : UInt64 → Int32 → UInt64 → Bool) (options : Options F) (startMs : UInt64)
    (s : State F) (turns : List (Option Input)) : Run Input CanFrame :=
  (controlLoop options.command).run (fun input => test startMs options.durationMs input.nowMs) s turns

/-- A turn whose test is quiet hands a frame to `socketcan_send`. -/
theorem mainLoop_works {test : UInt64 → Int32 → UInt64 → Bool} {options : Options F}
    {startMs : UInt64} {input : Input} (h : test startMs options.durationMs input.nowMs = false)
    (s : State F) (turns : List (Option Input)) :
    (input, (controlTurn options.command s input).2) ∈
      (mainLoop test options startMs s (some input :: turns)).sent :=
  @Loop.run_works _ _ _ (controlLoop options.command)
    (fun i => test startMs options.durationMs i.nowMs) input h s turns

/-- What the environment decides in a run of either tool. -/
structure Script (F : Type) where
  argv : List CString
  canOpens : Bool
  memory : ChassisController F
  initMs : UInt64
  waitMs : UInt64
  polls : List WaitPoll
  startMs : UInt64
  turns : List (Option Input)

/-- `main` behind the argument checks: the exit code, and what was done on the CAN socket; `none`
    where the script ends before it has returned. -/
def main (parseOptions : List CString → Option (Options F)) (script : Script F) :
    Option (Nat × List BusEvent) :=
  match parseOptions script.argv with
  | none => some (2, [])
  | some options =>
    if !script.canOpens then some (1, [])
    else
      match waitForAllFeedback 1500 script.waitMs
        (chassisInit script.memory options.config script.initMs) script.polls with
      | none => none
      | some (false, _) => some (1, sendZeroCurrent ++ [.closeCan])
      | some (true, controller) =>
        let run := mainLoop durationOver options script.startMs ⟨controller, script.startMs⟩
          script.turns
        match run.ending with
        | .running => none
        | _ => some (0, run.sent.map (fun p => .attempt p.2) ++ sendZeroCurrent ++ [.closeCan])

/-- **Every way out leaves the motors without current**, as in the daemon. -/
theorem main_endsStill {parseOptions : List CString → Option (Options F)} {script : Script F}
    {code : Nat} {trace : List BusEvent} (h : main parseOptions script = some (code, trace)) :
    trace = [] ∨ EndsStill trace := by
  have hburst : ∀ sent : List (Input × CanFrame), EndsStill
      (sent.map (fun p => .attempt p.2) ++ sendZeroCurrent ++ [.closeCan]) := fun sent => by
    have hattempts := endsStill_of_burst (Nat.le_refl 20) (sent.map Prod.snd)
    rw [List.map_map] at hattempts
    exact hattempts
  unfold main at h
  split at h
  · cases h
    exact Or.inl rfl
  · split_ifs at h
    · cases h
      exact Or.inl rfl
    · split at h
      · cases h
      · cases h
        exact Or.inr (hburst [])
      · simp only at h
        split at h
        · cases h
        · cases h
          exact Or.inr (hburst _)

end MotionTool

/-! ## 3. The arguments -/

namespace ChassisVelocity

/-- The argument checks of `main`: `none` where it prints and returns 2. -/
def parseOptions (strtof : CString → F × Nat) (strtol : CString → Int64 × Nat)
    (argv : List CString) : Option (MotionTool.Options F) := do
  guard (argv.length = 6 ∨ argv.length = 8)
  let forward ← argv[2]? >>= parseFloatArg strtof
  let strafe ← argv[3]? >>= parseFloatArg strtof
  let rotate ← argv[4]? >>= parseFloatArg strtof
  let durationMs ← argv[5]? >>= parseIntArg strtol
  guard (¬ durationMs ≤ 0)
  let maxTranslateRpm ← optionalArg (parseFloatArg strtof)
    (chassisDefaultConfig : ChassisConfig F).maxTranslateRpm argv[6]?
  let maxRotateRpm ← optionalArg (parseFloatArg strtof)
    (chassisDefaultConfig : ChassisConfig F).maxRotateRpm argv[7]?
  return {
    config := daemonConfig maxTranslateRpm maxRotateRpm
    command := ⟨clampFloat forward (-ofRat 1) (ofRat 1), clampFloat strafe (-ofRat 1) (ofRat 1),
      clampFloat rotate (-ofRat 1) (ofRat 1)⟩
    durationMs := durationMs }

/-- The main loop. -/
def mainLoop (options : MotionTool.Options F) (startMs : UInt64) (s : MotionTool.State F)
    (turns : List (Option MotionTool.Input)) : Run MotionTool.Input CanFrame :=
  MotionTool.mainLoop durationOver options startMs s turns

/-- `main`. -/
def main (strtof : CString → F × Nat) (strtol : CString → Int64 × Nat)
    (script : MotionTool.Script F) : Option (Nat × List BusEvent) :=
  MotionTool.main (parseOptions strtof strtol) script

end ChassisVelocity

namespace TestChassisCommand

/-- `command_from_direction`. -/
def commandFromDirection (direction : CString) (scale : F) : Option (ChassisCommand F) :=
  if direction = cstring "forward" ∨ direction = cstring "fwd" then some ⟨scale, 0, 0⟩
  else if direction = cstring "back" ∨ direction = cstring "backward" then some ⟨-scale, 0, 0⟩
  else if direction = cstring "left" then some ⟨0, -scale, 0⟩
  else if direction = cstring "right" then some ⟨0, scale, 0⟩
  else if direction = cstring "rotate-left" ∨ direction = cstring "ccw" then some ⟨0, 0, scale⟩
  else if direction = cstring "rotate-right" ∨ direction = cstring "cw" then some ⟨0, 0, -scale⟩
  else if direction = cstring "stop" then some ⟨0, 0, 0⟩
  else none

/-- The argument checks of `main`: `none` where it prints and returns 2. -/
def parseOptions (strtof : CString → F × Nat) (strtol : CString → Int64 × Nat)
    (argv : List CString) : Option (MotionTool.Options F) := do
  guard (argv.length = 5 ∨ argv.length = 7)
  let scale ← argv[3]? >>= parseFloatArg strtof
  let durationMs ← argv[4]? >>= parseIntArg strtol
  guard (¬ durationMs ≤ 0)
  let direction ← argv[2]?
  let command ← commandFromDirection direction (clampFloat scale (ofRat 0) (ofRat 1))
  let maxTranslateRpm ← optionalArg (parseFloatArg strtof)
    (chassisDefaultConfig : ChassisConfig F).maxTranslateRpm argv[5]?
  let maxRotateRpm ← optionalArg (parseFloatArg strtof)
    (chassisDefaultConfig : ChassisConfig F).maxRotateRpm argv[6]?
  return {
    config := daemonConfig maxTranslateRpm maxRotateRpm
    command := command
    durationMs := durationMs }

/-- The main loop. -/
def mainLoop (options : MotionTool.Options F) (startMs : UInt64) (s : MotionTool.State F)
    (turns : List (Option MotionTool.Input)) : Run MotionTool.Input CanFrame :=
  MotionTool.mainLoop durationOver options startMs s turns

/-- `main`. -/
def main (strtof : CString → F × Nat) (strtol : CString → Int64 × Nat)
    (script : MotionTool.Script F) : Option (Nat × List BusEvent) :=
  MotionTool.main (parseOptions strtof strtol) script

end TestChassisCommand

/-- The two of them. -/
inductive TimedTool where
  | chassisVelocity
  | testChassisCommand

/-- What each takes from its arguments. -/
def TimedTool.parseOptions (strtof : CString → F × Nat) (strtol : CString → Int64 × Nat) :
    TimedTool → List CString → Option (MotionTool.Options F)
  | .chassisVelocity => ChassisVelocity.parseOptions strtof strtol
  | .testChassisCommand => TestChassisCommand.parseOptions strtof strtol

/-- The loop of each. -/
def TimedTool.mainLoop : TimedTool → MotionTool.Options F → UInt64 → MotionTool.State F →
    List (Option MotionTool.Input) → Run MotionTool.Input CanFrame
  | .chassisVelocity => ChassisVelocity.mainLoop
  | .testChassisCommand => TestChassisCommand.mainLoop

/-- **An accepted duration is positive.** -/
theorem TimedTool.duration_pos {strtof : CString → F × Nat} {strtol : CString → Int64 × Nat}
    {tool : TimedTool} {argv : List CString} {options : MotionTool.Options F}
    (h : tool.parseOptions strtof strtol argv = some options) : 0 < options.durationMs := by
  have hpos : ∀ d : Int32, ¬ d ≤ 0 → 0 < d := fun d hd => Int32.not_le.mp hd
  cases tool with
  | chassisVelocity =>
    simp only [TimedTool.parseOptions, ChassisVelocity.parseOptions, bind, Option.bind_eq_some_iff,
      Option.guard_eq_some'] at h
    obtain ⟨_, _, _, _, _, _, _, _, durationMs, _, _, hguard, _, _, _, _, heq⟩ := h
    cases heq
    exact hpos _ hguard
  | testChassisCommand =>
    simp only [TimedTool.parseOptions, TestChassisCommand.parseOptions, bind,
      Option.bind_eq_some_iff, Option.guard_eq_some'] at h
    obtain ⟨_, _, _, _, durationMs, _, _, hguard, _, _, _, _, _, _, _, _, heq⟩ := h
    cases heq
    exact hpos _ hguard

/-! ## 4. On time -/

/-- The first reading past the deadline that the loop gets to. -/
def FirstPast (startMs : UInt64) (durationMs : Int32) (turns : List (Option MotionTool.Input))
    (input : MotionTool.Input) : Prop :=
  FirstLate (fun i : MotionTool.Input => i.canWriteOk)
    (fun i => pastDeadline startMs durationMs i.nowMs) turns input

/-- A run of the loop that ends on time: no frame is sent in a turn past the deadline, the loop
    leaves at the first reading past it, and all in all it runs as with the test of 64 bits. -/
structure EndsOnTime (options : MotionTool.Options F) (startMs : UInt64) (s : MotionTool.State F)
    (turns : List (Option MotionTool.Input)) (run : Run MotionTool.Input CanFrame) : Prop where
  no_late_frame : ∀ p ∈ run.sent, pastDeadline startMs options.durationMs p.1.nowMs = false
  leaves : ∀ input, FirstPast startMs options.durationMs turns input → run.ending = .expired input
  as_wide : run = MotionTool.mainLoop durationOver64 options startMs s turns

/-- On a clock that does not run backwards the narrow test fires past the deadline only. -/
theorem durationOver_neverEarly {startMs : UInt64} {durationMs : Int32} (hpos : 0 < durationMs)
    {turns : List (Option MotionTool.Input)}
    (hclock : ∀ input, some input ∈ turns → startMs ≤ input.nowMs) :
    NeverEarly (fun i : MotionTool.Input => durationOver startMs durationMs i.nowMs)
      (fun i => pastDeadline startMs durationMs i.nowMs) turns :=
  fun i hi => durationOver_late (hclock i hi) hpos

/-- And the wide test runs as the exact one. -/
theorem mainLoop_wide {options : MotionTool.Options F} {startMs : UInt64}
    (hpos : 0 < options.durationMs) {turns : List (Option MotionTool.Input)}
    (hclock : ∀ input, some input ∈ turns → startMs ≤ input.nowMs) (s : MotionTool.State F) :
    MotionTool.mainLoop durationOver64 options startMs s turns =
      MotionTool.mainLoop pastDeadline options startMs s turns :=
  Loop.run_congr s fun i hi => durationOver64_eq (hclock i hi) hpos

/-- Both tools run the narrow test. -/
theorem TimedTool.mainLoop_narrow (tool : TimedTool) (options : MotionTool.Options F)
    (startMs : UInt64) (s : MotionTool.State F) (turns : List (Option MotionTool.Input)) :
    tool.mainLoop options startMs s turns =
      MotionTool.mainLoop durationOver options startMs s turns := by
  cases tool with
  | chassisVelocity => rfl
  | testChassisCommand => rfl

/-- **When a timed motion ends on time**: exactly if the first reading past the deadline that the
    loop gets to shows it in its low 32 bits. The clock does not run backwards. -/
theorem ends_on_time_iff (strtof : CString → F × Nat) (strtol : CString → Int64 × Nat)
    (tool : TimedTool) {argv : List CString} {options : MotionTool.Options F}
    (haccepted : tool.parseOptions strtof strtol argv = some options) {startMs : UInt64}
    {turns : List (Option MotionTool.Input)}
    (hclock : ∀ input, some input ∈ turns → startMs ≤ input.nowMs) (s : MotionTool.State F) :
    EndsOnTime options startMs s turns (tool.mainLoop options startMs s turns) ↔
      ∀ input, FirstPast startMs options.durationMs turns input →
        ShowsOver startMs options.durationMs input.nowMs := by
  have hpos := TimedTool.duration_pos haccepted
  have hearly := durationOver_neverEarly hpos hclock
  have hfires : (∀ input, FirstPast startMs options.durationMs turns input →
      ShowsOver startMs options.durationMs input.nowMs) ↔
      ∀ input, FirstPast startMs options.durationMs turns input →
        durationOver startMs options.durationMs input.nowMs = true :=
    forall₂_congr fun input h => (durationOver_iff (hclock input h.mem) hpos).symm
  rw [tool.mainLoop_narrow, hfires]
  constructor
  · intro h
    exact (Loop.on_time_iff hearly s).mp h.no_late_frame
  · intro h
    have hrun : MotionTool.mainLoop durationOver options startMs s turns =
        MotionTool.mainLoop pastDeadline options startMs s turns := Loop.run_eq_of_fires s hearly h
    refine ⟨(Loop.on_time_iff hearly s).mpr h, fun input hinput => ?_,
      hrun.trans (mainLoop_wide hpos hclock s).symm⟩
    rw [hrun]
    have hfirst : FirstLate (MotionTool.controlLoop options.command).delivered
      (fun i => pastDeadline startMs options.durationMs i.nowMs) turns input := hinput
    exact Loop.run_expires hfirst s

end Tools

/-- The arguments of a short drive: three axes and a duration. -/
def driveArgs (durationMs : String) : List CString :=
  ["chassis_velocity", "can0", "0.4", "0.0", "-0.1", durationMs].map cstring

/-- A turn in which nothing was pending. -/
def quietTurn (nowMs : UInt64) : Option MotionTool.Input := some ⟨nowMs, [], true⟩

/-- Two seconds with an overrun of a few milliseconds. -/
theorem two_seconds_on_time : ∃ options : MotionTool.Options ℚ,
    ChassisVelocity.parseOptions (CText.strtof finitePart) CText.strtol (driveArgs "2000") =
      some options ∧
    ∀ s, EndsOnTime options 1000 s [quietTurn 1010, quietTurn 3004]
      (ChassisVelocity.mainLoop options 1000 s [quietTurn 1010, quietTurn 3004]) := by
  have hduration : (ChassisVelocity.parseOptions (CText.strtof finitePart) CText.strtol
      (driveArgs "2000")).map (fun o => o.durationMs) = some 2000 := by decide +kernel
  obtain ⟨options, hoptions, hd⟩ := Option.map_eq_some_iff.mp hduration
  refine ⟨options, hoptions, fun s => ?_⟩
  have hclock : ∀ input, some input ∈ [quietTurn 1010, quietTurn 3004] →
      (1000 : UInt64) ≤ input.nowMs := by
    intro input hinput
    rcases List.mem_pair.mp hinput with h | h
    · cases h
      decide
    · cases h
      decide
  refine (ends_on_time_iff _ _ .chassisVelocity hoptions hclock s).mpr fun input hinput => ?_
  rw [hd] at hinput ⊢
  cases hinput with
  | here h => exact absurd h (by decide)
  | later _ _ h =>
    cases h with
    | here h => exact ⟨by decide, by decide⟩
    | later h => exact absurd h (by decide)

/-- The first turn of a process that was stopped for `2^32` ms, less than fifty days. -/
def resumed : MotionTool.Input := ⟨1000 + 0x100000000, [], true⟩

/-- **A stalled process drives on**: resumed `2^32` ms after the start, with a duration of one
    second, it sends a frame. -/
theorem stalled_process_drives : ∃ options : MotionTool.Options ℚ,
    ChassisVelocity.parseOptions (CText.strtof finitePart) CText.strtol (driveArgs "1000") =
      some options ∧
    ∀ s, ¬ EndsOnTime options 1000 s [some resumed]
      (ChassisVelocity.mainLoop options 1000 s [some resumed]) := by
  have hduration : (ChassisVelocity.parseOptions (CText.strtof finitePart) CText.strtol
      (driveArgs "1000")).map (fun o => o.durationMs) = some 1000 := by decide +kernel
  obtain ⟨options, hoptions, hd⟩ := Option.map_eq_some_iff.mp hduration
  refine ⟨options, hoptions, fun s hontime => ?_⟩
  have hquiet : durationOver 1000 options.durationMs resumed.nowMs = false := by
    rw [hd]
    decide
  have hlate : pastDeadline 1000 options.durationMs resumed.nowMs = false :=
    hontime.no_late_frame _ (MotionTool.mainLoop_works hquiet s [])
  rw [hd] at hlate
  exact absurd hlate (by decide)

end Rk3588Chassis
