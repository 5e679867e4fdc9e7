/-
  File:      Rk3588Chassis/SpeedTest.lean
  Subject:   The speed regulator of one motor (`tools/test_speed_pid.c`): wait for the motor, run a
             PID on its speed for a given time, send ten zeros.

  A turn of the loop works only past two tests, the deadline and the age of the newest feedback. So
  what it sends depends on the frames of the motor that were heard, and on the turns before it.

  * `controlTurn_works` -- what a turn does;
  * `mainLoop_turns` -- what holds of a turn if it holds of any turn behind a state that has come
    about that way;
  * `speed_test_regulates` -- every frame carries the regulator's answer to the newest speeds, for the
    one motor, within the limits, and in time;
  * `samples_spaced` -- and the lines that are printed are 100 ms apart.

  The arithmetic is a parameter, as in Control.lean; only the last step, that the current is within
  the limits, asks of it that the cast keeps them (`truncatesWithin_rat`).
-/
import Rk3588Chassis.Autotune
import Rk3588Chassis.IntegerArgs
import Rk3588Chassis.Library.Throttle
import Rk3588Chassis.PidRun

set_option linter.unusedSectionVars false

namespace Rk3588Chassis

open CFloat Reactive Rounding Store

namespace SpeedTest

open TestSingleMotor (Input)

/-- `(int)x` of a float; where C leaves it open, it is whatever the machine does. -/
class CTrunc (F : Type) where
  trunc : F → Int

/-- Of a rational, it cuts off what is behind the point. -/
instance : CTrunc ℚ := ⟨Autotune.truncate⟩

open CTrunc

variable {F : Type} [Zero F] [Neg F] [Add F] [Sub F] [Mul F] [Div F] [LT F] [LE F] [BEq F]
  [DecidableLT F] [DecidableLE F] [CFloat F] [CTrunc F]

/-! ## 1. The arguments -/

/-- `DEFAULT_PERIOD_MS`. -/
def defaultPeriodMs : Int32 := 10

/-- `DEFAULT_KP`. -/
def defaultKp : F := ofRat 1.8

/-- `DEFAULT_KI`. -/
def defaultKi : F := ofRat 0

/-- `DEFAULT_KD`. -/
def defaultKd : F := ofRat 0

/-- `DEFAULT_OUTPUT_LIMIT`. -/
def defaultOutputLimit : F := ofRat 6500

/-- `DEFAULT_INTEGRAL_LIMIT`. -/
def defaultIntegralLimit : F := ofRat 2500

/-- `DEFAULT_TARGET_LIMIT_RPM`. -/
def defaultTargetLimitRpm : Int32 := 3800

/-- What `main` takes from its arguments. -/
structure Options (F : Type) where
  motorId : Int32
  targetRpm : Int32
  durationMs : Int32
  periodMs : Int32
  kp : F
  ki : F
  kd : F

/-- The argument checks of `main`: `none` where it prints and returns 2. -/
def parseOptions (strtof : CString → F × Nat) (strtol : CString → Int64 × Nat)
    (argv : List CString) : Option (Options F) := do
  guard (argv.length = 5 ∨ argv.length = 8 ∨ argv.length = 9)
  let motorId ← argv[2]? >>= parseInt strtol
  let targetRpm ← argv[3]? >>= parseInt strtol
  let durationMs ← argv[4]? >>= parseInt strtol
  let kp ← optionalArg (parseFloatArg strtof) defaultKp argv[5]?
  let ki ← optionalArg (parseFloatArg strtof) defaultKi argv[6]?
  let kd ← optionalArg (parseFloatArg strtof) defaultKd argv[7]?
  let periodMs ← optionalArg (parseInt strtol) defaultPeriodMs argv[8]?
  guard (¬ (motorId < 1 ∨ 4 < motorId))
  guard (¬ (targetRpm < -defaultTargetLimitRpm ∨ defaultTargetLimitRpm < targetRpm))
  guard (¬ (durationMs ≤ 0 ∨ periodMs ≤ 0))
  return ⟨motorId, targetRpm, durationMs, periodMs, kp, ki, kd⟩

/-- The slot of the motor under test; only used behind the test `1 <= motor_id <= 4`. -/
def Options.motor (options : Options F) : Slot := Fin.ofNat 5 options.motorId.toInt.toNat

/-- `pid_init`, on whatever the memory holds. -/
def Options.pid (options : Options F) (memory : PIDController F) : PIDController F :=
  pidInit memory options.kp options.ki options.kd defaultOutputLimit (-defaultOutputLimit)
    defaultIntegralLimit (-defaultIntegralLimit)

/-! ## 2. The wait -/

/-- One turn of `wait_for_motor_feedback`: the reading of its test, that of its drain, and the frames
    that are pending. -/
structure Poll where
  testMs : UInt64
  nowMs : UInt64
  frames : List CanFrame

/-- `wait_for_motor_feedback`; `none` as long as it has not returned. -/
def waitForMotorFeedback (motor : Slot) (timeoutMs startMs : UInt64)
    (feedbacks : Slot → Motor3508Feedback) : List Poll → Option (Bool × (Slot → Motor3508Feedback))
  | [] => none
  | poll :: polls =>
    if timeoutMs ≤ poll.testMs - startMs then some (false, feedbacks)
    else
      let feedbacks := TestSingleMotor.drainFeedback feedbacks poll.frames poll.nowMs
      if (feedbacks motor).online ≠ 0 then some (true, feedbacks)
      else waitForMotorFeedback motor timeoutMs startMs feedbacks polls

/-! ## 3. The loop -/

/-- What the loop carries from turn to turn. -/
structure State (F : Type) where
  feedbacks : Slot → Motor3508Feedback
  pid : PIDController F
  lastLoopMs : UInt64
  lastPrintMs : UInt64

/-- What a sample line shows. -/
structure SampleLine (F : Type) where
  target : Int32
  rpm : Int16
  cmdCurrent : Int16
  fbCurrent : Int16
  temperature : Int8
  err : F

/-- A turn that has worked: its input, the call of `pid_calculate`, the frame handed to
    `socketcan_send`, and the line it has printed. -/
structure Turn (F : Type) where
  input : Input
  call : PidCall F
  frame : CanFrame
  shown : Option (SampleLine F)

/-- `!fb->online || (now - fb->last_update_ms) > 200U`. -/
def timedOut (feedback : Motor3508Feedback) (nowMs : UInt64) : Bool :=
  decide (feedback.online = 0) || decide (200 < nowMs - feedback.lastUpdateMs)

/-- `(int16_t)pid_output`. -/
def castCurrent (output : F) : Int16 := Int16.ofInt (trunc output)

/-- The arguments of `pid_calculate` in a turn. -/
def pidCall (options : Options F) (feedback : Motor3508Feedback) (lastLoopMs nowMs : UInt64) :
    PidCall F where
  target := ofRat options.targetRpm.toInt
  actual := ofRat feedback.speedRpm.toInt
  dtS := floatMs (nowMs - lastLoopMs) / ofRat 1000

/-- `(now - last_print_ms) >= 100U`, behind the test of `send_currents`. -/
def shows (s : State F) (input : Input) : Bool :=
  input.canWriteOk && decide (100 ≤ input.nowMs - s.lastPrintMs)

/-- One turn of the main loop behind the deadline test; `none` where the feedback has timed out. -/
def controlTurn (options : Options F) (s : State F) (input : Input) : Option (State F × Turn F) :=
  let feedbacks := TestSingleMotor.drainFeedback s.feedbacks input.frames input.nowMs
  let fb := feedbacks options.motor
  if timedOut fb input.nowMs then none
  else
    let call := pidCall options fb s.lastLoopMs input.nowMs
    let (pid, output) := pidCalculate s.pid call.target call.actual call.dtS
    let current := castCurrent output
    let currents := Function.update (fun _ => 0) options.motor current
    let shown : Option (SampleLine F) :=
      if shows s input then
        some ⟨options.targetRpm, fb.speedRpm, current, fb.current, fb.temperature, pid.error⟩
      else none
    let lastPrintMs := if shows s input then input.nowMs else s.lastPrintMs
    some (⟨feedbacks, pid, input.nowMs, lastPrintMs⟩, ⟨input, call, currentFrame currents, shown⟩)

/-- How the loop ended. -/
inductive Ending where
  /-- it has not: the script of its turns is used up -/
  | running
  | stopped
  | expired
  | feedbackTimeout
  | sendFailed
  deriving DecidableEq

/-- A run of the loop: the turns that have worked, and how it ended. -/
structure Run (F : Type) where
  turns : List (Turn F)
  ending : Ending

/-- `while (g_running)`; an entry `none` is a stop signal seen at the loop head. -/
def mainLoop (options : Options F) (startMs : UInt64) : State F → List (Option Input) → Run F
  | _, [] => ⟨[], .running⟩
  | _, none :: _ => ⟨[], .stopped⟩
  | s, some input :: inputs =>
    if durationOver64 startMs options.durationMs input.nowMs then ⟨[], .expired⟩
    else
      match controlTurn options s input with
      | none => ⟨[], .feedbackTimeout⟩
      | some (s', turn) =>
        if input.canWriteOk then
          let rest := mainLoop options startMs s' inputs
          ⟨turn :: rest.turns, rest.ending⟩
        else ⟨[turn], .sendFailed⟩

/-! ## 4. The program -/

/-- What the environment decides in a run. -/
structure Script (F : Type) where
  argv : List CString
  canOpens : Bool
  waitMs : UInt64
  polls : List Poll
  memory : PIDController F
  startMs : UInt64
  inputs : List (Option Input)

/-- How `main` returns. -/
inductive Report (F : Type) where
  | usage
  | noCan
  | noFeedback (options : Options F)
  | ran (options : Options F) (run : Run F)

/-- `Motor3508Feedback feedbacks[CHASSIS_MOTOR_COUNT + 1U] = {0};` -/
def noFeedbacks : Slot → Motor3508Feedback := fun _ => ⟨0, 0, 0, 0, 0, 0, 0⟩

/-- The loop of a run, from what the wait has left. -/
def Script.loop (script : Script F) (options : Options F) (feedbacks : Slot → Motor3508Feedback) :
    Run F :=
  mainLoop options script.startMs ⟨feedbacks, options.pid script.memory, script.startMs, 0⟩
    script.inputs

/-- `main`; `none` where the script ends before it has returned. -/
def main (strtof : CString → F × Nat) (strtol : CString → Int64 × Nat) (script : Script F) :
    Option (Report F) :=
  match parseOptions strtof strtol script.argv with
  | none => some .usage
  | some options =>
    if !script.canOpens then some .noCan
    else
      match waitForMotorFeedback options.motor 1000 script.waitMs noFeedbacks script.polls with
      | none => none
      | some (false, _) => some (.noFeedback options)
      | some (true, feedbacks) =>
        let run := script.loop options feedbacks
        if run.ending = .running then none else some (.ran options run)

/-- The exit code. -/
def Report.exitCode : Report F → Nat
  | .usage => 2
  | .noCan => 1
  | .noFeedback _ => 1
  | .ran _ _ => 0

/-- What was done on the CAN socket. -/
def Report.trace : Report F → List BusEvent
  | .usage => []
  | .noCan => []
  | .noFeedback _ => TestSingleMotor.sendZeroCurrent ++ [.closeCan]
  | .ran _ run =>
    run.turns.map (fun turn => .attempt turn.frame) ++ TestSingleMotor.sendZeroCurrent ++ [.closeCan]

/-! ## 5. What has been heard -/

/-- Frames handed over at one clock reading. -/
def received (frames : List CanFrame) (nowMs : UInt64) : List Reception :=
  frames.map fun frame => handOver (frame, nowMs)

/-- The frames of a turn. -/
def Turn.received (turn : Turn F) : List Reception :=
  SpeedTest.received turn.input.frames turn.input.nowMs

/-- The frames of the turns of a wait. -/
def waitReceived (polls : List Poll) : List Reception :=
  polls.flatMap fun poll => received poll.frames poll.nowMs

/-- The frames that were heard before a turn, oldest first. -/
def heard (waited : List Poll) (before : List (Turn F)) : List Reception :=
  waitReceived waited ++ before.flatMap Turn.received

/-- The newest frame of a motor. -/
def newest (motor : Slot) (frames : List Reception) : Option Reception := (framesOf motor frames).getLast?

/-- The table is what a run of frames leaves in it. -/
def tableOf (frames : List Reception) : Slot → Motor3508Feedback :=
  putAll feedbackWrite noFeedbacks frames

theorem drainFeedback_table (frames : List Reception) (pending : List CanFrame) (nowMs : UInt64) :
    TestSingleMotor.drainFeedback (tableOf frames) pending nowMs =
      tableOf (frames ++ received pending nowMs) := by
  unfold TestSingleMotor.drainFeedback tableOf
  rw [benchStore_all, putAll, putAll, putAll, List.foldl_append]
  rfl

/-- **The slot of a motor is its newest frame**, decoded. -/
theorem tableOf_newest (motor : Slot) (frames : List Reception) : tableOf frames motor =
    match newest motor frames with
    | none => noFeedbacks motor
    | some f => decodeFeedback motor f.1.data f.2 := by
  unfold tableOf newest
  rw [putAll_apply, writesAt_feedback, List.getLast?_map]
  cases (framesOf motor frames).getLast? with
  | none => rfl
  | some f => rfl

theorem tableOf_some {motor : Slot} {frames : List Reception} {f : Reception}
    (h : newest motor frames = some f) :
    tableOf frames motor = decodeFeedback motor f.1.data f.2 := by
  rw [tableOf_newest, h]

/-- A motor is online as soon as it has been heard. -/
theorem online_iff (motor : Slot) (frames : List Reception) :
    (tableOf frames motor).online ≠ 0 ↔ ∃ f, newest motor frames = some f := by
  rw [tableOf_newest]
  cases newest motor frames with
  | none => exact ⟨fun h => absurd rfl h, fun h => nomatch h⟩
  | some f => exact ⟨fun _ => ⟨f, rfl⟩, fun _ => (by decide : (1 : UInt8) ≠ 0)⟩

/-- **The feedback test**: the newest frame of the motor is at most 200 ms old. -/
theorem timedOut_eq_false {motor : Slot} {frames : List Reception} {nowMs : UInt64} :
    timedOut (tableOf frames motor) nowMs = false ↔
      ∃ f, newest motor frames = some f ∧ nowMs - f.2 ≤ 200 := by
  unfold timedOut
  rw [Bool.or_eq_false_iff, decide_eq_false_iff_not, decide_eq_false_iff_not, UInt64.not_lt]
  constructor
  · rintro ⟨honline, hage⟩
    obtain ⟨f, hf⟩ := (online_iff motor frames).mp honline
    rw [tableOf_some hf] at hage
    exact ⟨f, hf, hage⟩
  · rintro ⟨f, hf, hage⟩
    refine ⟨(online_iff motor frames).mpr ⟨f, hf⟩, ?_⟩
    rw [tableOf_some hf]
    exact hage

/-- **A wait that succeeds** has heard the motor in the turns that it has made. -/
theorem wait_heard {motor : Slot} {timeoutMs startMs : UInt64} {polls : List Poll}
    {feedbacks : Slot → Motor3508Feedback} (past : List Reception)
    (h : waitForMotorFeedback motor timeoutMs startMs (tableOf past) polls =
      some (true, feedbacks)) :
    ∃ waited, waited <+: polls ∧ feedbacks = tableOf (past ++ waitReceived waited) := by
  induction polls generalizing past with
  | nil => cases h
  | cons poll polls ih =>
    rw [waitForMotorFeedback] at h
    split at h
    · cases h
    · simp only [drainFeedback_table] at h
      split at h
      · cases h
        refine ⟨[poll], List.prefix_append [poll] polls, ?_⟩
        rw [waitReceived, List.flatMap_singleton]
      · obtain ⟨waited, hprefix, heq⟩ := ih _ h
        refine ⟨poll :: waited, List.cons_prefix_cons.mpr ⟨rfl, hprefix⟩, ?_⟩
        rw [heq, waitReceived, waitReceived, List.flatMap_cons, List.append_assoc]

/-! ## 6. One turn -/

/-- The calls of `pid_calculate` in the turns before, newest first. -/
def calls (before : List (Turn F)) : List (PidCall F) := before.reverse.map Turn.call

/-- `last_loop_ms`. -/
def lastMs (startMs : UInt64) (before : List (Turn F)) : UInt64 :=
  (before.getLast?.map fun turn => turn.input.nowMs).getD startMs

/-- `last_print_ms`: the reading of the last turn that has printed. -/
def printMark (before : List (Turn F)) : Nat :=
  Throttle.mark (fun turn : Turn F => turn.input.nowMs.toNat) (fun _ turn => turn.shown.isSome)
    before.reverse

/-- The state that the turns before have led to. -/
structure Led (options : Options F) (memory : PIDController F) (startMs : UInt64)
    (waited : List Poll) (before : List (Turn F)) (s : State F) : Prop where
  feedbacks : s.feedbacks = tableOf (heard waited before)
  pid : s.pid = (regulator (options.pid memory)).after (calls before)
  lastLoopMs : s.lastLoopMs = lastMs startMs before
  lastPrintMs : s.lastPrintMs.toNat = printMark before

/-- The state at the start of the loop. -/
theorem led_start (options : Options F) (memory : PIDController F) (startMs : UInt64)
    (waited : List Poll) : Led options memory startMs waited []
      ⟨tableOf (waitReceived waited), options.pid memory, startMs, 0⟩ := by
  refine ⟨?_, rfl, rfl, rfl⟩
  rw [heard, List.flatMap_nil, List.append_nil]

/-- The regulator's answer to the call of a turn, as a current. -/
def regulated (options : Options F) (memory : PIDController F) (before : List (Turn F))
    (turn : Turn F) : Int16 :=
  castCurrent ((regulator (options.pid memory)).answer (calls before) turn.call)

/-- The sample line of a turn. -/
def sampleLine (options : Options F) (feedback : Motor3508Feedback) (current : Int16)
    (call : PidCall F) : SampleLine F :=
  ⟨options.targetRpm, feedback.speedRpm, current, feedback.current, feedback.temperature, call.error⟩

/-- What a turn that has worked has done, given the turns before it: the call of `pid_calculate` and
    the line are about the newest frame of the motor, and the current is the regulator's answer. -/
structure Works (options : Options F) (memory : PIDController F) (startMs : UInt64)
    (waited : List Poll) (before : List (Turn F)) (turn : Turn F) (f : Reception) : Prop where
  newest : newest options.motor (heard waited (before ++ [turn])) = some f
  fresh : turn.input.nowMs - f.2 ≤ 200
  call : turn.call = pidCall options (decodeFeedback options.motor f.1.data f.2)
    (lastMs startMs before) turn.input.nowMs
  frame : turn.frame = currentFrame
    (Function.update (fun _ => 0) options.motor (regulated options memory before turn))
  shown : ∀ line ∈ turn.shown, line = sampleLine options
    (decodeFeedback options.motor f.1.data f.2) (regulated options memory before turn) turn.call
  pace : turn.shown.isSome = true → printMark before ≤ turn.input.nowMs.toNat →
    printMark before + 100 ≤ turn.input.nowMs.toNat

theorem heard_concat (waited : List Poll) (before : List (Turn F)) (turn : Turn F) :
    heard waited (before ++ [turn]) = heard waited before ++ turn.received := by
  unfold heard
  rw [List.flatMap_append, List.flatMap_singleton, List.append_assoc]

theorem calls_concat (before : List (Turn F)) (turn : Turn F) :
    calls (before ++ [turn]) = turn.call :: calls before := by
  unfold calls
  rw [List.reverse_append, List.reverse_singleton, List.singleton_append, List.map_cons]

theorem lastMs_concat (startMs : UInt64) (before : List (Turn F)) (turn : Turn F) :
    lastMs startMs (before ++ [turn]) = turn.input.nowMs := by
  unfold lastMs
  rw [List.getLast?_concat]
  rfl

theorem printMark_concat (before : List (Turn F)) (turn : Turn F) :
    printMark (before ++ [turn]) =
      if turn.shown.isSome then turn.input.nowMs.toNat else printMark before := by
  unfold printMark
  rw [List.reverse_append, List.reverse_singleton, List.singleton_append, Throttle.mark]

section Turn

variable {options : Options F} {memory : PIDController F} {startMs : UInt64} {waited : List Poll}
  {before : List (Turn F)} {s s' : State F} {input : Input} {turn : Turn F}

/-- **A turn that works** does what it says, and leads on. -/
theorem controlTurn_works (hled : Led options memory startMs waited before s)
    (h : controlTurn options s input = some (s', turn)) :
    turn.input = input ∧ Led options memory startMs waited (before ++ [turn]) s' ∧
      ∃ f, Works options memory startMs waited before turn f := by
  have htable : TestSingleMotor.drainFeedback s.feedbacks input.frames input.nowMs =
      tableOf (heard waited before ++ received input.frames input.nowMs) := by
    rw [hled.feedbacks, drainFeedback_table]
  unfold controlTurn at h
  simp only [htable] at h
  split at h
  · cases h
  · rename_i hfresh
    obtain ⟨f, hnewest, hage⟩ := timedOut_eq_false.mp (Bool.eq_false_iff.mpr hfresh)
    have hslot := tableOf_some hnewest
    rw [hslot] at h
    cases h
    have hcall : pidCall options (decodeFeedback options.motor f.1.data f.2) s.lastLoopMs
        input.nowMs = pidCall options (decodeFeedback options.motor f.1.data f.2)
          (lastMs startMs before) input.nowMs := by rw [hled.lastLoopMs]
    refine ⟨rfl, ⟨?_, ?_, ?_, ?_⟩, f, ⟨?_, hage, hcall, ?_, ?_, ?_⟩⟩
    · rw [heard_concat]
      rfl
    · rw [calls_concat, Machine.after_cons, ← hled.pid]
      rfl
    · rw [lastMs_concat]
    · rw [printMark_concat]
      cases hshows : shows s input with
      | true => rfl
      | false => exact hled.lastPrintMs
    · rw [heard_concat]
      exact hnewest
    · unfold regulated
      rw [Machine.answer, ← hled.pid]
      rfl
    · intro line hline
      unfold regulated
      rw [Machine.answer, ← hled.pid]
      cases hshows : shows s input with
      | true =>
        rw [hshows] at hline
        exact (Option.some.inj hline).symm
      | false =>
        rw [hshows] at hline
        cases hline
    · intro hshown hmark
      have hshows : shows s input = true := by
        cases hshows : shows s input with
        | true => rfl
        | false =>
          rw [hshows] at hshown
          cases hshown
      have hgate := of_decide_eq_true (Bool.and_eq_true_iff.mp hshows).2
      rw [← hled.lastPrintMs] at hmark ⊢
      rw [UInt64.le_iff_toNat_le, UInt64.toNat_sub_of_le _ _ (UInt64.le_iff_toNat_le.mpr hmark)] at hgate
      have hhundred : (100 : UInt64).toNat = 100 := rfl
      omega

end Turn

/-- The currents in the frame of a turn that has worked. -/
theorem Works.frameCurrent {options : Options F} {memory : PIDController F} {startMs : UInt64}
    {waited : List Poll} {before : List (Turn F)} {turn : Turn F} {f : Reception}
    (h : Works options memory startMs waited before turn f) (k : Fin 4) :
    frameCurrent turn.frame.data k =
      if k.succ = options.motor then regulated options memory before turn else 0 := by
  have hpack : Rk3588Chassis.frameCurrent turn.frame.data k =
      Function.update (fun _ => (0 : Int16)) options.motor
        (regulated options memory before turn) k.succ := by
    rw [h.frame]
    exact frameCurrent_pack _ k
  rw [hpack]
  by_cases hk : k.succ = options.motor
  · rw [if_pos hk, hk, Function.update_self]
  · rw [if_neg hk, Function.update_of_ne hk]

/-! ## 7. The runs of the loop -/

section Runs

variable {options : Options F} {memory : PIDController F} {startMs : UInt64} {waited : List Poll}

/-- **What holds of every turn of a run**: it has worked, behind the turns before it, and the deadline
    test was quiet. -/
theorem mainLoop_turns {inputs : List (Option Input)} {past : List (Turn F)} {s : State F}
    (hled : Led options memory startMs waited past s) {before after : List (Turn F)} {turn : Turn F}
    (h : (mainLoop options startMs s inputs).turns = before ++ turn :: after) :
    durationOver64 startMs options.durationMs turn.input.nowMs = false ∧
      ∃ f, Works options memory startMs waited (past ++ before) turn f := by
  induction inputs generalizing past s before with
  | nil => exact absurd (congrArg List.length h) (by simp [mainLoop])
  | cons entry inputs ih =>
    cases entry with
    | none => exact absurd (congrArg List.length h) (by simp [mainLoop])
    | some input =>
      rw [mainLoop] at h
      split at h
      · exact absurd (congrArg List.length h) (by simp)
      · rename_i hquiet
        cases hturn : controlTurn options s input with
        | none =>
          rw [hturn] at h
          exact absurd (congrArg List.length h) (by simp)
        | some result =>
          obtain ⟨s', first⟩ := result
          obtain ⟨hinput, hled', hworks⟩ := controlTurn_works hled hturn
          have hfirst : durationOver64 startMs options.durationMs first.input.nowMs = false ∧
              ∃ f, Works options memory startMs waited past first f := by
            rw [hinput]
            exact ⟨Bool.eq_false_iff.mpr hquiet, hworks⟩
          rw [hturn] at h
          simp only at h
          cases before with
          | nil =>
            have hhead : first = turn := by
              split at h
              · exact (List.cons.inj h).1
              · exact (List.cons.inj h).1
            rw [List.append_nil, ← hhead]
            exact hfirst
          | cons b before =>
            split at h
            · obtain ⟨rfl, hrest⟩ := List.cons.inj h
              have hlater := ih hled' hrest
              rw [List.append_assoc, List.singleton_append] at hlater
              exact hlater
            · exact absurd (congrArg List.length (List.cons.inj h).2) (by simp)

/-- The turns of a run are its first inputs, in order. -/
theorem mainLoop_inputs (s : State F) (inputs : List (Option Input)) :
    ((mainLoop options startMs s inputs).turns.map fun turn => some turn.input) <+: inputs := by
  induction inputs generalizing s with
  | nil => exact List.prefix_refl _
  | cons entry inputs ih =>
    cases entry with
    | none => exact List.nil_prefix
    | some input =>
      rw [mainLoop]
      split
      · exact List.nil_prefix
      · cases hturn : controlTurn options s input with
        | none => exact List.nil_prefix
        | some result =>
          have hinput : result.2.input = input := by
            unfold controlTurn at hturn
            simp only at hturn
            split at hturn
            · cases hturn
            · cases hturn
              rfl
          simp only
          split
          · rw [List.map_cons, hinput]
            exact List.cons_prefix_cons.mpr ⟨rfl, ih _⟩
          · rw [List.map_singleton, hinput]
            exact List.cons_prefix_cons.mpr ⟨rfl, List.nil_prefix⟩

end Runs

/-- The turns of a script's loop are its first inputs. -/
theorem loop_inputs (script : Script F) (options : Options F) (waited : List Poll) :
    ((script.loop options (tableOf (waitReceived waited))).turns.map
      fun turn => some turn.input) <+: script.inputs :=
  mainLoop_inputs _ _

/-! ## 8. A clock that does not run backwards -/

/-- The clock readings of a run that stamp frames or start the loop. -/
def Script.readings (script : Script F) : List UInt64 :=
  (script.polls.map fun poll => poll.nowMs) ++
    script.startMs :: script.inputs.reduceOption.map fun input => input.nowMs

/-- They do not run backwards. -/
def Script.Forward (script : Script F) : Prop := script.readings.Pairwise (· ≤ ·)

/-- The readings behind the frames of the first turns, and of the start, are among them, in order. -/
theorem readings_sublist {script : Script F} {waited : List Poll}
    (hwaited : waited <+: script.polls) {turns : List (Turn F)}
    (hturns : (turns.map fun turn => some turn.input) <+: script.inputs) :
    ((waited.map fun poll => poll.nowMs) ++
      script.startMs :: turns.map fun turn => turn.input.nowMs).Sublist script.readings := by
  unfold Script.readings
  refine (hwaited.sublist.map _).append (List.Sublist.cons_cons _ ?_)
  have hsome := List.Sublist.filterMap id hturns.sublist
  have hinputs : (turns.map fun turn => some turn.input).filterMap id =
      turns.map fun turn => turn.input := by
    rw [List.filterMap_map]
    exact congrFun List.filterMap_eq_map turns
  rw [hinputs] at hsome
  have hmap := hsome.map fun input : Input => input.nowMs
  rw [List.map_map] at hmap
  exact hmap

/-- A frame is stamped with a reading of its turn. -/
theorem mem_received {frames : List CanFrame} {nowMs : UInt64} {f : Reception}
    (h : f ∈ received frames nowMs) : f.2 = nowMs := by
  obtain ⟨frame, _, rfl⟩ := List.mem_map.mp h
  rfl

theorem heard_stamp {waited : List Poll} {before : List (Turn F)} {f : Reception}
    (h : f ∈ heard waited before) :
    (∃ poll ∈ waited, f.2 = poll.nowMs) ∨ ∃ turn ∈ before, f.2 = turn.input.nowMs := by
  rcases List.mem_append.mp h with h | h
  · obtain ⟨poll, hpoll, hf⟩ := List.mem_flatMap.mp h
    exact Or.inl ⟨poll, hpoll, mem_received hf⟩
  · obtain ⟨turn, hturn, hf⟩ := List.mem_flatMap.mp h
    exact Or.inr ⟨turn, hturn, mem_received hf⟩

/-- The newest frame of a motor was heard. -/
theorem newest_mem {motor : Slot} {frames : List Reception} {f : Reception}
    (h : newest motor frames = some f) : f ∈ frames ∧ FromMotor motor f.1 := by
  have hmem := List.mem_filter.mp (List.mem_of_getLast? h)
  exact ⟨hmem.1, of_decide_eq_true hmem.2⟩

/-- **No frame is from the future.** -/
theorem heard_le {script : Script F} (hforward : script.Forward) {waited : List Poll}
    (hwaited : waited <+: script.polls) {before after : List (Turn F)} {turn : Turn F}
    (hturns : ((before ++ turn :: after).map fun turn => some turn.input) <+: script.inputs)
    {f : Reception} (hf : f ∈ heard waited (before ++ [turn])) : f.2 ≤ turn.input.nowMs := by
  have hsorted := List.Pairwise.sublist (readings_sublist hwaited hturns) hforward
  obtain ⟨_, hlater, hcross⟩ := List.pairwise_append.mp hsorted
  have hmem : turn ∈ before ++ turn :: after := List.mem_append_right _ List.mem_cons_self
  have htime : turn.input.nowMs ∈ script.startMs ::
      (before ++ turn :: after).map fun turn => turn.input.nowMs :=
    List.mem_cons_of_mem _ (List.mem_map_of_mem hmem)
  rcases heard_stamp hf with ⟨poll, hpoll, hstamp⟩ | ⟨other, hother, hstamp⟩
  · rw [hstamp]
    exact hcross _ (List.mem_map_of_mem hpoll) _ htime
  · rw [hstamp]
    rcases List.mem_append.mp hother with hother | hother
    · have hturnTimes := (List.pairwise_cons.mp hlater).2
      rw [List.map_append, List.map_cons] at hturnTimes
      exact (List.pairwise_append.mp hturnTimes).2.2 _ (List.mem_map_of_mem hother) _
        List.mem_cons_self
    · rw [List.mem_singleton.mp hother]
      exact UInt64.le_refl _

/-- A run starts behind its start. -/
theorem start_le {script : Script F} (hforward : script.Forward) {turns : List (Turn F)}
    (hturns : (turns.map fun turn => some turn.input) <+: script.inputs) {turn : Turn F}
    (hturn : turn ∈ turns) : script.startMs ≤ turn.input.nowMs := by
  have hsorted := List.Pairwise.sublist (readings_sublist List.nil_prefix hturns) hforward
  exact (List.pairwise_cons.mp hsorted).1 _ (List.mem_map_of_mem hturn)

/-! ## 9. What a run sends -/

/-- What an accepted command line says about the motor and the duration. -/
theorem parseOptions_accepted {strtof : CString → F × Nat} {strtol : CString → Int64 × Nat}
    {argv : List CString} {options : Options F}
    (h : parseOptions strtof strtol argv = some options) :
    (1 ≤ options.motorId.toInt ∧ options.motorId.toInt ≤ 4) ∧
      (-3800 ≤ options.targetRpm.toInt ∧ options.targetRpm.toInt ≤ 3800) ∧
      0 < options.durationMs := by
  simp only [parseOptions, bind, Option.bind_eq_some_iff, Option.guard_eq_some'] at h
  obtain ⟨_, _, motorId, _, targetRpm, _, durationMs, _, _, _, _, _, _, _, _, _, _, hmotor, _,
    htarget, _, hpositive, heq⟩ := h
  cases heq
  rw [not_or, Int32.not_lt, Int32.not_lt, Int32.le_iff_toInt_le, Int32.le_iff_toInt_le] at hmotor htarget
  rw [not_or, Int32.not_le, Int32.not_le] at hpositive
  exact ⟨hmotor, htarget, hpositive.1⟩

/-- A successful run of `main`, taken apart. -/
theorem main_ran {strtof : CString → F × Nat} {strtol : CString → Int64 × Nat} {script : Script F}
    {options : Options F} {run : Run F} (h : main strtof strtol script = some (.ran options run)) :
    parseOptions strtof strtol script.argv = some options ∧ ∃ waited, waited <+: script.polls ∧
      run = script.loop options (tableOf (waitReceived waited)) := by
  unfold main at h
  split at h
  · cases h
  · rename_i hoptions
    split at h
    · cases h
    · split at h
      · cases h
      · cases h
      · rename_i hwait
        simp only at h
        split at h
        · cases h
        · cases h
          obtain ⟨waited, hprefix, heq⟩ := wait_heard [] hwait
          exact ⟨hoptions, waited, hprefix, congrArg (script.loop options) heq⟩

/-- The output limits survive every call: an answer is a value that was cut off at them. -/
theorem answer_saturated (options : Options F) (memory : PIDController F) (hist : List (PidCall F))
    (call : PidCall F) : ∃ x : F, (regulator (options.pid memory)).answer hist call =
      saturate (-defaultOutputLimit) defaultOutputLimit x := by
  have hgains := regulator_gains (options.pid memory) hist
  have hanswer : (regulator (options.pid memory)).answer hist call =
      pidOutput ((regulator (options.pid memory)).after hist) call.target call.actual call.dtS :=
    rfl
  rw [hanswer, pidOutput, hgains.outputMin, hgains.outputMax]
  exact ⟨_, rfl⟩

variable (F) in
/-- What is cut off at the output limits becomes an integer within them. A float that is no number
    is not cut off, and C leaves open what becomes of it. -/
def TruncatesWithin : Prop := ∀ x : F,
  -6500 ≤ trunc (saturate (-defaultOutputLimit) defaultOutputLimit x) ∧
    trunc (saturate (-defaultOutputLimit) defaultOutputLimit x) ≤ 6500

/-- So it is with exact numbers. -/
theorem truncatesWithin_rat : TruncatesWithin ℚ := by
  intro x
  have hmem : -(6500 : ℚ) ≤ saturate (-6500) 6500 x ∧ saturate (-6500) 6500 x ≤ 6500 :=
    saturate_mem (by norm_num) x
  show -6500 ≤ Autotune.truncate (saturate (-6500) 6500 x) ∧
    Autotune.truncate (saturate (-6500) 6500 x) ≤ 6500
  generalize saturate (-6500) 6500 x = output at hmem
  unfold Autotune.truncate
  split
  · rename_i hpos
    have hfloor : 0 ≤ ⌊output⌋ := Int.floor_nonneg.mpr hpos
    have hle : (⌊output⌋ : ℚ) ≤ ((6500 : Int) : ℚ) :=
      (Int.floor_le output).trans (by push_cast; exact hmem.2)
    exact ⟨by omega, Int.cast_le.mp hle⟩
  · rename_i hneg
    have hceil : ⌈output⌉ ≤ 0 := Int.ceil_le.mpr (by push_cast; exact (not_le.mp hneg).le)
    have hle : ((-6500 : Int) : ℚ) ≤ (⌈output⌉ : ℚ) :=
      le_trans (by push_cast; exact hmem.1) (Int.le_ceil output)
    exact ⟨Int.cast_le.mp hle, by omega⟩

/-- Within the limits the cast does not wrap. -/
theorem castCurrent_toInt {output : F} (h : -6500 ≤ trunc output ∧ trunc output ≤ 6500) :
    (castCurrent output).toInt = trunc output := by
  have hsize : Int16.size = 2 ^ 16 := rfl
  rw [castCurrent, Int16.toInt_ofInt]
  exact Int.bmod_eq_of_le (by omega) (by omega)

/-- So the current of a turn is its answer, cut off, and within the limits. -/
theorem regulated_toInt (hwithin : TruncatesWithin F) (options : Options F)
    (memory : PIDController F) (before : List (Turn F)) (turn : Turn F) :
    (regulated options memory before turn).toInt =
        trunc ((regulator (options.pid memory)).answer (calls before) turn.call) ∧
      -6500 ≤ (regulated options memory before turn).toInt ∧
      (regulated options memory before turn).toInt ≤ 6500 := by
  obtain ⟨x, hx⟩ := answer_saturated options memory (calls before) turn.call
  have hbounds := hwithin x
  rw [← hx] at hbounds
  have hwhole : (regulated options memory before turn).toInt =
      trunc ((regulator (options.pid memory)).answer (calls before) turn.call) :=
    castCurrent_toInt hbounds
  rw [hwhole]
  exact ⟨rfl, hbounds⟩

/-- Exit code 0 is that of a run of the loop. -/
theorem ran_of_exitCode {report : Report F} (h : report.exitCode = 0) :
    ∃ options run, report = .ran options run := by
  cases report with
  | usage => cases h
  | noCan => cases h
  | noFeedback options => cases h
  | ran options run => exact ⟨options, run, rfl⟩

/-- What a turn of a run does: in time, on a motor that was heard at most 200 ms ago, it hands the
    regulator the newest speed and sends its answer, to that motor alone. -/
structure Regulates (script : Script F) (options : Options F) (waited : List Poll)
    (before : List (Turn F)) (turn : Turn F) : Prop where
  inTime : (turn.input.nowMs.toNat : Int) < script.startMs.toNat + options.durationMs.toInt
  heardLately : ∃ f, newest options.motor (heard waited (before ++ [turn])) = some f ∧
    f.2.toNat ≤ turn.input.nowMs.toNat ∧ turn.input.nowMs.toNat ≤ f.2.toNat + 200 ∧
    turn.call.target = ofRat options.targetRpm.toInt ∧
    turn.call.actual = ofRat (bytesToI16 (f.1.data 2) (f.1.data 3)).toInt
  clock : turn.call.dtS =
    ofRat (turn.input.nowMs - lastMs script.startMs before).toNat / ofRat 1000
  canId : turn.frame.canId = 0x200
  current : ∀ k : Fin 4, frameCurrent turn.frame.data k =
    if k.succ = options.motor then
      castCurrent ((regulator (options.pid script.memory)).answer (calls before) turn.call)
    else 0
  limited : TruncatesWithin F → ∀ k : Fin 4, -6500 ≤ (frameCurrent turn.frame.data k).toInt ∧
    (frameCurrent turn.frame.data k).toInt ≤ 6500
  whole : TruncatesWithin F → ∀ k : Fin 4, k.succ = options.motor →
    (frameCurrent turn.frame.data k).toInt =
      trunc ((regulator (options.pid script.memory)).answer (calls before) turn.call)

/-- **Every turn of a speed test regulates.** -/
theorem speed_test_regulates {strtof : CString → F × Nat} {strtol : CString → Int64 × Nat}
    {script : Script F} (hforward : script.Forward) {options : Options F} {run : Run F}
    (h : main strtof strtol script = some (.ran options run)) :
    ∃ waited, waited <+: script.polls ∧ ∀ before turn after,
      run.turns = before ++ turn :: after → Regulates script options waited before turn := by
  obtain ⟨hoptions, waited, hwaited, rfl⟩ := main_ran h
  obtain ⟨_, _, hpos⟩ := parseOptions_accepted hoptions
  refine ⟨waited, hwaited, fun before turn after hsplit => ?_⟩
  have hstart := led_start options script.memory script.startMs waited
  obtain ⟨hquiet, f, hworks⟩ := mainLoop_turns hstart hsplit
  have hinputs : ((before ++ turn :: after).map fun turn => some turn.input) <+: script.inputs :=
    hsplit ▸ loop_inputs script options waited
  have hlate : script.startMs ≤ turn.input.nowMs :=
    start_le hforward hinputs (List.mem_append_right _ List.mem_cons_self)
  have hpast := heard_le hforward hwaited hinputs (newest_mem hworks.newest).1
  rw [durationOver64_eq hlate hpos, pastDeadline, decide_eq_false_iff_not, not_le] at hquiet
  rw [List.nil_append] at hworks
  have hage := hworks.fresh
  refine ⟨hquiet, ⟨f, hworks.newest, hpast, ?_, ?_, ?_⟩, ?_, ?_, hworks.frameCurrent,
    fun hwithin k => ?_, fun hwithin k hk => ?_⟩
  · rw [UInt64.le_iff_toNat_le, UInt64.toNat_sub_of_le _ _ hpast] at hage
    have hlimit : (200 : UInt64).toNat = 200 := rfl
    omega
  · rw [hworks.call]
    rfl
  · rw [hworks.call]
    rfl
  · rw [hworks.call]
    rfl
  · rw [hworks.frame]
    rfl
  · rw [hworks.frameCurrent k]
    split
    · exact (regulated_toInt hwithin options script.memory before turn).2
    · decide
  · rw [hworks.frameCurrent k, if_pos hk]
    exact (regulated_toInt hwithin options script.memory before turn).1

/-! ## 10. What a run prints -/

/-- The sample lines. -/
def Run.samples (run : Run F) : List (SampleLine F) := run.turns.filterMap Turn.shown

/-- The readings at which they were printed, newest first. -/
def Run.sampleTimes (run : Run F) : List Nat :=
  Throttle.firings (fun turn : Turn F => turn.input.nowMs.toNat) (fun _ turn => turn.shown.isSome)
    run.turns.reverse

/-- There are as many of one as of the other. -/
theorem sampleTimes_length (run : Run F) : run.sampleTimes.length = run.samples.length := by
  have hcount : ∀ turns : List (Turn F),
      (Throttle.firings (fun turn : Turn F => turn.input.nowMs.toNat)
        (fun _ turn => turn.shown.isSome) turns).length = (turns.filterMap Turn.shown).length := by
    intro turns
    induction turns with
    | nil => rfl
    | cons turn turns ih =>
      rw [Throttle.firings]
      cases hshown : turn.shown with
      | none =>
        rw [List.filterMap_cons_none hshown]
        exact ih
      | some line =>
        rw [List.filterMap_cons_some hshown, List.length_cons, ← ih]
        rfl
  rw [Run.sampleTimes, hcount, List.filterMap_reverse, List.length_reverse]
  rfl

/-- The times of the samples are times of turns. -/
theorem mem_sampleTimes {run : Run F} {t : Nat} (h : t ∈ run.sampleTimes) :
    ∃ turn ∈ run.turns, t = turn.input.nowMs.toNat := by
  have hfirings : ∀ turns : List (Turn F), t ∈ Throttle.firings
      (fun turn : Turn F => turn.input.nowMs.toNat) (fun _ turn => turn.shown.isSome) turns →
      ∃ turn ∈ turns, t = turn.input.nowMs.toNat := by
    intro turns ht
    induction turns with
    | nil => cases ht
    | cons turn turns ih =>
      rw [Throttle.firings] at ht
      split at ht
      · rcases List.mem_cons.mp ht with rfl | ht
        · exact ⟨turn, List.mem_cons_self, rfl⟩
        · obtain ⟨other, hother, heq⟩ := ih ht
          exact ⟨other, List.mem_cons_of_mem turn hother, heq⟩
      · obtain ⟨other, hother, heq⟩ := ih ht
        exact ⟨other, List.mem_cons_of_mem turn hother, heq⟩
  obtain ⟨turn, hturn, heq⟩ := hfirings _ h
  exact ⟨turn, List.mem_reverse.mp hturn, heq⟩

/-- What the samples of a run are: 100 ms apart, so no more than fit into the duration, and each of
    them shows the target, the newest frame of the motor, the current of its turn, and the error. -/
structure Samples (script : Script F) (options : Options F) (waited : List Poll) (run : Run F) :
    Prop where
  spaced : Throttle.Spaced 100 run.sampleTimes
  few : (run.samples.length : Int) ≤ (options.durationMs.toInt - 1) / 100 + 1
  shown : ∀ before turn after line, run.turns = before ++ turn :: after → turn.shown = some line →
    ∃ f, newest options.motor (heard waited (before ++ [turn])) = some f ∧
      line.target = options.targetRpm ∧ line.rpm = bytesToI16 (f.1.data 2) (f.1.data 3) ∧
      line.fbCurrent = bytesToI16 (f.1.data 4) (f.1.data 5) ∧
      line.temperature = (f.1.data 6).toInt8 ∧
      (∀ k : Fin 4, k.succ = options.motor → frameCurrent turn.frame.data k = line.cmdCurrent) ∧
      line.err = ofRat line.target.toInt - ofRat line.rpm.toInt

/-- The line of a turn that has worked. -/
theorem Works.line {options : Options F} {memory : PIDController F} {startMs : UInt64}
    {waited : List Poll} {before : List (Turn F)} {turn : Turn F} {f : Reception}
    (h : Works options memory startMs waited before turn f) {line : SampleLine F}
    (hline : turn.shown = some line) :
    line = ⟨options.targetRpm, bytesToI16 (f.1.data 2) (f.1.data 3),
      regulated options memory before turn, bytesToI16 (f.1.data 4) (f.1.data 5),
      (f.1.data 6).toInt8,
      ofRat options.targetRpm.toInt - ofRat (bytesToI16 (f.1.data 2) (f.1.data 3)).toInt⟩ := by
  have hshown := h.shown line hline
  rw [h.call] at hshown
  exact hshown

/-- The error in a sample is the difference of the two speeds in it, and the target that of the
    command line. -/
theorem sample_error {strtof : CString → F × Nat} {strtol : CString → Int64 × Nat}
    {script : Script F} {options : Options F} {run : Run F}
    (h : main strtof strtol script = some (.ran options run)) {line : SampleLine F}
    (hline : line ∈ run.samples) :
    line.target = options.targetRpm ∧
      line.err = ofRat line.target.toInt - ofRat line.rpm.toInt := by
  obtain ⟨_, waited, _, rfl⟩ := main_ran h
  obtain ⟨turn, hturn, hshown⟩ := List.mem_filterMap.mp hline
  obtain ⟨before, after, hsplit⟩ := List.append_of_mem hturn
  obtain ⟨_, f, hworks⟩ :=
    mainLoop_turns (led_start options script.memory script.startMs waited) hsplit
  rw [hworks.line hshown]
  exact ⟨rfl, rfl⟩

/-- The turns of a run that has passed its checks come on a clock that does not run backwards. -/
theorem turns_sorted {script : Script F} (hforward : script.Forward) (options : Options F)
    (waited : List Poll) :
    (((script.loop options (tableOf (waitReceived waited))).turns).map
      fun turn => turn.input.nowMs).Pairwise (· ≤ ·) := by
  have hinputs := loop_inputs script options waited
  exact (List.pairwise_cons.mp
    (List.Pairwise.sublist (readings_sublist List.nil_prefix hinputs) hforward)).2

/-- **The samples of a run are 100 ms apart.** -/
theorem samples_spaced {strtof : CString → F × Nat} {strtol : CString → Int64 × Nat}
    {script : Script F} (hforward : script.Forward) {options : Options F} {run : Run F}
    (h : main strtof strtol script = some (.ran options run)) :
    Throttle.Spaced 100 run.sampleTimes := by
  obtain ⟨_, waited, _, rfl⟩ := main_ran h
  have hstart := led_start options script.memory script.startMs waited
  have hclock : Throttle.Forward (fun turn : Turn F => turn.input.nowMs.toNat)
      (fun turn : Turn F => turn.input.nowMs.toNat)
      (script.loop options (tableOf (waitReceived waited))).turns.reverse := by
    refine ⟨List.pairwise_reverse.mpr ?_, fun _ _ => le_refl _⟩
    exact (List.pairwise_map.mp (turns_sorted hforward options waited)).imp fun hle =>
      UInt64.le_iff_toNat_le.mp hle
  refine Throttle.spaced_firings hclock fun turn before hsuffix hshown hmark => ?_
  obtain ⟨later, hlater⟩ := hsuffix
  have hsplit : (script.loop options (tableOf (waitReceived waited))).turns =
      before.reverse ++ turn :: later.reverse := by
    have hreverse := congrArg List.reverse hlater
    rw [List.reverse_reverse, List.reverse_append, List.reverse_cons, List.append_assoc,
      List.singleton_append] at hreverse
    exact hreverse.symm
  obtain ⟨_, f, hworks⟩ := mainLoop_turns hstart hsplit
  have hpace := hworks.pace hshown
  rw [printMark, List.nil_append, List.reverse_reverse] at hpace
  exact hpace hmark

/-- **So no more of them than fit into the duration.** -/
theorem samples_few {strtof : CString → F × Nat} {strtol : CString → Int64 × Nat}
    {script : Script F} (hforward : script.Forward) {options : Options F} {run : Run F}
    (h : main strtof strtol script = some (.ran options run)) :
    (run.samples.length : Int) ≤ (options.durationMs.toInt - 1) / 100 + 1 := by
  have hspaced := samples_spaced hforward h
  obtain ⟨hoptions, waited, _, rfl⟩ := main_ran h
  obtain ⟨_, _, hpos⟩ := parseOptions_accepted hoptions
  have hstart := led_start options script.memory script.startMs waited
  have hinputs := loop_inputs script options waited
  have hd : 0 < options.durationMs.toInt := Int32.lt_iff_toInt_lt.mp hpos
  have hwindow := hspaced.window (by decide) script.startMs.toNat
    (options.durationMs.toInt.toNat - 1)
  have hall : ∀ t ∈ (script.loop options (tableOf (waitReceived waited))).sampleTimes,
      decide (script.startMs.toNat ≤ t ∧
        t ≤ script.startMs.toNat + (options.durationMs.toInt.toNat - 1)) = true := by
    intro t ht
    obtain ⟨turn, hturn, rfl⟩ := mem_sampleTimes ht
    obtain ⟨before, after, hsplit⟩ := List.append_of_mem hturn
    obtain ⟨hquiet, _⟩ := mainLoop_turns hstart hsplit
    have hlate := start_le hforward hinputs hturn
    rw [durationOver64_eq hlate hpos, pastDeadline, decide_eq_false_iff_not, not_le] at hquiet
    have hle := UInt64.le_iff_toNat_le.mp hlate
    rw [decide_eq_true_iff]
    omega
  rw [List.filter_eq_self.mpr hall, sampleTimes_length] at hwindow
  omega

/-- **What a sample line shows.** -/
theorem samples_shown {strtof : CString → F × Nat} {strtol : CString → Int64 × Nat}
    {script : Script F} {options : Options F} {run : Run F}
    (h : main strtof strtol script = some (.ran options run)) :
    ∃ waited, waited <+: script.polls ∧ ∀ before turn after line,
      run.turns = before ++ turn :: after → turn.shown = some line →
      ∃ f, newest options.motor (heard waited (before ++ [turn])) = some f ∧
        line.target = options.targetRpm ∧ line.rpm = bytesToI16 (f.1.data 2) (f.1.data 3) ∧
        line.fbCurrent = bytesToI16 (f.1.data 4) (f.1.data 5) ∧
        line.temperature = (f.1.data 6).toInt8 ∧
        (∀ k : Fin 4, k.succ = options.motor → frameCurrent turn.frame.data k = line.cmdCurrent) ∧
        line.err = ofRat line.target.toInt - ofRat line.rpm.toInt := by
  obtain ⟨_, waited, hwaited, rfl⟩ := main_ran h
  have hstart := led_start options script.memory script.startMs waited
  refine ⟨waited, hwaited, fun before turn after line hsplit hline => ?_⟩
  obtain ⟨_, f, hworks⟩ := mainLoop_turns hstart hsplit
  have hshown := hworks.line hline
  refine ⟨f, hworks.newest, ?_, ?_, ?_, ?_, fun k hk => ?_, ?_⟩
  · rw [hshown]
  · rw [hshown]
  · rw [hshown]
  · rw [hshown]
  · rw [hworks.frameCurrent k, if_pos hk, hshown]
  · rw [hshown]

/-- **The samples of a speed test.** -/
theorem speed_test_samples {strtof : CString → F × Nat} {strtol : CString → Int64 × Nat}
    {script : Script F} (hforward : script.Forward) {options : Options F} {run : Run F}
    (h : main strtof strtol script = some (.ran options run)) :
    ∃ waited, waited <+: script.polls ∧ Samples script options waited run := by
  obtain ⟨waited, hwaited, hshown⟩ := samples_shown h
  exact ⟨waited, hwaited, samples_spaced hforward h, samples_few hforward h, hshown⟩

/-- A frame of motor 2 at rest. -/
def restFrame : CanFrame := ⟨0x202, 8, fun _ => 0, fullDlc_le⟩

/-- A test of motor 2 for a second, stopped after two turns. -/
def spinUp : Script ℚ where
  argv := ["test_speed_pid", "can0", "2", "300", "1000"].map cstring
  canOpens := true
  waitMs := 890
  polls := [⟨890, 890, [restFrame]⟩]
  memory := ⟨0, 0, 0, 0, 0, 0, 0, 0, 0, 0, 0, 0, 0, 0, 0⟩
  startMs := 900
  inputs := [some ⟨910, [restFrame], true⟩, some ⟨1010, [], true⟩, none]

theorem spinUp_forward : spinUp.Forward := by
  unfold Script.Forward
  decide

/-- It works in both of them. -/
theorem spinUp_ran : ∃ options run,
    main (CText.strtof finitePart) CText.strtol spinUp = some (.ran options run) ∧
      run.turns.length = 2 := by
  have hends : (main (CText.strtof finitePart) CText.strtol spinUp).map
      (fun report => (report.exitCode, report.trace.length)) = some (0, 13) := by decide +kernel
  obtain ⟨report, hreport, hvalues⟩ := Option.map_eq_some_iff.mp hends
  obtain ⟨hcode, hlength⟩ := Prod.mk.inj hvalues
  obtain ⟨options, run, rfl⟩ := ran_of_exitCode hcode
  refine ⟨options, run, hreport, ?_⟩
  have hshape : (Report.ran options run).trace.length = run.turns.length + 10 + 1 := by
    unfold Report.trace
    rw [List.length_append, List.length_append, List.length_map]
    rfl
  omega

/-- Its second turn regulates, with a current within the limits. -/
theorem spinUp_regulates : ∃ options waited first second,
    Regulates spinUp options waited [first] second ∧ ∀ k : Fin 4,
      -6500 ≤ (frameCurrent second.frame.data k).toInt ∧
        (frameCurrent second.frame.data k).toInt ≤ 6500 := by
  obtain ⟨options, run, hmain, hlength⟩ := spinUp_ran
  obtain ⟨waited, _, hturns⟩ := speed_test_regulates spinUp_forward hmain
  obtain ⟨first, second, hsplit⟩ := List.length_eq_two.mp hlength
  have hsecond := hturns [first] second [] hsplit
  exact ⟨options, waited, first, second, hsecond, hsecond.limited truncatesWithin_rat⟩

/-- And no more than ten samples are shown. -/
theorem spinUp_samples : ∃ options run waited,
    main (CText.strtof finitePart) CText.strtol spinUp = some (.ran options run) ∧
      Samples spinUp options waited run := by
  obtain ⟨options, run, hmain, _⟩ := spinUp_ran
  obtain ⟨waited, _, hsamples⟩ := speed_test_samples spinUp_forward hmain
  exact ⟨options, run, waited, hmain, hsamples⟩

end SpeedTest

end Rk3588Chassis
