/-
  File:      Rk3588Chassis/DriveTools.lean
  Subject:   What every tool that drives the chassis has in common: the daemon, the two timed tools
             and the keyboard tool.

  In each turn a drive tool gives the controller some commands, the feedback that is pending and
  one `chassis_step`, and sends what the step answers. A `DriveTool` is a machine that does this;
  it is a client (Library/Client.lean) of the controller's machine, so that what ControlSafety.lean
  and ControlBounds.lean say of all histories holds of all its runs.

  * `feedbackOps`, `latestFeedback_ops` -- pending frames as operations, and what they leave as
    the newest record of a motor;
  * `DriveTool.client` -- the tool operates the controller;
  * `latestCommand_history`, `latestFeedback_history` -- its history, read off the run of the tool;
  * `DriveTool.guarded` -- no frame of any run has a current above 6500, and one with a current that
    is not zero has a command of the tool behind it that is recent, and a recent frame of each
    motor that the tool has read.

  The four tools are in DriveRuns.lean.
-/
import Rk3588Chassis.ControlBounds
import Rk3588Chassis.ControlSafety
import Rk3588Chassis.Library.Client
import Rk3588Chassis.ProxyOnline
import Rk3588Chassis.TimedMotion

set_option linter.unusedSectionVars false

namespace Rk3588Chassis

open CFloat Reactive

/-- Frames with the clock readings taken for them. -/
abbrev StampedFrames := List (CanFrame × UInt64)

section Generic

variable {F : Type} [Zero F] [Neg F] [Add F] [Sub F] [Mul F] [Div F] [LT F] [LE F] [BEq F]
  [DecidableLT F] [DecidableLE F] [CFloat F]

/-! ## 1. Operations in a row -/

/-- Several operations on a controller. -/
def performOps (c : ChassisController F) (ops : List (ControlOp F)) : ChassisController F :=
  ops.foldl (fun c op => (controlStep c op).1) c

theorem performOps_append (c : ChassisController F) (ops ops' : List (ControlOp F)) :
    performOps c (ops ++ ops') = performOps (performOps c ops) ops' := List.foldl_append ..

/-- They are a run of its machine. -/
theorem performOps_after (memory : ChassisController F) (config : ChassisConfig F)
    (initMs : UInt64) (hist ops : List (ControlOp F)) :
    performOps ((chassis memory config initMs).after hist) ops =
      (chassis memory config initMs).after (ops.reverse ++ hist) :=
  (chassis memory config initMs).perform_after hist ops

/-! ## 2. Feedback as operations -/

/-- The operation that a pending frame comes to, if it is believed. -/
def frameOp (f : CanFrame × UInt64) : Option (ControlOp F) :=
  (receiveFeedback f.1 f.2).map .updateFeedback

/-- The operations that pending frames come to. -/
def feedbackOps (frames : StampedFrames) : List (ControlOp F) := frames.filterMap frameOp

theorem drainFrame_op (c : ChassisController F) (f : CanFrame × UInt64) :
    MotionTool.drainFrame c f.1 f.2 = performOps c (frameOp f).toList := by
  unfold MotionTool.drainFrame frameOp
  cases receiveFeedback f.1 f.2 with
  | none => rfl
  | some feedback => rfl

/-- **Draining is performing them.** -/
theorem drainFeedback_ops (c : ChassisController F) (frames : StampedFrames) :
    MotionTool.drainFeedback c frames = performOps c (feedbackOps frames) := by
  induction frames generalizing c with
  | nil => rfl
  | cons f frames ih =>
    have hcons : feedbackOps (F := F) (f :: frames) = (frameOp f).toList ++ feedbackOps frames := by
      unfold feedbackOps
      rw [List.filterMap_cons]
      cases frameOp (F := F) f <;> rfl
    rw [hcons, performOps_append, ← drainFrame_op]
    exact ih _

/-- The frames that `wait_for_all_feedback` reads before it returns. -/
def waitRead (timeoutMs startMs : UInt64) (c : ChassisController F) : List WaitPoll → StampedFrames
  | [] => []
  | poll :: polls =>
    if timeoutMs ≤ poll.testMs - startMs then []
    else
      let drained := MotionTool.drainFeedback c poll.frames
      if chassisFeedbackAllOnline drained poll.onlineMs then poll.frames
      else poll.frames ++ waitRead timeoutMs startMs drained polls

theorem feedbackOps_append (frames frames' : StampedFrames) :
    feedbackOps (F := F) (frames ++ frames') = feedbackOps frames ++ feedbackOps frames' :=
  List.filterMap_append ..

/-- Waiting is performing what these come to. -/
theorem waitForAllFeedback_ops {timeoutMs startMs : UInt64} {c c' : ChassisController F}
    {ok : Bool} : ∀ {polls : List WaitPoll},
      MotionTool.waitForAllFeedback timeoutMs startMs c polls = some (ok, c') →
      c' = performOps c (feedbackOps (waitRead timeoutMs startMs c polls))
  | poll :: polls, h => by
    unfold MotionTool.waitForAllFeedback at h
    unfold waitRead
    by_cases hover : timeoutMs ≤ poll.testMs - startMs
    · rw [if_pos hover] at h ⊢
      cases h
      rfl
    · rw [if_neg hover] at h ⊢
      simp only at h ⊢
      by_cases honline :
          chassisFeedbackAllOnline (MotionTool.drainFeedback c poll.frames) poll.onlineMs = true
      · rw [if_pos honline] at h ⊢
        cases h
        exact drainFeedback_ops c poll.frames
      · rw [if_neg honline] at h ⊢
        rw [feedbackOps_append, performOps_append, ← drainFeedback_ops c poll.frames]
        exact waitForAllFeedback_ops h

end Generic

/-! ## 3. What operations leave as the newest -/

section Newest

variable {F : Type}

/-- The record that a run of frames leaves for motor `k`: its last frame, decoded. -/
def recordOf (k : Slot) (frames : StampedFrames) : Option Motor3508Feedback :=
  (Proxy.believedFrom k frames).getLast?.map fun f => decodeFeedback k f.1.data f.2

/-- Operations that bring no feedback leave the newest record. -/
theorem latestFeedback_quiet {k : Slot} {ops : List (ControlOp F)} (hist : List (ControlOp F))
    (h : ∀ op ∈ ops, op.feedbackFor k = none) :
    latestFeedback k (ops ++ hist) = latestFeedback k hist := by
  unfold latestFeedback
  rw [List.findSome?_append, List.findSome?_eq_none_iff.mpr h, Option.none_or]

/-- A frame brings a record for motor `k` exactly if it is believed to be motor `k`'s. -/
theorem frameOp_feedbackFor (k : Slot) (f : CanFrame × UInt64) :
    ((frameOp f : Option (ControlOp F)).bind (ControlOp.feedbackFor k)) =
      if Believed f.1 k then some (decodeFeedback k f.1.data f.2) else none := by
  unfold frameOp
  by_cases hb : Believed f.1 k
  · rw [receiveFeedback_believed hb, if_pos hb]
    exact if_pos rfl
  · rw [if_neg hb]
    by_cases hother : ∃ j, Believed f.1 j
    · obtain ⟨j, hj⟩ := hother
      rw [receiveFeedback_believed hj]
      refine if_neg fun hid => hb ?_
      have hjk : j = k := motorId_injective hid
      rwa [hjk] at hj
    · rw [receiveFeedback_none fun j hj => hother ⟨j, hj⟩]
      rfl

/-- **The newest record behind pending frames**: that of the last frame of the motor among them, or
    the one before. -/
theorem latestFeedback_ops (k : Slot) (frames : StampedFrames)
    (hist : List (ControlOp F)) :
    latestFeedback k ((feedbackOps frames).reverse ++ hist) =
      (recordOf k frames).or (latestFeedback k hist) := by
  induction frames generalizing hist with
  | nil => rfl
  | cons f frames ih =>
    have hops : (feedbackOps (f :: frames)).reverse ++ hist =
        (feedbackOps frames).reverse ++ ((frameOp f : Option (ControlOp F)).toList ++ hist) := by
      unfold feedbackOps
      rw [List.filterMap_cons]
      cases frameOp (F := F) f with
      | none => rfl
      | some op =>
        rw [List.reverse_cons, List.append_assoc]
        rfl
    have hone : latestFeedback k ((frameOp f : Option (ControlOp F)).toList ++ hist) =
        ((frameOp f : Option (ControlOp F)).bind (ControlOp.feedbackFor k)).or
          (latestFeedback k hist) := by
      unfold latestFeedback
      cases frameOp (F := F) f with
      | none => rfl
      | some op =>
        rw [Option.toList_some, List.singleton_append, List.findSome?_cons, Option.bind_some]
        cases op.feedbackFor k <;> rfl
    rw [hops, ih, hone, frameOp_feedbackFor k]
    unfold recordOf Proxy.believedFrom
    rw [List.filter_cons]
    by_cases hb : Believed f.1 k
    · rw [if_pos hb, decide_eq_true hb, if_pos rfl, List.getLast?_cons]
      cases (frames.filter fun f => decide (Believed f.1 k)).getLast? <;> rfl
    · rw [if_neg hb, decide_eq_false hb, if_neg Bool.false_ne_true, Option.none_or]

/-- Pending frames are no commands. -/
theorem latestCommand_ops (frames : StampedFrames) (hist : List (ControlOp F)) :
    latestCommand ((feedbackOps frames).reverse ++ hist) = latestCommand hist := by
  unfold latestCommand
  rw [List.find?_append, List.find?_eq_none.mpr, Option.none_or]
  intro op hop
  rw [List.mem_reverse, feedbackOps, List.mem_filterMap] at hop
  obtain ⟨f, _, hf⟩ := hop
  obtain ⟨feedback, _, rfl⟩ := Option.map_eq_some_iff.mp hf
  exact Bool.false_ne_true

end Newest

theorem believedFrom_append (k : Slot) (frames frames' : StampedFrames) :
    Proxy.believedFrom k (frames ++ frames') =
      Proxy.believedFrom k frames ++ Proxy.believedFrom k frames' := List.filter_append ..

theorem recordOf_append (k : Slot) (frames frames' : StampedFrames) :
    recordOf k (frames ++ frames') = (recordOf k frames').or (recordOf k frames) := by
  unfold recordOf
  rw [believedFrom_append, List.getLast?_append]
  cases (Proxy.believedFrom k frames').getLast? <;> rfl

/-- A record comes from the last frame of its motor, and has its time. -/
theorem recordOf_eq_some {k : Slot} {frames : StampedFrames} {feedback : Motor3508Feedback}
    (h : recordOf k frames = some feedback) :
    ∃ f, (Proxy.believedFrom k frames).getLast? = some f ∧ feedback.lastUpdateMs = f.2 := by
  obtain ⟨f, hf, rfl⟩ := Option.map_eq_some_iff.mp h
  exact ⟨f, hf, rfl⟩

/-! ## 4. Drive tools -/

section Tool

variable {F : Type} [Zero F] [Neg F] [Add F] [Sub F] [Mul F] [Div F] [LT F] [LE F] [BEq F]
  [DecidableLT F] [DecidableLE F] [CFloat F]

/-- The frame that a tool makes of what `chassis_step` answers. -/
def sentFrame (result : StepResult) : CanFrame :=
  currentFrame (if !result.ret then fun _ => 0 else result.currents)

/-- A machine around a controller: in each turn it gives some commands, drains what is pending,
    steps once and sends the answer. -/
structure DriveTool (F : Type) [Zero F] [Neg F] [Add F] [Sub F] [Mul F] [Div F] [LT F] [LE F]
    [BEq F] [DecidableLT F] [DecidableLE F] [CFloat F] (σ ι ο : Type) where
  machine : Machine σ ι ο
  controller : σ → ChassisController F
  frame : ο → CanFrame
  nowMs : ι → UInt64
  dtS : σ → ι → F
  commands : σ → ι → List (ControlOp F)
  pending : ι → StampedFrames
  isCommand : ∀ s i, ∀ op ∈ commands s i, op.isCommand = true
  turn : ∀ s i,
    let ready := performOps (performOps (controller s) (commands s i)) (feedbackOps (pending i))
    controller (machine.step s i).1 = (chassisStep ready (nowMs i) (dtS s i)).1 ∧
      frame (machine.step s i).2 = sentFrame (chassisStep ready (nowMs i) (dtS s i)).2

namespace DriveTool

variable {σ ι ο : Type} (T : DriveTool F σ ι ο)

/-- The tool comes to its loop after `chassis_init` and a wait that has read `waited`. -/
def Entered (memory : ChassisController F) (config : ChassisConfig F) (initMs : UInt64)
    (waited : StampedFrames) : Prop :=
  T.controller T.machine.start =
    performOps (chassisInit memory config initMs) (feedbackOps waited)

/-- The frames read up to a turn, oldest first. -/
def read (waited : StampedFrames) : List ι → StampedFrames
  | [] => waited
  | i :: hist => read waited hist ++ T.pending i

/-- The commands given up to a turn, newest first. -/
def given : List ι → List (ControlOp F)
  | [] => []
  | i :: hist => (T.commands (T.machine.after hist) i).reverse ++ given hist

variable {T} {memory : ChassisController F} {config : ChassisConfig F} {initMs : UInt64}
  {waited : StampedFrames}

/-- **A drive tool operates the machine of ControlRun.lean.** -/
def client (h : T.Entered memory config initMs waited) :
    Client T.machine (chassis memory config initMs) where
  view := T.controller
  calls s i := T.commands s i ++ feedbackOps (T.pending i) ++ [.step (T.nowMs i) (T.dtS s i)]
  before := (feedbackOps waited).reverse
  start := by
    have hafter := performOps_after memory config initMs [] (feedbackOps waited)
    rw [List.append_nil] at hafter
    exact h.trans hafter
  step s i := by
    rw [(T.turn s i).1, Machine.perform_append, Machine.perform_append]
    rfl

/-- What the controller has been through when a turn comes to its control step. -/
def midTurn (h : T.Entered memory config initMs waited) (hist : List ι) (i : ι) :
    List (ControlOp F) :=
  (T.commands (T.machine.after hist) i ++ feedbackOps (T.pending i)).reverse ++
    (client h).history hist

/-- So the answer of a turn is that of a step of the controller's machine. -/
theorem answer_midTurn (h : T.Entered memory config initMs waited) (hist : List ι) (i : ι) :
    T.frame (T.machine.answer hist i) =
      sentFrame (chassisStep ((chassis memory config initMs).after (midTurn h hist i)) (T.nowMs i)
        (T.dtS (T.machine.after hist) i)).2 := by
  rw [Machine.answer, (T.turn _ i).2, ← performOps_append]
  unfold midTurn
  rw [← (client h).view_midTurn]
  rfl

/-- Commands bring no feedback. -/
theorem feedbackFor_of_isCommand {op : ControlOp F} (h : op.isCommand = true) (k : Slot) :
    op.feedbackFor k = none := by
  cases op with
  | setCommand f s r t => rfl
  | stop t => rfl
  | updateFeedback fb => cases h
  | step t dt => cases h

/-- The newest command operation behind commands and frames. -/
theorem latestCommand_turn {commands : List (ControlOp F)}
    (hcommands : ∀ op ∈ commands, op.isCommand = true) (frames : StampedFrames)
    (hist : List (ControlOp F)) :
    latestCommand ((commands ++ feedbackOps frames).reverse ++ hist) =
      commands.reverse.head?.or (latestCommand hist) := by
  rw [List.reverse_append, List.append_assoc, latestCommand_ops]
  unfold latestCommand
  rw [List.find?_append]
  cases hrev : commands.reverse with
  | nil => rfl
  | cons op ops =>
    have hmem : op ∈ commands := List.mem_reverse.mp (hrev ▸ List.mem_cons_self)
    rw [List.find?_cons_of_pos (hcommands op hmem)]
    rfl

/-- The newest record behind commands and frames. -/
theorem latestFeedback_turn {commands : List (ControlOp F)}
    (hcommands : ∀ op ∈ commands, op.isCommand = true) (k : Slot) (frames : StampedFrames)
    (hist : List (ControlOp F)) :
    latestFeedback k ((commands ++ feedbackOps frames).reverse ++ hist) =
      (recordOf k frames).or (latestFeedback k hist) := by
  rw [List.reverse_append, List.append_assoc, latestFeedback_ops, latestFeedback_quiet]
  intro op hop
  exact feedbackFor_of_isCommand (hcommands op (List.mem_reverse.mp hop)) k

/-- A control step at the end of a turn is neither. -/
theorem history_cons (h : T.Entered memory config initMs waited) (hist : List ι) (i : ι) :
    (client h).history (i :: hist) =
      .step (T.nowMs i) (T.dtS (T.machine.after hist) i) :: midTurn h hist i := by
  show (T.commands (T.machine.after hist) i ++ feedbackOps (T.pending i) ++
    [ControlOp.step (T.nowMs i) (T.dtS (T.machine.after hist) i)]).reverse ++
      (client h).history hist = _
  rw [List.reverse_append]
  rfl

/-- **The newest command operation of a run is the newest that the tool has given.** -/
theorem latestCommand_history (h : T.Entered memory config initMs waited) (hist : List ι) :
    latestCommand ((client h).history hist) = (T.given hist).head? := by
  induction hist with
  | nil =>
    have hops := latestCommand_ops (F := F) waited []
    rw [List.append_nil] at hops
    exact hops
  | cons i hist ih =>
    rw [history_cons, given, List.head?_append, ← ih,
      ← latestCommand_turn (T.isCommand _ i) (T.pending i)]
    rfl

theorem latestCommand_midTurn (h : T.Entered memory config initMs waited) (hist : List ι) (i : ι) :
    latestCommand (midTurn h hist i) = (T.given (i :: hist)).head? :=
  (congrArg latestCommand (history_cons h hist i)).symm.trans (latestCommand_history h (i :: hist))

/-- **The newest record of a motor is that of its last frame that the tool has read.** -/
theorem latestFeedback_history (h : T.Entered memory config initMs waited) (k : Slot)
    (hist : List ι) :
    latestFeedback k ((client h).history hist) = recordOf k (T.read waited hist) := by
  induction hist with
  | nil =>
    have hops := latestFeedback_ops (F := F) k waited []
    rw [List.append_nil] at hops
    exact hops.trans Option.or_none
  | cons i hist ih =>
    rw [history_cons, latestFeedback_cons_none rfl, read, recordOf_append, ← ih]
    exact latestFeedback_turn (T.isCommand _ i) k _ _

theorem latestFeedback_midTurn (h : T.Entered memory config initMs waited) (k : Slot)
    (hist : List ι) (i : ι) :
    latestFeedback k (midTurn h hist i) = recordOf k (T.read waited (i :: hist)) := by
  rw [← latestFeedback_history h, history_cons, latestFeedback_cons_none rfl]

end DriveTool

end Tool

/-! ## 5. Guarded frames -/

/-- Some motor is given a current. -/
def Drives (frame : CanFrame) : Prop := ∃ k, frameCurrent frame.data k ≠ 0

/-- A command that has not timed out at `nowMs`, and that the zero test does not swallow. -/
def LiveCommand (config : ChassisConfig ℚ) (nowMs : UInt64) (command : Option (ControlOp ℚ)) :
    Prop :=
  ∃ f s r t, command = some (.setCommand f s r t) ∧
    (nowMs.toNat : ℚ) - t.toNat ≤ config.commandTimeoutMs ∧
    (0.0001 ≤ |clampFloat f (-1) 1| ∨ 0.0001 ≤ |clampFloat s (-1) 1| ∨
      0.0001 ≤ |clampFloat r (-1) 1|)

/-- The last frame of motor `k` that has been read is no older than the feedback timeout. -/
def HeardLately (config : ChassisConfig ℚ) (nowMs : UInt64) (read : StampedFrames) (k : Slot) :
    Prop :=
  ∃ f, (Proxy.believedFrom k read).getLast? = some f ∧
    (nowMs.toNat : ℚ) - f.2.toNat ≤ config.feedbackTimeoutMs

/-- What every frame of a drive tool is: addressed to the motors and within the current limit; and
    if it drives one, there are a live command and four motors behind it. -/
structure Guarded (config : ChassisConfig ℚ) (nowMs : UInt64) (command : Option (ControlOp ℚ))
    (read : StampedFrames) (frame : CanFrame) : Prop where
  addressed : frame.canId = 0x200
  limited : ∀ k, |(frameCurrent frame.data k).toInt| ≤ 6500
  commanded : Drives frame → LiveCommand config nowMs command
  heard : Drives frame → ∀ k : Fin 4, HeardLately config nowMs read k.succ

theorem frameCurrent_sentFrame (result : StepResult) (k : Fin 4) :
    frameCurrent (sentFrame result).data k = if !result.ret then 0 else result.currents k.succ := by
  unfold sentFrame
  rw [show frameCurrent (currentFrame _).data k = _ from frameCurrent_pack _ k]
  cases result.ret <;> rfl

/-- The current of a wheel is within the limit. -/
theorem wheelCurrents_le {c : ChassisController ℚ} (hlim : ∀ i, i ≠ 0 → WheelLimits (c.pid i))
    (dtS : ℚ) (k : Fin 4) : |(wheelCurrents c dtS k.succ).toInt| ≤ 6500 := by
  have houtput : |(wheelPid c dtS k.succ).2| ≤ 6500 :=
    pidOutput_le (hlim k.succ (Fin.succ_ne_zero k)) _ _ _
  obtain ⟨hwire, hle⟩ := toInt_lrintf houtput
  rw [wheelCurrents, forMotors_motor _ _ (Fin.succ_ne_zero k), hwire]
  exact hle

/-- **The frame of a step is guarded by the history before it.** -/
theorem guarded_step (memory : ChassisController ℚ) (config : ChassisConfig ℚ) (initMs : UInt64)
    {hist : List (ControlOp ℚ)} {read : StampedFrames}
    (hread : ∀ k : Fin 4, latestFeedback k.succ hist = recordOf k.succ read) (nowMs : UInt64)
    (dtS : ℚ) :
    Guarded config nowMs (latestCommand hist) read
      (sentFrame (chassisStep ((chassis memory config initMs).after hist) nowMs dtS).2) := by
  have hlim : ∀ i, i ≠ 0 → WheelLimits (((chassis memory config initMs).after hist).pid i) :=
    fun i hi => wheelLimits_after memory config initMs hist hi
  have hquiet : ∀ result : StepResult, (∀ i, result.currents i = 0) →
      Guarded config nowMs (latestCommand hist) read (sentFrame result) := by
    intro result hzero
    have hcurrent : ∀ k, frameCurrent (sentFrame result).data k = 0 := fun k => by
      rw [frameCurrent_sentFrame, hzero, ite_self]
    refine ⟨rfl, fun k => ?_, fun hdrives => ?_, fun hdrives => ?_⟩
    · rw [hcurrent]
      decide
    · exact absurd (hcurrent _) hdrives.choose_spec
    · exact absurd (hcurrent _) hdrives.choose_spec
  rcases chassisStep_cases zeroIsStill_rat ((chassis memory config initMs).after hist) nowMs dtS
    with ⟨_, hstep⟩ | ⟨_, _, _, hstep⟩ | ⟨hlive, hcommand, honline, hstep⟩
  · rw [hstep]
    exact hquiet _ fun _ => rfl
  · rw [hstep]
    exact hquiet _ fun _ => rfl
  · rw [hstep]
    refine ⟨rfl, fun k => ?_, fun _ => ?_, fun _ k => ?_⟩
    · rw [frameCurrent_sentFrame]
      exact wheelCurrents_le (c := updateTargetsFromCommand _) hlim dtS k
    · exact commandAuthorises_of_active hlive hcommand
    · obtain ⟨feedback, hlatest, _, hage⟩ := motorReported_of_online (Fin.succ_ne_zero k)
        (chassisFeedbackAllOnline_iff.mp honline k.succ (Fin.succ_ne_zero k))
      rw [hread k] at hlatest
      obtain ⟨f, hf, htime⟩ := recordOf_eq_some hlatest
      rw [htime] at hage
      exact ⟨f, hf, hage⟩

/-- **Every frame of every run of a drive tool is guarded** by what the tool has commanded and what
    it has read. -/
theorem DriveTool.guarded {σ ι ο : Type} {T : DriveTool ℚ σ ι ο} {memory : ChassisController ℚ}
    {config : ChassisConfig ℚ} {initMs : UInt64} {waited : StampedFrames}
    (h : T.Entered memory config initMs waited) (hist : List ι) (i : ι) :
    Guarded config (T.nowMs i) (T.given (i :: hist)).head? (T.read waited (i :: hist))
      (T.frame (T.machine.answer hist i)) := by
  rw [answer_midTurn h, ← latestCommand_midTurn h]
  exact guarded_step memory config initMs
    (fun k => latestFeedback_midTurn h k.succ hist i) (T.nowMs i) _

end Rk3588Chassis
