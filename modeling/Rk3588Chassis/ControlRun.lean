/-
  File:      Rk3588Chassis/ControlRun.lean
  Subject:   The controller as a machine: the four operations after `chassis_init`, in any order,
             and what a history of them says about commands and feedback.

  * `chassis` -- the machine; `memory` is whatever the controller's storage held before
    `chassis_init` (the daemon's controller lives uninitialised on the stack);
  * `latestCommand`, `latestFeedback` -- the newest command operation and the newest record of a
    motor, read off the history alone;
  * `ClockForward` -- the operation times do not run backwards;
  * `feedback_memory` -- the invariant that ties the four feedback slots to the history.
-/
import Rk3588Chassis.Control
import Rk3588Chassis.Library.Machine

set_option linter.unusedSectionVars false

namespace Rk3588Chassis

open CFloat Reactive

/-- The operations of `include/chassis_control.h` after the initialisation. -/
inductive ControlOp (F : Type) where
  | setCommand (forward strafe rotate : F) (nowMs : UInt64)
  | stop (nowMs : UInt64)
  | updateFeedback (feedback : Motor3508Feedback)
  | step (nowMs : UInt64) (dtS : F)

/-! ## 1. The machine -/

section Machine

variable {F : Type} [Zero F] [Neg F] [Add F] [Sub F] [Mul F] [Div F] [LT F] [LE F] [BEq F]
  [DecidableLT F] [DecidableLE F] [CFloat F]

/-- One operation; only `chassis_step` answers. -/
def controlStep (c : ChassisController F) :
    ControlOp F → ChassisController F × Option StepResult
  | .setCommand forward strafe rotate nowMs =>
      (chassisSetCommand c forward strafe rotate nowMs, none)
  | .stop nowMs => (chassisStop c nowMs, none)
  | .updateFeedback feedback => (chassisUpdateFeedback c feedback, none)
  | .step nowMs dtS => ((chassisStep c nowMs dtS).1, some (chassisStep c nowMs dtS).2)

/-- A controller initialised at `initMs` on storage that held `memory`. -/
def chassis (memory : ChassisController F) (config : ChassisConfig F) (initMs : UInt64) :
    Machine (ChassisController F) (ControlOp F) (Option StepResult) where
  start := chassisInit memory config initMs
  step := controlStep

/-- A controller on zeroed storage. -/
def blankMemory : ChassisController ℚ where
  config := ⟨0, 0, 0, 0⟩
  pid _ := ⟨0, 0, 0, 0, 0, 0, 0, 0, 0, 0, 0, 0, 0, 0, 0⟩
  feedback _ := ⟨0, 0, 0, 0, 0, 0, 0⟩
  targetRpm _ := 0
  command := zeroCommand
  lastCommandMs := 0

/-- The PID of motor `i` right after `chassis_init`. -/
theorem chassisInit_pid (memory : ChassisController F) (config : ChassisConfig F)
    (initMs : UInt64) {i : Slot} (hi : i ≠ 0) :
    (chassisInit memory config initMs).pid i =
      pidInit (memory.pid i) (ofRat (wheelGains i).1) (ofRat (wheelGains i).2) 0
        (ofRat 6500) (-ofRat 6500) (ofRat 2500) (-ofRat 2500) := by
  simp only [chassisInit, forMotors_motor _ _ hi]

theorem chassisUpdateFeedback_cases (c : ChassisController F) (fb : Motor3508Feedback) :
    (chassisUpdateFeedback c fb = c ∧ ∀ i : Slot, i ≠ 0 → fb.id ≠ UInt8.ofNat i.val) ∨
    ∃ i : Slot, i ≠ 0 ∧ fb.id = UInt8.ofNat i.val ∧
      chassisUpdateFeedback c fb = { c with feedback := Function.update c.feedback i fb } := by
  rcases motorId_cases fb.id with h | ⟨i, hi, h⟩
  · refine Or.inl ⟨chassisUpdateFeedback_foreign c h, fun i hi hid => ?_⟩
    have hr : ∀ j : Slot, j ≠ 0 → (UInt8.ofNat j.val < 1 ||
        UInt8.ofNat chassisMotorCount < UInt8.ofNat j.val) = false := by decide
    rw [hid, hr i hi] at h
    cases h
  · exact Or.inr ⟨i, hi, h, chassisUpdateFeedback_motor c hi h⟩

/-- A step touches neither the configuration nor the feedback slots. -/
theorem chassisStep_frame (hz : ZeroIsStill F) (c : ChassisController F) (nowMs : UInt64) (dtS : F) :
    (chassisStep c nowMs dtS).1.config = c.config ∧
      (chassisStep c nowMs dtS).1.feedback = c.feedback ∧
      (chassisStep c nowMs dtS).1.lastCommandMs = c.lastCommandMs := by
  rcases chassisStep_cases hz c nowMs dtS with ⟨_, h⟩ | ⟨_, _, _, h⟩ | ⟨_, _, _, h⟩ <;>
    rw [h] <;> exact ⟨rfl, rfl, rfl⟩

/-- The configuration never changes. -/
theorem chassis_config (hz : ZeroIsStill F) (memory : ChassisController F)
    (config : ChassisConfig F) (initMs : UInt64) (hist : List (ControlOp F)) :
    ((chassis memory config initMs).after hist).config = config := by
  refine Machine.after_invariant (chassis memory config initMs)
    (P := fun c => c.config = config) rfl ?_ hist
  intro c op hc
  cases op with
  | setCommand f s r t => exact hc
  | stop t => exact hc
  | updateFeedback fb =>
    rcases chassisUpdateFeedback_cases c fb with ⟨h, _⟩ | ⟨i, _, _, h⟩ <;>
      simp only [chassis, controlStep, h, hc]
  | step t dt => exact (chassisStep_frame hz c t dt).1.trans hc

/-- **Gains and limits are those of `chassis_init`, for ever.** -/
theorem chassis_gains (hz : ZeroIsStill F) (memory : ChassisController F)
    (config : ChassisConfig F) (initMs : UInt64) (hist : List (ControlOp F)) :
    ∀ i : Slot, i ≠ 0 → SameGains (((chassis memory config initMs).after hist).pid i)
      ((chassisInit memory config initMs).pid i) := by
  refine Machine.after_invariant (chassis memory config initMs)
    (P := fun c => ∀ i : Slot, i ≠ 0 → SameGains (c.pid i)
      ((chassisInit memory config initMs).pid i))
    (fun i _ => ⟨rfl, rfl, rfl, rfl, rfl, rfl, rfl⟩) ?_ hist
  intro c op hc i hi
  -- every write to a PID is a reset or a calculation on that PID
  have hreset : SameGains (forMotors (fun _ p => pidReset p) c.pid i) (c.pid i) := by
    rw [forMotors_motor _ _ hi]
    exact pidReset_gains _
  cases op with
  | setCommand f s r t => exact hc i hi
  | stop t => exact hreset.trans (hc i hi)
  | updateFeedback fb =>
    show SameGains ((chassisUpdateFeedback c fb).pid i) _
    rcases chassisUpdateFeedback_cases c fb with ⟨h, _⟩ | ⟨j, _, _, h⟩ <;> rw [h] <;> exact hc i hi
  | step t dt =>
    show SameGains ((chassisStep c t dt).1.pid i) _
    rcases chassisStep_cases hz c t dt with ⟨_, h⟩ | ⟨_, _, _, h⟩ | ⟨_, _, _, h⟩ <;> rw [h]
    · exact hreset.trans (hc i hi)
    · exact hreset.trans (hc i hi)
    · have hrun : (runWheels (updateTargetsFromCommand c) dt).pid i =
          (wheelPid (updateTargetsFromCommand c) dt i).1 := by
        simp only [runWheels, forMotors_motor _ _ hi]
      rw [hrun]
      exact (pidCalculate_gains _ _ _ _).trans (hc i hi)

end Machine

/-! ## 2. What a history says -/

section History

variable {F : Type}

/-- `chassis_set_command` and `chassis_stop` are the command operations. -/
def ControlOp.isCommand : ControlOp F → Bool
  | .setCommand .. => true
  | .stop _ => true
  | _ => false

/-- The newest command operation of a history. -/
def latestCommand (hist : List (ControlOp F)) : Option (ControlOp F) :=
  hist.find? ControlOp.isCommand

/-- The record an operation delivers for motor `i`. -/
def ControlOp.feedbackFor (i : Slot) : ControlOp F → Option Motor3508Feedback
  | .updateFeedback fb => if fb.id = UInt8.ofNat i.val then some fb else none
  | _ => none

/-- The newest feedback record of motor `i`. -/
def latestFeedback (i : Slot) (hist : List (ControlOp F)) : Option Motor3508Feedback :=
  hist.findSome? (ControlOp.feedbackFor i)

theorem latestFeedback_cons_none {i : Slot} {op : ControlOp F} (h : op.feedbackFor i = none)
    (hist : List (ControlOp F)) : latestFeedback i (op :: hist) = latestFeedback i hist := by
  simp only [latestFeedback, List.findSome?_cons, h]

theorem latestFeedback_cons_some {i : Slot} {op : ControlOp F} {fb : Motor3508Feedback}
    (h : op.feedbackFor i = some fb) (hist : List (ControlOp F)) :
    latestFeedback i (op :: hist) = some fb := by
  simp only [latestFeedback, List.findSome?_cons, h]

/-- The time an operation is given; a feedback record brings its own time stamp instead. -/
def ControlOp.time : ControlOp F → Option UInt64
  | .setCommand _ _ _ nowMs => some nowMs
  | .stop nowMs => some nowMs
  | .updateFeedback _ => none
  | .step nowMs _ => some nowMs

/-- The operation times, from `chassis_init` at `initMs` on, do not run backwards. -/
def ClockForward (initMs : UInt64) (hist : List (ControlOp F)) : Prop :=
  (hist.filterMap ControlOp.time ++ [initMs]).Pairwise fun later earlier => earlier ≤ later

end History

/-- A record of a motor that stands still, received at 12 ms. -/
def standingRecord (id : UInt8) : Motor3508Feedback := ⟨id, 0, 0, 0, 30, 12, 1⟩

/-- Full speed ahead at 10 ms, then one record of each motor. -/
def driveHist : List (ControlOp ℚ) :=
  [.updateFeedback (standingRecord 4), .updateFeedback (standingRecord 3),
    .updateFeedback (standingRecord 2), .updateFeedback (standingRecord 1), .setCommand 1 0 0 10]

/-! ## 3. The feedback slots remember the newest record -/

section Feedback

variable {F : Type} [Zero F] [Neg F] [Add F] [Sub F] [Mul F] [Div F] [LT F] [LE F] [BEq F]
  [DecidableLT F] [DecidableLE F] [CFloat F]

/-- Slot `i` holds the newest record of motor `i`, and is offline while there is none. -/
def SlotRemembers (hist : List (ControlOp F)) (i : Slot) (slot : Motor3508Feedback) : Prop :=
  match latestFeedback i hist with
  | none => slot.online = 0 ∧ slot.id = UInt8.ofNat i.val
  | some fb => slot = fb

/-- The ids of two motors differ. -/
theorem motorId_injective {i j : Slot} (h : UInt8.ofNat i.val = UInt8.ofNat j.val) : i = j := by
  revert i j
  decide

/-- **The feedback slots are a function of the history.** -/
theorem feedback_memory (hz : ZeroIsStill F) (memory : ChassisController F)
    (config : ChassisConfig F) (initMs : UInt64) (hist : List (ControlOp F)) :
    ∀ i : Slot, i ≠ 0 →
      SlotRemembers hist i (((chassis memory config initMs).after hist).feedback i) := by
  refine Machine.after_admissible (chassis memory config initMs) (A := fun _ => True)
    (P := fun hist c => ∀ i : Slot, i ≠ 0 → SlotRemembers hist i (c.feedback i))
    (fun _ _ _ => trivial) (fun i _ => ⟨rfl, rfl⟩) ?_ hist trivial
  intro op hist c _ hI i hi
  cases op with
  | setCommand f s r t =>
    rw [SlotRemembers, latestFeedback_cons_none rfl]
    exact hI i hi
  | stop t =>
    rw [SlotRemembers, latestFeedback_cons_none rfl]
    exact hI i hi
  | step t dt =>
    rw [SlotRemembers, latestFeedback_cons_none rfl]
    show SlotRemembers hist i ((chassisStep c t dt).1.feedback i)
    rw [(chassisStep_frame hz c t dt).2.1]
    exact hI i hi
  | updateFeedback fb =>
    show SlotRemembers _ i ((chassisUpdateFeedback c fb).feedback i)
    rcases chassisUpdateFeedback_cases c fb with ⟨h, hno⟩ | ⟨j, hj, hid, h⟩
    · have hf : (ControlOp.updateFeedback fb : ControlOp F).feedbackFor i = none :=
        if_neg (hno i hi)
      rw [h, SlotRemembers, latestFeedback_cons_none hf]
      exact hI i hi
    · rw [h]
      by_cases hij : i = j
      · subst hij
        have hf : (ControlOp.updateFeedback fb : ControlOp F).feedbackFor i = some fb := if_pos hid
        rw [SlotRemembers, latestFeedback_cons_some hf]
        exact Function.update_self ..
      · have hne : fb.id ≠ UInt8.ofNat i.val := fun e => hij (motorId_injective (e.symm.trans hid))
        have hf : (ControlOp.updateFeedback fb : ControlOp F).feedbackFor i = none := if_neg hne
        rw [SlotRemembers, latestFeedback_cons_none hf]
        show SlotRemembers hist i (Function.update c.feedback j fb i)
        rw [Function.update_of_ne hij]
        exact hI i hi

end Feedback

end Rk3588Chassis
