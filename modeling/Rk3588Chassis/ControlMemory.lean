/-
  File:      Rk3588Chassis/ControlMemory.lean
  Subject:   What `chassis_init` leaves unset never shows.

  The daemon's controller lives on the stack: `chassis_init` writes the id and the online mark of a
  feedback slot and leaves its speed, current, angle, temperature and time stamp, and it leaves the
  whole of entry 0 of the PIDs. Two controllers that were initialised alike on different memories
  are `Twins`: they agree wherever the code looks. What is left over is read behind an online mark
  only, and the mark comes with a record.

  * `Twins.step` -- a control step keeps twins and gives the same result;
  * `memory_never_shows` -- so every history of operations does.

  Nothing is asked of the float operations, not even that zero is still.
-/
import Rk3588Chassis.ControlRelation

set_option linter.unusedSectionVars false

namespace Rk3588Chassis

open CFloat Reactive

variable {F : Type} [Zero F] [Neg F] [Add F] [Sub F] [Mul F] [Div F] [LT F] [LE F] [BEq F]
  [DecidableLT F] [DecidableLE F] [CFloat F]

/-! ## 1. Twins -/

/-- Two controllers that agree wherever the code looks. -/
structure Twins (c d : ChassisController F) : Prop where
  alike : Alike (fun _ => False) c d
  clock : c.lastCommandMs = d.lastCommandMs

theorem Twins.reset {c d : ChassisController F} (h : Twins c d) :
    Twins (resetMotionState c) (resetMotionState d) where
  alike :=
    { config := h.alike.config
      command := rfl
      clock := Or.inl h.clock
      target := fun i hi => by simp only [resetMotionState, forMotors_motor _ _ hi]
      pid := fun i hi hJ => by
        simp only [resetMotionState, forMotors_motor _ _ hi, h.alike.pid i hi hJ]
      feedback := h.alike.feedback }
  clock := h.clock

/-- `chassis_step` behind its expiry test. -/
def liveStep (c : ChassisController F) (nowMs : UInt64) (dtS : F) :
    ChassisController F × StepResult :=
  if commandIsZero c.command then
    (resetMotionState c, ⟨fun _ => 0, chassisFeedbackAllOnline c nowMs⟩)
  else
    let c := updateTargetsFromCommand c
    if !chassisFeedbackAllOnline c nowMs then (dropTargets c, ⟨fun _ => 0, false⟩)
    else (runWheels c dtS, ⟨wheelCurrents c dtS, true⟩)

theorem chassisStep_live (c : ChassisController F) (nowMs : UInt64) (dtS : F) :
    chassisStep c nowMs dtS =
      liveStep (if commandExpired c nowMs then resetMotionState c else c) nowMs dtS := rfl

/-- The three ways on, side by side: both controllers take the same one. -/
theorem Twins.live {c d : ChassisController F} (h : Twins c d) (nowMs : UInt64) (dtS : F) :
    Twins (liveStep c nowMs dtS).1 (liveStep d nowMs dtS).1 ∧
      (liveStep c nowMs dtS).2 = (liveStep d nowMs dtS).2 := by
  have hu := h.alike.updateTargets
  have honline := h.alike.allOnline nowMs
  have honline' := hu.allOnline nowMs
  unfold liveStep
  rw [← h.alike.command]
  cases commandIsZero c.command with
  | true =>
    refine ⟨h.reset, ?_⟩
    show StepResult.mk _ (chassisFeedbackAllOnline c nowMs) =
      StepResult.mk _ (chassisFeedbackAllOnline d nowMs)
    rw [honline]
  | false =>
    simp only [Bool.false_eq_true, if_false, ← honline']
    cases hall : chassisFeedbackAllOnline (updateTargetsFromCommand c) nowMs with
    | false => exact ⟨⟨hu.dropTargets, h.clock⟩, rfl⟩
    | true =>
      obtain ⟨hrun, hcurrents⟩ := hu.runWheels (fun i hi => online_of_allOnline hall hi) dtS
      refine ⟨⟨hrun, h.clock⟩, ?_⟩
      show StepResult.mk (wheelCurrents (updateTargetsFromCommand c) dtS) true =
        StepResult.mk (wheelCurrents (updateTargetsFromCommand d) dtS) true
      rw [funext fun i => hcurrents i not_false]

/-- **A control step keeps twins, and gives the same result.** -/
theorem Twins.step {c d : ChassisController F} (h : Twins c d) (nowMs : UInt64) (dtS : F) :
    Twins (chassisStep c nowMs dtS).1 (chassisStep d nowMs dtS).1 ∧
      (chassisStep c nowMs dtS).2 = (chassisStep d nowMs dtS).2 := by
  have hexpired : commandExpired c nowMs = commandExpired d nowMs := by
    rw [commandExpired, commandExpired, h.alike.config, h.clock]
  rw [chassisStep_live, chassisStep_live, ← hexpired]
  cases commandExpired c nowMs with
  | true => exact h.reset.live nowMs dtS
  | false => exact h.live nowMs dtS

/-- A record is stored in both, or in neither. -/
theorem Twins.updateFeedback {c d : ChassisController F} (h : Twins c d)
    (feedback : Motor3508Feedback) :
    Twins (chassisUpdateFeedback c feedback) (chassisUpdateFeedback d feedback) := by
  rcases motorId_cases feedback.id with hforeign | ⟨i, hi, hid⟩
  · rw [chassisUpdateFeedback_foreign c hforeign, chassisUpdateFeedback_foreign d hforeign]
    exact h
  · refine ⟨h.alike.updateFeedback hi hid hid (SlotAlike.refl _ feedback), ?_⟩
    rw [chassisUpdateFeedback_motor c hi hid, chassisUpdateFeedback_motor d hi hid]
    exact h.clock

/-! ## 2. Histories -/

/-- **Every operation keeps twins, and answers the same.** -/
theorem Twins.operation {c d : ChassisController F} (h : Twins c d) (op : ControlOp F) :
    Twins (controlStep c op).1 (controlStep d op).1 ∧
      (controlStep c op).2 = (controlStep d op).2 := by
  cases op with
  | setCommand forward strafe rotate nowMs =>
    exact ⟨⟨⟨h.alike.config, rfl, Or.inl rfl, h.alike.target, h.alike.pid, h.alike.feedback⟩, rfl⟩,
      rfl⟩
  | stop nowMs =>
    have hlast : Twins { c with lastCommandMs := nowMs } { d with lastCommandMs := nowMs } :=
      ⟨⟨h.alike.config, h.alike.command, Or.inl rfl, h.alike.target, h.alike.pid,
        h.alike.feedback⟩, rfl⟩
    exact ⟨hlast.reset, rfl⟩
  | updateFeedback feedback => exact ⟨h.updateFeedback feedback, rfl⟩
  | step nowMs dtS =>
    obtain ⟨hstep, hresult⟩ := h.step nowMs dtS
    exact ⟨hstep, congrArg some hresult⟩

/-- **After the same history the controllers are twins**, whatever memory they started on. -/
theorem twins_after (memory memory' : ChassisController F) (config : ChassisConfig F)
    (initMs : UInt64) : ∀ hist, Twins ((chassis memory config initMs).after hist)
      ((chassis memory' config initMs).after hist)
  | [] => ⟨alike_init _ memory memory' config initMs, rfl⟩
  | op :: hist => ((twins_after memory memory' config initMs hist).operation op).1

/-- **Uninitialised memory never shows**: after any history every operation answers the same, the
    online test too, and the targets of the four wheels are the same. -/
theorem memory_never_shows (memory memory' : ChassisController F) (config : ChassisConfig F)
    (initMs : UInt64) (hist : List (ControlOp F)) :
    let run := chassis memory config initMs
    let run' := chassis memory' config initMs
    (∀ op, run.answer hist op = run'.answer hist op) ∧
      (∀ nowMs, chassisFeedbackAllOnline (run.after hist) nowMs =
        chassisFeedbackAllOnline (run'.after hist) nowMs) ∧
      ∀ i, i ≠ 0 → (run.after hist).targetRpm i = (run'.after hist).targetRpm i := by
  intro run run'
  have htwins : Twins (run.after hist) (run'.after hist) :=
    twins_after memory memory' config initMs hist
  exact ⟨fun op => (htwins.operation op).2, htwins.alike.allOnline, htwins.alike.target⟩

end Rk3588Chassis
