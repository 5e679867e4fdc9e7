/-
  File:      Rk3588Chassis/ControlRelation.lean
  Subject:   Two controllers that behave alike, except for the wheels one does not look at.

  `Alike J c d` is the relation that two-run theorems about the controller use: configuration,
  command and targets agree, the PIDs agree outside the wheels `J`, and a feedback slot
  matters only as far as the code reads it -- its time stamp and speed only while it is
  online, its speed only outside `J`, entry 0 of every array not at all. The command clocks
  agree, unless the command is zero and no expiry test can matter.

  * `alike_step` -- one pair of matching operations keeps it and gives matching answers;
  * `alike_init` -- `chassis_init` establishes it whatever the memory held before;
  * `alike_after` -- so it holds after every pair of matching histories.

  Nothing here depends on what the float operations compute.
-/
import Rk3588Chassis.ControlRun

set_option linter.unusedSectionVars false

namespace Rk3588Chassis

open CFloat Reactive

variable {F : Type} [Zero F] [Neg F] [Add F] [Sub F] [Mul F] [Div F] [LT F] [LE F] [BEq F]
  [DecidableLT F] [DecidableLE F] [CFloat F]

/-! ## 1. The relation -/

/-- Two feedback slots the code cannot tell apart; with `blind`, not even the speed is read. -/
structure SlotAlike (blind : Prop) (a b : Motor3508Feedback) : Prop where
  online : a.online = b.online
  stamp : a.online ≠ 0 → a.lastUpdateMs = b.lastUpdateMs
  speed : a.online ≠ 0 → ¬ blind → a.speedRpm = b.speedRpm

theorem SlotAlike.refl (blind : Prop) (a : Motor3508Feedback) : SlotAlike blind a a :=
  ⟨rfl, fun _ => rfl, fun _ _ => rfl⟩

/-- Two controllers that behave alike outside the wheels `J`. -/
structure Alike (J : Slot → Prop) (c d : ChassisController F) : Prop where
  config : c.config = d.config
  command : c.command = d.command
  clock : c.lastCommandMs = d.lastCommandMs ∨ commandIsZero c.command = true
  target : ∀ i, i ≠ 0 → c.targetRpm i = d.targetRpm i
  pid : ∀ i, i ≠ 0 → ¬ J i → c.pid i = d.pid i
  feedback : ∀ i, i ≠ 0 → SlotAlike (J i) (c.feedback i) (d.feedback i)

/-- Matching operations: the same, except that a record of a wheel in `J` may differ in
    everything but its id, its online mark and its time stamp. -/
inductive OpAlike (J : Slot → Prop) : ControlOp F → ControlOp F → Prop
  | same (op : ControlOp F) : OpAlike J op op
  | feedback (a b : Motor3508Feedback) (i : Slot) (hi : i ≠ 0) (ha : a.id = UInt8.ofNat i.val)
      (hb : b.id = UInt8.ofNat i.val) (h : SlotAlike (J i) a b) :
      OpAlike J (.updateFeedback a) (.updateFeedback b)

/-- Matching step results: same return value, same currents outside `J`. -/
structure ResultAlike (J : Slot → Prop) (a b : StepResult) : Prop where
  ret : a.ret = b.ret
  currents : ∀ i, ¬ J i → a.currents i = b.currents i

/-! ## 2. The tests agree -/

theorem feedbackOnline_congr {blind : Prop} {c d : ChassisController F} (hcfg : c.config = d.config)
    {i : Slot} (h : SlotAlike blind (c.feedback i) (d.feedback i)) (nowMs : UInt64) :
    feedbackOnline c nowMs i = feedbackOnline d nowMs i := by
  unfold feedbackOnline
  rw [← h.online, ← hcfg]
  by_cases hon : (c.feedback i).online = 0
  · simp only [hon, bne_self_eq_false, Bool.false_and]
  · rw [h.stamp hon]

theorem Alike.allOnline {J : Slot → Prop} {c d : ChassisController F} (h : Alike J c d)
    (nowMs : UInt64) : chassisFeedbackAllOnline c nowMs = chassisFeedbackAllOnline d nowMs := by
  rw [Bool.eq_iff_iff, chassisFeedbackAllOnline_iff, chassisFeedbackAllOnline_iff]
  refine forall_congr' fun i => imp_congr_right fun hi => ?_
  rw [feedbackOnline_congr h.config (h.feedback i hi)]

/-- Either both steps are idle, or the command is noticeable and the expiry tests agree. -/
theorem Alike.idle_iff {J : Slot → Prop} {c d : ChassisController F} (h : Alike J c d)
    (nowMs : UInt64) : (commandExpired c nowMs = true ∨ commandIsZero c.command = true) ↔
      (commandExpired d nowMs = true ∨ commandIsZero d.command = true) := by
  rw [← h.command]
  rcases h.clock with hclock | hzero
  · rw [commandExpired, commandExpired, h.config, hclock]
  · simp only [hzero, or_true]

/-- Not idle here, so not idle there. -/
theorem Alike.busy {J : Slot → Prop} {c d : ChassisController F} (h : Alike J c d)
    {nowMs : UInt64} (he : commandExpired c nowMs = false) (hn : commandIsZero c.command = false) :
    commandExpired d nowMs = false ∧ commandIsZero d.command = false := by
  have hd : ¬ (commandExpired d nowMs = true ∨ commandIsZero d.command = true) := fun hd => by
    have hc := (h.idle_iff nowMs).mpr hd
    rw [he, hn] at hc
    exact hc.elim Bool.noConfusion Bool.noConfusion
  rw [not_or, Bool.not_eq_true, Bool.not_eq_true] at hd
  exact hd

/-! ## 3. The operations keep the relation -/

theorem Alike.reset (hz : ZeroIsStill F) {J : Slot → Prop} {c d : ChassisController F}
    (h : Alike J c d) : Alike J (resetMotionState c) (resetMotionState d) where
  config := h.config
  command := rfl
  clock := Or.inr hz
  target i hi := by simp only [resetMotionState, forMotors_motor _ _ hi]
  pid i hi hJ := by simp only [resetMotionState, forMotors_motor _ _ hi, h.pid i hi hJ]
  feedback := h.feedback

theorem Alike.dropTargets {J : Slot → Prop} {c d : ChassisController F} (h : Alike J c d) :
    Alike J (dropTargets c) (dropTargets d) where
  config := h.config
  command := h.command
  clock := h.clock
  target i hi := by simp only [Rk3588Chassis.dropTargets, forMotors_motor _ _ hi]
  pid i hi hJ := by simp only [Rk3588Chassis.dropTargets, forMotors_motor _ _ hi, h.pid i hi hJ]
  feedback := h.feedback

/-- The mixed targets of the wheels do not read the old ones. -/
theorem mixCommand_motor (config : ChassisConfig F) (command : ChassisCommand F)
    (target target' : Slot → F) : ∀ i : Slot, i ≠ 0 →
      mixCommand config command target i = mixCommand config command target' i
  | 1, _ => rfl
  | 2, _ => rfl
  | 3, _ => rfl
  | 4, _ => rfl

theorem normalizeWheelTargets_congr {a b : Slot → F} (h : ∀ i, i ≠ 0 → a i = b i) (maxAbsRpm : F)
    {i : Slot} (hi : i ≠ 0) : normalizeWheelTargets a maxAbsRpm i =
      normalizeWheelTargets b maxAbsRpm i := by
  have hpeak : wheelPeak a = wheelPeak b := by
    simp only [wheelPeak, List.foldl_cons, List.foldl_nil, h 1 (by decide), h 2 (by decide),
      h 3 (by decide), h 4 (by decide)]
  unfold normalizeWheelTargets
  rw [hpeak]
  split
  · simp only [forMotors_motor _ _ hi, h i hi]
  · exact h i hi

theorem Alike.updateTargets {J : Slot → Prop} {c d : ChassisController F} (h : Alike J c d) :
    Alike J (updateTargetsFromCommand c) (updateTargetsFromCommand d) where
  config := h.config
  command := h.command
  clock := h.clock
  target i hi := by
    simp only [updateTargetsFromCommand, h.config, h.command]
    exact normalizeWheelTargets_congr (mixCommand_motor _ _ _ _) _ hi
  pid := h.pid
  feedback := h.feedback

/-- The wheels outside `J` run the same calculation, when they are online. -/
theorem Alike.wheelPid {J : Slot → Prop} {c d : ChassisController F} (h : Alike J c d)
    {i : Slot} (hi : i ≠ 0) (hJ : ¬ J i) (hon : (c.feedback i).online ≠ 0) (dtS : F) :
    wheelPid c dtS i = wheelPid d dtS i := by
  unfold Rk3588Chassis.wheelPid
  rw [h.pid i hi hJ, h.target i hi, (h.feedback i hi).speed hon hJ]

theorem online_of_allOnline {c : ChassisController F} {nowMs : UInt64}
    (h : chassisFeedbackAllOnline c nowMs = true) {i : Slot} (hi : i ≠ 0) :
    (c.feedback i).online ≠ 0 := by
  have hon := chassisFeedbackAllOnline_iff.mp h i hi
  rw [feedbackOnline, Bool.and_eq_true, bne_iff_ne] at hon
  exact hon.1

/-- With all wheels online, those outside `J` keep their PIDs alike and get the same currents. -/
theorem Alike.runWheels {J : Slot → Prop} {c d : ChassisController F} (h : Alike J c d)
    (hon : ∀ i, i ≠ 0 → (c.feedback i).online ≠ 0) (dtS : F) :
    Alike J (runWheels c dtS) (runWheels d dtS) ∧
      ∀ i, ¬ J i → wheelCurrents c dtS i = wheelCurrents d dtS i := by
  have hwheel : ∀ i, i ≠ 0 → ¬ J i → Rk3588Chassis.wheelPid c dtS i =
      Rk3588Chassis.wheelPid d dtS i := fun i hi hJ => h.wheelPid hi hJ (hon i hi) dtS
  refine ⟨⟨h.config, h.command, h.clock, h.target, fun i hi hJ => ?_, h.feedback⟩, fun i hJ => ?_⟩
  · simp only [Rk3588Chassis.runWheels, forMotors_motor _ _ hi, hwheel i hi hJ]
  · by_cases hi : i = 0
    · simp only [hi, wheelCurrents_zero]
    · simp only [wheelCurrents, forMotors_motor _ _ hi, hwheel i hi hJ]

/-- **A step keeps the relation, and its results match.** -/
theorem alike_chassisStep (hz : ZeroIsStill F) {J : Slot → Prop} {c d : ChassisController F}
    (h : Alike J c d) (nowMs : UInt64) (dtS : F) :
    Alike J (chassisStep c nowMs dtS).1 (chassisStep d nowMs dtS).1 ∧
      ResultAlike J (chassisStep c nowMs dtS).2 (chassisStep d nowMs dtS).2 := by
  have hon := h.allOnline nowMs
  rcases chassisStep_cases hz c nowMs dtS with ⟨hi, hc⟩ | ⟨he, hn, ho, hc⟩ | ⟨he, hn, ho, hc⟩
  · rw [hc, chassisStep_idle hz ((h.idle_iff nowMs).mp hi)]
    exact ⟨h.reset hz, hon, fun _ _ => rfl⟩
  · have hd := h.busy he hn
    rw [hc, chassisStep_lost hd.1 hd.2 (hon ▸ ho)]
    exact ⟨h.dropTargets, rfl, fun _ _ => rfl⟩
  · have hd := h.busy he hn
    rw [hc, chassisStep_active hd.1 hd.2 (hon ▸ ho)]
    obtain ⟨hrun, hcurrents⟩ :=
      h.updateTargets.runWheels (fun i hi => online_of_allOnline ho hi) dtS
    exact ⟨hrun, rfl, hcurrents⟩

/-- Storing matching records keeps the relation. -/
theorem Alike.updateFeedback {J : Slot → Prop} {c d : ChassisController F} (h : Alike J c d)
    {a b : Motor3508Feedback} {i : Slot} (hi : i ≠ 0) (ha : a.id = UInt8.ofNat i.val)
    (hb : b.id = UInt8.ofNat i.val) (hab : SlotAlike (J i) a b) :
    Alike J (chassisUpdateFeedback c a) (chassisUpdateFeedback d b) := by
  rw [chassisUpdateFeedback_motor c hi ha, chassisUpdateFeedback_motor d hi hb]
  exact ⟨h.config, h.command, h.clock, h.target, h.pid, update_related h.feedback hab⟩

/-- **One pair of matching operations keeps the relation.** -/
theorem alike_step (hz : ZeroIsStill F) {J : Slot → Prop} {c d : ChassisController F}
    (h : Alike J c d) {op op' : ControlOp F} (hop : OpAlike J op op') :
    Alike J (controlStep c op).1 (controlStep d op').1 := by
  cases hop with
  | feedback a b i hi ha hb hab => exact h.updateFeedback hi ha hb hab
  | same =>
    cases op with
    | setCommand f s r t =>
      exact ⟨h.config, rfl, Or.inl rfl, h.target, h.pid, h.feedback⟩
    | stop t =>
      have hlast : Alike J { c with lastCommandMs := t } { d with lastCommandMs := t } :=
        ⟨h.config, h.command, Or.inl rfl, h.target, h.pid, h.feedback⟩
      exact hlast.reset hz
    | updateFeedback fb =>
      rcases chassisUpdateFeedback_cases c fb with ⟨_, hno⟩ | ⟨i, hi, hid, _⟩
      · have hforeign : (fb.id < 1 || UInt8.ofNat chassisMotorCount < fb.id) = true :=
          (motorId_cases fb.id).resolve_right fun ⟨i, hi, hid⟩ => hno i hi hid
        show Alike J (chassisUpdateFeedback c fb) (chassisUpdateFeedback d fb)
        rw [chassisUpdateFeedback_foreign c hforeign, chassisUpdateFeedback_foreign d hforeign]
        exact h
      · exact h.updateFeedback hi hid hid (SlotAlike.refl _ fb)
    | step t dt => exact (alike_chassisStep hz h t dt).1

/-! ## 4. Runs -/

/-- **`chassis_init` makes any two memories alike.** -/
theorem alike_init (J : Slot → Prop) (memory memory' : ChassisController F)
    (config : ChassisConfig F) (initMs : UInt64) :
    Alike J (chassisInit memory config initMs) (chassisInit memory' config initMs) where
  config := rfl
  command := rfl
  clock := Or.inl rfl
  target _ _ := rfl
  pid i hi _ := by
    rw [chassisInit_pid memory config initMs hi, chassisInit_pid memory' config initMs hi]
    exact pidInit_eq _ _ _ _ _ _ _ _ _
  feedback i _ := ⟨rfl, fun h => absurd rfl h, fun h => absurd rfl h⟩

/-- **After matching histories the two controllers are alike.** -/
theorem alike_after (hz : ZeroIsStill F) {J : Slot → Prop} (memory memory' : ChassisController F)
    (config : ChassisConfig F) (initMs : UInt64) {hist hist' : List (ControlOp F)}
    (h : List.Forall₂ (OpAlike J) hist hist') :
    Alike J ((chassis memory config initMs).after hist)
      ((chassis memory' config initMs).after hist') :=
  Machine.after_related (chassis memory config initMs) (chassis memory' config initMs)
    (alike_init J memory memory' config initMs)
    (fun _ _ _ _ hR hQ => alike_step hz hR hQ) h

/-- **Controllers alike in all four wheels are observationally equal.** -/
theorem obsEq_of_alike (hz : ZeroIsStill F) {c d : ChassisController F}
    (h : Alike (fun _ => False) c d) : ObsEq controlStep c d := by
  refine obsEq_of_bisim (R := Alike fun _ => False) (fun c d op hcd => ?_) h
  refine ⟨alike_step hz hcd (.same op), ?_⟩
  cases op with
  | setCommand f s r t => rfl
  | stop t => rfl
  | updateFeedback fb => rfl
  | step t dt =>
    have hr := (alike_chassisStep hz hcd t dt).2
    have hcur : (chassisStep c t dt).2.currents = (chassisStep d t dt).2.currents :=
      funext fun i => hr.currents i not_false
    show some (chassisStep c t dt).2 = some (chassisStep d t dt).2
    generalize (chassisStep c t dt).2 = a at hr hcur
    generalize (chassisStep d t dt).2 = b at hr hcur
    cases a
    cases b
    simp only at hcur
    have hret := hr.ret
    simp only at hret
    rw [hcur, hret]

end Rk3588Chassis
