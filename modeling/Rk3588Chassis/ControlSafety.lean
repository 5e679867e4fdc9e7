/-
  File:      Rk3588Chassis/ControlSafety.lean
  Subject:   No motion without authority: what must have happened before a step drives a motor.

  The abstract reading of the command cell is a LEASE (Library/Lease.lean): a
  `chassis_set_command` with a noticeable command grants it until `command_timeout_ms` later, a
  stop or an unnoticeable command revokes it, and every step is a tick. `command_lease` is the
  refinement: whenever the memory holds a noticeable command, the lease is held and is that
  command. The feedback half is `feedback_memory` (ControlRun.lean).

  `motion_is_authorised` puts the two together: a step that writes a non-zero current anywhere
  was allowed to by the history.
-/
import Rk3588Chassis.ControlRun
import Rk3588Chassis.Library.Lease

namespace Rk3588Chassis

open CFloat Reactive

/-! ## 1. The exact reading of the tests -/

theorem absFloat_rat (x : ℚ) : absFloat x = |x| := by
  unfold absFloat
  split
  · rename_i h
    exact (abs_of_nonneg h).symm
  · rename_i h
    exact (abs_of_neg (not_le.mp h)).symm

theorem floatMs_rat (ms : UInt64) : (floatMs ms : ℚ) = (ms.toNat : ℚ) := rfl

/-- The saturating difference is at least the true one. -/
theorem sub_le_elapsedMs (nowMs previousMs : UInt64) :
    (nowMs.toNat : ℚ) - previousMs.toNat ≤ ((elapsedMs nowMs previousMs).toNat : ℚ) := by
  unfold elapsedMs
  split
  · rename_i h
    rw [UInt64.toNat_sub_of_le _ _ h, Nat.cast_sub (UInt64.le_iff_toNat_le.mp h)]
  · rename_i h
    have hlt : (nowMs.toNat : ℚ) < previousMs.toNat :=
      Nat.cast_lt.mpr (UInt64.lt_iff_toNat_lt.mp (UInt64.not_le.mp h))
    simp only [UInt64.toNat_zero, Nat.cast_zero]
    linarith

/-- A command that passes the zero test has a component of at least `0.0001`. -/
theorem noticeable_of_not_zero {command : ChassisCommand ℚ} (h : commandIsZero command = false) :
    0.0001 ≤ |command.forward| ∨ 0.0001 ≤ |command.strafe| ∨ 0.0001 ≤ |command.rotate| := by
  simp only [commandIsZero, absFloat_rat, ofRat_rat, Bool.and_eq_false_iff,
    decide_eq_false_iff_not, not_lt] at h
  rcases h with (h | h) | h
  · exact Or.inl h
  · exact Or.inr (Or.inl h)
  · exact Or.inr (Or.inr h)

/-! ## 2. The command cell is a lease -/

/-- The command `chassis_set_command` stores. -/
def clampedCommand (forward strafe rotate : ℚ) : ChassisCommand ℚ :=
  ⟨clampFloat forward (-1) 1, clampFloat strafe (-1) 1, clampFloat rotate (-1) 1⟩

/-- What an operation does to the authority to move. -/
def commandEvent (config : ChassisConfig ℚ) :
    ControlOp ℚ → Option (LeaseEvent (ChassisCommand ℚ) ℚ)
  | .setCommand forward strafe rotate nowMs =>
      if commandIsZero (clampedCommand forward strafe rotate) then some .revoke
      else some (.grant
        ⟨clampedCommand forward strafe rotate, nowMs.toNat + config.commandTimeoutMs⟩)
  | .stop _ => some .revoke
  | .updateFeedback _ => none
  | .step nowMs _ => some (.tick nowMs.toNat)

/-- The lease history of a controller history. -/
def commandEvents (config : ChassisConfig ℚ) (hist : List (ControlOp ℚ)) :
    List (LeaseEvent (ChassisCommand ℚ) ℚ) := hist.filterMap (commandEvent config)

/-- A noticeable command in memory is the lease in hand. -/
def LeaseHeld (config : ChassisConfig ℚ) (hist : List (ControlOp ℚ)) (c : ChassisController ℚ) :
    Prop :=
  commandIsZero c.command = false → held (commandEvents config hist) =
    some ⟨c.command, c.lastCommandMs.toNat + config.commandTimeoutMs⟩

theorem commandEvents_cons (config : ChassisConfig ℚ) (op : ControlOp ℚ) (hist : List (ControlOp ℚ)) :
    commandEvents config (op :: hist) =
      (commandEvent config op).toList ++ commandEvents config hist := by
  unfold commandEvents
  cases h : commandEvent config op <;> simp [h]

/-- A command that has not expired is before its deadline. -/
theorem le_deadline {c : ChassisController ℚ} {nowMs : UInt64}
    (h : commandExpired c nowMs = false) :
    (nowMs.toNat : ℚ) ≤ c.lastCommandMs.toNat + c.config.commandTimeoutMs := by
  have h1 := sub_le_elapsedMs nowMs c.lastCommandMs
  rw [commandExpired, decide_eq_false_iff_not, not_lt, floatMs_rat] at h
  linarith

/-- A step that leaves a noticeable command in memory has found the lease live. -/
theorem leaseHeld_tick {config : ChassisConfig ℚ} {hist : List (ControlOp ℚ)}
    {c c' : ChassisController ℚ} {nowMs : UInt64} (dtS : ℚ) (hcfg : c.config = config)
    (hL : LeaseHeld config hist c) (he : commandExpired c nowMs = false)
    (hc : c'.command = c.command) (ht : c'.lastCommandMs = c.lastCommandMs) :
    LeaseHeld config (.step nowMs dtS :: hist) c' := by
  intro hn
  rw [hc] at hn
  rw [commandEvents_cons, hc, ht]
  refine held_tick_iff.mpr ⟨hL hn, ?_⟩
  rw [← hcfg]
  exact le_deadline he

/-- One operation keeps the refinement. -/
theorem leaseHeld_step {config : ChassisConfig ℚ} {hist : List (ControlOp ℚ)}
    {c : ChassisController ℚ} (hcfg : c.config = config) (hL : LeaseHeld config hist c)
    (op : ControlOp ℚ) : LeaseHeld config (op :: hist) (controlStep c op).1 := by
  have hzero : commandIsZero (zeroCommand : ChassisCommand ℚ) = true := zeroIsStill_rat
  cases op with
  | setCommand f s r t =>
    intro hn
    have hcmd : (controlStep c (.setCommand f s r t)).1.command = clampedCommand f s r := rfl
    rw [hcmd] at hn
    rw [commandEvents_cons, commandEvent, hn, hcmd]
    rfl
  | stop t =>
    intro hn
    rw [show (controlStep c (.stop t)).1.command = zeroCommand from rfl, hzero] at hn
    cases hn
  | updateFeedback fb =>
    show LeaseHeld config hist (chassisUpdateFeedback c fb)
    rcases chassisUpdateFeedback_cases c fb with ⟨h, _⟩ | ⟨i, _, _, h⟩ <;> rw [h] <;> exact hL
  | step t dt =>
    show LeaseHeld config (.step t dt :: hist) (chassisStep c t dt).1
    rcases chassisStep_cases zeroIsStill_rat c t dt with ⟨_, h⟩ | ⟨he, _, _, h⟩ | ⟨he, _, _, h⟩ <;>
      rw [h]
    · intro hn
      rw [show (resetMotionState c).command = zeroCommand from rfl, hzero] at hn
      cases hn
    · exact leaseHeld_tick dt hcfg hL he rfl rfl
    · exact leaseHeld_tick dt hcfg hL he rfl rfl

/-- **The command cell refines the lease**, after every history. -/
theorem command_lease (memory : ChassisController ℚ) (config : ChassisConfig ℚ) (initMs : UInt64) :
    ∀ hist, LeaseHeld config hist ((chassis memory config initMs).after hist)
  | [] => fun h => by
      rw [show ((chassis memory config initMs).after []).command = zeroCommand from rfl,
        show commandIsZero (zeroCommand : ChassisCommand ℚ) = true from zeroIsStill_rat] at h
      cases h
  | op :: hist =>
      leaseHeld_step (chassis_config zeroIsStill_rat memory config initMs hist)
        (command_lease memory config initMs hist) op

/-! ## 3. Reading the lease off the history -/

/-- The newest grant is the newest command operation, a `chassis_set_command`. -/
theorem latestLease_commandEvents {config : ChassisConfig ℚ} {l : Lease (ChassisCommand ℚ) ℚ}
    {hist : List (ControlOp ℚ)} (h : latestLease (commandEvents config hist) = some l) :
    ∃ f s r t, latestCommand hist = some (.setCommand f s r t) ∧
      l = ⟨clampedCommand f s r, t.toNat + config.commandTimeoutMs⟩ := by
  induction hist with
  | nil => cases h
  | cons op hist ih =>
    rw [commandEvents_cons] at h
    cases op with
    | setCommand f s r t =>
      rw [commandEvent] at h
      split at h
      · cases h
      · cases h
        exact ⟨f, s, r, t, rfl, rfl⟩
    | stop t => cases h
    | updateFeedback fb => exact ih h
    | step t dt => exact ih h

/-! ## 4. The theorem -/

/-- What a history must say about the command for a step at `nowMs` to drive the motors: the
    newest command operation is a `chassis_set_command`, not older than the timeout, and
    noticeable after clamping. -/
def CommandAuthorises (config : ChassisConfig ℚ) (hist : List (ControlOp ℚ)) (nowMs : UInt64) :
    Prop :=
  ∃ f s r tc, latestCommand hist = some (.setCommand f s r tc) ∧
    (nowMs.toNat : ℚ) - tc.toNat ≤ config.commandTimeoutMs ∧
    (0.0001 ≤ |clampFloat f (-1) 1| ∨ 0.0001 ≤ |clampFloat s (-1) 1| ∨
      0.0001 ≤ |clampFloat r (-1) 1|)

/-- What it must say about motor `i`: a record has come, the newest one is marked online and
    its time stamp is not more than the timeout before `nowMs`. -/
def MotorReported (config : ChassisConfig ℚ) (hist : List (ControlOp ℚ)) (nowMs : UInt64)
    (i : Slot) : Prop :=
  ∃ fb, latestFeedback i hist = some fb ∧ fb.online ≠ 0 ∧
    (nowMs.toNat : ℚ) - fb.lastUpdateMs.toNat ≤ config.feedbackTimeoutMs

/-- An active step has the lease: the newest command operation authorises it. -/
theorem commandAuthorises_of_active {memory : ChassisController ℚ} {config : ChassisConfig ℚ}
    {initMs nowMs : UInt64} {hist : List (ControlOp ℚ)}
    (he : commandExpired ((chassis memory config initMs).after hist) nowMs = false)
    (hc : commandIsZero ((chassis memory config initMs).after hist).command = false) :
    CommandAuthorises config hist nowMs := by
  have hheld := command_lease memory config initMs hist hc
  obtain ⟨f, s, r, t, hlatest, hl⟩ := latestLease_commandEvents (latestLease_of_held hheld)
  simp only [Lease.mk.injEq, add_left_inj, Nat.cast_inj] at hl
  have hdead := le_deadline he
  rw [chassis_config zeroIsStill_rat, hl.2] at hdead
  have hnote := noticeable_of_not_zero hc
  rw [hl.1] at hnote
  exact ⟨f, s, r, t, hlatest, by linarith, hnote⟩

/-- An online slot is the newest record of its motor, and recent enough. -/
theorem motorReported_of_online {memory : ChassisController ℚ} {config : ChassisConfig ℚ}
    {initMs nowMs : UInt64} {hist : List (ControlOp ℚ)} {i : Slot} (hi : i ≠ 0)
    (h : feedbackOnline ((chassis memory config initMs).after hist) nowMs i = true) :
    MotorReported config hist nowMs i := by
  have hslot := feedback_memory zeroIsStill_rat memory config initMs hist i hi
  rw [feedbackOnline, chassis_config zeroIsStill_rat, Bool.and_eq_true, bne_iff_ne,
    Bool.not_eq_true', decide_eq_false_iff_not, not_lt, floatMs_rat] at h
  obtain ⟨hon, hage⟩ := h
  unfold SlotRemembers at hslot
  cases hfb : latestFeedback i hist with
  | none =>
    rw [hfb] at hslot
    exact absurd hslot.1 hon
  | some fb =>
    rw [hfb] at hslot
    simp only at hslot
    rw [hslot] at hon hage
    have hsub := sub_le_elapsedMs nowMs fb.lastUpdateMs
    exact ⟨fb, hfb, hon, by linarith⟩

/-- The newest command operation, if it is a `chassis_set_command`, is one and only one. -/
theorem latest_setCommand_time {hist : List (ControlOp ℚ)} {f s r f' s' r' : ℚ} {t t' : UInt64}
    (h : latestCommand hist = some (.setCommand f s r t))
    (h' : latestCommand hist = some (.setCommand f' s' r' t')) : t = t' := by
  rw [h] at h'
  simp only [Option.some.injEq, ControlOp.setCommand.injEq] at h'
  exact h'.2.2.2

/-- Under a forward clock no operation of the history is later than a new step. -/
theorem ClockForward.le_of_mem {initMs nowMs t : UInt64} {dtS dt : ℚ} {hist : List (ControlOp ℚ)}
    (h : ClockForward initMs (.step nowMs dtS :: hist)) (hm : .step t dt ∈ hist) : t ≤ nowMs := by
  have hcons : ((nowMs :: hist.filterMap ControlOp.time) ++ [initMs]).Pairwise
      fun later earlier => earlier ≤ later := h
  rw [List.cons_append, List.pairwise_cons] at hcons
  refine hcons.1 t (List.mem_append_left _ (List.mem_filterMap.mpr ⟨_, hm, rfl⟩))

/-- **No motion without authority.** After `chassis_init` on any memory and with any
    configuration, and any history of operations under a forward clock, a step that writes a
    non-zero current into any entry has a newest command operation that authorises it and four
    motors that reported in time, and returns 1. A step that returns 0 leaves all five entries
    0, and so does every step after a stop, or after a step that found the newest command
    expired, up to the next `chassis_set_command`. -/
theorem motion_is_authorised (memory : ChassisController ℚ) (config : ChassisConfig ℚ)
    (initMs : UInt64) (hist : List (ControlOp ℚ)) (nowMs : UInt64) (dtS : ℚ)
    (hclock : ClockForward initMs (.step nowMs dtS :: hist)) :
    let result := (chassisStep ((chassis memory config initMs).after hist) nowMs dtS).2
    ((∃ i, result.currents i ≠ 0) →
      CommandAuthorises config hist nowMs ∧ (∀ k : Fin 4, MotorReported config hist nowMs k.succ) ∧
        result.ret = true) ∧
    (result.ret = false → ∀ i, result.currents i = 0) ∧
    ((latestCommand hist = none ∨ ∃ t, latestCommand hist = some (.stop t)) →
      ∀ i, result.currents i = 0) ∧
    (∀ f s r tc t dt, latestCommand hist = some (.setCommand f s r tc) → .step t dt ∈ hist →
      config.commandTimeoutMs < (t.toNat : ℚ) - tc.toNat → ∀ i, result.currents i = 0) := by
  intro result
  have hmain : (∃ i, result.currents i ≠ 0) → CommandAuthorises config hist nowMs ∧
      (∀ k : Fin 4, MotorReported config hist nowMs k.succ) ∧ result.ret = true := by
    rintro ⟨i, hi⟩
    rcases chassisStep_cases zeroIsStill_rat ((chassis memory config initMs).after hist) nowMs dtS
      with ⟨_, h⟩ | ⟨_, _, _, h⟩ | ⟨he, hc, ho, h⟩
    · exact absurd (by rw [show result = _ from congrArg Prod.snd h]) hi
    · exact absurd (by rw [show result = _ from congrArg Prod.snd h]) hi
    · refine ⟨commandAuthorises_of_active he hc, fun k => ?_, congrArg (fun p => p.2.ret) h⟩
      exact motorReported_of_online (Fin.succ_ne_zero k)
        (chassisFeedbackAllOnline_iff.mp ho k.succ (Fin.succ_ne_zero k))
  -- the other three parts are the first one read backwards
  have hquiet : ¬ (∃ i, result.currents i ≠ 0) → ∀ i, result.currents i = 0 :=
    fun h i => by_contra fun hi => h ⟨i, hi⟩
  refine ⟨hmain, fun hret => hquiet fun h => ?_, fun hstop => hquiet fun h => ?_,
    fun f s r tc t dt hset hmem hexp => hquiet fun h => ?_⟩
  · rw [(hmain h).2.2] at hret
    cases hret
  · obtain ⟨f, s, r, t, hlatest, _⟩ := (hmain h).1
    rcases hstop with hstop | ⟨t', hstop⟩ <;> rw [hstop] at hlatest <;> cases hlatest
  · obtain ⟨f', s', r', t', hlatest, hage, _⟩ := (hmain h).1
    have htc := latest_setCommand_time hset hlatest
    have hle : (t.toNat : ℚ) ≤ nowMs.toNat :=
      Nat.cast_le.mpr (UInt64.le_iff_toNat_le.mp (hclock.le_of_mem hmem))
    rw [← htc] at hage
    linarith

/-- At 20 ms the four standing motors are driven, with authority. -/
theorem drive_is_authorised : CommandAuthorises chassisDefaultConfig driveHist 20 ∧
    ∀ k : Fin 4, MotorReported chassisDefaultConfig driveHist 20 k.succ := by
  have hclock : ClockForward 0 (.step 20 (1 / 100) :: driveHist) := by
    unfold ClockForward
    decide
  obtain ⟨hcommand, hmotors, _⟩ :=
    (motion_is_authorised blankMemory chassisDefaultConfig 0 driveHist 20 (1 / 100) hclock).1
      ⟨1, by decide +kernel⟩
  exact ⟨hcommand, hmotors⟩

end Rk3588Chassis
