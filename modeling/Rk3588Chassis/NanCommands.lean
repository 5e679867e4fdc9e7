/-
  File:      Rk3588Chassis/NanCommands.lean
  Subject:   Commands that are no numbers: what `%f` accepts goes through the clamp.

  `%f` reads `nan` and `inf` as well as digits, so the controller is run here over `ExtRat`. The
  clamp is two comparisons that fall through: it sends the infinities to its ends and keeps NaN. A
  turn of the daemon is `Sound` if the command it steers by lies in [-1, 1] and everything computed
  from it is a number; it is `Harmless` if the last command of its batch spells no NaN, and the two
  limits of the command line are numbers whenever the wheels are to move.

  * `targets_finite_iff` -- under a command in range the targets are numbers exactly when the limits
    are;
  * `soundTurn_iff` -- one turn, from a state whose command is in range;
  * `sound_iff_harmless` -- every run.
-/
import Rk3588Chassis.CommandLine

namespace Rk3588Chassis

open CFloat CText ExtRat Rounding Reactive

/-! ## 1. The controller over extended rationals -/

/-- For what is no number C leaves the result of `lrintf` open; these are the values of the
    processor the chassis runs on. -/
instance : CFloat ExtRat where
  ofRat q := .finite q
  lrintf
    | .finite q => roundHalfEven q
    | .inf negative => if negative then longMin else longMax
    | .nan => 0

theorem zeroIsStill_ext : ZeroIsStill ExtRat := by
  unfold ZeroIsStill
  decide +kernel

/-- A number between -1 and 1. -/
def InRange (x : ExtRat) : Prop := ∃ q, x = .finite q ∧ -1 ≤ q ∧ q ≤ 1

/-- A command of such numbers. -/
structure CommandInRange (command : ChassisCommand ExtRat) : Prop where
  forward : InRange command.forward
  strafe : InRange command.strafe
  rotate : InRange command.rotate

theorem InRange.finite {x : ExtRat} (h : InRange x) : IsFinite x := by
  obtain ⟨q, rfl, _⟩ := h
  trivial

/-- **The clamp of a command keeps NaN and nothing else out of range.** -/
theorem clampFloat_inRange (x : ExtRat) :
    InRange (clampFloat x (-ofRat 1) (ofRat 1)) ↔ x ≠ .nan :=
  @saturate_mem_iff (-1) 1 (by norm_num) x

theorem clampFloat_finite {x : ExtRat} (h : InRange x) :
    IsFinite (clampFloat x (-ofRat 1) (ofRat 1)) := by
  obtain ⟨q, rfl, _⟩ := h
  exact ((clampFloat_inRange (.finite q)).mpr nofun).finite

/-! ## 2. The targets -/

/-- The two limits of the command line are numbers. -/
def LimitsFinite (config : ChassisConfig ExtRat) : Prop :=
  IsFinite config.maxTranslateRpm ∧ IsFinite config.maxRotateRpm

/-- **The mixed targets are numbers exactly when the limits are.** -/
theorem mixCommand_finite {command : ChassisCommand ExtRat} (h : CommandInRange command)
    (config : ChassisConfig ExtRat) (target : Slot → ExtRat) : ∀ i : Slot, i ≠ 0 →
      (IsFinite (mixCommand config command target i) ↔ LimitsFinite config) := by
  have hforward := clampFloat_finite h.forward
  have hstrafe := clampFloat_finite h.strafe
  have hrotate := clampFloat_finite h.rotate
  unfold LimitsFinite
  intro i hi
  match i, hi with
  | 0, hi => exact absurd rfl hi
  | 1, _ | 2, _ | 3, _ | 4, _ =>
    simp only [mixCommand, finite_sub, finite_add, finite_neg, finite_mul, hforward, hstrafe,
      hrotate, true_and, and_self]

theorem absFloat_finite {x : ExtRat} (h : IsFinite x) : IsFinite (absFloat x) := by
  unfold absFloat
  split
  · exact h
  · exact finite_neg.mpr h

/-- The peak is one of the magnitudes. -/
theorem wheelPeak_finite {target : Slot → ExtRat} (h : ∀ i, i ≠ 0 → IsFinite (target i)) :
    IsFinite (wheelPeak target) := by
  have habs : ∀ i, i ≠ 0 → IsFinite (absFloat (target i)) := fun i hi => absFloat_finite (h i hi)
  have hfold : ∀ (wheels : List Slot) (peak : ExtRat), (∀ i ∈ wheels, i ≠ 0) → IsFinite peak →
      IsFinite (wheels.foldl (fun peak i =>
        if peak < absFloat (target i) then absFloat (target i) else peak) peak) := by
    intro wheels
    induction wheels with
    | nil => exact fun _ _ hpeak => hpeak
    | cons i wheels ih =>
      intro peak hmotors hpeak
      refine ih _ (fun j hj => hmotors j (List.mem_cons_of_mem i hj)) ?_
      show IsFinite (if peak < absFloat (target i) then absFloat (target i) else peak)
      split
      · exact habs i (hmotors i List.mem_cons_self)
      · exact hpeak
  exact hfold _ _ (by decide) (habs 1 (by decide))

/-- Normalisation makes nothing finite that is not, and keeps what is under a finite limit. -/
theorem normalize_finite {target : Slot → ExtRat} {maxAbsRpm : ExtRat} {i : Slot} (hi : i ≠ 0) :
    (IsFinite (normalizeWheelTargets target maxAbsRpm i) → IsFinite (target i)) ∧
      ((∀ j, j ≠ 0 → IsFinite (target j)) → IsFinite maxAbsRpm →
        IsFinite (normalizeWheelTargets target maxAbsRpm i)) := by
  unfold normalizeWheelTargets
  split
  · rename_i hpeak
    rw [forMotors_motor _ _ hi]
    refine ⟨fun h => (finite_mul.mp h).1, fun htarget hmax => finite_mul.mpr ⟨htarget i hi, ?_⟩⟩
    exact finite_div hmax (wheelPeak_finite htarget) hpeak.2
  · exact ⟨id, fun htarget _ => htarget i hi⟩

/-- **Under a command in range the targets are numbers exactly when the limits are.** -/
theorem targets_finite_iff {c : ChassisController ExtRat} (h : CommandInRange c.command) :
    (∀ i, i ≠ 0 → IsFinite ((updateTargetsFromCommand c).targetRpm i)) ↔ LimitsFinite c.config := by
  have hmix := mixCommand_finite h c.config c.targetRpm
  constructor
  · intro htarget
    exact (hmix 1 (by decide)).mp ((normalize_finite (by decide)).1 (htarget 1 (by decide)))
  · intro hlimits i hi
    exact (normalize_finite hi).2 (fun j hj => (hmix j hj).mpr hlimits) hlimits.1

/-! ## 3. A turn of the daemon -/

/-- `sscanf` over extended rationals: every number is itself. -/
def scanExt : CString → ScanResult ExtRat := sscanfCommand id

/-- The three values of a datagram that parses. -/
def spelled (datagram : List UInt8) : ChassisCommand ExtRat :=
  let scan := scanExt (commandText datagram)
  ⟨scan.forward, scan.strafe, scan.rotate⟩

/-- None of the values is NaN. -/
def NanFree (datagram : List UInt8) : Prop :=
  (spelled datagram).forward ≠ .nan ∧ (spelled datagram).strafe ≠ .nan ∧
    (spelled datagram).rotate ≠ .nan

/-- The step finds a live command that is not zero: it computes targets. -/
def Moves (c : ChassisController ExtRat) (nowMs : UInt64) : Prop :=
  commandExpired c nowMs = false ∧ commandIsZero c.command = false

/-- The wheel targets a step computes, and the inputs of its four PID calls, are numbers. An idle
    step computes none. -/
def FiniteStep (c : ChassisController ExtRat) (nowMs : UInt64) (dtS : ExtRat) : Prop :=
  Moves c nowMs → ∀ i, i ≠ 0 → IsFinite ((updateTargetsFromCommand c).targetRpm i) ∧
    IsFinite (ofRat ((c.feedback i).speedRpm.toInt : ℚ) : ExtRat) ∧ IsFinite dtS

/-- So are the targets the step leaves behind. -/
theorem FiniteStep.stored {c : ChassisController ExtRat} {nowMs : UInt64} {dtS : ExtRat}
    (h : FiniteStep c nowMs dtS) {i : Slot} (hi : i ≠ 0) :
    IsFinite ((chassisStep c nowMs dtS).1.targetRpm i) := by
  have hzero : IsFinite (forMotors (fun _ _ => (0 : ExtRat)) c.targetRpm i) := by
    rw [forMotors_motor _ _ hi]
    trivial
  rcases chassisStep_cases zeroIsStill_ext c nowMs dtS with ⟨_, hc⟩ | ⟨_, _, _, hc⟩ | ⟨he, hn, _, hc⟩
  · rw [hc]
    exact hzero
  · rw [hc]
    exact hzero
  · rw [hc]
    exact (h ⟨he, hn⟩ i hi).1

/-- The step time of a turn. -/
def turnTime (s : DaemonState ExtRat) (input : DaemonInput) : ExtRat :=
  floatMs (input.nowMs - s.lastLoopMs) / ofRat 1000

/-- A turn whose command lies in range, and whose step computes with numbers. -/
def Sound (s : DaemonState ExtRat) (input : DaemonInput) : Prop :=
  CommandInRange (receiveAll scanExt s input).1.command ∧
    FiniteStep (receiveAll scanExt s input).1 input.nowMs (turnTime s input)

/-- A turn whose last command spells no NaN, and that moves under finite limits only. -/
def Harmless (s : DaemonState ExtRat) (input : DaemonInput) : Prop :=
  (∀ datagram, lastValid scanExt input.datagrams = some datagram → NanFree datagram) ∧
    (Moves (receiveAll scanExt s input).1 input.nowMs → LimitsFinite s.controller.config)

/-- Receiving stores the clamped values of the last command, if there is one. -/
theorem receiveAll_command (s : DaemonState ExtRat) (input : DaemonInput) :
    (receiveAll scanExt s input).1.config = s.controller.config ∧
      (receiveAll scanExt s input).1.command =
        match lastValid scanExt input.datagrams with
        | none => s.controller.command
        | some datagram =>
          ⟨clampFloat (spelled datagram).forward (-ofRat 1) (ofRat 1),
            clampFloat (spelled datagram).strafe (-ofRat 1) (ofRat 1),
            clampFloat (spelled datagram).rotate (-ofRat 1) (ofRat 1)⟩ := by
  have hcell : commandCell (receiveAll scanExt s input).1 =
      commandCell (obeyDatagram scanExt input.nowMs s.controller
        (lastValid scanExt input.datagrams)) := by
    rw [← receiveCommands_controller scanExt input.nowMs s.controller s.stats]
    exact drainFeedback_command ..
  have hcommand := congrArg Prod.fst hcell
  have hconfig := congrArg (fun cell => cell.2.2) hcell
  simp only [commandCell] at hcommand hconfig
  rw [hcommand, hconfig]
  cases lastValid scanExt input.datagrams with
  | none => exact ⟨rfl, rfl⟩
  | some datagram => exact ⟨rfl, rfl⟩

/-- The command of a turn is in range exactly when the last one received spells no NaN. -/
theorem receiveAll_inRange {s : DaemonState ExtRat} (h : CommandInRange s.controller.command)
    (input : DaemonInput) : CommandInRange (receiveAll scanExt s input).1.command ↔
      ∀ datagram, lastValid scanExt input.datagrams = some datagram → NanFree datagram := by
  rw [(receiveAll_command s input).2]
  cases lastValid scanExt input.datagrams with
  | none => exact iff_of_true h nofun
  | some datagram =>
    constructor
    · intro hgiven d hd
      obtain ⟨hforward, hstrafe, hrotate⟩ := hgiven
      cases hd
      exact ⟨(clampFloat_inRange _).mp hforward, (clampFloat_inRange _).mp hstrafe,
        (clampFloat_inRange _).mp hrotate⟩
    · intro hall
      obtain ⟨hforward, hstrafe, hrotate⟩ := hall datagram rfl
      exact ⟨(clampFloat_inRange _).mpr hforward, (clampFloat_inRange _).mpr hstrafe,
        (clampFloat_inRange _).mpr hrotate⟩

/-- Milliseconds in seconds are a number. -/
theorem turnTime_finite (s : DaemonState ExtRat) (input : DaemonInput) :
    IsFinite (turnTime s input) := by
  have hpos : (0 : ExtRat) < .finite 1000 := finite_lt.mpr (by norm_num)
  exact finite_div trivial trivial hpos

/-- **One turn**, from a state whose command is in range. -/
theorem soundTurn_iff {s : DaemonState ExtRat} (h : CommandInRange s.controller.command)
    (input : DaemonInput) : Sound s input ↔ Harmless s input := by
  unfold Sound Harmless
  rw [receiveAll_inRange h input]
  refine and_congr_right fun hfree => imp_congr_right fun _ => ?_
  rw [← (receiveAll_command s input).1,
    ← targets_finite_iff ((receiveAll_inRange h input).mpr hfree)]
  exact forall_congr' fun i => imp_congr_right fun _ =>
    ⟨fun hfinite => hfinite.1, fun htarget => ⟨htarget, trivial, turnTime_finite s input⟩⟩

/-! ## 4. Runs -/

/-- The zero command is in range. -/
theorem zeroCommand_inRange : CommandInRange zeroCommand := by
  have hzero : InRange 0 := ⟨0, rfl, by norm_num, by norm_num⟩
  exact ⟨hzero, hzero, hzero⟩

/-- A control step keeps the command or clears it. -/
theorem chassisStep_inRange {c : ChassisController ExtRat} (h : CommandInRange c.command)
    (nowMs : UInt64) (dtS : ExtRat) : CommandInRange (chassisStep c nowMs dtS).1.command := by
  rcases chassisStep_cases zeroIsStill_ext c nowMs dtS with ⟨_, hc⟩ | ⟨_, _, _, hc⟩ | ⟨_, _, _, hc⟩
  · rw [hc]
    exact zeroCommand_inRange
  · rw [hc]
    exact h
  · rw [hc]
    exact h

/-- **A sound turn keeps the command in range.** -/
theorem daemonStep_inRange {s : DaemonState ExtRat} {input : DaemonInput} (h : Sound s input) :
    CommandInRange (daemonStep scanExt s input).1.controller.command :=
  chassisStep_inRange h.1 input.nowMs (turnTime s input)

/-- The loop is entered with the zero command. -/
theorem start_inRange {memory : ChassisController ExtRat} {config : ChassisConfig ExtRat}
    {initMs : UInt64} {start : DaemonState ExtRat} (h : LoopEntered memory config initMs start) :
    CommandInRange start.controller.command := by
  obtain ⟨stats, waitMs, polls, hwait⟩ := h
  have hcommand : start.controller.command = zeroCommand :=
    congrArg Prod.fst (wait_command hwait)
  rw [hcommand]
  exact zeroCommand_inRange

/-- After sound turns the command is in range. -/
theorem inRange_after {start : DaemonState ExtRat} (hstart : CommandInRange start.controller.command)
    {run : List DaemonInput} (h : ∀ i hist, (i :: hist) <:+ run →
      Sound ((chassisDaemon scanExt start).after hist) i) :
    CommandInRange ((chassisDaemon scanExt start).after run).controller.command := by
  cases run with
  | nil => exact hstart
  | cons i hist => exact daemonStep_inRange (h i hist (List.suffix_refl _))

/-- **The command is a number in range, and all that is computed from it, in every turn of a run,
    exactly when every turn is harmless.** -/
theorem sound_iff_harmless {memory : ChassisController ExtRat} {config : ChassisConfig ExtRat}
    {initMs : UInt64} {start : DaemonState ExtRat} (hstart : LoopEntered memory config initMs start)
    (run : List DaemonInput) :
    (∀ i hist, (i :: hist) <:+ run → Sound ((chassisDaemon scanExt start).after hist) i) ↔
      ∀ i hist, (i :: hist) <:+ run → Harmless ((chassisDaemon scanExt start).after hist) i := by
  induction run with
  | nil => exact iff_of_true forall_turn_nil forall_turn_nil
  | cons i run ih =>
    rw [forall_turn_cons (P := fun i hist => Sound ((chassisDaemon scanExt start).after hist) i),
      forall_turn_cons (P := fun i hist => Harmless ((chassisDaemon scanExt start).after hist) i),
      ← ih]
    refine and_congr_left fun hrun => ?_
    exact soundTurn_iff (inRange_after (start_inRange hstart) hrun) i

/-- Zeroed storage. -/
def zeroedMemory : ChassisController ExtRat where
  config := ⟨0, 0, 0, 0⟩
  pid _ := ⟨0, 0, 0, 0, 0, 0, 0, 0, 0, 0, 0, 0, 0, 0, 0⟩
  feedback _ := ⟨0, 0, 0, 0, 0, 0, 0⟩
  targetRpm _ := 0
  command := zeroCommand
  lastCommandMs := 0

/-- The loop with all motors heard, and limits of 500 and 400 rpm. -/
def helloExt : DaemonState ExtRat :=
  let s := drainFeedback (chassisInit zeroedMemory (daemonConfig (.finite 500) (.finite 400)) 890)
    ⟨890, fun _ => 0, 0, 0, 0, -1⟩ helloFrames
  ⟨s.1, s.2, 901⟩

theorem helloExt_entered : LoopEntered zeroedMemory
    (daemonConfig (.finite 500) (.finite 400)) 890 helloExt := by
  have honline : chassisFeedbackAllOnline helloExt.controller 900 = true := by decide +kernel
  refine ⟨⟨890, fun _ => 0, 0, 0, 0, -1⟩, 890, [⟨891, helloFrames, 900⟩], ?_⟩
  have htime : ¬ (1500 : UInt64) ≤ 891 - 890 := by decide
  rw [waitForAllFeedback, if_neg htime]
  exact if_pos honline

/-- `nan 0 0` -/
def nanLine : List UInt8 := [110, 97, 110, 32, 48, 32, 48]

/-- A turn that reads `1 0 0` is sound. -/
theorem ahead_turn_sound : Sound helloExt ⟨1000, [aheadLine], [], true⟩ := by
  have hlast : lastValid scanExt [aheadLine] = some aheadLine := by decide +kernel
  have hfree : NanFree aheadLine := ⟨by decide +kernel, by decide +kernel, by decide +kernel⟩
  have hlimits : LimitsFinite helloExt.controller.config :=
    ⟨by decide +kernel, by decide +kernel⟩
  refine (sound_iff_harmless helloExt_entered [⟨1000, [aheadLine], [], true⟩]).mpr ?_ _ []
    (List.suffix_refl _)
  refine (forall_turn_cons (P := fun i hist =>
    Harmless ((chassisDaemon scanExt helloExt).after hist) i)).mpr ⟨⟨?_, fun _ => hlimits⟩,
      forall_turn_nil⟩
  intro datagram hd
  obtain rfl : aheadLine = datagram := Option.some.inj (hlast.symm.trans hd)
  exact hfree

/-- A turn that reads `nan 0 0` is not: the command stored is no number. -/
theorem nan_command_stored :
    ¬ CommandInRange (receiveAll scanExt helloExt ⟨1000, [nanLine], [], true⟩).1.command := by
  have hlast : lastValid scanExt [nanLine] = some nanLine := by decide +kernel
  have hnan : (spelled nanLine).forward = .nan := by decide +kernel
  intro h
  exact ((receiveAll_inRange (start_inRange helloExt_entered) _).mp h nanLine hlast).1 hnan

end Rk3588Chassis
