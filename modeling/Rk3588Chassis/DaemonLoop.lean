/-
  File:      Rk3588Chassis/DaemonLoop.lean
  Subject:   The loop of the daemon (`tools/chassis_daemon.c`): UDP commands in, current frames
             out.

  `sscanf` is a parameter: what it returns for a text, and what it leaves in the three
  variables. A datagram is `Valid` if it scans as three numbers and nothing behind them.

  * `receiveCommands_controller`, `receiveCommands_stats` -- a batch of datagrams acts as its
    last valid one does, and every datagram is counted once;
  * `CommandAge` -- the invariant of the loop: the time in the controller is the loop time at
    which the last valid datagram was read;
  * `last_valid_command_wins` -- so malformed traffic cannot keep the chassis moving.
-/
import Rk3588Chassis.Daemon
import Rk3588Chassis.DaemonArgs

set_option linter.unusedSectionVars false

namespace Rk3588Chassis

open CFloat Reactive

/-- `UDP_BUFFER_SIZE` of the daemon. -/
def commandBufferSize : Nat := 128

/-- What `recvfrom` leaves in the buffer, read as a C string: one byte is kept for the NUL. -/
def commandText (datagram : List UInt8) : CString :=
  (datagram.take (commandBufferSize - 1)).takeWhile (· != 0)

/-- The outcome of `sscanf(buffer, " %f %f %f %c", ..)`: its return value, and the variables
    `forward`, `strafe` and `rotate` after the call. -/
structure ScanResult (F : Type) where
  parsed : Int32
  forward : F
  strafe : F
  rotate : F

section Loop

variable {F : Type} [Zero F] [Neg F] [Add F] [Sub F] [Mul F] [Div F] [LT F] [LE F] [BEq F]
  [DecidableLT F] [DecidableLE F] [CFloat F] (sscanf : CString → ScanResult F)

/-! ## 1. Commands -/

/-- One turn of `receive_commands`, on a datagram that was pending. -/
def receiveCommand (nowMs : UInt64) (s : ChassisController F × DaemonStats)
    (datagram : List UInt8) : ChassisController F × DaemonStats :=
  let scan := sscanf (commandText datagram)
  if scan.parsed ≠ 3 then
    (s.1, { s.2 with invalidCommandCount := s.2.invalidCommandCount + 1 })
  else
    (chassisSetCommand s.1 scan.forward scan.strafe scan.rotate nowMs,
      { s.2 with udpCommandCount := s.2.udpCommandCount + 1 })

/-- `receive_commands`: every pending datagram. -/
def receiveCommands (controller : ChassisController F) (stats : DaemonStats) (nowMs : UInt64)
    (datagrams : List (List UInt8)) : ChassisController F × DaemonStats :=
  datagrams.foldl (receiveCommand sscanf nowMs) (controller, stats)

/-- The datagram parses as three numbers. -/
def validCommand (datagram : List UInt8) : Bool := (sscanf (commandText datagram)).parsed == 3

/-- The last datagram of a batch that parses. -/
def lastValid (datagrams : List (List UInt8)) : Option (List UInt8) :=
  (datagrams.filter (validCommand sscanf)).getLast?

/-- The one `chassis_set_command` a batch amounts to. -/
def obeyDatagram (nowMs : UInt64) (controller : ChassisController F) :
    Option (List UInt8) → ChassisController F
  | none => controller
  | some datagram =>
    let scan := sscanf (commandText datagram)
    chassisSetCommand controller scan.forward scan.strafe scan.rotate nowMs

/-- Whatever is obeyed, feedback, PIDs and targets are left alone. -/
theorem obeyDatagram_frame (nowMs : UInt64) (controller : ChassisController F)
    (last : Option (List UInt8)) :
    (obeyDatagram sscanf nowMs controller last).feedback = controller.feedback ∧
      (obeyDatagram sscanf nowMs controller last).pid = controller.pid ∧
      (obeyDatagram sscanf nowMs controller last).targetRpm = controller.targetRpm := by
  cases last with
  | none => exact ⟨rfl, rfl, rfl⟩
  | some datagram => exact ⟨rfl, rfl, rfl⟩

/-- A datagram that parses is obeyed and counted. -/
theorem receiveCommand_valid {datagram : List UInt8} (h : validCommand sscanf datagram = true)
    (nowMs : UInt64) (s : ChassisController F × DaemonStats) :
    receiveCommand sscanf nowMs s datagram = (obeyDatagram sscanf nowMs s.1 (some datagram),
      { s.2 with udpCommandCount := s.2.udpCommandCount + 1 }) :=
  if_neg (not_not.mpr (eq_of_beq h))

/-- Any other is counted. -/
theorem receiveCommand_invalid {datagram : List UInt8} (h : validCommand sscanf datagram = false)
    (nowMs : UInt64) (s : ChassisController F × DaemonStats) :
    receiveCommand sscanf nowMs s datagram =
      (s.1, { s.2 with invalidCommandCount := s.2.invalidCommandCount + 1 }) :=
  if_pos (ne_of_beq_false h)

/-- **The last valid datagram wins.** -/
theorem receiveCommands_controller (nowMs : UInt64) (controller : ChassisController F)
    (stats : DaemonStats) (datagrams : List (List UInt8)) :
    (receiveCommands sscanf controller stats nowMs datagrams).1 =
      obeyDatagram sscanf nowMs controller (lastValid sscanf datagrams) := by
  unfold receiveCommands
  induction datagrams generalizing controller stats with
  | nil => rfl
  | cons d ds ih =>
    rw [List.foldl_cons]
    cases hd : validCommand sscanf d with
    | false =>
      have hlast : lastValid sscanf (d :: ds) = lastValid sscanf ds := by
        rw [lastValid, List.filter_cons_of_neg (Bool.not_eq_true _ ▸ hd)]
        rfl
      rw [receiveCommand_invalid sscanf hd, ih, hlast]
    | true =>
      have hlast : lastValid sscanf (d :: ds) = some ((lastValid sscanf ds).getD d) := by
        rw [lastValid, List.filter_cons_of_pos hd, List.getLast?_cons]
        rfl
      rw [receiveCommand_valid sscanf hd, ih, hlast]
      -- a later command overwrites all that an earlier one wrote
      cases lastValid sscanf ds with
      | none => rfl
      | some later => rfl

/-- A counter that runs on is one that started later. -/
theorem count_succ (count : UInt64) (n : Nat) :
    count + UInt64.ofNat (n + 1) = count + 1 + UInt64.ofNat n := by
  rw [UInt64.ofNat_add, UInt64.add_comm (UInt64.ofNat n), UInt64.add_assoc]
  rfl

/-- **Every datagram is counted once.** -/
theorem receiveCommands_stats (nowMs : UInt64) (controller : ChassisController F)
    (stats : DaemonStats) (datagrams : List (List UInt8)) :
    (receiveCommands sscanf controller stats nowMs datagrams).2 =
      { stats with
        udpCommandCount := stats.udpCommandCount +
          UInt64.ofNat (datagrams.countP (validCommand sscanf))
        invalidCommandCount := stats.invalidCommandCount +
          UInt64.ofNat (datagrams.countP fun d => !validCommand sscanf d) } := by
  unfold receiveCommands
  induction datagrams generalizing controller stats with
  | nil =>
    have hzero : UInt64.ofNat 0 = 0 := rfl
    simp only [List.foldl_nil, List.countP_nil, hzero, UInt64.add_zero]
  | cons d ds ih =>
    rw [List.foldl_cons]
    cases hd : validCommand sscanf d with
    | false =>
      have hvalid : (d :: ds).countP (validCommand sscanf) = ds.countP (validCommand sscanf) :=
        List.countP_cons_of_neg (Bool.not_eq_true _ ▸ hd)
      have hinvalid : (d :: ds).countP (fun d => !validCommand sscanf d) =
          ds.countP (fun d => !validCommand sscanf d) + 1 :=
        List.countP_cons_of_pos (by rw [hd]; rfl)
      rw [receiveCommand_invalid sscanf hd, ih, hvalid, hinvalid, count_succ]
    | true =>
      have hvalid : (d :: ds).countP (validCommand sscanf) = ds.countP (validCommand sscanf) + 1 :=
        List.countP_cons_of_pos hd
      have hinvalid : (d :: ds).countP (fun d => !validCommand sscanf d) =
          ds.countP (fun d => !validCommand sscanf d) :=
        List.countP_cons_of_neg (by rw [hd]; decide)
      rw [receiveCommand_valid sscanf hd, ih, hvalid, hinvalid, count_succ]

/-! ## 2. Waiting for the motors -/

/-- One turn of `wait_for_all_feedback`: the clock reading of its loop test, what is pending,
    and the clock reading of the online test. -/
structure WaitPoll where
  testMs : UInt64
  frames : List (CanFrame × UInt64)
  onlineMs : UInt64

/-- `wait_for_all_feedback`; `none` as long as it has not returned. -/
def waitForAllFeedback (timeoutMs startMs : UInt64) (s : ChassisController F × DaemonStats) :
    List WaitPoll → Option (Bool × ChassisController F × DaemonStats)
  | [] => none
  | poll :: polls =>
    if timeoutMs ≤ poll.testMs - startMs then some (false, s)
    else
      let s := drainFeedback s.1 s.2 poll.frames
      if chassisFeedbackAllOnline s.1 poll.onlineMs then some (true, s)
      else waitForAllFeedback timeoutMs startMs s polls

/-- The fields of the controller that frames never touch. -/
def commandCell (c : ChassisController F) : ChassisCommand F × UInt64 × ChassisConfig F :=
  (c.command, c.lastCommandMs, c.config)

theorem drainFrame_command (c : ChassisController F) (stats : DaemonStats) (frame : CanFrame)
    (stampMs : UInt64) : commandCell (drainFrame c stats frame stampMs).1 = commandCell c := by
  unfold drainFrame
  cases receiveFeedback frame stampMs with
  | none => rfl
  | some feedback =>
    show commandCell (chassisUpdateFeedback c feedback) = commandCell c
    rcases chassisUpdateFeedback_cases c feedback with ⟨h, _⟩ | ⟨i, _, _, h⟩
    · rw [h]
    · rw [h]
      rfl

theorem drainFeedback_command (c : ChassisController F) (stats : DaemonStats)
    (pending : List (CanFrame × UInt64)) :
    commandCell (drainFeedback c stats pending).1 = commandCell c := by
  unfold drainFeedback
  induction pending generalizing c stats with
  | nil => rfl
  | cons f pending ih => exact (ih _ _).trans (drainFrame_command c stats f.1 f.2)

/-- Waiting brings feedback only. -/
theorem wait_command {timeoutMs startMs : UInt64} : ∀ {polls : List WaitPoll}
    {s : ChassisController F × DaemonStats} {r : Bool × ChassisController F × DaemonStats},
    waitForAllFeedback timeoutMs startMs s polls = some r → commandCell r.2.1 = commandCell s.1
  | poll :: polls, s, r, h => by
    unfold waitForAllFeedback at h
    simp only at h
    split_ifs at h
    · cases h
      rfl
    · cases h
      exact drainFeedback_command ..
    · exact (wait_command h).trans (drainFeedback_command ..)

/-! ## 3. The loop -/

/-- What the loop carries from turn to turn. -/
structure DaemonState (F : Type) where
  controller : ChassisController F
  stats : DaemonStats
  lastLoopMs : UInt64

/-- What the environment decides in one turn of the loop. -/
structure DaemonInput where
  nowMs : UInt64
  datagrams : List (List UInt8)
  frames : List (CanFrame × UInt64)
  canWriteOk : Bool

/-- `update_online_stats`. -/
def updateOnlineStats (stats : DaemonStats) (online : Bool) : DaemonStats :=
  let stats := if stats.lastOnline = 1 ∧ online = false then
    { stats with onlineDropCount := stats.onlineDropCount + 1 } else stats
  { stats with lastOnline := if online then 1 else 0 }

/-- The controller when a turn comes to its control step. -/
def receiveAll (s : DaemonState F) (input : DaemonInput) : ChassisController F × DaemonStats :=
  let received := receiveCommands sscanf s.controller s.stats input.nowMs input.datagrams
  drainFeedback received.1 received.2 input.frames

/-- One turn of the main loop, up to the frame it hands to `socketcan_send`. -/
def daemonStep (s : DaemonState F) (input : DaemonInput) : DaemonState F × CanFrame :=
  let received := receiveAll sscanf s input
  let dtS := floatMs (input.nowMs - s.lastLoopMs) / ofRat 1000
  let (controller, result) := chassisStep received.1 input.nowMs dtS
  let currents : Slot → Int16 := if !result.ret then fun _ => 0 else result.currents
  (⟨controller, updateOnlineStats received.2 result.ret, input.nowMs⟩, currentFrame currents)

/-- The main loop of the daemon, from the state in which it is entered. -/
def chassisDaemon (start : DaemonState F) : Machine (DaemonState F) DaemonInput CanFrame where
  start := start
  step := daemonStep sscanf

/-- The loop is entered when all motors have been heard. -/
def LoopEntered (memory : ChassisController F) (config : ChassisConfig F) (initMs : UInt64)
    (start : DaemonState F) : Prop :=
  ∃ stats waitMs polls, waitForAllFeedback 1500 waitMs (chassisInit memory config initMs, stats)
    polls = some (true, start.controller, start.stats)

/-! ## 4. The age of the command -/

/-- The loop time at which the last valid datagram was read. -/
def lastValidMs : List DaemonInput → Option UInt64
  | [] => none
  | i :: hist =>
    if (lastValid sscanf i.datagrams).isSome then some i.nowMs else lastValidMs hist

/-- What the controller knows of the datagrams. -/
structure CommandAge (hist : List DaemonInput) (c : ChassisController F) : Prop where
  timeout : c.config.commandTimeoutMs = ofRat 300
  age : ∀ t, lastValidMs sscanf hist = some t → c.lastCommandMs = t
  still : lastValidMs sscanf hist = none → commandIsZero c.command = true

variable {sscanf}

/-- The invariant looks at the command cell only. -/
theorem CommandAge.of_cell {hist : List DaemonInput} {c c' : ChassisController F}
    (h : CommandAge sscanf hist c) (hcell : commandCell c' = commandCell c) :
    CommandAge sscanf hist c' := by
  have hcommand : c'.command = c.command := congrArg Prod.fst hcell
  have htime : c'.lastCommandMs = c.lastCommandMs := congrArg (fun cell => cell.2.1) hcell
  have hconfig : c'.config = c.config := congrArg (fun cell => cell.2.2) hcell
  exact ⟨by rw [hconfig, h.timeout], fun t ht => htime.trans (h.age t ht), fun hnone => by
    rw [hcommand]
    exact h.still hnone⟩

/-- Receiving keeps it. -/
theorem CommandAge.receiveAll {hist : List DaemonInput} {s : DaemonState F}
    (h : CommandAge sscanf hist s.controller) (i : DaemonInput) :
    CommandAge sscanf (i :: hist) (receiveAll sscanf s i).1 := by
  have hcell : commandCell (Rk3588Chassis.receiveAll sscanf s i).1 =
      commandCell (obeyDatagram sscanf i.nowMs s.controller (lastValid sscanf i.datagrams)) := by
    rw [← receiveCommands_controller sscanf i.nowMs s.controller s.stats]
    exact drainFeedback_command ..
  refine CommandAge.of_cell ?_ hcell
  cases hlast : lastValid sscanf i.datagrams with
  | none =>
    have hage : lastValidMs sscanf (i :: hist) = lastValidMs sscanf hist := by
      rw [lastValidMs, hlast]
      rfl
    exact ⟨h.timeout, fun t ht => h.age t (hage ▸ ht), fun hnone => h.still (hage ▸ hnone)⟩
  | some d =>
    have hage : lastValidMs sscanf (i :: hist) = some i.nowMs := by
      rw [lastValidMs, hlast]
      rfl
    refine ⟨h.timeout, fun t ht => ?_, fun hnone => ?_⟩
    · exact Option.some.inj (hage.symm.trans ht)
    · rw [hage] at hnone
      cases hnone

/-- So does the control step. -/
theorem CommandAge.chassisStep (hz : ZeroIsStill F) {hist : List DaemonInput}
    {c : ChassisController F} (h : CommandAge sscanf hist c) (nowMs : UInt64) (dtS : F) :
    CommandAge sscanf hist (chassisStep c nowMs dtS).1 := by
  obtain ⟨hconfig, _, htime⟩ := chassisStep_frame hz c nowMs dtS
  refine ⟨by rw [hconfig, h.timeout], fun t ht => htime.trans (h.age t ht), fun hnone => ?_⟩
  rw [chassisStep_idle hz (Or.inr (h.still hnone))]
  exact hz

/-- **The invariant holds in every state of the loop.** -/
theorem commandAge_after (hz : ZeroIsStill F) {memory : ChassisController F}
    {maxTranslateRpm maxRotateRpm : F} {initMs : UInt64} {start : DaemonState F}
    (hstart : LoopEntered memory (daemonConfig maxTranslateRpm maxRotateRpm) initMs start) :
    ∀ hist, CommandAge sscanf hist ((chassisDaemon sscanf start).after hist).controller
  | [] => by
    obtain ⟨stats, waitMs, polls, hwait⟩ := hstart
    have hinit : CommandAge sscanf []
        (chassisInit memory (daemonConfig maxTranslateRpm maxRotateRpm) initMs) :=
      ⟨rfl, (fun _ ht => nomatch ht), fun _ => hz⟩
    exact hinit.of_cell (wait_command hwait)
  | i :: hist => ((commandAge_after hz hstart hist).receiveAll i).chassisStep hz _ _

/-! ## 5. Malformed traffic -/

/-- No valid datagram has been read for more than 300 ms, or none at all. -/
def Overdue (sscanf : CString → ScanResult F) (hist : List DaemonInput) (nowMs : UInt64) : Prop :=
  ∀ t, lastValidMs sscanf hist = some t → t.toNat + 300 < nowMs.toNat

/-- The conversion of milliseconds keeps those above 300 above 300: true of the exact reading
    and of every IEEE format. -/
def LateIsLate (F : Type) [LT F] [CFloat F] : Prop :=
  ∀ ms : UInt64, 300 < ms.toNat → (ofRat 300 : F) < floatMs ms

/-- An overdue controller is expired or holds the zero command. -/
theorem CommandAge.idle (hlate : LateIsLate F) {hist : List DaemonInput} {c : ChassisController F}
    (h : CommandAge sscanf hist c) {nowMs : UInt64} (hover : Overdue sscanf hist nowMs) :
    commandExpired c nowMs = true ∨ commandIsZero c.command = true := by
  cases hlast : lastValidMs sscanf hist with
  | none => exact Or.inr (h.still hlast)
  | some t =>
    have hlater : t.toNat + 300 < nowMs.toNat := hover t hlast
    have hle : t ≤ nowMs := UInt64.le_iff_toNat_le.mpr (by omega)
    have helapsed : (elapsedMs nowMs t).toNat = nowMs.toNat - t.toNat := by
      rw [elapsedMs, if_pos hle, UInt64.toNat_sub_of_le _ _ hle]
    refine Or.inl (decide_eq_true ?_)
    rw [h.timeout, h.age t hlast]
    exact hlate _ (by omega)

/-- **An overdue turn sends four zeros.** -/
theorem overdue_frame (hz : ZeroIsStill F) (hlate : LateIsLate F) {hist : List DaemonInput}
    {s : DaemonState F} (h : CommandAge sscanf hist s.controller) {i : DaemonInput}
    (hover : Overdue sscanf (i :: hist) i.nowMs) :
    (daemonStep sscanf s i).2 = currentFrame fun _ => 0 := by
  have hidle := (h.receiveAll i).idle hlate hover
  unfold daemonStep
  simp only [chassisStep_idle hz hidle, ite_self]

/-- **Malformed traffic cannot keep the chassis moving.** A batch of datagrams acts on the
    controller as the single `chassis_set_command` of its last valid one, every datagram is
    counted once, and a turn of the loop that comes more than 300 ms after the turn that read the
    last valid datagram, or before the first, sends four zero currents. -/
theorem last_valid_command_wins (hz : ZeroIsStill F) (hlate : LateIsLate F)
    (sscanf : CString → ScanResult F) :
    (∀ controller stats nowMs datagrams,
      let received := receiveCommands sscanf controller stats nowMs datagrams
      received.1 = obeyDatagram sscanf nowMs controller (lastValid sscanf datagrams) ∧
        received.1.feedback = controller.feedback ∧ received.1.pid = controller.pid ∧
        received.1.targetRpm = controller.targetRpm ∧
        received.2 = { stats with
          udpCommandCount := stats.udpCommandCount +
            UInt64.ofNat (datagrams.countP (validCommand sscanf))
          invalidCommandCount := stats.invalidCommandCount +
            UInt64.ofNat (datagrams.countP fun d => !validCommand sscanf d) }) ∧
    ∀ memory maxTranslateRpm maxRotateRpm initMs start,
      LoopEntered memory (daemonConfig maxTranslateRpm maxRotateRpm) initMs start →
      ∀ hist i, Overdue sscanf (i :: hist) i.nowMs →
        ((chassisDaemon sscanf start).answer hist i).canId = 0x200 ∧
          ∀ k, frameCurrent ((chassisDaemon sscanf start).answer hist i).data k = 0 := by
  constructor
  · intro controller stats nowMs datagrams received
    have hcontroller : received.1 = obeyDatagram sscanf nowMs controller (lastValid sscanf datagrams) :=
      receiveCommands_controller sscanf nowMs controller stats datagrams
    obtain ⟨hfeedback, hpid, htarget⟩ :=
      obeyDatagram_frame sscanf nowMs controller (lastValid sscanf datagrams)
    rw [← hcontroller] at hfeedback hpid htarget
    exact ⟨hcontroller, hfeedback, hpid, htarget,
      receiveCommands_stats sscanf nowMs controller stats datagrams⟩
  · intro memory maxTranslateRpm maxRotateRpm initMs start hstart hist i hover
    have hframe : (chassisDaemon sscanf start).answer hist i = currentFrame fun _ => 0 :=
      overdue_frame hz hlate (commandAge_after hz hstart hist) hover
    rw [hframe]
    exact ⟨rfl, fun k => frameCurrent_pack (fun _ => 0) k⟩

end Loop

/-! ## 6. A loop that is entered -/

theorem lateIsLate_rat : LateIsLate ℚ := by
  intro ms h
  exact Nat.cast_lt.mpr h

/-- The frames that let the loop be entered. -/
def helloFrames : List (CanFrame × UInt64) :=
  [(plainFrame 0x201 0, 900), (plainFrame 0x202 0, 900), (plainFrame 0x203 0, 900),
    (plainFrame 0x204 0, 900)]

/-- The controller and the counters after them. -/
def helloState : ChassisController ℚ × DaemonStats :=
  drainFeedback (chassisInit blankMemory (daemonConfig 500 400) 890) ⟨890, fun _ => 0, 0, 0, 0, -1⟩
    helloFrames

/-- The loop is entered with them. -/
theorem hello_entered : LoopEntered blankMemory (daemonConfig 500 400) 890
    ⟨helloState.1, helloState.2, 901⟩ := by
  have honline : chassisFeedbackAllOnline helloState.1 900 = true := by decide +kernel
  refine ⟨⟨890, fun _ => 0, 0, 0, 0, -1⟩, 890, [⟨891, helloFrames, 900⟩], ?_⟩
  have htime : ¬ (1500 : UInt64) ≤ 891 - 890 := by decide
  rw [waitForAllFeedback, if_neg htime]
  exact if_pos honline

end Rk3588Chassis
