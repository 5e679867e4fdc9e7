/-
  File:      Rk3588Chassis/DriveRuns.lean
  Subject:   The four tools that drive the chassis, as drive tools (DriveTools.lean).

  What `DriveTool.guarded` says of all of them is read back in the words of each: the command
  behind a frame is a datagram, a key, or the arguments.

  * `daemon_drives_on_command` -- the daemon;
  * `key_held_down` -- the keyboard tool;
  * `timed_drive_guarded` -- `chassis_velocity` and `test_chassis_command`.
-/
import Rk3588Chassis.DriveTools
import Rk3588Chassis.KeyboardTool

set_option linter.unusedSectionVars false

namespace Rk3588Chassis

open CFloat Reactive

/-! ## 1. The defaults -/

/-- A command that the zero test does not swallow. -/
def Noticeable (forward strafe rotate : ℚ) : Prop :=
  0.0001 ≤ |clampFloat forward (-1) 1| ∨ 0.0001 ≤ |clampFloat strafe (-1) 1| ∨
    0.0001 ≤ |clampFloat rotate (-1) 1|

/-- The last frame of each motor is at most 250 ms old. -/
def AllHeard (nowMs : UInt64) (read : StampedFrames) : Prop :=
  ∀ k : Fin 4, ∃ f, (Proxy.believedFrom k.succ read).getLast? = some f ∧
    nowMs.toNat ≤ f.2.toNat + 250

/-- A difference that a timeout bounds. -/
theorem le_add_of_sub_le {nowMs thenMs : UInt64} {n : ℕ}
    (h : (nowMs.toNat : ℚ) - thenMs.toNat ≤ n) : nowMs.toNat ≤ thenMs.toNat + n := by
  have hsum : (nowMs.toNat : ℚ) ≤ ((thenMs.toNat + n : ℕ) : ℚ) := by
    rw [Nat.cast_add]
    linarith
  exact Nat.cast_le.mp hsum

/-- With the timeouts of `chassis_default_config` a guarded frame that drives has a command of the
    last 300 ms behind it, and four motors. -/
theorem Guarded.defaults {config : ChassisConfig ℚ} {nowMs : UInt64}
    {command : Option (ControlOp ℚ)} {read : StampedFrames} {frame : CanFrame}
    (h : Guarded config nowMs command read frame)
    (hconfig : ∃ maxTranslateRpm maxRotateRpm, config = daemonConfig maxTranslateRpm maxRotateRpm)
    (hdrives : Drives frame) :
    (∃ f s r t, command = some (.setCommand f s r t) ∧ nowMs.toNat ≤ t.toNat + 300 ∧
      Noticeable f s r) ∧ AllHeard nowMs read := by
  obtain ⟨maxTranslateRpm, maxRotateRpm, rfl⟩ := hconfig
  obtain ⟨f, s, r, t, hcommand, hage, hnoticeable⟩ := h.commanded hdrives
  refine ⟨⟨f, s, r, t, hcommand, le_add_of_sub_le hage, hnoticeable⟩, fun k => ?_⟩
  obtain ⟨f, hlast, hage⟩ := h.heard hdrives k
  exact ⟨f, hlast, le_add_of_sub_le hage⟩

section Daemon

variable {F : Type} [Zero F] [Neg F] [Add F] [Sub F] [Mul F] [Div F] [LT F] [LE F] [BEq F]
  [DecidableLT F] [DecidableLE F] [CFloat F] (sscanf : CString → ScanResult F)

/-! ## 2. The daemon -/

/-- The operation that a datagram comes to which parses. -/
def datagramOp (nowMs : UInt64) (datagram : List UInt8) : ControlOp F :=
  let scan := sscanf (commandText datagram)
  .setCommand scan.forward scan.strafe scan.rotate nowMs

/-- A batch of datagrams as operations. -/
def datagramOps (nowMs : UInt64) (datagrams : List (List UInt8)) : List (ControlOp F) :=
  (datagrams.filter (validCommand sscanf)).map (datagramOp sscanf nowMs)

theorem receiveCommands_ops (nowMs : UInt64) (controller : ChassisController F)
    (stats : DaemonStats) (datagrams : List (List UInt8)) :
    (receiveCommands sscanf controller stats nowMs datagrams).1 =
      performOps controller (datagramOps sscanf nowMs datagrams) := by
  unfold receiveCommands datagramOps
  induction datagrams generalizing controller stats with
  | nil => rfl
  | cons d ds ih =>
    rw [List.foldl_cons]
    cases hd : validCommand sscanf d with
    | false =>
      rw [receiveCommand_invalid sscanf hd, List.filter_cons_of_neg (Bool.not_eq_true _ ▸ hd)]
      exact ih _ _
    | true =>
      rw [receiveCommand_valid sscanf hd, List.filter_cons_of_pos hd]
      exact ih _ _

/-- **The daemon is a drive tool**: its commands are the datagrams that parse. -/
def daemonTool (start : DaemonState F) : DriveTool F (DaemonState F) DaemonInput CanFrame where
  machine := chassisDaemon sscanf start
  controller s := s.controller
  frame o := o
  nowMs i := i.nowMs
  dtS s i := floatMs (i.nowMs - s.lastLoopMs) / ofRat 1000
  commands s i := datagramOps sscanf i.nowMs i.datagrams
  pending i := i.frames
  isCommand s i op hop := by
    obtain ⟨d, _, rfl⟩ := List.mem_map.mp hop
    rfl
  turn s i := by
    have hready : (receiveAll sscanf s i).1 = performOps (performOps s.controller
        (datagramOps sscanf i.nowMs i.datagrams)) (feedbackOps i.frames) := by
      rw [← receiveCommands_ops sscanf i.nowMs s.controller s.stats, ← drainFeedback_ops]
      exact MotionTool.drainFeedback_daemon _ _ _
    rw [← hready]
    exact ⟨rfl, rfl⟩

/-- The datagrams that were obeyed, newest first, with the loop times at which they were read. -/
def obeyed : List DaemonInput → List (List UInt8 × UInt64)
  | [] => []
  | i :: hist =>
    ((i.datagrams.filter (validCommand sscanf)).map fun d => (d, i.nowMs)).reverse ++ obeyed hist

/-- They are the commands that the daemon has given. -/
theorem given_daemon (start : DaemonState F) (hist : List DaemonInput) :
    (daemonTool sscanf start).given hist =
      (obeyed sscanf hist).map fun p => datagramOp sscanf p.2 p.1 := by
  induction hist with
  | nil => rfl
  | cons i hist ih =>
    rw [DriveTool.given, ih, obeyed, List.map_append, List.map_reverse, List.map_map]
    rfl

/-- The wait of the daemon is that of the other tools, without the counting. -/
theorem waitForAllFeedback_daemon {timeoutMs startMs : UInt64} {ok : Bool}
    {s' : ChassisController F × DaemonStats} : ∀ {polls : List WaitPoll}
    {s : ChassisController F × DaemonStats},
    waitForAllFeedback timeoutMs startMs s polls = some (ok, s') →
      MotionTool.waitForAllFeedback timeoutMs startMs s.1 polls = some (ok, s'.1)
  | poll :: polls, s, h => by
    unfold waitForAllFeedback at h
    unfold MotionTool.waitForAllFeedback
    by_cases hover : timeoutMs ≤ poll.testMs - startMs
    · rw [if_pos hover] at h ⊢
      cases h
      rfl
    · rw [if_neg hover] at h ⊢
      simp only at h ⊢
      rw [← MotionTool.drainFeedback_daemon s.1 s.2]
      by_cases honline : chassisFeedbackAllOnline
          (drainFeedback s.1 s.2 poll.frames).1 poll.onlineMs = true
      · rw [if_pos honline] at h ⊢
        cases h
        rfl
      · rw [if_neg honline] at h ⊢
        exact waitForAllFeedback_daemon h

end Daemon

/-- A wait that succeeds has brought the daemon to its loop. -/
theorem daemon_entered (sscanf : CString → ScanResult ℚ) {memory : ChassisController ℚ}
    {config : ChassisConfig ℚ} {initMs waitMs : UInt64} {stats : DaemonStats}
    {polls : List WaitPoll} {start : DaemonState ℚ}
    (hwait : waitForAllFeedback 1500 waitMs (chassisInit memory config initMs, stats) polls =
      some (true, start.controller, start.stats)) :
    (daemonTool sscanf start).Entered memory config initMs
      (waitRead 1500 waitMs (chassisInit memory config initMs) polls) :=
  waitForAllFeedback_ops (waitForAllFeedback_daemon hwait)

/-- Behind a frame that drives there is the newest datagram that parses, and four motors. -/
theorem daemon_driven {sscanf : CString → ScanResult ℚ} {memory : ChassisController ℚ}
    {maxTranslateRpm maxRotateRpm : ℚ} {initMs : UInt64} {waited : StampedFrames}
    {start : DaemonState ℚ} (hentered : (daemonTool sscanf start).Entered memory
      (daemonConfig maxTranslateRpm maxRotateRpm) initMs waited) {hist : List DaemonInput}
    {i : DaemonInput} (hdrives : Drives ((chassisDaemon sscanf start).answer hist i)) :
    (∃ d t, (obeyed sscanf (i :: hist)).head? = some (d, t) ∧ i.nowMs.toNat ≤ t.toNat + 300 ∧
      Noticeable (sscanf (commandText d)).forward (sscanf (commandText d)).strafe
        (sscanf (commandText d)).rotate) ∧
    AllHeard i.nowMs ((daemonTool sscanf start).read waited (i :: hist)) := by
  have hguarded := DriveTool.guarded hentered hist i
  obtain ⟨⟨f, s, r, t, hhead, hage, hnoticeable⟩, hheard⟩ :=
    hguarded.defaults ⟨_, _, rfl⟩ hdrives
  refine ⟨?_, hheard⟩
  rw [given_daemon, List.head?_map] at hhead
  obtain ⟨⟨d, t'⟩, hobeyed, hop⟩ := Option.map_eq_some_iff.mp hhead
  cases hop
  exact ⟨d, t', hobeyed, hage, hnoticeable⟩

/-- **The daemon drives on command.** No frame of any run has a current above 6500; and one that
    gives a motor a current has the newest datagram that parses behind it, read in the last 300 ms
    and noticeable, and a frame of each motor of the last 250 ms. -/
theorem daemon_drives_on_command (sscanf : CString → ScanResult ℚ) {memory : ChassisController ℚ}
    {maxTranslateRpm maxRotateRpm : ℚ} {initMs waitMs : UInt64} {stats : DaemonStats}
    {polls : List WaitPoll} {start : DaemonState ℚ}
    (hwait : waitForAllFeedback 1500 waitMs
      (chassisInit memory (daemonConfig maxTranslateRpm maxRotateRpm) initMs, stats) polls =
        some (true, start.controller, start.stats)) (hist : List DaemonInput) (i : DaemonInput) :
    let frame := (chassisDaemon sscanf start).answer hist i
    let waited := waitRead 1500 waitMs
      (chassisInit memory (daemonConfig maxTranslateRpm maxRotateRpm) initMs) polls
    frame.canId = 0x200 ∧ (∀ k, |(frameCurrent frame.data k).toInt| ≤ 6500) ∧
    (Drives frame →
      (∃ d t, (obeyed sscanf (i :: hist)).head? = some (d, t) ∧ i.nowMs.toNat ≤ t.toNat + 300 ∧
        Noticeable (sscanf (commandText d)).forward (sscanf (commandText d)).strafe
          (sscanf (commandText d)).rotate) ∧
      AllHeard i.nowMs ((daemonTool sscanf start).read waited (i :: hist))) := by
  intro frame waited
  have hentered := daemon_entered sscanf hwait
  have hguarded := DriveTool.guarded hentered hist i
  exact ⟨hguarded.addressed, hguarded.limited, daemon_driven hentered⟩

/-- The wait of DaemonLoop.lean: one poll that finds a frame of each motor. -/
def helloPolls : List WaitPoll := [⟨891, helloFrames, 900⟩]

/-- The loop as it is entered then. -/
def helloStart : DaemonState ℚ := ⟨helloState.1, helloState.2, 901⟩

/-- The line `1 0 0` at 1000 ms. -/
def aheadTurn : DaemonInput := ⟨1000, [aheadLine], [], true⟩

theorem hello_waited : waitForAllFeedback 1500 890
    (chassisInit blankMemory (daemonConfig 500 400) 890, ⟨890, fun _ => 0, 0, 0, 0, -1⟩) helloPolls =
      some (true, helloStart.controller, helloStart.stats) := by
  have honline : chassisFeedbackAllOnline helloState.1 900 = true := by decide +kernel
  have htime : ¬ (1500 : UInt64) ≤ 891 - 890 := by decide
  rw [helloPolls, waitForAllFeedback, if_neg htime]
  exact if_pos honline

/-- It drives the motors, with the four frames of the wait behind it. -/
theorem ahead_drives :
    Drives ((chassisDaemon (sscanfCommand finitePart) helloStart).answer [] aheadTurn) ∧
    AllHeard 1000 ((daemonTool (sscanfCommand finitePart) helloStart).read (waitRead 1500 890
      (chassisInit blankMemory (daemonConfig 500 400) 890) helloPolls) [aheadTurn]) := by
  have hdrives :
      Drives ((chassisDaemon (sscanfCommand finitePart) helloStart).answer [] aheadTurn) := by
    unfold Drives
    decide +kernel
  exact ⟨hdrives,
    ((daemon_drives_on_command (sscanfCommand finitePart) hello_waited [] aheadTurn).2.2 hdrives).2⟩

/-! ## 3. The keyboard tool -/

namespace TestChassisKeyboard

/-- The keys that set a command which moves. -/
def isMotionKey (key : UInt8) : Bool :=
  ['w', 'W', 's', 'S', 'a', 'A', 'd', 'D', 'q', 'Q', 'e', 'E'].any fun c => key == c.toUInt8

/-- Those, and the space bar. -/
def isCommandKey (key : UInt8) : Bool := isMotionKey key || key == ' '.toUInt8

/-- The key that ends the loop. -/
def isExitKey (key : UInt8) : Bool := key == 'x'.toUInt8 || key == 'X'.toUInt8

section Keys

variable {F : Type} [Zero F] [Neg F] [Add F] [Sub F] [Mul F] [Div F] [LT F] [LE F] [BEq F]
  [DecidableLT F] [DecidableLE F] [CFloat F]

/-- The operation that a key comes to. -/
def keyOp (scale : F) (nowMs : UInt64) (key : UInt8) : Option (ControlOp F) :=
  if key = 'w'.toUInt8 ∨ key = 'W'.toUInt8 then some (.setCommand scale 0 0 nowMs)
  else if key = 's'.toUInt8 ∨ key = 'S'.toUInt8 then some (.setCommand (-scale) 0 0 nowMs)
  else if key = 'a'.toUInt8 ∨ key = 'A'.toUInt8 then some (.setCommand 0 (-scale) 0 nowMs)
  else if key = 'd'.toUInt8 ∨ key = 'D'.toUInt8 then some (.setCommand 0 scale 0 nowMs)
  else if key = 'q'.toUInt8 ∨ key = 'Q'.toUInt8 then some (.setCommand 0 0 scale nowMs)
  else if key = 'e'.toUInt8 ∨ key = 'E'.toUInt8 then some (.setCommand 0 0 (-scale) nowMs)
  else if key = ' '.toUInt8 then some (.stop nowMs)
  else none

/-- One link of the two chains of tests. -/
theorem handleKey_link {c : Prop} [Decidable c] {d a d' : Driving F} {op : ControlOp F}
    {rest : Option (Driving F)} {rest' : Option (ControlOp F)}
    (hthis : a.controller = performOps d.controller [op])
    (hrest : rest = some d' → d'.controller = performOps d.controller rest'.toList) :
    (if c then some a else rest) = some d' →
      d'.controller = performOps d.controller (if c then some op else rest').toList := by
  intro h
  by_cases hc : c
  · rw [if_pos hc] at h ⊢
    cases h
    exact hthis
  · rw [if_neg hc] at h ⊢
    exact hrest h

/-- A key acts on the controller as its operation does. -/
theorem handleKey_op {key : UInt8} {d d' : Driving F} {nowMs : UInt64} :
    handleKey key d nowMs = some d' →
      d'.controller = performOps d.controller (keyOp d.scale nowMs key).toList := by
  unfold handleKey keyOp
  refine handleKey_link rfl (handleKey_link rfl (handleKey_link rfl (handleKey_link rfl
    (handleKey_link rfl (handleKey_link rfl fun h => ?_)))))
  -- the two keys of the scale stand before the space bar
  by_cases hspace : key = ' '.toUInt8
  · subst hspace
    cases h
    rfl
  · rw [if_neg hspace] at h ⊢
    split_ifs at h
    · cases h
      rfl
    · cases h
      rfl
    · cases h
      rfl

/-- The exit key is the one that returns 0. -/
theorem handleKey_exit {key : UInt8} {d : Driving F} {nowMs : UInt64} :
    handleKey key d nowMs = none ↔ isExitKey key = true := by
  have hlink : ∀ {c : Prop} [Decidable c] {a : Driving F} {rest : Option (Driving F)},
      (if c then some a else rest) = none → rest = none := fun h => by
    split at h
    · cases h
    · exact h
  unfold isExitKey
  rw [Bool.or_eq_true, beq_iff_eq, beq_iff_eq]
  refine ⟨fun h => ?_, fun h => ?_⟩
  · unfold handleKey at h
    have hlast := hlink (hlink (hlink (hlink (hlink (hlink (hlink (hlink (hlink h))))))))
    by_contra hexit
    rw [if_neg hexit] at hlast
    cases hlast
  · rcases h with rfl | rfl
    · rfl
    · rfl

/-- The operations of the keys of one turn. -/
def keyOps (nowMs : UInt64) : List UInt8 → Driving F → List (ControlOp F)
  | [], _ => []
  | key :: keys, d =>
    match handleKey key d nowMs with
    | none => []
    | some d' => (keyOp d.scale nowMs key).toList ++ keyOps nowMs keys d'

/-- **The keys of a turn act on the controller as these.** -/
theorem handleKeys_ops (nowMs : UInt64) (keys : List UInt8) (d : Driving F) :
    (handleKeys nowMs keys d).1.controller = performOps d.controller (keyOps nowMs keys d) := by
  induction keys generalizing d with
  | nil => rfl
  | cons key keys ih =>
    unfold handleKeys keyOps
    cases hkey : handleKey key d nowMs with
    | none => rfl
    | some d' =>
      rw [performOps_append, ← handleKey_op hkey]
      exact ih d'

/-- Whether an operation moves, and its time. -/
def opKind : ControlOp F → Bool × UInt64
  | .setCommand _ _ _ nowMs => (true, nowMs)
  | .stop nowMs => (false, nowMs)
  | .updateFeedback _ => (false, 0)
  | .step nowMs _ => (false, nowMs)

/-- The keys of a turn that are handled: those before the exit key. -/
def handled (keys : List UInt8) : List UInt8 := keys.takeWhile fun key => !isExitKey key

theorem keyOp_kind (scale : F) (nowMs : UInt64) (key : UInt8) :
    (keyOp scale nowMs key).toList.map opKind =
      ([key].filter isCommandKey).map fun key => (isMotionKey key, nowMs) := by
  have hlink : ∀ {c : Prop} [Decidable c] {op : ControlOp F} {rest : Option (ControlOp F)}
      {kinds : List (Bool × UInt64)}, (c → [opKind op] = kinds) →
      (¬ c → rest.toList.map opKind = kinds) →
      (if c then some op else rest).toList.map opKind = kinds := by
    intro c _ op rest kinds hthis hrest
    by_cases hc : c
    · rw [if_pos hc]
      exact hthis hc
    · rw [if_neg hc]
      exact hrest hc
  unfold keyOp
  refine hlink (fun h => ?_) fun hw => hlink (fun h => ?_) fun hs => hlink (fun h => ?_) fun ha =>
    hlink (fun h => ?_) fun hd => hlink (fun h => ?_) fun hq => hlink (fun h => ?_) fun he =>
    hlink (fun h => ?_) fun hspace => ?_
  · rcases h with rfl | rfl <;> rfl
  · rcases h with rfl | rfl <;> rfl
  · rcases h with rfl | rfl <;> rfl
  · rcases h with rfl | rfl <;> rfl
  · rcases h with rfl | rfl <;> rfl
  · rcases h with rfl | rfl <;> rfl
  · subst h
    rfl
  · have hno : isCommandKey key = false := by
      simp only [not_or] at hw hs ha hd hq he
      simp only [isCommandKey, isMotionKey, List.any_cons, List.any_nil, beq_false_of_ne hw.1,
        beq_false_of_ne hw.2, beq_false_of_ne hs.1, beq_false_of_ne hs.2, beq_false_of_ne ha.1,
        beq_false_of_ne ha.2, beq_false_of_ne hd.1, beq_false_of_ne hd.2, beq_false_of_ne hq.1,
        beq_false_of_ne hq.2, beq_false_of_ne he.1, beq_false_of_ne he.2, beq_false_of_ne hspace,
        Bool.or_self]
    rw [List.filter_cons_of_neg (Bool.not_eq_true _ ▸ hno)]
    rfl

/-- So the operations of a turn are the command keys among those that are handled. -/
theorem keyOps_kinds (nowMs : UInt64) (keys : List UInt8) (d : Driving F) :
    (keyOps nowMs keys d).map opKind =
      ((handled keys).filter isCommandKey).map fun key => (isMotionKey key, nowMs) := by
  unfold handled
  induction keys generalizing d with
  | nil => rfl
  | cons key keys ih =>
    unfold keyOps
    cases hkey : handleKey key d nowMs with
    | none =>
      rw [List.takeWhile_cons_of_neg (by rw [handleKey_exit.mp hkey]; decide)]
      rfl
    | some d' =>
      have hstays : (!isExitKey key) = true := by
        cases hexit : isExitKey key with
        | false => rfl
        | true =>
          rw [handleKey_exit.mpr hexit] at hkey
          cases hkey
      have hkeys : (key :: keys).takeWhile (fun key => !isExitKey key) =
          [key] ++ keys.takeWhile fun key => !isExitKey key := List.takeWhile_cons_of_pos hstays
      rw [hkeys, List.filter_append, List.map_append, List.map_append, keyOp_kind, ← ih d']

theorem keyOp_isCommand {scale : F} {nowMs : UInt64} {key : UInt8} {op : ControlOp F}
    (h : keyOp scale nowMs key = some op) : op.isCommand = true := by
  unfold keyOp at h
  rcases ite_some_cases h with rfl | h
  · rfl
  rcases ite_some_cases h with rfl | h
  · rfl
  rcases ite_some_cases h with rfl | h
  · rfl
  rcases ite_some_cases h with rfl | h
  · rfl
  rcases ite_some_cases h with rfl | h
  · rfl
  rcases ite_some_cases h with rfl | h
  · rfl
  rcases ite_some_cases h with rfl | h
  · rfl
  · cases h

theorem keyOps_isCommand (nowMs : UInt64) (keys : List UInt8) (d : Driving F) :
    ∀ op ∈ keyOps nowMs keys d, op.isCommand = true := by
  induction keys generalizing d with
  | nil => exact fun _ hop => nomatch hop
  | cons key keys ih =>
    intro op hop
    unfold keyOps at hop
    cases hkey : handleKey key d nowMs with
    | none =>
      rw [hkey] at hop
      cases hop
    | some d' =>
      rw [hkey] at hop
      rcases List.mem_append.mp hop with hop | hop
      · exact keyOp_isCommand (Option.mem_toList.mp hop)
      · exact ih d' op hop

/-- **The keyboard tool is a drive tool**: its commands are keys. -/
def keyboardTool (start : State F) : DriveTool F (State F) Input (CanFrame × Bool) where
  machine := keyboard start
  controller s := s.driving.controller
  frame o := o.1
  nowMs i := i.nowMs
  dtS s i := floatMs (i.nowMs - s.lastLoopMs) / ofRat 1000
  commands s i := keyOps i.nowMs i.keys s.driving
  pending i := i.frames
  isCommand s i := keyOps_isCommand _ _ _
  turn s i := by
    have hready : MotionTool.drainFeedback (handleKeys i.nowMs i.keys s.driving).1.controller
        i.frames = performOps (performOps s.driving.controller
          (keyOps i.nowMs i.keys s.driving)) (feedbackOps i.frames) := by
      rw [drainFeedback_ops, handleKeys_ops]
    rw [← hready]
    exact ⟨rfl, rfl⟩

end Keys

/-- The command keys that were handled, newest first, with the loop times at which they were read. -/
def commandKeys : List Input → List (UInt8 × UInt64)
  | [] => []
  | i :: hist =>
    (((handled i.keys).filter isCommandKey).map fun key => (key, i.nowMs)).reverse ++
      commandKeys hist

/-- They are the commands that the tool has given. -/
theorem given_keyboard (start : State ℚ) (hist : List Input) :
    ((keyboardTool start).given hist).map opKind =
      (commandKeys hist).map fun p => (isMotionKey p.1, p.2) := by
  induction hist with
  | nil => rfl
  | cons i hist ih =>
    rw [DriveTool.given, List.map_append, ih, List.map_reverse, commandKeys, List.map_append,
      List.map_reverse, List.map_map]
    exact congrArg (fun kinds => List.reverse kinds ++ _)
      (keyOps_kinds i.nowMs i.keys ((keyboard start).after hist).driving)

/-- The configuration of a run has the default timeouts. -/
theorem parseOptions_timeouts {strtof : CString → ℚ × Nat} {argv : List CString}
    {config : ChassisConfig ℚ} (h : parseOptions strtof argv = some config) :
    ∃ maxTranslateRpm maxRotateRpm, config = daemonConfig maxTranslateRpm maxRotateRpm := by
  unfold parseOptions at h
  split_ifs at h
  · simp only [bind, Option.bind_eq_some_iff] at h
    obtain ⟨maxTranslateRpm, _, maxRotateRpm, _, heq⟩ := h
    cases heq
    exact ⟨maxTranslateRpm, maxRotateRpm, rfl⟩
  · cases h
    exact ⟨_, _, rfl⟩

/-- **A key is held down.** No frame of any run has a current above 6500; and one that gives a
    motor a current has a motion key behind it that was handled in the last 300 ms, with no space
    bar since, and a frame of each motor of the last 250 ms. -/
theorem key_held_down (strtof : CString → ℚ × Nat) {argv : List CString} {config : ChassisConfig ℚ}
    (haccepted : parseOptions strtof argv = some config) {memory controller : ChassisController ℚ}
    {initMs waitMs : UInt64} {polls : List WaitPoll}
    (hwait : MotionTool.waitForAllFeedback 1500 waitMs (chassisInit memory config initMs) polls =
      some (true, controller)) (loopMs : UInt64) (hist : List Input) (i : Input) :
    let start : State ℚ := ⟨⟨controller, ofRat 0.4⟩, loopMs⟩
    let frame := ((keyboard start).answer hist i).1
    let waited := waitRead 1500 waitMs (chassisInit memory config initMs) polls
    frame.canId = 0x200 ∧ (∀ k, |(frameCurrent frame.data k).toInt| ≤ 6500) ∧
    (Drives frame →
      (∃ key t, (commandKeys (i :: hist)).head? = some (key, t) ∧ isMotionKey key = true ∧
        i.nowMs.toNat ≤ t.toNat + 300) ∧
      AllHeard i.nowMs ((keyboardTool start).read waited (i :: hist))) := by
  intro start frame waited
  have hentered : (keyboardTool start).Entered memory config initMs waited :=
    waitForAllFeedback_ops hwait
  have hguarded := DriveTool.guarded hentered hist i
  refine ⟨hguarded.addressed, hguarded.limited, fun hdrives => ?_⟩
  obtain ⟨⟨f, s, r, t, hhead, hage, _⟩, hheard⟩ :=
    hguarded.defaults (parseOptions_timeouts haccepted) hdrives
  refine ⟨?_, hheard⟩
  have hkinds := congrArg List.head? (given_keyboard start (i :: hist))
  rw [List.head?_map, List.head?_map, hhead] at hkinds
  obtain ⟨⟨key, t'⟩, hkey, hkind⟩ := Option.map_eq_some_iff.mp hkinds.symm
  obtain ⟨hmotion, rfl⟩ := Prod.mk.inj hkind
  exact ⟨key, t', hkey, hmotion, hage⟩

/-- The key `w` at 910 ms. -/
def wTurn : Input := ⟨910, ['w'.toUInt8], [], true⟩

/-- The controller with which the loop is entered after the polls of DaemonLoop.lean. -/
def helloController : ChassisController ℚ :=
  MotionTool.drainFeedback (chassisInit blankMemory chassisDefaultConfig 890) helloFrames

/-- It drives the motors, with the four frames of the wait behind it. -/
theorem w_drives :
    Drives ((keyboard ⟨⟨helloController, ofRat 0.4⟩, 901⟩).answer [] wTurn).1 ∧
      AllHeard 910 ((keyboardTool ⟨⟨helloController, ofRat 0.4⟩, 901⟩).read (waitRead 1500 890
        (chassisInit blankMemory chassisDefaultConfig 890) helloPolls) [wTurn]) := by
  have haccepted : parseOptions (CText.strtof finitePart)
      (["test_chassis_keyboard", "can0"].map cstring) = some chassisDefaultConfig := rfl
  have hwait : MotionTool.waitForAllFeedback 1500 890
      (chassisInit blankMemory chassisDefaultConfig 890) helloPolls =
        some (true, helloController) := by
    have honline : chassisFeedbackAllOnline helloController 900 = true := by decide +kernel
    have htime : ¬ (1500 : UInt64) ≤ 891 - 890 := by decide
    rw [helloPolls, MotionTool.waitForAllFeedback, if_neg htime]
    exact if_pos honline
  have hdrives : Drives ((keyboard ⟨⟨helloController, ofRat 0.4⟩, 901⟩).answer [] wTurn).1 := by
    unfold Drives
    decide +kernel
  exact ⟨hdrives, ((key_held_down _ haccepted hwait 901 [] wTurn).2.2 hdrives).2⟩

end TestChassisKeyboard

/-! ## 4. The timed tools -/

section Timed

variable {F : Type} [Zero F] [Neg F] [Add F] [Sub F] [Mul F] [Div F] [LT F] [LE F] [BEq F]
  [DecidableLT F] [DecidableLE F] [CFloat F]

/-- **The loop of a timed tool is a drive tool**: it gives the same command in every turn. -/
def timedDrive (command : ChassisCommand F) (start : MotionTool.State F) :
    DriveTool F (MotionTool.State F) MotionTool.Input CanFrame where
  machine := (MotionTool.controlLoop command).machine start
  controller s := s.controller
  frame o := o
  nowMs i := i.nowMs
  dtS s i := floatMs (i.nowMs - s.lastLoopMs) / ofRat 1000
  commands _ i := [.setCommand command.forward command.strafe command.rotate i.nowMs]
  pending i := i.frames
  isCommand s i op hop := by
    rw [List.mem_singleton.mp hop]
    rfl
  turn s i := by
    have hready : MotionTool.drainFeedback (chassisSetCommand s.controller command.forward
        command.strafe command.rotate i.nowMs) i.frames = performOps (performOps s.controller
          [.setCommand command.forward command.strafe command.rotate i.nowMs])
          (feedbackOps i.frames) := drainFeedback_ops _ _
    rw [← hready]
    exact ⟨rfl, rfl⟩

end Timed

/-- The frames read by the turns that have sent, oldest first. -/
def framesRead (sent : List (MotionTool.Input × CanFrame)) : StampedFrames :=
  sent.flatMap fun p => p.1.frames

theorem read_timed (command : ChassisCommand ℚ) (start : MotionTool.State ℚ)
    (waited : StampedFrames) (sent : List (MotionTool.Input × CanFrame)) :
    (timedDrive command start).read waited (sent.map Prod.fst).reverse =
      waited ++ framesRead sent := by
  induction sent using List.reverseRecOn with
  | nil => exact (List.append_nil _).symm
  | append_singleton sent p ih =>
    rw [List.map_append, List.reverse_append, framesRead, List.flatMap_append, ← List.append_assoc]
    exact congrArg₂ (· ++ ·) ih (List.append_nil _).symm

/-- The configuration of an accepted command line has the default timeouts. -/
theorem TimedTool.options_timeouts {strtof : CString → ℚ × Nat} {strtol : CString → Int64 × Nat}
    {tool : TimedTool} {argv : List CString} {options : MotionTool.Options ℚ}
    (h : tool.parseOptions strtof strtol argv = some options) :
    ∃ maxTranslateRpm maxRotateRpm,
      options.config = daemonConfig maxTranslateRpm maxRotateRpm := by
  cases tool with
  | chassisVelocity =>
    simp only [TimedTool.parseOptions, ChassisVelocity.parseOptions, bind,
      Option.bind_eq_some_iff] at h
    obtain ⟨_, _, _, _, _, _, _, _, _, _, _, _, maxTranslateRpm, _, maxRotateRpm, _, heq⟩ := h
    cases heq
    exact ⟨maxTranslateRpm, maxRotateRpm, rfl⟩
  | testChassisCommand =>
    simp only [TimedTool.parseOptions, TestChassisCommand.parseOptions, bind,
      Option.bind_eq_some_iff] at h
    obtain ⟨_, _, _, _, _, _, _, _, _, _, _, _, maxTranslateRpm, _, maxRotateRpm, _, heq⟩ := h
    cases heq
    exact ⟨maxTranslateRpm, maxRotateRpm, rfl⟩

/-- **A timed drive is guarded.** No frame that the loop sends has a current above 6500; and one
    that gives a motor a current was sent for noticeable arguments, with a frame of each motor of
    the last 250 ms behind it. -/
theorem timed_drive_guarded (strtof : CString → ℚ × Nat) (strtol : CString → Int64 × Nat)
    (tool : TimedTool) {argv : List CString} {options : MotionTool.Options ℚ}
    (haccepted : tool.parseOptions strtof strtol argv = some options)
    {memory controller : ChassisController ℚ} {initMs waitMs : UInt64} {polls : List WaitPoll}
    (hwait : MotionTool.waitForAllFeedback 1500 waitMs
      (chassisInit memory options.config initMs) polls = some (true, controller))
    (startMs : UInt64) (turns : List (Option MotionTool.Input))
    {before after : List (MotionTool.Input × CanFrame)} {p : MotionTool.Input × CanFrame}
    (hsent : (tool.mainLoop options startMs ⟨controller, startMs⟩ turns).sent =
      before ++ p :: after) :
    let waited := waitRead 1500 waitMs (chassisInit memory options.config initMs) polls
    p.2.canId = 0x200 ∧ (∀ k, |(frameCurrent p.2.data k).toInt| ≤ 6500) ∧
    (Drives p.2 →
      Noticeable options.command.forward options.command.strafe options.command.rotate ∧
      AllHeard p.1.nowMs (waited ++ framesRead (before ++ [p]))) := by
  intro waited
  rw [tool.mainLoop_narrow] at hsent
  have hframe : p.2 = ((timedDrive options.command ⟨controller, startMs⟩).machine).answer
      (before.map Prod.fst).reverse p.1 := Deadline.Loop.run_sent_answer hsent
  have hentered : (timedDrive options.command ⟨controller, startMs⟩).Entered memory options.config
      initMs waited := waitForAllFeedback_ops hwait
  have hguarded := DriveTool.guarded hentered (before.map Prod.fst).reverse p.1
  have hread := read_timed options.command ⟨controller, startMs⟩ waited (before ++ [p])
  rw [List.map_append, List.reverse_append] at hread
  have hthis : (timedDrive options.command ⟨controller, startMs⟩).read waited
      (p.1 :: (before.map Prod.fst).reverse) = waited ++ framesRead (before ++ [p]) := hread
  rw [hthis] at hguarded
  have hsame : (timedDrive options.command ⟨controller, startMs⟩).frame
      (((timedDrive options.command ⟨controller, startMs⟩).machine).answer
        (before.map Prod.fst).reverse p.1) = p.2 := hframe.symm
  rw [hsame] at hguarded
  refine ⟨hguarded.addressed, hguarded.limited, fun hdrives => ?_⟩
  obtain ⟨⟨f, s, r, t, hhead, _, hnoticeable⟩, hheard⟩ :=
    hguarded.defaults (TimedTool.options_timeouts haccepted) hdrives
  cases Option.some.inj hhead
  exact ⟨hnoticeable, hheard⟩

/-- The options of a drive of two seconds. -/
def driveOptions : MotionTool.Options ℚ := ⟨⟨500, 400, 300, 250⟩, ⟨2 / 5, 0, -1 / 10⟩, 2000⟩

/-- A turn at 910 ms with nothing pending. -/
def firstTurn : MotionTool.Input := ⟨910, [], true⟩

/-- The frame that it sends. -/
def firstFrame : CanFrame :=
  (MotionTool.controlTurn driveOptions.command ⟨TestChassisKeyboard.helloController, 901⟩ firstTurn).2

/-- It drives the motors, with the four frames of the wait behind it. -/
theorem first_turn_drives : Drives firstFrame ∧
    AllHeard 910 (waitRead 1500 890 (chassisInit blankMemory driveOptions.config 890) helloPolls ++
      framesRead [(firstTurn, firstFrame)]) := by
  have haccepted : TimedTool.chassisVelocity.parseOptions (CText.strtof finitePart) CText.strtol
      (driveArgs "2000") = some driveOptions := by
    have hfields : (ChassisVelocity.parseOptions (CText.strtof finitePart) CText.strtol
        (driveArgs "2000")).map (fun o : MotionTool.Options ℚ =>
          ((o.config.maxTranslateRpm, o.config.maxRotateRpm, o.config.commandTimeoutMs,
            o.config.feedbackTimeoutMs), o.command, o.durationMs)) =
        some ((500, 400, 300, 250), ⟨2 / 5, 0, -1 / 10⟩, 2000) := by decide +kernel
    obtain ⟨⟨⟨_, _, _, _⟩, _, _⟩, hoptions, hvalues⟩ := Option.map_eq_some_iff.mp hfields
    simp only [Prod.mk.injEq] at hvalues
    obtain ⟨⟨rfl, rfl, rfl, rfl⟩, rfl, rfl⟩ := hvalues
    exact hoptions
  have hwait : MotionTool.waitForAllFeedback 1500 890
      (chassisInit blankMemory driveOptions.config 890) helloPolls =
        some (true, TestChassisKeyboard.helloController) := by
    have honline : chassisFeedbackAllOnline TestChassisKeyboard.helloController 900 = true := by
      decide +kernel
    have htime : ¬ (1500 : UInt64) ≤ 891 - 890 := by decide
    rw [helloPolls, MotionTool.waitForAllFeedback, if_neg htime]
    exact if_pos honline
  have hsent : (TimedTool.chassisVelocity.mainLoop driveOptions 901
      ⟨TestChassisKeyboard.helloController, 901⟩ [some firstTurn]).sent =
        [] ++ (firstTurn, firstFrame) :: [] := by
    have hquiet : durationOver 901 driveOptions.durationMs firstTurn.nowMs = false := by decide
    have hrun := @Deadline.Loop.run_sends _ _ _ (MotionTool.controlLoop driveOptions.command)
      (fun i => durationOver 901 driveOptions.durationMs i.nowMs) firstTurn hquiet rfl
      ⟨TestChassisKeyboard.helloController, 901⟩ []
    exact congrArg Deadline.Run.sent hrun
  have hdrives : Drives firstFrame := by
    unfold Drives
    decide +kernel
  exact ⟨hdrives,
    ((timed_drive_guarded _ _ .chassisVelocity haccepted hwait 901 _ hsent).2.2 hdrives).2⟩

end Rk3588Chassis
