/-
  File:      Rk3588Chassis/KeyboardTool.lean
  Subject:   Driving with the keyboard (`tools/test_chassis_keyboard.c`): what the tool leaves
             behind on the terminal.

  `setup_terminal` changes two things with two calls, the attributes of the terminal and the flags
  of the standard input. `restore_terminal` puts back the attributes, and these only once the setup
  has come to its end.

  * `main_stopsDriving` -- the motors are left without current on every way out, as in WayOut.lean;
  * `main_terminal` -- what is left of the terminal: the flags are changed on the good path, the
    attributes where `fcntl` fails (`Calls.leave`);
  * `terminal_given_back_iff` -- so when a run gives back both.
-/
import Rk3588Chassis.TimedMotion

set_option linter.unusedSectionVars false

namespace Rk3588Chassis

open CFloat Reactive

namespace TestChassisKeyboard

/-! ## 1. The terminal -/

/-- `struct termios`. -/
structure Termios where
  iflag : UInt32
  oflag : UInt32
  cflag : UInt32
  lflag : UInt32
  line : UInt8
  cc : Fin 32 → UInt8
  ispeed : UInt32
  ospeed : UInt32
  deriving DecidableEq

/-- `ICANON`. -/
def icanon : UInt32 := 0x2

/-- `ECHO`. -/
def echo : UInt32 := 0x8

/-- `VTIME`. -/
def vtime : Fin 32 := 5

/-- `VMIN`. -/
def vmin : Fin 32 := 6

/-- `O_NONBLOCK`. -/
def oNonblock : Int32 := 0x800

/-- The attributes that `setup_terminal` asks for. -/
def Termios.raw (attrs : Termios) : Termios :=
  { attrs with
    lflag := attrs.lflag &&& ~~~(icanon ||| echo)
    cc := Function.update (Function.update attrs.cc vmin 0) vtime 0 }

/-- What outlives the process: the attributes of the terminal, and the flags of the standard input. -/
structure Terminal where
  attrs : Termios
  flags : Int32
  deriving DecidableEq

/-- The terminal, with `g_original_termios` and `g_terminal_configured`. -/
structure Process where
  terminal : Terminal
  original : Termios
  configured : Bool

/-- A process as it starts: its globals are zero. -/
def Process.start (terminal : Terminal) : Process where
  terminal := terminal
  original := ⟨0, 0, 0, 0, 0, fun _ => 0, 0, 0⟩
  configured := false

/-- Which calls of `setup_terminal` succeed. -/
structure Calls where
  tcgetattr : Bool
  tcsetattr : Bool
  getfl : Bool
  setfl : Bool

/-- `restore_terminal`. -/
def restoreTerminal (p : Process) : Process :=
  if p.configured then
    { p with
      terminal := { p.terminal with attrs := p.original }
      configured := false }
  else p

/-- `setup_terminal`: whether it returns 0, and what it has done. -/
def setupTerminal (calls : Calls) (p : Process) : Bool × Process :=
  if !calls.tcgetattr then (false, p)
  else
    let p := { p with original := p.terminal.attrs }
    if !calls.tcsetattr then (false, p)
    else
      let p := { p with terminal := { p.terminal with attrs := p.original.raw } }
      let flags : Int32 := if calls.getfl then p.terminal.flags else -1
      if flags < 0 then (false, restoreTerminal p)
      else if !calls.setfl then (false, restoreTerminal p)
      else (true, { p with
        terminal := { p.terminal with flags := flags ||| oNonblock }
        configured := true })

/-! Bits that are set already, and bits that are clear already. -/

theorem or_eq_left_iff {w : Nat} {x y : BitVec w} : x ||| y = x ↔ x &&& y = y := by
  have hbit : ∀ a b : Bool, (a || b) = a ↔ (a && b) = b := by decide
  rw [BitVec.eq_of_getElem_eq_iff, BitVec.eq_of_getElem_eq_iff]
  simp only [BitVec.getElem_or, BitVec.getElem_and, hbit]

theorem and_not_eq_left_iff {w : Nat} {x y : BitVec w} : x &&& ~~~y = x ↔ x &&& y = 0#w := by
  have hbit : ∀ a b : Bool, (a && !b) = a ↔ (a && b) = false := by decide
  rw [BitVec.eq_of_getElem_eq_iff, BitVec.eq_of_getElem_eq_iff]
  simp only [BitVec.getElem_and, BitVec.getElem_not, BitVec.getElem_zero, hbit]

/-- Neither canonical nor echoing, and a read that does not wait. -/
def Termios.IsRaw (attrs : Termios) : Prop :=
  attrs.lflag &&& (icanon ||| echo) = 0 ∧ attrs.cc vmin = 0 ∧ attrs.cc vtime = 0

/-- `O_NONBLOCK` is set. -/
def Terminal.NonBlocking (terminal : Terminal) : Prop := terminal.flags &&& oNonblock = oNonblock

/-- The attributes that stay as they are. -/
theorem raw_eq_self_iff {attrs : Termios} : attrs.raw = attrs ↔ attrs.IsRaw := by
  have hlflag : attrs.lflag &&& ~~~(icanon ||| echo) = attrs.lflag ↔
      attrs.lflag &&& (icanon ||| echo) = 0 := by
    rw [← UInt32.toBitVec_inj, ← UInt32.toBitVec_inj, UInt32.toBitVec_and, UInt32.toBitVec_and,
      UInt32.toBitVec_not]
    exact and_not_eq_left_iff
  have hcc : Function.update (Function.update attrs.cc vmin 0) vtime 0 = attrs.cc ↔
      attrs.cc vmin = 0 ∧ attrs.cc vtime = 0 := by
    refine ⟨fun h => ?_, fun h => ?_⟩
    · have hmin := congrFun h vmin
      have htime := congrFun h vtime
      rw [Function.update_of_ne (by decide), Function.update_self] at hmin
      rw [Function.update_self] at htime
      exact ⟨hmin.symm, htime.symm⟩
    · rw [← h.1, Function.update_eq_self, ← h.2.trans h.1.symm, Function.update_eq_self]
  unfold Termios.IsRaw
  rw [← hlflag, ← hcc]
  refine ⟨fun h => ?_, fun h => ?_⟩
  · exact ⟨congrArg Termios.lflag h, congrArg Termios.cc h⟩
  · unfold Termios.raw
    rw [h.1, h.2]

/-- The flags that stay as they are. -/
theorem or_oNonblock_iff {terminal : Terminal} :
    terminal.flags ||| oNonblock = terminal.flags ↔ terminal.NonBlocking := by
  unfold Terminal.NonBlocking
  rw [← Int32.toBitVec_inj, ← Int32.toBitVec_inj, Int32.toBitVec_or, Int32.toBitVec_and]
  exact or_eq_left_iff

/-- Both calls of `fcntl` bring what is asked for. -/
def Calls.Fcntl (calls : Calls) (terminal : Terminal) : Prop :=
  calls.getfl = true ∧ ¬ terminal.flags < 0 ∧ calls.setfl = true

instance (calls : Calls) (terminal : Terminal) : Decidable (calls.Fcntl terminal) :=
  inferInstanceAs (Decidable (_ ∧ _ ∧ _))

/-- What is left of a setup, once `restore_terminal` has been called. -/
def Calls.leave (calls : Calls) (terminal : Terminal) : Terminal :=
  if calls.tcgetattr = true ∧ calls.tcsetattr = true then
    if calls.Fcntl terminal then { terminal with flags := terminal.flags ||| oNonblock }
    else { terminal with attrs := terminal.attrs.raw }
  else terminal

theorem restoreTerminal_clears (p : Process) : (restoreTerminal p).configured = false := by
  unfold restoreTerminal
  split
  · rfl
  · rename_i h
    exact Bool.eq_false_iff.mpr h

/-- Without the flag nothing is put back. -/
theorem restoreTerminal_idle {p : Process} (h : p.configured = false) : restoreTerminal p = p := by
  rw [restoreTerminal, if_neg (Bool.eq_false_iff.mp h)]

/-- Put back once and then again, the attributes are the saved ones; the flags are not touched. -/
theorem restored_twice (attrs original : Termios) (flags : Int32) :
    (restoreTerminal (restoreTerminal ⟨⟨attrs, flags⟩, original, true⟩)).terminal =
      ⟨original, flags⟩ := by
  rw [restoreTerminal_idle (restoreTerminal_clears _)]
  rfl

/-- **What a setup can do**: nothing to the terminal; or it makes it raw and fails; or it comes to
    its end, and only then is there something to put back. -/
theorem setupTerminal_cases (calls : Calls) (terminal : Terminal) :
    (¬ (calls.tcgetattr = true ∧ calls.tcsetattr = true) ∧
      ∃ original, setupTerminal calls (Process.start terminal) =
        (false, ⟨terminal, original, false⟩)) ∨
    (calls.tcgetattr = true ∧ calls.tcsetattr = true ∧ ¬ calls.Fcntl terminal ∧
      setupTerminal calls (Process.start terminal) =
        (false, ⟨⟨terminal.attrs.raw, terminal.flags⟩, terminal.attrs, false⟩)) ∨
    (calls.tcgetattr = true ∧ calls.tcsetattr = true ∧ calls.Fcntl terminal ∧
      setupTerminal calls (Process.start terminal) =
        (true, ⟨⟨terminal.attrs.raw, terminal.flags ||| oNonblock⟩, terminal.attrs, true⟩)) := by
  obtain ⟨tcgetattr, tcsetattr, getfl, setfl⟩ := calls
  unfold Calls.Fcntl setupTerminal
  cases tcgetattr with
  | false => exact Or.inl ⟨fun h => Bool.false_ne_true h.1, _, rfl⟩
  | true =>
    cases tcsetattr with
    | false => exact Or.inl ⟨fun h => Bool.false_ne_true h.2, _, rfl⟩
    | true =>
      refine Or.inr ?_
      cases getfl with
      | false => exact Or.inl ⟨rfl, rfl, fun h => Bool.false_ne_true h.1, rfl⟩
      | true =>
        by_cases hflags : terminal.flags < 0
        · refine Or.inl ⟨rfl, rfl, fun h => h.2.1 hflags, ?_⟩
          simp only [Process.start, Bool.not_true, Bool.false_eq_true, if_false, if_true,
            if_pos hflags, restoreTerminal]
        · cases setfl with
          | false =>
            refine Or.inl ⟨rfl, rfl, fun h => Bool.false_ne_true h.2.2, ?_⟩
            simp only [Process.start, Bool.not_true, Bool.not_false, Bool.false_eq_true, if_false,
              if_true, if_neg hflags, restoreTerminal]
          | true =>
            refine Or.inr ⟨rfl, rfl, ⟨rfl, hflags, rfl⟩, ?_⟩
            simp only [Process.start, Bool.not_true, Bool.false_eq_true, if_false, if_true,
              if_neg hflags]

/-- A setup that fails leaves this at once; one that does not, once it has been put back. -/
theorem setupTerminal_leaves (calls : Calls) (terminal : Terminal) :
    (∃ p, setupTerminal calls (Process.start terminal) = (false, p) ∧
      p.terminal = calls.leave terminal) ∨
    ∃ p, setupTerminal calls (Process.start terminal) = (true, p) ∧
      (restoreTerminal (restoreTerminal p)).terminal = calls.leave terminal := by
  unfold Calls.leave
  rcases setupTerminal_cases calls terminal with hcase | hcase | hcase
  · obtain ⟨hcalls, original, hsetup⟩ := hcase
    refine Or.inl ⟨_, hsetup, ?_⟩
    rw [if_neg hcalls]
  · obtain ⟨hget, hset, hfcntl, hsetup⟩ := hcase
    refine Or.inl ⟨_, hsetup, ?_⟩
    rw [if_pos ⟨hget, hset⟩, if_neg hfcntl]
  · obtain ⟨hget, hset, hfcntl, hsetup⟩ := hcase
    refine Or.inr ⟨_, hsetup, ?_⟩
    rw [restored_twice, if_pos ⟨hget, hset⟩, if_pos hfcntl]

section Tool

variable {F : Type} [Zero F] [Neg F] [Add F] [Sub F] [Mul F] [Div F] [LT F] [LE F] [BEq F]
  [DecidableLT F] [DecidableLE F] [CFloat F]

/-! ## 2. The keys -/

/-- What a key acts on. -/
structure Driving (F : Type) where
  controller : ChassisController F
  scale : F

/-- A key that sets a command. -/
def Driving.command (d : Driving F) (forward strafe rotate : F) (nowMs : UInt64) : Driving F :=
  { d with controller := chassisSetCommand d.controller forward strafe rotate nowMs }

/-- `handle_key`; `none` where it returns 0. -/
def handleKey (key : UInt8) (d : Driving F) (nowMs : UInt64) : Option (Driving F) :=
  if key = 'w'.toUInt8 ∨ key = 'W'.toUInt8 then some (d.command d.scale 0 0 nowMs)
  else if key = 's'.toUInt8 ∨ key = 'S'.toUInt8 then some (d.command (-d.scale) 0 0 nowMs)
  else if key = 'a'.toUInt8 ∨ key = 'A'.toUInt8 then some (d.command 0 (-d.scale) 0 nowMs)
  else if key = 'd'.toUInt8 ∨ key = 'D'.toUInt8 then some (d.command 0 d.scale 0 nowMs)
  else if key = 'q'.toUInt8 ∨ key = 'Q'.toUInt8 then some (d.command 0 0 d.scale nowMs)
  else if key = 'e'.toUInt8 ∨ key = 'E'.toUInt8 then some (d.command 0 0 (-d.scale) nowMs)
  else if key = '+'.toUInt8 ∨ key = '='.toUInt8 then
    let scale := d.scale + ofRat 0.1
    some { d with scale := if ofRat 1 < scale then ofRat 1 else scale }
  else if key = '-'.toUInt8 ∨ key = '_'.toUInt8 then
    let scale := d.scale - ofRat 0.1
    some { d with scale := if scale < ofRat 0.1 then ofRat 0.1 else scale }
  else if key = ' '.toUInt8 then some { d with controller := chassisStop d.controller nowMs }
  else if key = 'x'.toUInt8 ∨ key = 'X'.toUInt8 then none
  else some d

/-- The keys of one turn, up to `EOF` or the exit key; `false` where `g_running` is cleared. -/
def handleKeys (nowMs : UInt64) : List UInt8 → Driving F → Driving F × Bool
  | [], d => (d, true)
  | key :: keys, d =>
    match handleKey key d nowMs with
    | none => (d, false)
    | some d => handleKeys nowMs keys d

/-! ## 3. The loop -/

/-- What the loop carries from turn to turn. -/
structure State (F : Type) where
  driving : Driving F
  lastLoopMs : UInt64

/-- What the environment decides in one turn of the loop. -/
structure Input where
  nowMs : UInt64
  keys : List UInt8
  frames : List (CanFrame × UInt64)
  canWriteOk : Bool

/-- One turn of the main loop: what it carries on, the frame it hands to `socketcan_send`, and
    `g_running`. -/
def controlTurn (s : State F) (input : Input) : State F × CanFrame × Bool :=
  let (driving, running) := handleKeys input.nowMs input.keys s.driving
  let received := MotionTool.drainFeedback driving.controller input.frames
  let dtS := floatMs (input.nowMs - s.lastLoopMs) / ofRat 1000
  let (controller, result) := chassisStep received input.nowMs dtS
  let currents : Slot → Int16 := if !result.ret then fun _ => 0 else result.currents
  (⟨{ driving with controller := controller }, input.nowMs⟩, currentFrame currents, running)

/-- `while (g_running)`: the frames it hands to `socketcan_send`; `none` where the script ends
    before the loop does. An entry `none` of the script is a stop signal seen at the loop head. -/
def mainLoop (s : State F) : List (Option Input) → Option (List CanFrame)
  | [] => none
  | none :: _ => some []
  | some input :: turns =>
    let (s', frame, running) := controlTurn s input
    if !input.canWriteOk then some [frame]
    else if !running then some [frame]
    else (mainLoop s' turns).map (frame :: ·)

/-! ## 4. The whole tool -/

/-- The argument checks of `main`: `none` where it prints and returns 2. -/
def parseOptions (strtof : CString → F × Nat) (argv : List CString) : Option (ChassisConfig F) :=
  if argv.length ≠ 2 ∧ argv.length ≠ 4 then none
  else if argv.length = 4 then do
    let maxTranslateRpm ← argv[2]? >>= parseFloatArg strtof
    let maxRotateRpm ← argv[3]? >>= parseFloatArg strtof
    return daemonConfig maxTranslateRpm maxRotateRpm
  else some chassisDefaultConfig

/-- What the environment decides in a run of the tool. -/
structure Script (F : Type) where
  argv : List CString
  canOpens : Bool
  memory : ChassisController F
  initMs : UInt64
  waitMs : UInt64
  polls : List WaitPoll
  calls : Calls
  loopMs : UInt64
  turns : List (Option Input)

/-- What `main` leaves behind: its exit code, what was done on the CAN socket, and the terminal
    when the process has ended. -/
structure Outcome where
  code : Nat
  trace : List BusEvent
  terminal : Terminal

/-- `main`, and the handler of `atexit` behind it; `none` where the script ends before. -/
def main (strtof : CString → F × Nat) (script : Script F) (terminal : Terminal) : Option Outcome :=
  match parseOptions strtof script.argv with
  | none => some ⟨2, [], terminal⟩
  | some config =>
    if !script.canOpens then some ⟨1, [], terminal⟩
    else
      match MotionTool.waitForAllFeedback 1500 script.waitMs
        (chassisInit script.memory config script.initMs) script.polls with
      | none => none
      | some (false, _) => some ⟨1, sendZeroCurrent ++ [.closeCan], terminal⟩
      | some (true, controller) =>
        match setupTerminal script.calls (Process.start terminal) with
        | (false, p) => some ⟨1, sendZeroCurrent ++ [.closeCan], p.terminal⟩
        | (true, p) =>
          (mainLoop ⟨⟨controller, ofRat 0.4⟩, script.loopMs⟩ script.turns).map fun frames =>
            let returned := restoreTerminal p
            let exited := restoreTerminal returned
            ⟨0, frames.map .attempt ++ sendZeroCurrent ++ [.closeCan], exited.terminal⟩

/-! ## 5. Runs of the loop -/

/-- The turns as a machine: it answers a frame, and whether the loop goes on. -/
def keyboard (start : State F) : Machine (State F) Input (CanFrame × Bool) where
  start := start
  step s input := ((controlTurn s input).1, (controlTurn s input).2)

/-- **The loop sends what the machine answers**, turn by turn, up to the turn that ends it. -/
theorem mainLoop_outputs (start : State F) : ∀ {turns : List (Option Input)} {s : State F}
    {frames : List CanFrame}, mainLoop s turns = some frames →
    ∃ inputs : List Input, inputs.map some <+: turns ∧
      frames = (outputs (keyboard start).step s inputs).map Prod.fst
  | none :: turns, s, frames, h => by
    cases h
    exact ⟨[], List.nil_prefix, rfl⟩
  | some input :: turns, s, frames, h => by
    have hlast : frames = [(controlTurn s input).2.1] → ∃ inputs : List Input,
        inputs.map some <+: some input :: turns ∧
          frames = (outputs (keyboard start).step s inputs).map Prod.fst := fun hframes =>
      ⟨[input], List.prefix_cons_inj _ |>.mpr List.nil_prefix, hframes⟩
    unfold mainLoop at h
    simp only at h
    split_ifs at h
    · exact hlast (Option.some.inj h).symm
    · exact hlast (Option.some.inj h).symm
    · obtain ⟨rest, hrest, rfl⟩ := Option.map_eq_some_iff.mp h
      obtain ⟨inputs, hprefix, rfl⟩ := mainLoop_outputs start hrest
      exact ⟨input :: inputs, List.prefix_cons_inj _ |>.mpr hprefix, rfl⟩

/-! ## 6. The motors at the end -/

/-- **Every way out leaves the motors without current.** -/
theorem main_stopsDriving {strtof : CString → F × Nat} {script : Script F} {terminal : Terminal}
    {outcome : Outcome} (h : main strtof script terminal = some outcome) :
    outcome.trace = [] ∨ EndsStill outcome.trace := by
  have hburst : ∀ frames : List CanFrame,
      EndsStill (frames.map .attempt ++ sendZeroCurrent ++ [.closeCan]) :=
    endsStill_of_burst (Nat.le_refl 20)
  unfold main at h
  split at h
  · cases h
    exact Or.inl rfl
  · split_ifs at h
    · cases h
      exact Or.inl rfl
    · split at h
      · cases h
      · cases h
        exact Or.inr (hburst [])
      · split at h
        · cases h
          exact Or.inr (hburst [])
        · obtain ⟨frames, _, hframes⟩ := Option.map_eq_some_iff.mp h
          cases hframes
          exact Or.inr (hburst frames)

/-! ## 7. The terminal at the end -/

/-- The run comes to `setup_terminal`: the arguments are accepted, the interface opens, and all
    motors are heard. -/
def Script.ReachesSetup (strtof : CString → F × Nat) (script : Script F) : Prop :=
  ∃ config controller, parseOptions strtof script.argv = some config ∧ script.canOpens = true ∧
    MotionTool.waitForAllFeedback 1500 script.waitMs
      (chassisInit script.memory config script.initMs) script.polls = some (true, controller)

/-- **What a run leaves behind**: the terminal as it was, or what the setup has left of it. -/
theorem main_terminal {strtof : CString → F × Nat} {script : Script F} {terminal : Terminal}
    {outcome : Outcome} (h : main strtof script terminal = some outcome) :
    (¬ script.ReachesSetup strtof ∧ outcome.terminal = terminal) ∨
      (script.ReachesSetup strtof ∧ outcome.terminal = script.calls.leave terminal) := by
  unfold main at h
  split at h
  · rename_i hoptions
    cases h
    refine Or.inl ⟨fun hreaches => ?_, rfl⟩
    obtain ⟨config, _, hconfig, _⟩ := hreaches
    rw [hoptions] at hconfig
    cases hconfig
  · rename_i config hoptions
    split_ifs at h with hopens
    · cases h
      refine Or.inl ⟨fun hreaches => ?_, rfl⟩
      obtain ⟨_, _, _, hcan, _⟩ := hreaches
      rw [hcan] at hopens
      cases hopens
    · have hcan : script.canOpens = true := by simpa using hopens
      split at h
      · cases h
      · rename_i hwait
        cases h
        refine Or.inl ⟨fun hreaches => ?_, rfl⟩
        obtain ⟨config', controller, hconfig, _, hheard⟩ := hreaches
        rw [hoptions] at hconfig
        cases hconfig
        rw [hwait] at hheard
        cases hheard
      · rename_i controller hwait
        refine Or.inr ⟨⟨config, controller, hoptions, hcan, hwait⟩, ?_⟩
        rcases setupTerminal_leaves script.calls terminal with hfailed | hdone
        · obtain ⟨p, hsetup, hleave⟩ := hfailed
          rw [hsetup] at h
          cases h
          exact hleave
        · obtain ⟨p, hsetup, hleave⟩ := hdone
          rw [hsetup] at h
          obtain ⟨frames, _, hframes⟩ := Option.map_eq_some_iff.mp h
          cases hframes
          exact hleave

/-- The attributes and the flags that a setup leaves are those it found. -/
theorem leave_eq_iff {calls : Calls} {terminal : Terminal} :
    calls.leave terminal = terminal ↔
      (calls.tcgetattr = true → calls.tcsetattr = true →
        (calls.Fcntl terminal → terminal.NonBlocking) ∧
        (¬ calls.Fcntl terminal → terminal.attrs.IsRaw)) := by
  unfold Calls.leave
  rw [← or_oNonblock_iff, ← raw_eq_self_iff]
  split
  · rename_i hcalls
    split
    · rename_i hfcntl
      refine ⟨fun h _ _ => ?_, fun h => ?_⟩
      · exact ⟨fun _ => congrArg Terminal.flags h, fun hnot => absurd hfcntl hnot⟩
      · rw [(h hcalls.1 hcalls.2).1 hfcntl]
    · rename_i hfcntl
      refine ⟨fun h _ _ => ?_, fun h => ?_⟩
      · exact ⟨fun hyes => absurd hyes hfcntl, fun _ => congrArg Terminal.attrs h⟩
      · rw [(h hcalls.1 hcalls.2).2 hfcntl]
  · rename_i hcalls
    exact iff_of_true rfl fun hget hset => absurd ⟨hget, hset⟩ hcalls

/-- **When the terminal is given back**: exactly if the setup was not reached, or one of the first
    two calls failed, or, with `fcntl` succeeding, the input was non-blocking already, or, with
    `fcntl` failing, the terminal was raw already. -/
theorem terminal_given_back_iff {strtof : CString → F × Nat} {script : Script F}
    {terminal : Terminal} {outcome : Outcome}
    (h : main strtof script terminal = some outcome) :
    outcome.terminal = terminal ↔
      (script.ReachesSetup strtof → script.calls.tcgetattr = true → script.calls.tcsetattr = true →
        (script.calls.Fcntl terminal → terminal.NonBlocking) ∧
        (¬ script.calls.Fcntl terminal → terminal.attrs.IsRaw)) := by
  rcases main_terminal h with hcase | hcase
  · obtain ⟨hnot, hterminal⟩ := hcase
    exact iff_of_true hterminal fun hreaches => absurd hreaches hnot
  · obtain ⟨hreaches, hterminal⟩ := hcase
    rw [hterminal, leave_eq_iff]
    refine ⟨fun hleave _ => ?_, fun hall => ?_⟩
    · exact hleave
    · exact hall hreaches

end Tool

/-! ## 8. The scale -/

/-- One branch of a chain of tests that all answer something. -/
theorem ite_some_cases {α : Type} {c : Prop} [Decidable c] {a b : α} {rest : Option α}
    (h : (if c then some a else rest) = some b) : a = b ∨ rest = some b := by
  split at h
  · exact Or.inl (Option.some.inj h)
  · exact Or.inr h

/-- What a key can do to the scale. -/
theorem handleKey_scale {key : UInt8} {d d' : Driving ℚ} {nowMs : UInt64}
    (h : handleKey key d nowMs = some d') :
    d'.scale = d.scale ∨ d'.scale = min 1 (d.scale + 1 / 10) ∨
      d'.scale = max (d.scale - 1 / 10) (1 / 10) := by
  have hten : (ofRat 0.1 : ℚ) = 1 / 10 := by
    rw [ofRat_rat]
    norm_num
  have hkept : ∀ {e : Driving ℚ}, e = d' → e.scale = d.scale → d'.scale = d.scale :=
    fun he hscale => he ▸ hscale
  unfold handleKey at h
  simp only [hten, ofRat_rat] at h
  rcases ite_some_cases h with hw | h
  · exact Or.inl (hkept hw rfl)
  rcases ite_some_cases h with hs | h
  · exact Or.inl (hkept hs rfl)
  rcases ite_some_cases h with ha | h
  · exact Or.inl (hkept ha rfl)
  rcases ite_some_cases h with hd | h
  · exact Or.inl (hkept hd rfl)
  rcases ite_some_cases h with hq | h
  · exact Or.inl (hkept hq rfl)
  rcases ite_some_cases h with he | h
  · exact Or.inl (hkept he rfl)
  rcases ite_some_cases h with hplus | h
  · rw [← hplus]
    exact Or.inr (Or.inl (min_def_lt _ _).symm)
  rcases ite_some_cases h with hminus | h
  · rw [← hminus]
    exact Or.inr (Or.inr (max_def_lt _ _).symm)
  rcases ite_some_cases h with hspace | h
  · exact Or.inl (hkept hspace rfl)
  split at h
  · cases h
  · exact Or.inl (hkept (Option.some.inj h) rfl)

/-- A scale within what a command can use. -/
def Driving.InRange (d : Driving ℚ) : Prop := 1 / 10 ≤ d.scale ∧ d.scale ≤ 1

theorem handleKey_inRange {key : UInt8} {d d' : Driving ℚ} {nowMs : UInt64}
    (h : handleKey key d nowMs = some d') (hd : d.InRange) : d'.InRange := by
  obtain ⟨hlo, hhi⟩ := hd
  unfold Driving.InRange
  rcases handleKey_scale h with hscale | hscale | hscale
  · rw [hscale]
    exact ⟨hlo, hhi⟩
  · rw [hscale]
    exact ⟨le_min (by norm_num) (by linarith), min_le_left _ _⟩
  · rw [hscale]
    exact ⟨le_max_right _ _, max_le (by linarith) (by norm_num)⟩

/-- All the keys of a turn. -/
theorem handleKeys_inRange (nowMs : UInt64) (keys : List UInt8) {d : Driving ℚ} (hd : d.InRange) :
    (handleKeys nowMs keys d).1.InRange := by
  induction keys generalizing d with
  | nil => exact hd
  | cons key keys ih =>
    unfold handleKeys
    split
    · exact hd
    · rename_i d' hkey
      exact ih (handleKey_inRange hkey hd)

/-- Behind its keys a turn leaves the scale alone. -/
theorem controlTurn_scale (s : State ℚ) (input : Input) :
    (controlTurn s input).1.driving.scale = (handleKeys input.nowMs input.keys s.driving).1.scale := by
  rw [controlTurn]

/-- **The scale stays in range** over whole runs: it starts with 0.4. -/
theorem scale_inRange (controller : ChassisController ℚ) (loopMs : UInt64) (hist : List Input) :
    ((keyboard ⟨⟨controller, ofRat 0.4⟩, loopMs⟩).after hist).driving.InRange := by
  have hstart : (⟨controller, ofRat 0.4⟩ : Driving ℚ).InRange := by
    unfold Driving.InRange
    rw [ofRat_rat]
    norm_num
  refine @Machine.after_invariant _ _ _ (keyboard ⟨⟨controller, ofRat 0.4⟩, loopMs⟩)
    (fun s => s.driving.InRange) hstart ?_ hist
  intro s input hs
  have hkeys := handleKeys_inRange input.nowMs input.keys hs
  unfold Driving.InRange at hkeys ⊢
  rw [keyboard, controlTurn_scale]
  exact hkeys

/-! ## 9. Two runs -/

/-- A terminal as a shell hands it over: canonical, echoing, and opened for reading and writing. -/
def cooked : Terminal := ⟨⟨0x6d02, 0x5, 0x4bf, 0x8a3b, 0, fun i => if i = vmin then 1 else 0, 15, 15⟩, 2⟩

/-- A short drive: the motors are heard, one turn with the key `w` and one with the exit key. -/
def shortDrive (calls : Calls) : Script ℚ where
  argv := ["test_chassis_keyboard", "can0"].map cstring
  canOpens := true
  memory := blankMemory
  initMs := 890
  waitMs := 890
  polls := [⟨891, helloFrames, 900⟩]
  calls := calls
  loopMs := 901
  turns := [some ⟨910, ['w'.toUInt8], [], true⟩, some ⟨920, ['x'.toUInt8], [], true⟩]

/-- What a short drive comes to. -/
def driven (calls : Calls) (terminal : Terminal) : Option Outcome :=
  main (CText.strtof finitePart) (shortDrive calls) terminal

/-- A terminal that was non-blocking is given back by the exit key. -/
theorem nonblocking_given_back : ∃ outcome,
    driven ⟨true, true, true, true⟩ ⟨cooked.attrs, 0x802⟩ = some outcome ∧
      outcome.terminal = ⟨cooked.attrs, 0x802⟩ := by
  have hends : (driven ⟨true, true, true, true⟩ ⟨cooked.attrs, 0x802⟩).map (fun o => o.code) =
      some 0 := by decide +kernel
  obtain ⟨outcome, hmain, _⟩ := Option.map_eq_some_iff.mp hends
  refine ⟨outcome, hmain, (terminal_given_back_iff hmain).mpr fun _ _ _ => ⟨fun _ => rfl, fun hnot => ?_⟩⟩
  exact absurd ⟨rfl, by decide, rfl⟩ hnot

/-- **Neither piece is safe**: with no call failing, the exit key leaves `O_NONBLOCK` set; with
    `F_GETFL` failing, the setup leaves the terminal raw. -/
theorem terminal_left_changed :
    (∃ outcome, driven ⟨true, true, true, true⟩ cooked = some outcome ∧
      outcome.terminal.flags ≠ cooked.flags) ∧
    ∃ outcome, driven ⟨true, true, false, true⟩ cooked = some outcome ∧
      outcome.terminal.attrs ≠ cooked.attrs := by
  have hflags : (driven ⟨true, true, true, true⟩ cooked).map (fun o => o.terminal.flags) =
      some 0x802 := by decide +kernel
  have hlflag : (driven ⟨true, true, false, true⟩ cooked).map (fun o => o.terminal.attrs.lflag) =
      some 0x8a31 := by decide +kernel
  obtain ⟨quit, hquit, hquitFlags⟩ := Option.map_eq_some_iff.mp hflags
  obtain ⟨refused, hrefused, hrefusedLflag⟩ := Option.map_eq_some_iff.mp hlflag
  refine ⟨⟨quit, hquit, fun h => ?_⟩, refused, hrefused, fun h => ?_⟩
  · rw [h] at hquitFlags
    exact absurd hquitFlags (by decide)
  · rw [h] at hrefusedLflag
    exact absurd hrefusedLflag (by decide)

end TestChassisKeyboard

end Rk3588Chassis
