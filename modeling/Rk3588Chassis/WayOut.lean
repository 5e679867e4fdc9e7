/-
  File:      Rk3588Chassis/WayOut.lean
  Subject:   The two mains (`tools/chassis_daemon.c`, `tools/can_proxy.c`): every way out leaves
             the motors without current.

  A `main` is run on a script of everything the environment decides: the arguments, what opens and
  what does not, and the turns of its loop. An entry `none` in the script of turns is a stop signal
  seen at the loop head. The result is the exit code and what was done on the CAN socket, or `none`
  where the script ends before `main` has returned.

  * `daemonLoop_outputs`, `canProxyLoop_outputs` -- what a loop attempts is what its machine
    answers (DaemonLoop.lean, Proxy.lean);
  * `daemonMain_trace`, `canProxyMain_trace` -- the shape of every trace: nothing, or the loop's
    attempts, the burst of zeros and the close;
  * `zero_on_every_way_out` -- so no way out skips the burst.
-/
import Rk3588Chassis.CommandLine
import Rk3588Chassis.Proxy

set_option linter.unusedSectionVars false

namespace Rk3588Chassis

open CFloat Reactive

/-! ## 1. The bus -/

/-- What a program does on its CAN socket: it attempts to write a frame, or closes it. -/
inductive BusEvent where
  | attempt (frame : CanFrame)
  | closeCan

/-- The attempt of a 0x200 frame with four zero currents. -/
def BusEvent.IsZero : BusEvent → Prop
  | .attempt frame => frame.canId = 0x200 ∧ ∀ k, frameCurrent frame.data k = 0
  | .closeCan => False

/-- The attempt of a 0x200 frame with a non-zero current. -/
def BusEvent.IsMotion : BusEvent → Prop
  | .attempt frame => frame.canId = 0x200 ∧ ∃ k, frameCurrent frame.data k ≠ 0
  | .closeCan => False

instance : DecidablePred BusEvent.IsMotion
  | .attempt frame => inferInstanceAs
    (Decidable (frame.canId = 0x200 ∧ ∃ k, frameCurrent frame.data k ≠ 0))
  | .closeCan => isFalse not_false

/-- At least twenty zero frames, then the close, and no motion from the first of them on. -/
def EndsStill (trace : List BusEvent) : Prop :=
  ∃ before burst after, trace = before ++ burst ++ .closeCan :: after ∧
    .closeCan ∉ before ∧ 20 ≤ burst.length ∧ (∀ e ∈ burst, e.IsZero) ∧ ∀ e ∈ after, ¬ e.IsMotion

/-- The frame of `send_zero_current`. -/
def zeroFrame : CanFrame := currentFrame fun _ => 0

theorem zeroFrame_isZero : (BusEvent.attempt zeroFrame).IsZero :=
  ⟨rfl, fun k => frameCurrent_pack (fun _ => 0) k⟩

/-- A burst of zeros, long enough, and the close: whatever was attempted before. -/
theorem endsStill_of_burst {n : Nat} (hn : 20 ≤ n) (attempts : List CanFrame) :
    EndsStill (attempts.map .attempt ++ List.replicate n (.attempt zeroFrame) ++ [.closeCan]) := by
  refine ⟨_, _, [], rfl, fun hclose => ?_, ?_, fun e he => ?_, fun e he => nomatch he⟩
  · obtain ⟨frame, _, hframe⟩ := List.mem_map.mp hclose
    cases hframe
  · rw [List.length_replicate]
    exact hn
  · rw [(List.mem_replicate.mp he).2]
    exact zeroFrame_isZero

/-! ## 2. The daemon -/

/-- `ZERO_SEND_REPEAT`. -/
def zeroSendRepeat : Nat := 20

/-- `send_zero_current`: whether a write succeeds is not looked at. -/
def sendZeroCurrent : List BusEvent := List.replicate zeroSendRepeat (.attempt zeroFrame)

/-- What the environment decides in a run of the daemon. -/
structure DaemonScript (F : Type) where
  argv : List CString
  canOpens : Bool
  udpBinds : Bool
  logOpens : Bool
  memory : ChassisController F
  initMs : UInt64
  startMs : UInt64
  waitMs : UInt64
  polls : List WaitPoll
  loopMs : UInt64
  turns : List (Option DaemonInput)

section Daemon

variable {F : Type} [Zero F] [Neg F] [Add F] [Sub F] [Mul F] [Div F] [LT F] [LE F] [BEq F]
  [DecidableLT F] [DecidableLE F] [CFloat F] (strtof : CString → F × Nat)
  (strtol : CString → Int64 × Nat) (sscanf : CString → ScanResult F)

/-- `while (g_running)`: the loop ends at a stop signal, or when a frame cannot be written. -/
def daemonLoop (s : DaemonState F) : List (Option DaemonInput) → Option (List BusEvent)
  | [] => none
  | none :: _ => some []
  | some input :: turns =>
    if input.canWriteOk then
      (daemonLoop (daemonStep sscanf s input).1 turns).map
        (.attempt (daemonStep sscanf s input).2 :: ·)
    else some [.attempt (daemonStep sscanf s input).2]

/-- `main`: the exit code, and what was done on the CAN socket. `chassis_stop` and the closing
    of the UDP socket and of the log are not seen there. -/
def daemonMain (script : DaemonScript F) : Option (Nat × List BusEvent) :=
  match parseOptions strtof strtol script.argv with
  | none => some (2, [])
  | some options =>
    if !script.canOpens then some (1, [])
    else if !script.udpBinds then some (1, sendZeroCurrent ++ [.closeCan])
    else if options.csvLog && !script.logOpens then some (1, sendZeroCurrent ++ [.closeCan])
    else
      let controller := chassisInit script.memory options.config script.initMs
      match waitForAllFeedback 1500 script.waitMs
        (controller, ⟨script.startMs, fun _ => 0, 0, 0, 0, -1⟩) script.polls with
      | none => none
      | some (false, _) => some (1, sendZeroCurrent ++ [.closeCan])
      | some (true, controller, stats) =>
        (daemonLoop sscanf ⟨controller, stats, script.loopMs⟩ script.turns).map fun attempts =>
          (0, attempts ++ sendZeroCurrent ++ [.closeCan])

/-- **The loop attempts what the machine answers**, turn by turn, up to the turn that ends it. -/
theorem daemonLoop_outputs : ∀ {turns : List (Option DaemonInput)} {s : DaemonState F}
    {trace : List BusEvent}, daemonLoop sscanf s turns = some trace →
    ∃ inputs : List DaemonInput, inputs.map some <+: turns ∧
      trace = (outputs (daemonStep sscanf) s inputs).map .attempt
  | none :: turns, s, trace, h => by
    cases h
    exact ⟨[], List.nil_prefix, rfl⟩
  | some input :: turns, s, trace, h => by
    unfold daemonLoop at h
    split_ifs at h
    · obtain ⟨rest, hrest, rfl⟩ := Option.map_eq_some_iff.mp h
      obtain ⟨inputs, hprefix, rfl⟩ := daemonLoop_outputs hrest
      exact ⟨input :: inputs, List.prefix_cons_inj _ |>.mpr hprefix, rfl⟩
    · cases h
      exact ⟨[input], List.prefix_cons_inj _ |>.mpr List.nil_prefix, rfl⟩

/-- **Every way out of the daemon**: nothing was done, or the burst and the close come last. What
    comes before them are the answers of the loop, entered with all motors heard and the default
    configuration but for the two limits. -/
theorem daemonMain_trace {script : DaemonScript F} {code : Nat} {trace : List BusEvent}
    (h : daemonMain strtof strtol sscanf script = some (code, trace)) :
    trace = [] ∨ trace = sendZeroCurrent ++ [.closeCan] ∨
      ∃ maxTranslateRpm maxRotateRpm start inputs,
        LoopEntered script.memory (daemonConfig maxTranslateRpm maxRotateRpm) script.initMs start ∧
        trace = (outputs (chassisDaemon sscanf start).step start inputs).map .attempt ++
          sendZeroCurrent ++ [.closeCan] := by
  unfold daemonMain at h
  split at h
  · cases h
    exact Or.inl rfl
  · rename_i options hoptions
    split_ifs at h
    · cases h
      exact Or.inl rfl
    · cases h
      exact Or.inr (Or.inl rfl)
    · cases h
      exact Or.inr (Or.inl rfl)
    · simp only at h
      split at h
      · cases h
      · cases h
        exact Or.inr (Or.inl rfl)
      · rename_i controller stats hwait
        obtain ⟨attempts, hloop, hmain⟩ := Option.map_eq_some_iff.mp h
        obtain ⟨inputs, _, rfl⟩ := daemonLoop_outputs sscanf hloop
        obtain ⟨maxTranslateRpm, maxRotateRpm, hconfig⟩ := parseOptions_config hoptions
        rw [hconfig] at hwait
        cases hmain
        exact Or.inr (Or.inr ⟨maxTranslateRpm, maxRotateRpm, _, inputs, ⟨_, _, _, hwait⟩, rfl⟩)

end Daemon

/-! ## 3. The proxy -/

/-- The bytes of an ASCII literal. -/
def cstring (text : String) : CString := text.toList.map fun c => UInt8.ofNat c.toNat

namespace Proxy

/-- `ZERO_REPEAT`. -/
def zeroRepeat : Nat := 20

/-- `DEFAULT_PORT`. -/
def defaultPort : Int32 := 21001

/-- `DEFAULT_MAX_CURRENT`. -/
def defaultMaxCurrent : Int := 2000

/-- What `main` takes from its arguments, apart from the texts it hands to `socketcan_open` and
    `open_udp_socket`. -/
structure ProxyOptions where
  config : ProxyConfig
  port : Int32

/-- The flags behind the third argument; `none` where `main` prints the usage and returns 2. -/
def parseFlags (atoi : CString → Int32) (config : ProxyConfig) :
    List CString → Option ProxyConfig
  | [] => some config
  | flag :: flags =>
    if flag = cstring "--allow-current" then
      parseFlags atoi { config with allowCurrent := true } flags
    else if flag = cstring "--max-current" then
      match flags with
      | [] => none
      | value :: flags => parseFlags atoi { config with maxCurrent := (atoi value).toInt } flags
    else none

/-- The arguments of `main`. -/
def parseArgs (atoi : CString → Int32) (argv : List CString) : Option ProxyOptions :=
  (parseFlags atoi ⟨false, defaultMaxCurrent⟩ (argv.drop 4)).map fun config =>
    ⟨config, match argv[3]? with
      | none => defaultPort
      | some text => atoi text⟩

/-- `send_zero_current`. -/
def sendZeroCurrent : List BusEvent := List.replicate zeroRepeat (.attempt zeroFrame)

/-- What the environment decides in a run of the proxy. -/
structure ProxyScript where
  argv : List CString
  canOpens : Bool
  udpBinds : Bool
  turns : List (Option LoopInput)

/-- `while (g_running)`: the loop ends at a stop signal only. -/
def canProxyLoop (config : ProxyConfig) (s : LoopState) :
    List (Option LoopInput) → Option (List BusEvent)
  | [] => none
  | none :: _ => some []
  | some input :: turns =>
    (canProxyLoop config (loopStep config s input).1 turns).map
      ((loopStep config s input).2.attempted.toList.map .attempt ++ ·)

/-- `main`. -/
def canProxyMain (atoi : CString → Int32) (script : ProxyScript) : Option (Nat × List BusEvent) :=
  match parseArgs atoi script.argv with
  | none => some (2, [])
  | some options =>
    if !script.canOpens then some (1, [])
    else if !script.udpBinds then some (1, [.closeCan])
    else
      (canProxyLoop options.config (canProxy options.config).start script.turns).map
        fun attempts => (0, attempts ++ sendZeroCurrent ++ [.closeCan])

/-- **The loop attempts what the machine answers**, turn by turn, up to the stop signal. -/
theorem canProxyLoop_outputs (config : ProxyConfig) : ∀ {turns : List (Option LoopInput)}
    {s : LoopState} {trace : List BusEvent}, canProxyLoop config s turns = some trace →
    ∃ inputs : List LoopInput, inputs.map some <+: turns ∧
      trace = ((outputs (loopStep config) s inputs).flatMap fun o => o.attempted.toList).map
        .attempt
  | none :: turns, s, trace, h => by
    cases h
    exact ⟨[], List.nil_prefix, rfl⟩
  | some input :: turns, s, trace, h => by
    unfold canProxyLoop at h
    obtain ⟨rest, hrest, rfl⟩ := Option.map_eq_some_iff.mp h
    obtain ⟨inputs, hprefix, rfl⟩ := canProxyLoop_outputs config hrest
    refine ⟨input :: inputs, List.prefix_cons_inj _ |>.mpr hprefix, ?_⟩
    rw [outputs, List.flatMap_cons, List.map_append]

/-- **Every way out of the proxy**: the CAN socket was closed before anything was attempted, or
    the burst and the close come last. -/
theorem canProxyMain_trace {atoi : CString → Int32} {script : ProxyScript} {code : Nat}
    {trace : List BusEvent} (h : canProxyMain atoi script = some (code, trace)) :
    trace = [] ∨ trace = [.closeCan] ∨ ∃ attempts : List CanFrame,
      trace = attempts.map .attempt ++ sendZeroCurrent ++ [.closeCan] := by
  unfold canProxyMain at h
  split at h
  · cases h
    exact Or.inl rfl
  · split_ifs at h
    · cases h
      exact Or.inl rfl
    · cases h
      exact Or.inr (Or.inl rfl)
    · obtain ⟨attempts, hloop, hmain⟩ := Option.map_eq_some_iff.mp h
      obtain ⟨inputs, _, rfl⟩ := canProxyLoop_outputs _ hloop
      cases hmain
      exact Or.inr (Or.inr ⟨_, rfl⟩)

end Proxy

/-! ## 4. Both -/

section Both

variable {F : Type} [Zero F] [Neg F] [Add F] [Sub F] [Mul F] [Div F] [LT F] [LE F] [BEq F]
  [DecidableLT F] [DecidableLE F] [CFloat F]

/-- **Zero current on every way out.** If a `main` returns and has attempted motion, it has then
    attempted at least twenty zero frames before it closed the CAN socket, and no motion after
    the first of them. -/
theorem zero_on_every_way_out :
    (∀ (strtof : CString → F × Nat) strtol sscanf script code trace,
      daemonMain strtof strtol sscanf script = some (code, trace) →
      (∃ e ∈ trace, e.IsMotion) → EndsStill trace) ∧
    ∀ atoi script code trace, Proxy.canProxyMain atoi script = some (code, trace) →
      (∃ e ∈ trace, e.IsMotion) → EndsStill trace := by
  constructor
  · intro strtof strtol sscanf script code trace h hmotion
    rcases daemonMain_trace strtof strtol sscanf h with rfl | rfl | ⟨_, _, _, inputs, _, rfl⟩
    · obtain ⟨e, he, _⟩ := hmotion
      cases he
    · exact endsStill_of_burst (Nat.le_refl 20) []
    · exact endsStill_of_burst (Nat.le_refl 20) _
  · intro atoi script code trace h hmotion
    rcases Proxy.canProxyMain_trace h with rfl | rfl | ⟨attempts, rfl⟩
    · obtain ⟨e, he, _⟩ := hmotion
      cases he
    · obtain ⟨e, he, hmoves⟩ := hmotion
      rw [List.mem_singleton.mp he] at hmoves
      exact hmoves.elim
    · exact endsStill_of_burst (Nat.le_refl 20) attempts

end Both

/-- A daemon that is stopped after one turn on the line `1 0 0`. -/
def driveOnce : DaemonScript ℚ where
  argv := [cstring "chassis_daemon", cstring "can0", cstring "21000"]
  canOpens := true
  udpBinds := true
  logOpens := true
  memory := blankMemory
  initMs := 890
  startMs := 890
  waitMs := 890
  polls := [⟨891, helloFrames, 900⟩]
  loopMs := 901
  turns := [some ⟨1000, [aheadLine], [], true⟩, none]

/-- A proxy that is stopped after one turn with a command. -/
def forwardOnce : Proxy.ProxyScript where
  argv := [cstring "can_proxy", cstring "can0", cstring "10.10.10.31", cstring "21001",
    cstring "--allow-current"]
  canOpens := true
  udpBinds := true
  turns := [some ⟨1000, [], [sampleCommand], true, 1000⟩, none]

/-- Both move the chassis, and leave it still. -/
theorem moved_and_left_still :
    (∃ trace, daemonMain (CText.strtof finitePart) CText.strtol (sscanfCommand finitePart)
      driveOnce = some (0, trace) ∧ (∃ e ∈ trace, e.IsMotion) ∧ EndsStill trace) ∧
    ∃ trace, Proxy.canProxyMain (fun _ => 2000) forwardOnce = some (0, trace) ∧
      (∃ e ∈ trace, e.IsMotion) ∧ EndsStill trace := by
  have hdaemon : (daemonMain (CText.strtof finitePart) CText.strtol (sscanfCommand finitePart)
      driveOnce).map (fun r => (r.1, decide (∃ e ∈ r.2, e.IsMotion))) = some (0, true) := by
    decide +kernel
  have hproxy : (Proxy.canProxyMain (fun _ => 2000) forwardOnce).map
      (fun r => (r.1, decide (∃ e ∈ r.2, e.IsMotion))) = some (0, true) := by decide +kernel
  obtain ⟨⟨code, trace⟩, hrun, hshown⟩ := Option.map_eq_some_iff.mp hdaemon
  obtain ⟨⟨code', trace'⟩, hrun', hshown'⟩ := Option.map_eq_some_iff.mp hproxy
  obtain ⟨rfl, hmotion⟩ := Prod.mk.inj hshown
  obtain ⟨rfl, hmotion'⟩ := Prod.mk.inj hshown'
  have hmoves := of_decide_eq_true hmotion
  have hmoves' := of_decide_eq_true hmotion'
  exact ⟨⟨trace, hrun, hmoves, (zero_on_every_way_out (F := ℚ)).1 _ _ _ _ _ _ hrun hmoves⟩,
    trace', hrun', hmoves', (zero_on_every_way_out (F := ℚ)).2 _ _ _ _ hrun' hmoves'⟩

end Rk3588Chassis
