/-
  File:      Rk3588Chassis/Proxy.lean
  Subject:   The CAN proxy (`tools/can_proxy.c`): UDP packets in, current frames out.

  Every static function of the tool that its main loop calls has a definition of its name in
  the namespace `Proxy`; `loopStep` is one turn of the loop, in the order of the source:
  feedback, UDP, send or expire, state report. What the environment decides in a turn is its
  `LoopInput`: the clock readings, the pending frames and datagrams, and whether the CAN write
  succeeds.

  The three fields that decide what is sent form the `CommandCell`. `receiveDatagram_cell`,
  `sendOrExpire_cell` and the frame lemmas beside them say, once for each function, what it does
  to the cell: a datagram acts through the order it carries, and nothing else moves it.
-/
import Rk3588Chassis.Bridge
import Rk3588Chassis.Library.Machine
import Rk3588Chassis.Motor3508

namespace Rk3588Chassis.Proxy

open Bytes Reactive

/-! ## 1. State -/

/-- `DEFAULT_COMMAND_TIMEOUT_MS`. -/
def defaultCommandTimeoutMs : UInt16 := 100

/-- `STATE_PERIOD_MS`. -/
def statePeriodMs : UInt64 := 20

/-- The least distance of two current frames in the send branch. -/
def currentPeriodMs : UInt64 := 10

/-- The window of `online_mask`. -/
def onlineWindowMs : UInt64 := 200

/-- The settings of the command line: `--allow-current` and `--max-current N`. -/
structure ProxyConfig where
  allowCurrent : Bool
  maxCurrent : Int

/-- `ProxyState`. -/
structure ProxyState where
  feedback : Slot → Motor3508Feedback
  currentCommand : Slot → Int16
  targetRpm : Slot → Int16
  lastFeedbackMs : Slot → UInt64
  lastRtMs : UInt64
  lastCurrentCommandMs : UInt64
  rxHeartbeat : UInt64
  rxCurrentCommand : UInt64
  invalidPackets : UInt64
  txSequence : UInt32
  currentTimeoutMs : UInt16
  peerKnown : Bool
  peer : SockAddr

/-- The state `main` starts from: zeroed memory and the default timeout. -/
def ProxyState.initial : ProxyState where
  feedback _ := ⟨0, 0, 0, 0, 0, 0, 0⟩
  currentCommand _ := 0
  targetRpm _ := 0
  lastFeedbackMs _ := 0
  lastRtMs := 0
  lastCurrentCommandMs := 0
  rxHeartbeat := 0
  rxCurrentCommand := 0
  invalidPackets := 0
  txSequence := 0
  currentTimeoutMs := defaultCommandTimeoutMs
  peerKnown := false
  peer := ⟨0, 0⟩

/-- What the main loop carries from turn to turn. -/
structure LoopState where
  proxy : ProxyState
  lastStateMs : UInt64
  lastCurrentMs : UInt64

/-! ## 2. Feedback -/

/-- One turn of `drain_feedback`; `stampMs` is the clock reading taken for the frame. -/
def drainFrame (state : ProxyState) (frame : CanFrame) (stampMs : UInt64) : ProxyState :=
  match receiveFeedback frame stampMs with
  | none => state
  | some feedback =>
    { state with
      feedback := Function.update state.feedback (slotOf feedback.id) feedback
      lastFeedbackMs :=
        Function.update state.lastFeedbackMs (slotOf feedback.id) feedback.lastUpdateMs }

/-- `drain_feedback`. -/
def drainFeedback (state : ProxyState) (frames : List (CanFrame × UInt64)) : ProxyState :=
  frames.foldl (fun s f => drainFrame s f.1 f.2) state

/-- The test of `online_mask` for one motor. -/
def motorOnline (state : ProxyState) (nowMs : UInt64) (i : Slot) : Bool :=
  state.lastFeedbackMs i != 0 && decide (nowMs - state.lastFeedbackMs i ≤ onlineWindowMs)

/-- `online_mask`. -/
def onlineMask (state : ProxyState) (nowMs : UInt64) : UInt16 :=
  motors.foldl (fun mask i =>
    if motorOnline state nowMs i then mask ||| 1 <<< UInt16.ofNat (i.val - 1) else mask) 0

/-! ## 3. UDP -/

/-- `clamp_current`; the casts to `int16_t` wrap. -/
def clampCurrent (value maxAbsCurrent : Int) : Int16 :=
  if maxAbsCurrent < value then Int16.ofInt maxAbsCurrent
  else if value < -maxAbsCurrent then Int16.ofInt (-maxAbsCurrent)
  else Int16.ofInt value

/-- `remember_peer`. -/
def rememberPeer (state : ProxyState) (peer : SockAddr) (nowMs : UInt64) : ProxyState :=
  { state with peer := peer, peerKnown := true, lastRtMs := nowMs }

/-- The timeout a current command asks for; 0 stands for the default. -/
def effectiveTimeout (timeoutMs : UInt16) : UInt16 :=
  if timeoutMs = 0 then defaultCommandTimeoutMs else timeoutMs

/-- One turn of `receive_udp`, on a datagram that was pending. -/
def receiveDatagram (config : ProxyConfig) (nowMs : UInt64) (state : ProxyState)
    (datagram : Datagram) : ProxyState :=
  let (packet, length) := recvfrom datagram
  match parseHeader packet length with
  | none => { state with invalidPackets := state.invalidPackets + 1 }
  | some header =>
    let state := rememberPeer state datagram.peer nowMs
    if header.type = rttBridgeMsgHeartbeat then
      { state with rxHeartbeat := state.rxHeartbeat + 1 }
    else if header.type = rttBridgeMsgEstop then
      { state with currentCommand := fun _ => 0 }
    else if header.type = rttBridgeMsgCurrentCommand then
      if header.payloadLength ≠ currentPayloadSize then
        { state with invalidPackets := state.invalidPackets + 1 }
      else
        let state := { state with rxCurrentCommand := state.rxCurrentCommand + 1 }
        if !config.allowCurrent then { state with currentCommand := fun _ => 0 }
        else
          { state with
            currentCommand := forMotors (fun i _ =>
              clampCurrent (readI16 packet (headerSize + 2 * (i.val - 1))).toInt config.maxCurrent)
              state.currentCommand
            currentTimeoutMs := effectiveTimeout (readU16 packet (headerSize + 8))
            lastCurrentCommandMs := nowMs }
    else state

/-- `receive_udp`: every pending datagram. -/
def receiveUdp (config : ProxyConfig) (nowMs : UInt64) (state : ProxyState)
    (datagrams : List Datagram) : ProxyState :=
  datagrams.foldl (receiveDatagram config nowMs) state

/-! ## 4. Sending -/

/-- The test of the send branch. -/
def commandLive (config : ProxyConfig) (state : ProxyState) (nowMs : UInt64) : Bool :=
  config.allowCurrent && state.lastCurrentCommandMs != 0 &&
    decide (nowMs - state.lastCurrentCommandMs ≤ state.currentTimeoutMs.toUInt64)

/-- The send and expire branches of the loop: the new state, and the frame handed to
    `socketcan_send` by `send_currents`. -/
def sendOrExpire (config : ProxyConfig) (s : LoopState) (nowMs : UInt64) :
    LoopState × Option CanFrame :=
  if commandLive config s.proxy nowMs then
    if currentPeriodMs ≤ nowMs - s.lastCurrentMs then
      ({ s with lastCurrentMs := nowMs }, some (currentFrame s.proxy.currentCommand))
    else (s, none)
  else ({ s with proxy := { s.proxy with currentCommand := fun _ => 0 } }, none)

/-- The four words of one row of the state payload. -/
def writeRow (packet : Buffer) (offset : Nat) (row : Slot → Int16) : Buffer :=
  motors.foldl (fun p i => writeI16 p (offset + 2 * (i.val - 1)) (row i)) packet

/-- `send_chassis_state`: the packet and where it goes; `stampMs` is the clock reading of
    `write_header`. -/
def sendChassisState (state : ProxyState) (nowMs stampMs : UInt64) :
    ProxyState × Option (List UInt8 × SockAddr) :=
  if !state.peerKnown then (state, none)
  else
    let state := { state with txSequence := state.txSequence + 1 }
    let packet := writeHeader (fun _ => 0) rttBridgeMsgChassisState state.txSequence
      (UInt16.ofNat statePayloadSize) 0 stampMs
    let packet := writeRow packet headerSize state.targetRpm
    let packet := writeRow packet (headerSize + 8) fun i => (state.feedback i).speedRpm
    let packet := writeRow packet (headerSize + 16) state.currentCommand
    let packet := writeU16 packet (headerSize + 24) (onlineMask state nowMs)
    let packet := writeU16 packet (headerSize + 26) 0
    (state, some ((List.range (headerSize + statePayloadSize)).map packet, state.peer))

/-- The state report of the loop, every `STATE_PERIOD_MS`. -/
def reportState (s : LoopState) (nowMs stampMs : UInt64) :
    LoopState × Option (List UInt8 × SockAddr) :=
  if statePeriodMs ≤ nowMs - s.lastStateMs then
    ({ s with proxy := (sendChassisState s.proxy nowMs stampMs).1, lastStateMs := nowMs },
      (sendChassisState s.proxy nowMs stampMs).2)
  else (s, none)

/-! ## 5. The loop -/

/-- What the environment decides in one turn of the loop. -/
structure LoopInput where
  nowMs : UInt64
  frames : List (CanFrame × UInt64)
  datagrams : List Datagram
  canWriteOk : Bool
  stampMs : UInt64

/-- What a turn gives out: the 0x200 frame it tried to write, the one that reached the bus,
    and the state packet. -/
structure LoopOutput where
  attempted : Option CanFrame
  written : Option CanFrame
  statePacket : Option (List UInt8 × SockAddr)

/-- The proxy when a turn comes to its send branch: feedback drained, UDP drained. -/
def receive (config : ProxyConfig) (state : ProxyState) (input : LoopInput) : ProxyState :=
  receiveUdp config input.nowMs (drainFeedback state input.frames) input.datagrams

/-- One turn of the main loop. -/
def loopStep (config : ProxyConfig) (s : LoopState) (input : LoopInput) : LoopState × LoopOutput :=
  let s := { s with proxy := receive config s.proxy input }
  let sent := sendOrExpire config s input.nowMs
  let reported := reportState sent.1 input.nowMs input.stampMs
  (reported.1, ⟨sent.2, if input.canWriteOk then sent.2 else none, reported.2⟩)

/-- The main loop of the proxy. -/
def canProxy (config : ProxyConfig) : Machine LoopState LoopInput LoopOutput where
  start := ⟨ProxyState.initial, 0, 0⟩
  step := loopStep config

/-! ## 6. The command cell -/

/-- The fields of `ProxyState` that decide what is sent. -/
structure CommandCell where
  currentCommand : Slot → Int16
  lastCurrentCommandMs : UInt64
  currentTimeoutMs : UInt16

/-- The command cell of a proxy. -/
def ProxyState.cell (state : ProxyState) : CommandCell :=
  ⟨state.currentCommand, state.lastCurrentCommandMs, state.currentTimeoutMs⟩

/-- The cell with its currents cleared. -/
def CommandCell.clear (cell : CommandCell) : CommandCell :=
  { cell with currentCommand := fun _ => 0 }

/-- What an order does to the cell. -/
def CommandCell.obey (config : ProxyConfig) (nowMs : UInt64) (cell : CommandCell) :
    Option Order → CommandCell
  | none => cell
  | some .estop => cell.clear
  | some (.command payload) =>
    if config.allowCurrent then
      { currentCommand := Fin.cases (cell.currentCommand 0) fun k =>
          clampCurrent (payload.currentCommand k).toInt config.maxCurrent
        lastCurrentCommandMs := nowMs
        currentTimeoutMs := effectiveTimeout payload.timeoutMs }
    else cell.clear

/-- The test of the send branch reads the cell only. -/
def CommandCell.live (config : ProxyConfig) (cell : CommandCell) (nowMs : UInt64) : Bool :=
  config.allowCurrent && cell.lastCurrentCommandMs != 0 &&
    decide (nowMs - cell.lastCurrentCommandMs ≤ cell.currentTimeoutMs.toUInt64)

theorem drainFeedback_cell (state : ProxyState) (frames : List (CanFrame × UInt64)) :
    (drainFeedback state frames).cell = state.cell := by
  induction frames generalizing state with
  | nil => rfl
  | cons f frames ih =>
    refine (ih (drainFrame state f.1 f.2)).trans ?_
    unfold drainFrame
    cases receiveFeedback f.1 f.2 with
    | none => rfl
    | some fb => rfl

theorem reportState_cell (s : LoopState) (nowMs stampMs : UInt64) :
    (reportState s nowMs stampMs).1.proxy.cell = s.proxy.cell := by
  unfold reportState sendChassisState
  split
  · split <;> rfl
  · rfl

/-- The send branch leaves the cell, the expire branch clears its currents. -/
theorem sendOrExpire_cell (config : ProxyConfig) (s : LoopState) (nowMs : UInt64) :
    (sendOrExpire config s nowMs).1.proxy.cell =
      if s.proxy.cell.live config nowMs then s.proxy.cell else s.proxy.cell.clear := by
  have hlive : commandLive config s.proxy nowMs = s.proxy.cell.live config nowMs := rfl
  unfold sendOrExpire
  rw [hlive]
  split
  · split <;> rfl
  · rfl

/-- A frame is handed out when the command is live and the last frame is old enough, and its
    time is kept. -/
theorem sendOrExpire_frame (config : ProxyConfig) (s : LoopState) (nowMs : UInt64) :
    (sendOrExpire config s nowMs).2 =
      (if s.proxy.cell.live config nowMs = true ∧ currentPeriodMs ≤ nowMs - s.lastCurrentMs
        then some (currentFrame s.proxy.currentCommand) else none) ∧
    (sendOrExpire config s nowMs).1.lastCurrentMs =
      (if s.proxy.cell.live config nowMs = true ∧ currentPeriodMs ≤ nowMs - s.lastCurrentMs
        then nowMs else s.lastCurrentMs) := by
  have hlive : commandLive config s.proxy nowMs = s.proxy.cell.live config nowMs := rfl
  unfold sendOrExpire
  rw [hlive]
  by_cases h : s.proxy.cell.live config nowMs = true
  · simp only [h, if_true, true_and]
    split <;> exact ⟨rfl, rfl⟩
  · rw [if_neg h, if_neg fun hc => h hc.1, if_neg fun hc => h hc.1]
    exact ⟨rfl, rfl⟩

theorem reportState_lastCurrentMs (s : LoopState) (nowMs stampMs : UInt64) :
    (reportState s nowMs stampMs).1.lastCurrentMs = s.lastCurrentMs := by
  unfold reportState
  split <;> rfl

/-- The four words of the payload, at the places the loop of `receive_udp` reads them. -/
theorem command_words (packet : Buffer) (old : Slot → Int16) (maxCurrent : Int) :
    (forMotors (fun i _ => clampCurrent (readI16 packet (headerSize + 2 * (i.val - 1))).toInt
      maxCurrent) old : Slot → Int16) =
    Fin.cases (old 0) fun k =>
      clampCurrent ((readCurrentCommand packet).currentCommand k).toInt maxCurrent := by
  funext i
  refine Fin.cases rfl (fun k => ?_) i
  rw [forMotors_motor _ _ (Fin.succ_ne_zero k)]
  rfl

/-- **A datagram acts on the cell through the order it carries.** -/
theorem receiveDatagram_cell (config : ProxyConfig) (nowMs : UInt64) (state : ProxyState)
    (datagram : Datagram) :
    (receiveDatagram config nowMs state datagram).cell =
      state.cell.obey config nowMs (readOrder datagram) := by
  unfold receiveDatagram readOrder
  simp only
  cases parseHeader (recvfrom datagram).1 (recvfrom datagram).2 with
  | none => rfl
  | some header =>
    simp only
    by_cases hheart : header.type = rttBridgeMsgHeartbeat
    · rw [if_pos hheart, hheart]
      rfl
    rw [if_neg hheart]
    by_cases hestop : header.type = rttBridgeMsgEstop
    · rw [if_pos hestop, if_pos hestop]
      rfl
    rw [if_neg hestop, if_neg hestop]
    by_cases hcommand : header.type = rttBridgeMsgCurrentCommand
    · rw [if_pos hcommand]
      by_cases hlength : header.payloadLength = currentPayloadSize
      · have hboth : header.type = rttBridgeMsgCurrentCommand ∧
            header.payloadLength = currentPayloadSize := ⟨hcommand, hlength⟩
        rw [if_neg (not_not.mpr hlength), if_pos hboth]
        cases hallow : config.allowCurrent with
        | false =>
          simp only [CommandCell.obey, hallow]
          rfl
        | true =>
          simp only [CommandCell.obey, hallow, command_words]
          rfl
      · have hnot : ¬ (header.type = rttBridgeMsgCurrentCommand ∧
            header.payloadLength = currentPayloadSize) := fun h => hlength h.2
        rw [if_pos hlength, if_neg hnot]
        rfl
    · have hnot : ¬ (header.type = rttBridgeMsgCurrentCommand ∧
          header.payloadLength = currentPayloadSize) := fun h => hcommand h.1
      rw [if_neg hcommand, if_neg hnot]
      rfl

end Rk3588Chassis.Proxy
