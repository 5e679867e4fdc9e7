/-
  File:      Rk3588Chassis/RttBridge.lean
  Subject:   The other ends of the bridge: RT-Thread (`rtthread_port/rtt_chassis_bridge.c`) and the
             echo probe (`tools/test_rtt_udp_echo.py`).

  The RT-Thread file has its own copies of the constants, of `write_header` and of a decoder; they
  stand here under their own names, in the namespace `Rtt`. Its byte helpers (`read_u16` ..
  `write_u32`) are those of `can_proxy.c` word for word (`Bytes`). The probe builds its header with
  `struct.pack`, over unbounded integers (`structPack`).
-/
import Rk3588Chassis.Library.Bytes

namespace Rk3588Chassis

open Bytes

namespace Rtt

/-! ## 1. RT-Thread: constants -/

/-- `RTT_BRIDGE_MAGIC`. -/
def rttBridgeMagic : UInt32 := 0x524B4348

/-- `RTT_BRIDGE_VERSION`. -/
def rttBridgeVersion : UInt16 := 1

/-- `RTT_BRIDGE_MSG_CHASSIS_STATE`. -/
def rttBridgeMsgChassisState : UInt16 := 2

/-- `RTT_BRIDGE_MSG_HEARTBEAT`. -/
def rttBridgeMsgHeartbeat : UInt16 := 3

/-- `RTT_BRIDGE_MSG_CURRENT_COMMAND`. -/
def rttBridgeMsgCurrentCommand : UInt16 := 5

/-- `RTT_BRIDGE_HEADER_SIZE`. -/
def rttBridgeHeaderSize : Nat := 20

/-- `RTT_BRIDGE_STATE_PAYLOAD_SIZE`. -/
def rttBridgeStatePayloadSize : Nat := 28

/-- `RTT_BRIDGE_CURRENT_PAYLOAD_SIZE`. -/
def rttBridgeCurrentPayloadSize : Nat := 10

/-! ## 2. RT-Thread: sending -/

/-- `monotonic_ms32`, on the reading of `rt_tick_get_millisecond`. -/
def monotonicMs32 (tickMs : UInt64) : UInt32 := (tickMs &&& 0xFFFFFFFF).toUInt32

/-- `write_header`. -/
def writeHeader (buffer : Buffer) (type : UInt16) (sequence : UInt32) (payloadLength flags : UInt16)
    (tickMs : UInt64) : Buffer :=
  let buffer := writeU32 buffer 0 rttBridgeMagic
  let buffer := writeU16 buffer 4 rttBridgeVersion
  let buffer := writeU16 buffer 6 type
  let buffer := writeU32 buffer 8 sequence
  let buffer := writeU32 buffer 12 (monotonicMs32 tickMs)
  let buffer := writeU16 buffer 16 payloadLength
  writeU16 buffer 18 flags

/-- `send_heartbeat`: the new `tx_sequence` and the packet, built in the memory `packet`. -/
def sendHeartbeat (packet : Buffer) (txSequence : UInt32) (tickMs : UInt64) :
    UInt32 × List UInt8 :=
  let txSequence := txSequence + 1
  (txSequence, (List.range rttBridgeHeaderSize).map
    (writeHeader packet rttBridgeMsgHeartbeat txSequence 0 0 tickMs))

/-- The current command as RT-Thread lays it out: the header, four signed currents, the
    timeout. -/
def layOutCurrentCommand (packet : Buffer) (sequence : UInt32) (tickMs : UInt64)
    (currents : Fin 4 → Int16) (timeoutMs : UInt16) : List UInt8 :=
  let packet := writeHeader packet rttBridgeMsgCurrentCommand sequence
    (UInt16.ofNat rttBridgeCurrentPayloadSize) 0 tickMs
  let packet := (List.finRange 4).foldl (fun p k =>
    writeI16 p (rttBridgeHeaderSize + 2 * k.val) (currents k)) packet
  let packet := writeU16 packet (rttBridgeHeaderSize + 8) timeoutMs
  (List.range (rttBridgeHeaderSize + rttBridgeCurrentPayloadSize)).map packet

/-- `send_zero_current_command`: the one current command RT-Thread sends. -/
def sendZeroCurrentCommand (packet : Buffer) (txSequence : UInt32) (tickMs : UInt64) :
    UInt32 × List UInt8 :=
  let txSequence := txSequence + 1
  (txSequence, layOutCurrentCommand packet txSequence tickMs (fun _ => 0) 100)

/-! ## 3. RT-Thread: receiving -/

/-- `RttChassisState`. -/
structure RttChassisState where
  targetRpm : Fin 4 → Int16
  feedbackRpm : Fin 4 → Int16
  currentCommand : Fin 4 → Int16
  onlineMask : UInt16
  faultMask : UInt16

/-- The four words of one group of the payload. -/
def readRow (packet : Buffer) (offset : Nat) (k : Fin 4) : Int16 := readI16 packet (offset + 2 * k)

/-- `parse_chassis_state`: what it returns, and what it leaves in `state`. -/
def parseChassisState (packet : Buffer) (length : Nat) (state : RttChassisState) :
    Bool × RttChassisState :=
  if length ≠ rttBridgeHeaderSize + rttBridgeStatePayloadSize then (false, state)
  else if readU32 packet 0 ≠ rttBridgeMagic ∨ readU16 packet 4 ≠ rttBridgeVersion ∨
      readU16 packet 6 ≠ rttBridgeMsgChassisState ∨
      readU16 packet 16 ≠ UInt16.ofNat rttBridgeStatePayloadSize then (false, state)
  else
    (true,
      { targetRpm := readRow packet rttBridgeHeaderSize
        feedbackRpm := readRow packet (rttBridgeHeaderSize + 8)
        currentCommand := readRow packet (rttBridgeHeaderSize + 16)
        onlineMask := readU16 packet (rttBridgeHeaderSize + 24)
        faultMask := readU16 packet (rttBridgeHeaderSize + 26) })

end Rtt

namespace UdpEcho

/-! ## 4. The echo probe -/

/-- The format characters of `struct` that the probe uses: `I` and `H`. -/
inductive FormatChar where
  | I
  | H
  deriving DecidableEq

/-- The standard size of a format character. -/
def FormatChar.size : FormatChar → Nat
  | .I => 4
  | .H => 2

/-- An unsigned integer in `n` bytes, the most significant first. -/
def bigEndian (value : Nat) : Nat → List UInt8
  | 0 => []
  | n + 1 => UInt8.ofNat (value / 256 ^ n) :: bigEndian value n

/-- One argument of `struct.pack`; `none` is `struct.error`, an integer out of range. -/
def FormatChar.pack (char : FormatChar) (value : Int) : Option (List UInt8) :=
  if 0 ≤ value ∧ value < 256 ^ char.size then some (bigEndian value.toNat char.size) else none

/-- `struct.pack` for a format in network order (`!`): no padding, one argument for every
    character. -/
def structPack : List FormatChar → List Int → Option (List UInt8)
  | [], [] => some []
  | char :: format, value :: values =>
    (char.pack value).bind fun bytes => (structPack format values).map (bytes ++ ·)
  | _, _ => none

/-- `MAGIC`. -/
def magic : Int := 0x524B4348

/-- `VERSION`. -/
def version : Int := 1

/-- `MSG_HEARTBEAT`. -/
def msgHeartbeat : Int := 3

/-- `HEADER_FORMAT`, `"!IHHIIHH"`. -/
def headerFormat : List FormatChar := [.I, .H, .H, .I, .I, .H, .H]

/-- `build_heartbeat`; `clockMs` is `int(time.monotonic() * 1000)`. -/
def buildHeartbeat (sequence : Int) (clockMs : Nat) : Option (List UInt8) :=
  structPack headerFormat
    [magic, version, msgHeartbeat, sequence, Int.ofNat (clockMs &&& 0xFFFFFFFF), 0, 0]

end UdpEcho

end Rk3588Chassis
