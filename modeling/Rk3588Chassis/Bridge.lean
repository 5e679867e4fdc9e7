/-
  File:      Rk3588Chassis/Bridge.lean
  Subject:   The bridge protocol on the wire (`include/rtt_bridge_protocol.h` and the codec at the
             top of `tools/can_proxy.c`).

  * `parseHeader`, `writeHeader` -- the 20 header bytes, field by field, big-endian;
  * `Datagram`, `recvfrom` -- what arrives on the UDP socket and what of it the proxy sees;
  * `Order`, `readOrder` -- the two kinds of packet that order motion: an emergency stop, and a
    current command with a payload of the right length.
-/
import Rk3588Chassis.Library.Bytes
import Rk3588Chassis.Types

namespace Rk3588Chassis

open Bytes

/-! ## 1. Constants -/

/-- `RTT_BRIDGE_MAGIC`. -/
def rttBridgeMagic : UInt32 := 0x524B4348

/-- `RTT_BRIDGE_VERSION`. -/
def rttBridgeVersion : UInt16 := 1

/-- `RTT_BRIDGE_MSG_CHASSIS_STATE`. -/
def rttBridgeMsgChassisState : UInt16 := 2

/-- `RTT_BRIDGE_MSG_HEARTBEAT`. -/
def rttBridgeMsgHeartbeat : UInt16 := 3

/-- `RTT_BRIDGE_MSG_ESTOP`. -/
def rttBridgeMsgEstop : UInt16 := 4

/-- `RTT_BRIDGE_MSG_CURRENT_COMMAND`. -/
def rttBridgeMsgCurrentCommand : UInt16 := 5

/-- `HEADER_SIZE`. -/
def headerSize : Nat := 20

/-- `STATE_PAYLOAD_SIZE`. -/
def statePayloadSize : Nat := 28

/-- `CURRENT_PAYLOAD_SIZE`. -/
def currentPayloadSize : UInt16 := 10

/-- `UDP_BUFFER_SIZE`. -/
def udpBufferSize : Nat := 128

/-! ## 2. The header -/

/-- `BridgeHeaderDecoded`. -/
structure BridgeHeaderDecoded where
  magic : UInt32
  version : UInt16
  type : UInt16
  sequence : UInt32
  monotonicMs : UInt32
  payloadLength : UInt16
  flags : UInt16
  deriving DecidableEq

/-- `parse_header`: `none` where the C function returns 0. -/
def parseHeader (buffer : Buffer) (length : Nat) : Option BridgeHeaderDecoded :=
  if length < headerSize then none
  else
    let header : BridgeHeaderDecoded :=
      { magic := readU32 buffer 0
        version := readU16 buffer 4
        type := readU16 buffer 6
        sequence := readU32 buffer 8
        monotonicMs := readU32 buffer 12
        payloadLength := readU16 buffer 16
        flags := readU16 buffer 18 }
    if header.magic ≠ rttBridgeMagic ∨ header.version ≠ rttBridgeVersion then none
    else if length = headerSize + header.payloadLength.toNat then some header else none

/-- `write_header`, on the clock reading it takes itself. -/
def writeHeader (buffer : Buffer) (type : UInt16) (sequence : UInt32) (payloadLength flags : UInt16)
    (monotonicMs : UInt64) : Buffer :=
  let buffer := writeU32 buffer 0 rttBridgeMagic
  let buffer := writeU16 buffer 4 rttBridgeVersion
  let buffer := writeU16 buffer 6 type
  let buffer := writeU32 buffer 8 sequence
  let buffer := writeU32 buffer 12 (monotonicMs &&& 0xFFFFFFFF).toUInt32
  let buffer := writeU16 buffer 16 payloadLength
  writeU16 buffer 18 flags

/-! ## 3. Datagrams -/

/-- `struct sockaddr_in`: address and port. -/
structure SockAddr where
  addr : UInt32
  port : UInt16
  deriving DecidableEq

/-- A datagram as it was sent to the proxy, and by whom. -/
structure Datagram where
  bytes : List UInt8
  peer : SockAddr

/-- `recvfrom` with flags 0: at most `UDP_BUFFER_SIZE` bytes are copied, and their number is
    returned; the rest of the datagram is gone. -/
def recvfrom (datagram : Datagram) : Buffer × Nat :=
  let copied := datagram.bytes.take udpBufferSize
  (Buffer.ofList copied, copied.length)

/-! ## 4. Orders -/

/-- `RttBridgeCurrentCommand`, the payload of a current command. -/
structure CurrentCommand where
  currentCommand : Fin 4 → Int16
  timeoutMs : UInt16

/-- The payload at its place behind the header. -/
def readCurrentCommand (buffer : Buffer) : CurrentCommand where
  currentCommand k := readI16 buffer (headerSize + 2 * k)
  timeoutMs := readU16 buffer (headerSize + 8)

/-- What a packet can say about motion. -/
inductive Order where
  | estop
  | command (payload : CurrentCommand)

/-- The order in a datagram: a valid emergency stop, or a valid current command whose payload
    has the right length. Everything else orders nothing. -/
def readOrder (datagram : Datagram) : Option Order :=
  let (packet, length) := recvfrom datagram
  match parseHeader packet length with
  | none => none
  | some header =>
    if header.type = rttBridgeMsgEstop then some .estop
    else if header.type = rttBridgeMsgCurrentCommand ∧ header.payloadLength = currentPayloadSize
    then some (.command (readCurrentCommand packet))
    else none

/-- A current command with number 1: 500 for each motor, default timeout. -/
def sampleCommand : Datagram where
  bytes := [0x52, 0x4B, 0x43, 0x48, 0, 1, 0, 5, 0, 0, 0, 1, 0, 0, 0, 0, 0, 10, 0, 0,
    0x01, 0xF4, 0x01, 0xF4, 0x01, 0xF4, 0x01, 0xF4, 0, 0]
  peer := ⟨0x0A0A0A1E, 21003⟩

/-- An emergency stop with number 2, from the same peer. -/
def sampleEstop : Datagram where
  bytes := [0x52, 0x4B, 0x43, 0x48, 0, 1, 0, 4, 0, 0, 0, 2, 0, 0, 0, 0, 0, 0, 0, 0]
  peer := ⟨0x0A0A0A1E, 21003⟩

example : readOrder sampleEstop = some .estop := rfl

end Rk3588Chassis
