/-
  File:      Rk3588Chassis/BridgeCodec.lean
  Subject:   One header format, three encoders.

  * `parse_written` -- `parse_header` reads the fields that `write_header` wrote;
  * `written_parse` -- and `write_header` writes the bytes that `parse_header` read;
  * `buildHeartbeat_eq` -- `struct.pack` of the probe gives the same bytes as the shifts and
    masks of the C code;
  * `command_read_back` -- a current command of RT-Thread is read word by word.
-/
import Rk3588Chassis.Proxy
import Rk3588Chassis.RttBridge

namespace Rk3588Chassis

open Bytes

/-! ## 1. The header and its bytes -/

/-- The bytes of the header at the front of a packet. -/
def headerBytes (packet : Buffer) : List UInt8 := (List.range headerSize).map packet

/-- `write_header` on decoded fields; the constants come from the header file. -/
def encodeHeader (packet : Buffer) (header : BridgeHeaderDecoded) : Buffer :=
  writeHeader packet header.type header.sequence header.payloadLength header.flags
    header.monotonicMs.toUInt64

/-- What `parse_header` returns for a header written with these arguments. -/
def decodedHeader (type : UInt16) (sequence : UInt32) (payloadLength flags : UInt16)
    (monotonicMs : UInt64) : BridgeHeaderDecoded where
  magic := rttBridgeMagic
  version := rttBridgeVersion
  type := type
  sequence := sequence
  monotonicMs := (monotonicMs &&& 0xFFFFFFFF).toUInt32
  payloadLength := payloadLength
  flags := flags

/-- The seven reads of `parse_header`. -/
def readHeader (buffer : Buffer) : BridgeHeaderDecoded where
  magic := readU32 buffer 0
  version := readU16 buffer 4
  type := readU16 buffer 6
  sequence := readU32 buffer 8
  monotonicMs := readU32 buffer 12
  payloadLength := readU16 buffer 16
  flags := readU16 buffer 18

/-- **`parse_header`, said once**: what is accepted, and as what. -/
theorem parseHeader_eq_some {buffer : Buffer} {length : Nat} {header : BridgeHeaderDecoded} :
    parseHeader buffer length = some header ↔
      header = readHeader buffer ∧ header.magic = rttBridgeMagic ∧
        header.version = rttBridgeVersion ∧
        length = headerSize + header.payloadLength.toNat := by
  have hparse : parseHeader buffer length =
      if length < headerSize then none
      else if (readHeader buffer).magic ≠ rttBridgeMagic ∨
          (readHeader buffer).version ≠ rttBridgeVersion then none
      else if length = headerSize + (readHeader buffer).payloadLength.toNat then
        some (readHeader buffer) else none := rfl
  rw [hparse]
  constructor
  · intro h
    split_ifs at h with hshort hconst hlen
    cases h
    exact ⟨rfl, not_not.mp fun hm => hconst (Or.inl hm), not_not.mp fun hv => hconst (Or.inr hv),
      hlen⟩
  · rintro ⟨rfl, hmagic, hversion, hlen⟩
    have hshort : ¬ length < headerSize := by omega
    have hconst : ¬ ((readHeader buffer).magic ≠ rttBridgeMagic ∨
        (readHeader buffer).version ≠ rttBridgeVersion) :=
      not_or.mpr ⟨not_not.mpr hmagic, not_not.mpr hversion⟩
    rw [if_neg hshort, if_neg hconst, if_pos hlen]

/-- The reads see what was written. -/
theorem readHeader_written (packet : Buffer) (type : UInt16) (sequence : UInt32)
    (payloadLength flags : UInt16) (monotonicMs : UInt64) :
    readHeader (writeHeader packet type sequence payloadLength flags monotonicMs) =
      decodedHeader type sequence payloadLength flags monotonicMs := by
  simp [readHeader, writeHeader, decodedHeader]

/-- The reads see the first twenty bytes only. -/
theorem readHeader_agree {b b' : Buffer} (h : AgreeBelow headerSize b b') :
    readHeader b' = readHeader b := by
  unfold readHeader
  rw [h.readU32 (by decide), h.readU16 (by decide), h.readU16 (by decide), h.readU32 (by decide),
    h.readU32 (by decide), h.readU16 (by decide), h.readU16 (by decide)]

/-- **A written header, followed by a payload of the length it names, is accepted, and the
    fields come back.** -/
theorem parse_written (packet : Buffer) (type : UInt16) (sequence : UInt32)
    (payloadLength flags : UInt16) (monotonicMs : UInt64) {payload : List UInt8}
    (hpayload : payload.length = payloadLength.toNat) :
    let bytes := headerBytes (writeHeader packet type sequence payloadLength flags monotonicMs) ++
      payload
    parseHeader (Buffer.ofList bytes) bytes.length =
      some (decodedHeader type sequence payloadLength flags monotonicMs) := by
  intro bytes
  have hread : readHeader (Buffer.ofList bytes) =
      decodedHeader type sequence payloadLength flags monotonicMs :=
    (readHeader_agree (agreeBelow_ofList headerSize _ payload)).trans (readHeader_written ..)
  have hlen : bytes.length = headerSize + payloadLength.toNat := by
    rw [List.length_append, headerBytes, List.length_map, List.length_range, hpayload]
  exact parseHeader_eq_some.mpr ⟨hread.symm, rfl, rfl, hlen⟩

/-- The stamp is the clock reading modulo `2 ^ 32`. -/
theorem stamp_mod (clockMs : UInt64) :
    (clockMs &&& 0xFFFFFFFF).toUInt32.toNat = clockMs.toNat % 2 ^ 32 := by
  have hmask : (0xFFFFFFFF : UInt64).toNat = 2 ^ 32 - 1 := rfl
  rw [UInt64.toNat_toUInt32, UInt64.toNat_and, hmask, Nat.and_two_pow_sub_one_eq_mod]
  omega

/-- The low half of a clock reading that is itself 32 bits wide. -/
theorem stamp_toUInt64 (stamp : UInt32) : (stamp.toUInt64 &&& 0xFFFFFFFF).toUInt32 = stamp := by
  apply UInt32.toNat_inj.mp
  rw [stamp_mod, UInt32.toNat_toUInt64]
  exact Nat.mod_eq_of_lt stamp.toNat_lt

/-- **Writing what was read gives the bytes back.** -/
theorem encode_agree (packet : Buffer) {buffer : Buffer} (hmagic : readU32 buffer 0 = rttBridgeMagic)
    (hversion : readU16 buffer 4 = rttBridgeVersion) :
    AgreeBelow headerSize buffer (encodeHeader packet (readHeader buffer)) := by
  have hstart : AgreeBelow 0 buffer packet := fun _ hi => absurd hi (Nat.not_lt_zero _)
  have hcopy := hstart.copyU32.copyU16.copyU16.copyU32.copyU32.copyU16.copyU16
  unfold encodeHeader writeHeader
  rw [stamp_toUInt64, ← hmagic, ← hversion]
  exact hcopy

/-- The header of an accepted packet, encoded again, is its first twenty bytes. -/
theorem written_parse (packet : Buffer) {bytes : List UInt8} {header : BridgeHeaderDecoded}
    (h : parseHeader (Buffer.ofList bytes) bytes.length = some header) :
    headerBytes (encodeHeader packet header) = bytes.take headerSize := by
  obtain ⟨rfl, hmagic, hversion, hlen⟩ := parseHeader_eq_some.mp h
  exact (encode_agree packet hmagic hversion).take (by omega)

/-! ## 2. The probe -/

section Probe

open UdpEcho

/-- A number cut to a byte, where the byte is known as a number. -/
theorem byte_ofNat {b : UInt8} {n : Nat} (h : b.toNat = n % 256) : UInt8.ofNat n = b := by
  apply UInt8.toNat_inj.mp
  rw [UInt8.toNat_ofNat', h]

/-- `I` packs a word as `write_u32` writes it. -/
theorem pack_word (v : UInt32) : FormatChar.I.pack v.toNat = some
    [(v >>> 24).toUInt8, ((v >>> 16) &&& 0xFF).toUInt8, ((v >>> 8) &&& 0xFF).toUInt8,
      (v &&& 0xFF).toUInt8] := by
  have hv := v.toNat_lt
  have hrange : (0 : Int) ≤ v.toNat ∧ (v.toNat : Int) < 256 ^ FormatChar.I.size := by
    refine ⟨Int.natCast_nonneg _, ?_⟩
    rw [FormatChar.size]
    omega
  have h3 : UInt8.ofNat (v.toNat / 256 ^ 3) = _ := byte_ofNat (topU32_toNat v)
  have h2 : UInt8.ofNat (v.toNat / 256 ^ 2) = _ := byte_ofNat (middleU32_toNat v).1
  have h1 : UInt8.ofNat (v.toNat / 256 ^ 1) = _ := byte_ofNat (middleU32_toNat v).2
  have h0 : UInt8.ofNat (v.toNat / 256 ^ 0) = (v &&& 0xFF).toUInt8 := by
    rw [pow_zero, Nat.div_one]
    exact byte_ofNat (maskU32_toNat v)
  rw [FormatChar.pack, if_pos hrange, Int.toNat_natCast, ← h3, ← h2, ← h1, ← h0]
  rfl

/-- `H` packs a word as `write_u16` writes it. -/
theorem pack_half (v : UInt16) : FormatChar.H.pack v.toNat = some [highU16 v, lowU16 v] := by
  have hv := v.toNat_lt
  have hrange : (0 : Int) ≤ v.toNat ∧ (v.toNat : Int) < 256 ^ FormatChar.H.size := by
    refine ⟨Int.natCast_nonneg _, ?_⟩
    rw [FormatChar.size]
    omega
  have h1 : UInt8.ofNat (v.toNat / 256 ^ 1) = highU16 v := byte_ofNat (highU16_toNat v)
  have h0 : UInt8.ofNat (v.toNat / 256 ^ 0) = lowU16 v := by
    rw [pow_zero, Nat.div_one]
    exact byte_ofNat (lowU16_toNat v)
  rw [FormatChar.pack, if_pos hrange, Int.toNat_natCast, ← h1, ← h0]
  rfl

/-- The low half of the clock, in Python and in C. -/
theorem stamp_toNat (clockMs : UInt64) :
    clockMs.toNat &&& 0xFFFFFFFF = (clockMs &&& 0xFFFFFFFF).toUInt32.toNat := by
  rw [stamp_mod]
  exact Nat.and_two_pow_sub_one_eq_mod clockMs.toNat 32

/-- **The heartbeat of the probe, byte for byte that of the C code.** -/
theorem buildHeartbeat_eq (packet : Buffer) (sequence : UInt32) (clockMs : UInt64) :
    buildHeartbeat sequence.toNat clockMs.toNat =
      some (headerBytes (writeHeader packet rttBridgeMsgHeartbeat sequence 0 0 clockMs)) := by
  -- every argument is a word of the C code, as an integer
  have hargs : [magic, version, msgHeartbeat, (sequence.toNat : Int),
      Int.ofNat (clockMs.toNat &&& 0xFFFFFFFF), 0, 0] =
      [(rttBridgeMagic.toNat : Int), (rttBridgeVersion.toNat : Int),
        (rttBridgeMsgHeartbeat.toNat : Int), (sequence.toNat : Int),
        ((clockMs &&& 0xFFFFFFFF).toUInt32.toNat : Int), ((0 : UInt16).toNat : Int),
        ((0 : UInt16).toNat : Int)] := by
    rw [stamp_toNat]
    rfl
  unfold buildHeartbeat headerFormat
  rw [hargs]
  simp only [structPack, pack_word, pack_half, Option.bind_some, Option.map_some]
  rfl

end Probe

/-! ## 3. Whole packets -/

/-- A packet that fits the proxy's buffer is seen as it was built. -/
theorem recvfrom_packet {n : Nat} (hn : n ≤ udpBufferSize) (packet : Buffer) (peer : SockAddr) :
    recvfrom ⟨(List.range n).map packet, peer⟩ =
      (Buffer.ofList ((List.range n).map packet), n) := by
  have hlen : ((List.range n).map packet).length = n := by
    rw [List.length_map, List.length_range]
  have htake : ((List.range n).map packet).take udpBufferSize = (List.range n).map packet :=
    List.take_of_length_le (hlen.trans_le hn)
  have hrecv : recvfrom ⟨(List.range n).map packet, peer⟩ =
      (Buffer.ofList (((List.range n).map packet).take udpBufferSize),
        (((List.range n).map packet).take udpBufferSize).length) := rfl
  rw [hrecv, htake, hlen]

theorem agreeBelow_packet (n : Nat) (packet : Buffer) :
    AgreeBelow n packet (Buffer.ofList ((List.range n).map packet)) := by
  have h := agreeBelow_ofList n packet []
  rwa [List.append_nil] at h

section Command

open Rtt

/-- The memory of a current command, header and currents written. -/
def commandWords (packet : Buffer) (sequence : UInt32) (tickMs : UInt64)
    (currents : Fin 4 → Int16) : Buffer :=
  writeWords (Rtt.writeHeader packet Rtt.rttBridgeMsgCurrentCommand sequence
    (UInt16.ofNat rttBridgeCurrentPayloadSize) 0 tickMs) rttBridgeHeaderSize (List.ofFn currents)

/-- And when it is sent. -/
def commandPacket (packet : Buffer) (sequence : UInt32) (tickMs : UInt64)
    (currents : Fin 4 → Int16) (timeoutMs : UInt16) : Buffer :=
  writeU16 (commandWords packet sequence tickMs currents) (rttBridgeHeaderSize + 8) timeoutMs

theorem layOut_eq (packet : Buffer) (sequence : UInt32) (tickMs : UInt64)
    (currents : Fin 4 → Int16) (timeoutMs : UInt16) :
    layOutCurrentCommand packet sequence tickMs currents timeoutMs =
      (List.range 30).map (commandPacket packet sequence tickMs currents timeoutMs) := rfl

/-- **A current command of RT-Thread, as the proxy reads it.** -/
theorem command_packet_read (packet : Buffer) (sequence : UInt32) (tickMs : UInt64)
    (currents : Fin 4 → Int16) (timeoutMs : UInt16) (peer : SockAddr) :
    let datagram : Datagram := ⟨layOutCurrentCommand packet sequence tickMs currents timeoutMs, peer⟩
    (recvfrom datagram).2 = 30 ∧
      readHeader (recvfrom datagram).1 =
        decodedHeader rttBridgeMsgCurrentCommand sequence currentPayloadSize 0 tickMs ∧
      readCurrentCommand (recvfrom datagram).1 = ⟨currents, timeoutMs⟩ := by
  intro datagram
  have hrecv := recvfrom_packet (n := 30) (by decide)
    (commandPacket packet sequence tickMs currents timeoutMs) peer
  have hagree := agreeBelow_packet 30 (commandPacket packet sequence tickMs currents timeoutMs)
  rw [← layOut_eq] at hrecv hagree
  rw [hrecv]
  refine ⟨rfl, ?_, ?_⟩
  · -- the payload stands behind the header
    have hheader : AgreeBelow headerSize
        (Rtt.writeHeader packet Rtt.rttBridgeMsgCurrentCommand sequence
          (UInt16.ofNat rttBridgeCurrentPayloadSize) 0 tickMs)
        (commandPacket packet sequence tickMs currents timeoutMs) :=
      ((AgreeBelow.refl _ _).writeWords (by decide) _).writeU16 (by decide) _
    have hfirst : AgreeBelow headerSize (commandPacket packet sequence tickMs currents timeoutMs)
        (Buffer.ofList (layOutCurrentCommand packet sequence tickMs currents timeoutMs)) :=
      (AgreeBelow.refl _ _).trans hagree (by decide)
    rw [readHeader_agree hfirst, readHeader_agree hheader]
    exact readHeader_written ..
  · have htimeout : readU16 (Buffer.ofList
        (layOutCurrentCommand packet sequence tickMs currents timeoutMs)) (headerSize + 8) =
          timeoutMs :=
      (hagree.readU16 (by decide)).trans (readU16_writeU16 ..)
    have hwords : ∀ k : Fin 4, readI16 (Buffer.ofList
        (layOutCurrentCommand packet sequence tickMs currents timeoutMs)) (headerSize + 2 * k) =
          currents k := by
      intro k
      have hfour := k.isLt
      have hend : headerSize + 2 * k.val + 2 ≤ rttBridgeHeaderSize + 8 := by
        unfold headerSize rttBridgeHeaderSize
        omega
      have hrow := ((AgreeBelow.refl (rttBridgeHeaderSize + 8)
        (commandWords packet sequence tickMs currents)).writeU16 (Nat.le_refl _)
          timeoutMs).readI16 hend
      exact (hagree.readI16 (Nat.le_trans hend (by decide))).trans
        (hrow.trans (readI16_ofFn currents _ _ k))
    exact congrArg₂ CurrentCommand.mk (funext hwords) htimeout

/-- It is an order. -/
theorem command_order (packet : Buffer) (sequence : UInt32) (tickMs : UInt64)
    (currents : Fin 4 → Int16) (timeoutMs : UInt16) (peer : SockAddr) :
    readOrder ⟨layOutCurrentCommand packet sequence tickMs currents timeoutMs, peer⟩ =
      some (.command ⟨currents, timeoutMs⟩) := by
  obtain ⟨hlen, hheader, hpayload⟩ :=
    command_packet_read packet sequence tickMs currents timeoutMs peer
  have hparse : parseHeader _ _ =
      some (decodedHeader rttBridgeMsgCurrentCommand sequence currentPayloadSize 0 tickMs) :=
    parseHeader_eq_some.mpr ⟨hheader.symm, rfl, rfl, hlen⟩
  rw [← hpayload]
  unfold readOrder
  simp only
  rw [hparse]
  rfl

/-- **`receive_udp` reads a current command of RT-Thread back**: the currents go through the
    clamp, the timeout through its default. -/
theorem command_read_back (config : Proxy.ProxyConfig) (hallow : config.allowCurrent = true)
    (nowMs : UInt64) (state : Proxy.ProxyState) (packet : Buffer) (sequence : UInt32)
    (tickMs : UInt64) (currents : Fin 4 → Int16) (timeoutMs : UInt16) (peer : SockAddr) :
    let datagram : Datagram := ⟨layOutCurrentCommand packet sequence tickMs currents timeoutMs, peer⟩
    let after := Proxy.receiveUdp config nowMs state [datagram]
    (∀ k : Fin 4, after.currentCommand k.succ =
        Proxy.clampCurrent (currents k).toInt config.maxCurrent) ∧
      after.currentTimeoutMs = Proxy.effectiveTimeout timeoutMs ∧
      after.lastCurrentCommandMs = nowMs := by
  intro datagram after
  have hcell : after.cell = state.cell.obey config nowMs (readOrder datagram) :=
    Proxy.receiveDatagram_cell config nowMs state datagram
  rw [command_order, Proxy.CommandCell.obey, if_pos hallow] at hcell
  refine ⟨fun k => ?_, congrArg Proxy.CommandCell.currentTimeoutMs hcell,
    congrArg Proxy.CommandCell.lastCurrentCommandMs hcell⟩
  exact congrFun (congrArg Proxy.CommandCell.currentCommand hcell) k.succ

end Command

/-! ## 4. The format -/

/-- The two C encoders, in whatever memory they build the packet. -/
theorem rtt_header_eq (packet packet' : Buffer) (type : UInt16) (sequence : UInt32)
    (payloadLength flags : UInt16) (clockMs : UInt64) :
    headerBytes (Rtt.writeHeader packet' type sequence payloadLength flags clockMs) =
      headerBytes (writeHeader packet type sequence payloadLength flags clockMs) := rfl

/-- **One header format.** The encoders agree on all twenty bytes; the decoder returns the fields
    encoded and they encode to the bytes decoded, so the bytes are determined by the fields; and
    a current command of RT-Thread is read word by word. -/
theorem one_header_format :
    (∀ packet packet' type sequence payloadLength flags clockMs,
      headerBytes (Rtt.writeHeader packet' type sequence payloadLength flags clockMs) =
        headerBytes (writeHeader packet type sequence payloadLength flags clockMs)) ∧
    (∀ packet (sequence : UInt32) (clockMs : UInt64),
      UdpEcho.buildHeartbeat sequence.toNat clockMs.toNat =
        some (headerBytes (writeHeader packet rttBridgeMsgHeartbeat sequence 0 0 clockMs))) ∧
    (∀ packet type sequence (payloadLength flags : UInt16) clockMs (payload : List UInt8),
      payload.length = payloadLength.toNat →
      let bytes := headerBytes (writeHeader packet type sequence payloadLength flags clockMs) ++
        payload
      parseHeader (Buffer.ofList bytes) bytes.length =
        some (decodedHeader type sequence payloadLength flags clockMs)) ∧
    (∀ packet (bytes : List UInt8) header,
      parseHeader (Buffer.ofList bytes) bytes.length = some header →
      headerBytes (encodeHeader packet header) = bytes.take headerSize) ∧
    (∀ (bytes bytes' : List UInt8) header,
      parseHeader (Buffer.ofList bytes) bytes.length = some header →
      parseHeader (Buffer.ofList bytes') bytes'.length = some header →
      bytes.take headerSize = bytes'.take headerSize) ∧
    (∀ packet sequence tickMs (currents : Fin 4 → Int16) timeoutMs peer,
      let datagram : Datagram :=
        ⟨Rtt.layOutCurrentCommand packet sequence tickMs currents timeoutMs, peer⟩
      readCurrentCommand (recvfrom datagram).1 = ⟨currents, timeoutMs⟩ ∧
      ∀ (config : Proxy.ProxyConfig) nowMs state, config.allowCurrent = true →
        let after := Proxy.receiveUdp config nowMs state [datagram]
        (∀ k : Fin 4, after.currentCommand k.succ =
            Proxy.clampCurrent (currents k).toInt config.maxCurrent) ∧
          after.currentTimeoutMs = Proxy.effectiveTimeout timeoutMs ∧
          after.lastCurrentCommandMs = nowMs) := by
  refine ⟨rtt_header_eq, buildHeartbeat_eq, ?_, ?_, ?_, ?_⟩
  · intro packet type sequence payloadLength flags clockMs payload hpayload
    exact parse_written packet type sequence payloadLength flags clockMs hpayload
  · intro packet bytes header h
    exact written_parse packet h
  · intro bytes bytes' header h h'
    have hbytes := written_parse (fun _ => 0) h
    have hbytes' := written_parse (fun _ => 0) h'
    exact hbytes.symm.trans hbytes'
  · intro packet sequence tickMs currents timeoutMs peer
    have hread := command_packet_read packet sequence tickMs currents timeoutMs peer
    refine ⟨hread.2.2, fun config nowMs state hallow => ?_⟩
    exact command_read_back config hallow nowMs state packet sequence tickMs currents timeoutMs peer

/-- RT-Thread's heartbeat is the probe's, byte for byte. -/
theorem heartbeat_same (packet : Buffer) (txSequence : UInt32) (tickMs : UInt64) :
    UdpEcho.buildHeartbeat (txSequence + 1).toNat tickMs.toNat =
      some (Rtt.sendHeartbeat packet txSequence tickMs).2 :=
  buildHeartbeat_eq packet (txSequence + 1) tickMs

/-- The command RT-Thread really sends stops the chassis: it orders four zero currents. -/
theorem zero_command_order (packet : Buffer) (txSequence : UInt32) (tickMs : UInt64)
    (peer : SockAddr) :
    readOrder ⟨(Rtt.sendZeroCurrentCommand packet txSequence tickMs).2, peer⟩ =
      some (.command ⟨fun _ => 0, 100⟩) :=
  command_order packet (txSequence + 1) tickMs (fun _ => 0) 100 peer

end Rk3588Chassis
