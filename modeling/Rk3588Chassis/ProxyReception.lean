/-
  File:      Rk3588Chassis/ProxyReception.lean
  Subject:   What one datagram may do to the proxy (`receive_udp`, `clamp_current`).

  Three checks stand between a datagram and the motors, and each has a gap:

  * the limit is compared as it was typed: a negative one is stored in place of a smaller
    request (`limit_reduces_iff`);
  * the sender is remembered before the payload length is checked (`rejected_unchanged_iff`);
  * the length test sees what fits the buffer (`accepts_wellFormed_iff`).

  Each theorem says for which inputs the check does its work nevertheless.
-/
import Rk3588Chassis.BridgeCodec
import Rk3588Chassis.ProxySafety

namespace Rk3588Chassis.Proxy

open Bytes Rtt

/-! ## 1. The current limit -/

/-- `stored` is `requested`, reduced: within the limit and the request, and not on the other
    side of zero. -/
structure Reduces (limit requested stored : Int) : Prop where
  within_limit : stored.natAbs ≤ limit.natAbs
  within_request : stored.natAbs ≤ requested.natAbs
  same_side : ¬ (stored < 0 ∧ 0 < requested) ∧ ¬ (0 < stored ∧ requested < 0)

/-- A limit that reduces this request: it is not negative, or so far below zero that its low 16
    bits, read as a signed number, lie between zero and the request. -/
def LimitFits (limit requested : Int) : Prop :=
  0 ≤ limit ∨ limit ≤ -2 ^ 15 ∧
    (0 ≤ limit.bmod (2 ^ 16) ∧ limit.bmod (2 ^ 16) ≤ requested ∨
      requested ≤ limit.bmod (2 ^ 16) ∧ limit.bmod (2 ^ 16) ≤ 0)

/-- `clamp_current` as a number: the wrapping cast, on the three outcomes. -/
theorem clampCurrent_wraps (value limit : Int) : (clampCurrent value limit).toInt =
    if limit < value then limit.bmod (2 ^ 16)
    else if value < -limit then (-limit).bmod (2 ^ 16) else value.bmod (2 ^ 16) := by
  unfold clampCurrent
  split_ifs <;> exact Int16.toInt_ofInt

/-- A 16-bit number is its own wrapping. -/
theorem bmod_of_range {x : Int} (hlo : -2 ^ 15 ≤ x) (hhi : x < 2 ^ 15) : x.bmod (2 ^ 16) = x :=
  Int.bmod_eq_of_le (by omega) (by omega)

/-- A limit that is not negative cuts the request on both sides of zero. -/
theorem clampCurrent_reduces {limit : Int} (hlimit : 0 ≤ limit) (requested : Int16) :
    Reduces limit requested.toInt (clampCurrent requested.toInt limit).toInt := by
  rw [clampCurrent_toInt requested hlimit]
  exact ⟨by omega, by omega, by omega⟩

/-- Behind a negative limit every request above it is replaced by it. -/
theorem clampCurrent_negative {limit : Int} (hlimit : limit < 0) (requested : Int16) :
    Reduces limit requested.toInt (clampCurrent requested.toInt limit).toInt ↔
      LimitFits limit requested.toInt := by
  have hlo := requested.le_toInt
  have hhi := requested.toInt_lt
  rw [clampCurrent_wraps]
  unfold LimitFits
  split_ifs with habove hbelow
  · -- the limit itself is stored, cut to 16 bits
    have hcut : (limit.bmod (2 ^ 16)).natAbs ≤ limit.natAbs := by
      rcases le_or_gt (-2 ^ 15) limit with hnear | hfar
      · rw [bmod_of_range hnear (by omega)]
      · have hmin := Int.le_bmod (x := limit) (m := 2 ^ 16) (by decide)
        have hmax := Int.bmod_lt (x := limit) (m := 2 ^ 16) (by decide)
        omega
    have hnear : -2 ^ 15 ≤ limit → limit.bmod (2 ^ 16) = limit := fun h =>
      bmod_of_range h (by omega)
    constructor
    · intro hgiven
      obtain ⟨_, hrequest, hside⟩ := hgiven
      refine Or.inr ⟨?_, by omega⟩
      by_contra hlimit'
      have := hnear (by omega)
      omega
    · intro hgiven
      rcases hgiven with h | ⟨_, hbetween⟩
      · omega
      · exact ⟨hcut, by omega, by omega⟩
  · -- a request at or below the limit is answered with the opposite sign
    rcases eq_or_ne limit (-2 ^ 15) with hmin | hmin
    · have hrequested : requested.toInt = -2 ^ 15 := by omega
      have hself : (-2 ^ 15 : Int).bmod (2 ^ 16) = -2 ^ 15 := by decide
      have hflip : (-(-2 ^ 15 : Int)).bmod (2 ^ 16) = -2 ^ 15 := by decide
      rw [hmin, hrequested, hself, hflip]
      exact ⟨fun _ => Or.inr ⟨by omega, by omega⟩, fun _ => ⟨by omega, by omega, by omega⟩⟩
    · rw [bmod_of_range (x := -limit) (by omega) (by omega)]
      constructor
      · intro hgiven
        obtain ⟨_, _, hside⟩ := hgiven
        omega
      · rintro (h | ⟨h, _⟩) <;> omega
  · omega

/-- **When the limit reduces a request.** -/
theorem clampCurrent_reduces_iff (limit : Int) (requested : Int16) :
    Reduces limit requested.toInt (clampCurrent requested.toInt limit).toInt ↔
      LimitFits limit requested.toInt := by
  rcases le_or_gt 0 limit with hlimit | hlimit
  · exact iff_of_true (clampCurrent_reduces hlimit requested) (Or.inl hlimit)
  · exact clampCurrent_negative hlimit requested

/-- What a valid current command leaves in the proxy. -/
theorem command_stored {maxCurrent : Int} {datagram : Datagram} {payload : CurrentCommand}
    (horder : readOrder datagram = some (.command payload)) (nowMs : UInt64) (state : ProxyState)
    (k : Fin 4) : (receiveDatagram ⟨true, maxCurrent⟩ nowMs state datagram).currentCommand k.succ =
      clampCurrent (payload.currentCommand k).toInt maxCurrent := by
  have hcell := receiveDatagram_cell ⟨true, maxCurrent⟩ nowMs state datagram
  rw [horder] at hcell
  exact congrArg (fun cell => cell.currentCommand k.succ) hcell

/-- Every current that a command stores is reduced. -/
def CommandReduces (maxCurrent : Int) (nowMs : UInt64) (state : ProxyState) (datagram : Datagram)
    (payload : CurrentCommand) : Prop :=
  ∀ k, Reduces maxCurrent (payload.currentCommand k).toInt
    ((receiveDatagram ⟨true, maxCurrent⟩ nowMs state datagram).currentCommand k.succ).toInt

/-- A request for zero is kept at zero by these limits alone. -/
theorem limitFits_zero {limit : Int} : LimitFits limit 0 ↔ 0 ≤ limit ∨ (2 ^ 16 : Int) ∣ limit := by
  have hdvd : (2 ^ 16 : Int) ∣ limit ↔ limit.bmod (2 ^ 16) = 0 := Int.dvd_iff_bmod_eq_zero
  rw [hdvd]
  unfold LimitFits
  constructor
  · rintro (h | ⟨_, h⟩) <;> omega
  · intro hgiven
    rcases hgiven with h | h
    · exact Or.inl h
    · rcases le_or_gt 0 limit with hlimit | hlimit
      · exact Or.inl hlimit
      · have hfar : limit ≤ -2 ^ 15 := by
          by_contra hnear
          have hself := bmod_of_range (x := limit) (by omega) (by omega)
          omega
        exact Or.inr ⟨hfar, Or.inl ⟨by omega, by omega⟩⟩

/-- And they reduce every request. -/
theorem limitFits_of_zero {limit : Int} (h : LimitFits limit 0) (requested : Int) :
    LimitFits limit requested := by
  rcases h with h | ⟨hfar, hbetween⟩
  · exact Or.inl h
  · exact Or.inr ⟨hfar, by omega⟩

/-- **The current limit reduces, unless it is negative.** A command is reduced if the limit fits
    each of its four requests; all commands are if the limit is not negative, or a multiple of
    `2 ^ 16`. -/
theorem limit_reduces_iff (maxCurrent : Int) :
    (∀ nowMs state datagram payload, readOrder datagram = some (.command payload) →
      (CommandReduces maxCurrent nowMs state datagram payload ↔
        ∀ k, LimitFits maxCurrent (payload.currentCommand k).toInt)) ∧
    ((∀ nowMs state datagram payload, readOrder datagram = some (.command payload) →
      CommandReduces maxCurrent nowMs state datagram payload) ↔
        0 ≤ maxCurrent ∨ (2 ^ 16 : Int) ∣ maxCurrent) := by
  have hcommand : ∀ nowMs state datagram payload, readOrder datagram = some (.command payload) →
      (CommandReduces maxCurrent nowMs state datagram payload ↔
        ∀ k, LimitFits maxCurrent (payload.currentCommand k).toInt) := by
    intro nowMs state datagram payload horder
    refine forall_congr' fun k => ?_
    rw [command_stored horder]
    exact clampCurrent_reduces_iff maxCurrent (payload.currentCommand k)
  refine ⟨hcommand, ?_⟩
  rw [← limitFits_zero]
  constructor
  · intro hall
    -- the command that asks for no current at all
    have horder := command_order (fun _ => 0) 1 0 (fun _ => 0) 0 sampleCommand.peer
    exact (hcommand 0 ProxyState.initial _ _ horder).mp (hall _ _ _ _ horder) 0
  · intro hzero nowMs state datagram payload horder
    exact (hcommand nowMs state datagram payload horder).mpr fun k => limitFits_of_zero hzero _

/-- A current command of RT-Thread that asks for no current. -/
def zeroRequest : Datagram where
  bytes := layOutCurrentCommand (fun _ => 0) 1 0 (fun _ => 0) 0
  peer := sampleCommand.peer

theorem zeroRequest_order : readOrder zeroRequest = some (.command ⟨fun _ => 0, 0⟩) :=
  command_order (fun _ => 0) 1 0 (fun _ => 0) 0 sampleCommand.peer

/-- The default limit reduces it. -/
theorem zero_request_stays_zero : CommandReduces 2000 1000 ProxyState.initial zeroRequest
    ⟨fun _ => 0, 0⟩ :=
  ((limit_reduces_iff 2000).1 1000 ProxyState.initial zeroRequest _ zeroRequest_order).mpr
    fun _ => Or.inl (by decide)

/-- `--max-current -500` answers it with -500 on every motor. -/
theorem negative_limit_drives : ¬ CommandReduces (-500) 1000 ProxyState.initial zeroRequest
    ⟨fun _ => 0, 0⟩ := by
  intro h
  have hstored := (h 0).within_request
  rw [command_stored zeroRequest_order, clampCurrent_wraps] at hstored
  exact absurd hstored (by decide)

/-! ## 2. Rejected packets -/

/-- A packet that passes `parse_header` and fails the check behind it: a current command whose
    payload has the wrong length. -/
def MalformedCommand (datagram : Datagram) : Prop :=
  ∃ header, parseHeader (recvfrom datagram).1 (recvfrom datagram).2 = some header ∧
    header.type = rttBridgeMsgCurrentCommand ∧ header.payloadLength ≠ currentPayloadSize

/-- What a rejected packet should leave: the counter, and nothing else. -/
def countInvalid (state : ProxyState) : ProxyState :=
  { state with invalidPackets := state.invalidPackets + 1 }

/-- A datagram that `parse_header` refuses is counted. -/
theorem receiveDatagram_refused {datagram : Datagram}
    (h : parseHeader (recvfrom datagram).1 (recvfrom datagram).2 = none) (config : ProxyConfig)
    (nowMs : UInt64) (state : ProxyState) :
    receiveDatagram config nowMs state datagram = countInvalid state := by
  unfold receiveDatagram
  simp only [h]
  rfl

/-- A malformed command is counted, but its sender has been remembered before. -/
theorem receiveDatagram_malformed {datagram : Datagram} (h : MalformedCommand datagram)
    (config : ProxyConfig) (nowMs : UInt64) (state : ProxyState) :
    receiveDatagram config nowMs state datagram =
      countInvalid (rememberPeer state datagram.peer nowMs) := by
  obtain ⟨header, hparse, htype, hlength⟩ := h
  have hheart : header.type ≠ rttBridgeMsgHeartbeat := htype ▸ by decide
  have hestop : header.type ≠ rttBridgeMsgEstop := htype ▸ by decide
  unfold receiveDatagram
  simp only [hparse]
  rw [if_neg hheart, if_neg hestop, if_pos htype, if_pos hlength]
  rfl

/-- **Any other datagram is accepted**: the sender is remembered, nothing is counted as invalid. -/
theorem receiveDatagram_accepted {datagram : Datagram} {header : BridgeHeaderDecoded}
    (hparse : parseHeader (recvfrom datagram).1 (recvfrom datagram).2 = some header)
    (hgood : ¬ MalformedCommand datagram) (config : ProxyConfig) (nowMs : UInt64)
    (state : ProxyState) :
    let after := receiveDatagram config nowMs state datagram
    after.peer = datagram.peer ∧ after.peerKnown = true ∧ after.lastRtMs = nowMs ∧
      after.invalidPackets = state.invalidPackets := by
  have hlength : header.type = rttBridgeMsgCurrentCommand →
      header.payloadLength = currentPayloadSize := fun htype => by
    by_contra hlength
    exact hgood ⟨header, hparse, htype, hlength⟩
  unfold receiveDatagram
  simp only [hparse]
  by_cases hheart : header.type = rttBridgeMsgHeartbeat
  · rw [if_pos hheart]
    exact ⟨rfl, rfl, rfl, rfl⟩
  rw [if_neg hheart]
  by_cases hestop : header.type = rttBridgeMsgEstop
  · rw [if_pos hestop]
    exact ⟨rfl, rfl, rfl, rfl⟩
  rw [if_neg hestop]
  by_cases hcommand : header.type = rttBridgeMsgCurrentCommand
  · rw [if_pos hcommand, if_neg (not_not.mpr (hlength hcommand))]
    split <;> exact ⟨rfl, rfl, rfl, rfl⟩
  · rw [if_neg hcommand]
    exact ⟨rfl, rfl, rfl, rfl⟩

/-- **A rejected packet has no effect, unless it is a malformed command**: then the sender is taken
    for the peer and heard now, which shows unless both were so already. -/
theorem rejected_unchanged_iff (config : ProxyConfig) (nowMs : UInt64) (state : ProxyState)
    (datagram : Datagram) :
    ((receiveDatagram config nowMs state datagram).invalidPackets = state.invalidPackets + 1 →
      receiveDatagram config nowMs state datagram = countInvalid state) ↔
    (¬ MalformedCommand datagram ∨
      state.peer = datagram.peer ∧ state.peerKnown = true ∧ state.lastRtMs = nowMs) := by
  by_cases hbad : MalformedCommand datagram
  · rw [receiveDatagram_malformed hbad]
    constructor
    · intro h
      have heq := h rfl
      exact Or.inr ⟨(congrArg ProxyState.peer heq).symm, (congrArg ProxyState.peerKnown heq).symm,
        (congrArg ProxyState.lastRtMs heq).symm⟩
    · intro hgiven _
      rcases hgiven with h | ⟨hpeer, hknown, hheard⟩
      · exact absurd hbad h
      · rw [rememberPeer, ← hpeer, ← hknown, ← hheard]
  · refine iff_of_true (fun hcount => ?_) (Or.inl hbad)
    cases hparse : parseHeader (recvfrom datagram).1 (recvfrom datagram).2 with
    | none => exact receiveDatagram_refused hparse config nowMs state
    | some header =>
      have hkept := (receiveDatagram_accepted hparse hbad config nowMs state).2.2.2
      exact absurd (hkept.symm.trans hcount) (counter_ne_succ _)

/-- A current command without payload, from a stranger. -/
def strangerCommand : Datagram where
  bytes := [0x52, 0x4B, 0x43, 0x48, 0, 1, 0, 5, 0, 0, 0, 1, 0, 0, 0, 0, 0, 0, 0, 0]
  peer := ⟨0xC0A80007, 4000⟩

/-- It is counted as invalid, and the state reports go to the stranger. -/
theorem malformed_command_redirects :
    let after := receiveDatagram ⟨true, 2000⟩ 1000 ProxyState.initial strangerCommand
    after.invalidPackets = ProxyState.initial.invalidPackets + 1 ∧
      after.peer = strangerCommand.peer ∧ after.lastRtMs = 1000 ∧
      after ≠ countInvalid ProxyState.initial := by
  have hbad : MalformedCommand strangerCommand :=
    ⟨readHeader (recvfrom strangerCommand).1, by decide, by decide, by decide⟩
  intro after
  have hafter : after = countInvalid (rememberPeer ProxyState.initial strangerCommand.peer 1000) :=
    receiveDatagram_malformed hbad _ _ _
  rw [hafter]
  refine ⟨rfl, rfl, rfl, fun h => ?_⟩
  exact absurd (congrArg ProxyState.peerKnown h) (by decide)

/-! ## 3. The length of a datagram -/

/-- A datagram that carries the bridge magic and version. -/
def Marked (datagram : Datagram) : Prop :=
  (readHeader (Buffer.ofList datagram.bytes)).magic = rttBridgeMagic ∧
    (readHeader (Buffer.ofList datagram.bytes)).version = rttBridgeVersion

/-- The payload length that a datagram announces. -/
def announced (datagram : Datagram) : Nat :=
  (readHeader (Buffer.ofList datagram.bytes)).payloadLength.toNat

/-- A well-formed datagram, as it was sent. -/
def WellFormed (datagram : Datagram) : Prop :=
  headerSize ≤ datagram.bytes.length ∧ Marked datagram ∧
    datagram.bytes.length = headerSize + announced datagram

/-- `receive_udp` treats the datagram as valid: whatever the state and the time, its sender is
    remembered as heard now. -/
def TreatedAsValid (datagram : Datagram) : Prop :=
  ∀ config nowMs state, let after := receiveDatagram config nowMs state datagram
    after.peer = datagram.peer ∧ after.peerKnown = true ∧ after.lastRtMs = nowMs

/-- That is what `parse_header` decides. -/
theorem treatedAsValid_iff {datagram : Datagram} : TreatedAsValid datagram ↔
    ∃ header, parseHeader (recvfrom datagram).1 (recvfrom datagram).2 = some header := by
  constructor
  · intro h
    cases hparse : parseHeader (recvfrom datagram).1 (recvfrom datagram).2 with
    | some header => exact ⟨header, rfl⟩
    | none =>
      obtain ⟨_, hknown, _⟩ := h ⟨true, 0⟩ 0 ProxyState.initial
      rw [receiveDatagram_refused hparse] at hknown
      cases hknown
  · intro hgiven config nowMs state
    obtain ⟨header, hparse⟩ := hgiven
    by_cases hbad : MalformedCommand datagram
    · rw [receiveDatagram_malformed hbad]
      exact ⟨rfl, rfl, rfl⟩
    · obtain ⟨hpeer, hknown, hheard, _⟩ :=
        receiveDatagram_accepted hparse hbad config nowMs state
      exact ⟨hpeer, hknown, hheard⟩

/-- The header stands in the part of a datagram that is copied. -/
theorem readHeader_recvfrom (datagram : Datagram) :
    readHeader (recvfrom datagram).1 = readHeader (Buffer.ofList datagram.bytes) := by
  refine readHeader_agree fun i hi => ?_
  have hcopied : i < udpBufferSize := Nat.lt_trans hi (by decide)
  show (datagram.bytes.take udpBufferSize).getD i 0 = datagram.bytes.getD i 0
  rw [List.getD_eq_getElem?_getD, List.getD_eq_getElem?_getD, List.getElem?_take_of_lt hcopied]

/-- The length that `receive_udp` sees. -/
theorem recvfrom_length (datagram : Datagram) :
    (recvfrom datagram).2 = min udpBufferSize datagram.bytes.length := List.length_take ..

/-- **What the proxy accepts**: the mark, and a payload length that fits what was copied. -/
theorem treatedAsValid_marked {datagram : Datagram} : TreatedAsValid datagram ↔
    Marked datagram ∧ min udpBufferSize datagram.bytes.length = headerSize + announced datagram := by
  simp only [treatedAsValid_iff, parseHeader_eq_some, readHeader_recvfrom, recvfrom_length]
  constructor
  · intro hgiven
    obtain ⟨header, rfl, hmagic, hversion, hlength⟩ := hgiven
    exact ⟨⟨hmagic, hversion⟩, hlength⟩
  · intro hgiven
    obtain ⟨⟨hmagic, hversion⟩, hlength⟩ := hgiven
    exact ⟨_, rfl, hmagic, hversion, hlength⟩

/-- The room for a payload in the buffer. -/
def payloadRoom : Nat := udpBufferSize - headerSize

/-- **The proxy accepts exactly the well-formed datagrams, as far as its buffer reaches.** Beyond
    it, a marked datagram is judged wrongly in two cases: it announces a payload that would just
    fill the buffer, or it announces its length truly. -/
theorem accepts_wellFormed_iff (datagram : Datagram) :
    (TreatedAsValid datagram ↔ WellFormed datagram) ↔
      (datagram.bytes.length ≤ udpBufferSize ∨ ¬ Marked datagram ∨
        announced datagram ≠ payloadRoom ∧
          datagram.bytes.length ≠ headerSize + announced datagram) := by
  rw [treatedAsValid_marked]
  unfold WellFormed payloadRoom
  have hroom : headerSize < udpBufferSize := by decide
  by_cases hmarked : Marked datagram
  · simp only [hmarked, true_and, not_true_eq_false, false_or]
    rcases le_or_gt datagram.bytes.length udpBufferSize with hfits | hlong
    · rw [min_eq_right hfits]
      refine iff_of_true ⟨fun h => ⟨by omega, h⟩, fun h => h.2⟩ (Or.inl hfits)
    · rw [min_eq_left hlong.le]
      omega
  · simp only [hmarked, false_and, and_false, not_false_eq_true, true_or, or_true]

/-- A heartbeat header that announces 108 bytes, with 109 bytes behind it. -/
def overlongHeartbeat : Datagram where
  bytes := [0x52, 0x4B, 0x43, 0x48, 0, 1, 0, 3, 0, 0, 0, 1, 0, 0, 0, 0, 0, 108, 0, 0] ++
    List.replicate 109 0
  peer := ⟨0x0A0A0A1E, 21003⟩

/-- It is accepted, though it is longer than it says. -/
theorem overlong_datagram_accepted :
    TreatedAsValid overlongHeartbeat ∧ ¬ WellFormed overlongHeartbeat := by
  have hannounced : announced overlongHeartbeat = 108 := by decide
  have hlength : overlongHeartbeat.bytes.length = 129 := rfl
  refine ⟨treatedAsValid_marked.mpr ⟨⟨by decide, by decide⟩, ?_⟩, fun h => ?_⟩
  · rw [hannounced, hlength]
    rfl
  · have hsent := h.2.2
    rw [hannounced, hlength] at hsent
    exact absurd hsent (by decide)

end Rk3588Chassis.Proxy
