/-
  File:      Rk3588Chassis/StateReport.lean
  Subject:   The state report, from `send_chassis_state` of the proxy to `parse_chassis_state` of
             RT-Thread.

  * `parseChassisState_accepts`, `parseChassisState_rejects` -- the decoder, said once;
  * `report_read` -- every field of the report arrives;
  * `readState_bytes` -- and every byte of an accepted packet is used, but for sequence, time and
    flags.
-/
import Rk3588Chassis.BridgeCodec

namespace Rk3588Chassis

open Bytes

/-! ## 1. The decoder -/

/-- The fields of a state packet. -/
def readState (packet : Buffer) : Rtt.RttChassisState where
  targetRpm := Rtt.readRow packet 20
  feedbackRpm := Rtt.readRow packet 28
  currentCommand := Rtt.readRow packet 36
  onlineMask := readU16 packet 44
  faultMask := readU16 packet 46

/-- The tests of `parse_chassis_state`. -/
def StatePacket (packet : Buffer) (length : Nat) : Prop :=
  length = 48 ∧ readU32 packet 0 = Rtt.rttBridgeMagic ∧ readU16 packet 4 = Rtt.rttBridgeVersion ∧
    readU16 packet 6 = Rtt.rttBridgeMsgChassisState ∧
    readU16 packet 16 = UInt16.ofNat Rtt.rttBridgeStatePayloadSize

theorem parseChassisState_accepts {packet : Buffer} {length : Nat} (h : StatePacket packet length)
    (prior : Rtt.RttChassisState) :
    Rtt.parseChassisState packet length prior = (true, readState packet) := by
  obtain ⟨hlen, hmagic, hversion, htype, hpayload⟩ := h
  have hsize : ¬ length ≠ Rtt.rttBridgeHeaderSize + Rtt.rttBridgeStatePayloadSize :=
    not_not.mpr hlen
  have hheader : ¬ (readU32 packet 0 ≠ Rtt.rttBridgeMagic ∨
      readU16 packet 4 ≠ Rtt.rttBridgeVersion ∨
      readU16 packet 6 ≠ Rtt.rttBridgeMsgChassisState ∨
      readU16 packet 16 ≠ UInt16.ofNat Rtt.rttBridgeStatePayloadSize) := by
    rintro (h | h | h | h)
    · exact h hmagic
    · exact h hversion
    · exact h htype
    · exact h hpayload
  rw [Rtt.parseChassisState, if_neg hsize, if_neg hheader]
  rfl

theorem parseChassisState_rejects {packet : Buffer} {length : Nat}
    (h : ¬ StatePacket packet length) (prior : Rtt.RttChassisState) :
    Rtt.parseChassisState packet length prior = (false, prior) := by
  unfold Rtt.parseChassisState
  split_ifs with hsize hheader
  · rfl
  · rfl
  · refine absurd ⟨not_not.mp hsize, ?_⟩ h
    simpa only [not_or, not_not] using hheader

/-- Accepted packets are the state packets. -/
theorem statePacket_of_accepted {packet : Buffer} {length : Nat} {prior s : Rtt.RttChassisState}
    (h : Rtt.parseChassisState packet length prior = (true, s)) :
    StatePacket packet length ∧ readState packet = s := by
  by_cases hstate : StatePacket packet length
  · rw [parseChassisState_accepts hstate] at h
    exact ⟨hstate, congrArg Prod.snd h⟩
  · rw [parseChassisState_rejects hstate] at h
    cases h

/-! ## 2. The report -/

/-- The memory of the report, written from front to back: the header, .. -/
def reportHeader (state : Proxy.ProxyState) (stampMs : UInt64) : Buffer :=
  writeHeader (fun _ => 0) rttBridgeMsgChassisState (state.txSequence + 1)
    (UInt16.ofNat statePayloadSize) 0 stampMs

/-- .. the targets, .. -/
def reportTargets (state : Proxy.ProxyState) (stampMs : UInt64) : Buffer :=
  writeWords (reportHeader state stampMs) 20 (List.ofFn fun k => state.targetRpm k.succ)

/-- .. the speeds, .. -/
def reportSpeeds (state : Proxy.ProxyState) (stampMs : UInt64) : Buffer :=
  writeWords (reportTargets state stampMs) 28
    (List.ofFn fun k => (state.feedback k.succ).speedRpm)

/-- .. the currents, .. -/
def reportCurrents (state : Proxy.ProxyState) (stampMs : UInt64) : Buffer :=
  writeWords (reportSpeeds state stampMs) 36 (List.ofFn fun k => state.currentCommand k.succ)

/-- .. and the two masks. -/
def reportPacket (state : Proxy.ProxyState) (nowMs stampMs : UInt64) : Buffer :=
  writeU16 (writeU16 (reportCurrents state stampMs) 44 (Proxy.onlineMask state nowMs)) 46 0

theorem sendChassisState_known {state : Proxy.ProxyState} (hpeer : state.peerKnown = true)
    (nowMs stampMs : UInt64) : (Proxy.sendChassisState state nowMs stampMs).2 =
      some ((List.range 48).map (reportPacket state nowMs stampMs), state.peer) := by
  unfold Proxy.sendChassisState
  rw [hpeer]
  rfl

/-- What was written stays when the rest is written. -/
theorem report_stages (state : Proxy.ProxyState) (nowMs stampMs : UInt64) :
    AgreeBelow 20 (reportHeader state stampMs) (reportPacket state nowMs stampMs) ∧
      AgreeBelow 28 (reportTargets state stampMs) (reportPacket state nowMs stampMs) ∧
      AgreeBelow 36 (reportSpeeds state stampMs) (reportPacket state nowMs stampMs) ∧
      AgreeBelow 44 (reportCurrents state stampMs) (reportPacket state nowMs stampMs) := by
  have hcurrents : AgreeBelow 44 (reportCurrents state stampMs)
      (reportPacket state nowMs stampMs) :=
    ((AgreeBelow.refl 44 _).writeU16 (by decide) _).writeU16 (by decide) _
  have hspeeds : AgreeBelow 36 (reportSpeeds state stampMs) (reportPacket state nowMs stampMs) :=
    ((AgreeBelow.refl 36 _).writeWords (by decide) _).trans hcurrents (by decide)
  have htargets : AgreeBelow 28 (reportTargets state stampMs)
      (reportPacket state nowMs stampMs) :=
    ((AgreeBelow.refl 28 _).writeWords (by decide) _).trans hspeeds (by decide)
  have hheader : AgreeBelow 20 (reportHeader state stampMs) (reportPacket state nowMs stampMs) :=
    ((AgreeBelow.refl 20 _).writeWords (by decide) _).trans htargets (by decide)
  exact ⟨hheader, htargets, hspeeds, hcurrents⟩

/-- A row is read where it was written. -/
theorem readRow_written {o : Nat} {b b' : Buffer} (row : Fin 4 → Int16)
    (h : AgreeBelow (o + 8) (writeWords b o (List.ofFn row)) b') : Rtt.readRow b' o = row := by
  funext k
  have hfour := k.isLt
  have hend : o + 2 * k.val + 2 ≤ o + 8 := by omega
  exact (h.readI16 hend).trans (readI16_ofFn row b o k)

/-- **Every field of the report is read at its place.** -/
theorem report_read (state : Proxy.ProxyState) (nowMs stampMs : UInt64) :
    let bytes := (List.range 48).map (reportPacket state nowMs stampMs)
    StatePacket (Buffer.ofList bytes) bytes.length ∧ readState (Buffer.ofList bytes) =
      { targetRpm := fun k => state.targetRpm k.succ
        feedbackRpm := fun k => (state.feedback k.succ).speedRpm
        currentCommand := fun k => state.currentCommand k.succ
        onlineMask := Proxy.onlineMask state nowMs
        faultMask := 0 } := by
  intro bytes
  have hpacket : AgreeBelow 48 (reportPacket state nowMs stampMs) (Buffer.ofList bytes) :=
    agreeBelow_packet 48 _
  obtain ⟨hheader, htargets, hspeeds, hcurrents⟩ := report_stages state nowMs stampMs
  have hfields : readHeader (Buffer.ofList bytes) = decodedHeader rttBridgeMsgChassisState (state.txSequence + 1)
      (UInt16.ofNat statePayloadSize) 0 stampMs :=
    (readHeader_agree (hheader.trans hpacket (by decide))).trans (readHeader_written ..)
  have hrows := And.intro (readRow_written _ (htargets.trans hpacket (by decide)))
    (And.intro (readRow_written _ (hspeeds.trans hpacket (by decide)))
      (readRow_written _ (hcurrents.trans hpacket (by decide))))
  have hmask : readU16 (Buffer.ofList bytes) 44 = Proxy.onlineMask state nowMs := by
    have hkeep := (AgreeBelow.refl 46 (writeU16 (reportCurrents state stampMs) 44
      (Proxy.onlineMask state nowMs))).writeU16 (Nat.le_refl _) 0
    exact ((hkeep.trans hpacket (by decide)).readU16 (by decide)).trans (readU16_writeU16 ..)
  have hfault : readU16 (Buffer.ofList bytes) 46 = 0 :=
    (hpacket.readU16 (by decide)).trans (readU16_writeU16 ..)
  constructor
  · exact ⟨rfl, congrArg BridgeHeaderDecoded.magic hfields,
      congrArg BridgeHeaderDecoded.version hfields, congrArg BridgeHeaderDecoded.type hfields,
      congrArg BridgeHeaderDecoded.payloadLength hfields⟩
  · unfold readState
    rw [hrows.1, hrows.2.1, hrows.2.2, hmask, hfault]

/-! ## 3. No byte is ignored -/

/-- The bytes outside sequence, time and flags. -/
def Meaningful (i : Nat) : Prop := i < 8 ∨ (16 ≤ i ∧ i < 18) ∨ 20 ≤ i

/-- **State packets with the same fields have the same meaningful bytes.** -/
theorem readState_bytes {b b' : Buffer} (h : StatePacket b 48) (h' : StatePacket b' 48)
    (hsame : readState b = readState b') {i : Nat} (hi : Meaningful i) (hlen : i < 48) :
    b i = b' i := by
  obtain ⟨_, hmagic, hversion, htype, hpayload⟩ := h
  obtain ⟨_, hmagic', hversion', htype', hpayload'⟩ := h'
  have hwords : AgreeOn 0 4 b b' ∧ AgreeOn 4 6 b b' ∧ AgreeOn 6 8 b b' ∧ AgreeOn 16 18 b b' :=
    ⟨agreeOn_of_readU32 (hmagic.trans hmagic'.symm),
      agreeOn_of_readU16 (hversion.trans hversion'.symm),
      agreeOn_of_readU16 (htype.trans htype'.symm),
      agreeOn_of_readU16 (hpayload.trans hpayload'.symm)⟩
  have htargets : AgreeOn 20 28 b b' :=
    agreeOn_of_row (n := 4) (congrFun (congrArg Rtt.RttChassisState.targetRpm hsame))
  have hspeeds : AgreeOn 28 36 b b' :=
    agreeOn_of_row (n := 4) (congrFun (congrArg Rtt.RttChassisState.feedbackRpm hsame))
  have hcurrents : AgreeOn 36 44 b b' :=
    agreeOn_of_row (n := 4) (congrFun (congrArg Rtt.RttChassisState.currentCommand hsame))
  have honline : AgreeOn 44 46 b b' :=
    agreeOn_of_readU16 (congrArg Rtt.RttChassisState.onlineMask hsame)
  have hfault : AgreeOn 46 48 b b' :=
    agreeOn_of_readU16 (congrArg Rtt.RttChassisState.faultMask hsame)
  obtain ⟨hw0, hw4, hw6, hw16⟩ := hwords
  have hplace : i < 4 ∨ (4 ≤ i ∧ i < 6) ∨ (6 ≤ i ∧ i < 8) ∨ (16 ≤ i ∧ i < 18) ∨
      (20 ≤ i ∧ i < 28) ∨ (28 ≤ i ∧ i < 36) ∨ (36 ≤ i ∧ i < 44) ∨ (44 ≤ i ∧ i < 46) ∨
      (46 ≤ i ∧ i < 48) := by
    unfold Meaningful at hi
    omega
  rcases hplace with h | h | h | h | h | h | h | h | h
  · exact hw0 i (Nat.zero_le i) h
  · exact hw4 i h.1 h.2
  · exact hw6 i h.1 h.2
  · exact hw16 i h.1 h.2
  · exact htargets i h.1 h.2
  · exact hspeeds i h.1 h.2
  · exact hcurrents i h.1 h.2
  · exact honline i h.1 h.2
  · exact hfault i h.1 h.2

/-! ## 4. Round trip -/

/-- **The state report, there and back.** A report to a known peer is accepted and delivers every
    field; accepted packets that deliver the same agree byte for byte but for sequence, time and
    flags; a rejected packet leaves what was known. -/
theorem state_report_round_trip :
    (∀ (state : Proxy.ProxyState) nowMs stampMs prior, state.peerKnown = true →
      ∃ bytes, (Proxy.sendChassisState state nowMs stampMs).2 = some (bytes, state.peer) ∧
        ∃ parsed, Rtt.parseChassisState (Buffer.ofList bytes) bytes.length prior = (true, parsed) ∧
          (∀ k : Fin 4, parsed.targetRpm k = state.targetRpm k.succ ∧
            parsed.feedbackRpm k = (state.feedback k.succ).speedRpm ∧
            parsed.currentCommand k = state.currentCommand k.succ) ∧
          parsed.onlineMask = Proxy.onlineMask state nowMs ∧ parsed.faultMask = 0) ∧
    (∀ (bytes bytes' : List UInt8) prior prior' parsed,
      Rtt.parseChassisState (Buffer.ofList bytes) bytes.length prior = (true, parsed) →
      Rtt.parseChassisState (Buffer.ofList bytes') bytes'.length prior' = (true, parsed) →
      bytes.length = bytes'.length ∧ ∀ i, Meaningful i → bytes[i]? = bytes'[i]?) ∧
    (∀ (bytes : List UInt8) prior,
      (Rtt.parseChassisState (Buffer.ofList bytes) bytes.length prior).1 = false →
      (Rtt.parseChassisState (Buffer.ofList bytes) bytes.length prior).2 = prior) := by
  refine ⟨?_, ?_, ?_⟩
  · intro state nowMs stampMs prior hpeer
    obtain ⟨hpacket, hread⟩ := report_read state nowMs stampMs
    have haccept := parseChassisState_accepts hpacket prior
    rw [hread] at haccept
    exact ⟨_, sendChassisState_known hpeer nowMs stampMs, _, haccept, fun k => ⟨rfl, rfl, rfl⟩, rfl,
      rfl⟩
  · intro bytes bytes' prior prior' parsed h h'
    obtain ⟨hpacket, hread⟩ := statePacket_of_accepted h
    obtain ⟨hpacket', hread'⟩ := statePacket_of_accepted h'
    have hlen : bytes.length = 48 := hpacket.1
    have hlen' : bytes'.length = 48 := hpacket'.1
    refine ⟨hlen.trans hlen'.symm, fun i hi => ?_⟩
    rw [hlen] at hpacket
    rw [hlen'] at hpacket'
    by_cases hshort : i < 48
    · have hbyte := readState_bytes hpacket hpacket' (hread.trans hread'.symm) hi hshort
      rw [List.getElem?_eq_getElem (hlen ▸ hshort), List.getElem?_eq_getElem (hlen' ▸ hshort)]
      rw [Buffer.ofList, Buffer.ofList, List.getD_eq_getElem _ _ (hlen ▸ hshort),
        List.getD_eq_getElem _ _ (hlen' ▸ hshort)] at hbyte
      rw [hbyte]
    · rw [List.getElem?_eq_none (by omega), List.getElem?_eq_none (by omega)]
  · intro bytes prior h
    by_cases hpacket : StatePacket (Buffer.ofList bytes) bytes.length
    · rw [parseChassisState_accepts hpacket] at h
      cases h
    · rw [parseChassisState_rejects hpacket]

end Rk3588Chassis
