/-
  File:      Rk3588Chassis/BridgeSystem.lean
  Subject:   The bridge as a system: RT-Thread and the proxy, and a network between them that may
             lose, delay, repeat and reorder every packet.

  `bridge` is the link (Library/Link.lean) of the RT-Thread thread and the proxy's loop, with
  RT-Thread at the address `rt`. Nobody else speaks on the network; the calls of the one and the
  turns of the other may be interleaved in any way, and the CAN side of the proxy is free.

  * `bridge_still_iff` -- the system never puts a current on the bus, unless `--max-current` is a
    negative number that is no multiple of `2 ^ 16`: as it is, RT-Thread only ever asks for zero;
  * `nothing_is_refused` -- the proxy refuses no packet, knows no peer but RT-Thread, and has
    counted each delivered packet once;
  * `belief_is_a_report` -- what RT-Thread holds for the state of the chassis is what the proxy
    reported in some turn of the run, or nothing yet, and any report may become it;
  * `numbers_tell_order` -- both ends number their packets 1, 2, 3, .., and the number field of a
    packet gives its number back.
-/
import Rk3588Chassis.Library.Link
import Rk3588Chassis.ProxyAccounts
import Rk3588Chassis.RttThread

namespace Rk3588Chassis

open Bytes Reactive Proxy

/-! ## 1. The system -/

/-- What a turn of the proxy sends to the address `rt`. -/
def reportsTo (rt : SockAddr) (output : LoopOutput) : List (List UInt8) :=
  output.statePacket.toList.filterMap fun packet => if packet.2 = rt then some packet.1 else none

/-- The datagrams of a call, as they come from the address `rt`. -/
def datagramsFrom (rt : SockAddr) (output : Rtt.CallOutput) : List Datagram :=
  output.sent.toList.map fun bytes => ⟨bytes, rt⟩

/-- RT-Thread and the proxy. -/
def bridge (config : ProxyConfig) (rt : SockAddr) :
    Link Rtt.BridgeThread LoopState Rtt.CallInput LoopInput Rtt.CallOutput LoopOutput
      Datagram (List UInt8) where
  left := Rtt.bridgeThread
  right := canProxy config
  heardLeft := Rtt.heard
  saidLeft := datagramsFrom rt
  heardRight _ input := input.datagrams
  saidRight := reportsTo rt

theorem bridge_right (config : ProxyConfig) (rt : SockAddr) :
    (bridge config rt).right = canProxy config := rfl

theorem bridge_saidRight (config : ProxyConfig) (rt : SockAddr) :
    (bridge config rt).saidRight = reportsTo rt := rfl

/-- A joint run: calls of RT-Thread and turns of the proxy, newest first. -/
abbrev BridgeRun := List (Rtt.CallInput ⊕ LoopInput)

/-! ## 2. Packets -/

section Packets

variable (packet : Buffer) (txSequence : UInt32) (tickMs : UInt64) (peer : SockAddr)

/-- **A heartbeat of RT-Thread, as the proxy parses it.** -/
theorem heartbeat_parsed :
    let datagram : Datagram := ⟨(Rtt.sendHeartbeat packet txSequence tickMs).2, peer⟩
    parseHeader (recvfrom datagram).1 (recvfrom datagram).2 =
      some (decodedHeader rttBridgeMsgHeartbeat (txSequence + 1) 0 0 tickMs) := by
  intro datagram
  have hbytes : (Rtt.sendHeartbeat packet txSequence tickMs).2 =
      headerBytes (writeHeader packet rttBridgeMsgHeartbeat (txSequence + 1) 0 0 tickMs) := rfl
  have hrecv : recvfrom datagram = (Buffer.ofList datagram.bytes, 20) :=
    recvfrom_packet (n := 20) (by decide) _ peer
  have hparse := @parse_written packet rttBridgeMsgHeartbeat (txSequence + 1) 0 0 tickMs [] rfl
  rw [List.append_nil, ← hbytes] at hparse
  rw [hrecv]
  exact hparse

/-- And its command. -/
theorem zeroCommand_parsed :
    let datagram : Datagram := ⟨(Rtt.sendZeroCurrentCommand packet txSequence tickMs).2, peer⟩
    parseHeader (recvfrom datagram).1 (recvfrom datagram).2 =
      some (decodedHeader rttBridgeMsgCurrentCommand (txSequence + 1) currentPayloadSize 0 tickMs) := by
  intro datagram
  obtain ⟨hlen, hheader, _⟩ :=
    command_packet_read packet (txSequence + 1) tickMs (fun _ => 0) 100 peer
  exact parseHeader_eq_some.mpr ⟨hheader.symm, rfl, rfl, hlen⟩

end Packets

/-- What the proxy makes of a packet of RT-Thread. -/
structure FromRtt (rt : SockAddr) (datagram : Datagram) : Prop where
  peer : datagram.peer = rt
  kind : kind datagram = .heartbeat ∨ kind datagram = .command
  order : readOrder datagram = none ∨ readOrder datagram = some (.command ⟨fun _ => 0, 100⟩)

/-- **The packets of RT-Thread are heartbeats, with odd numbers, and commands for zero.** -/
theorem fromRtt_of_sent {rt : SockAddr} {n : UInt32} {bytes : List UInt8} (h : Rtt.Sent n bytes) :
    FromRtt rt ⟨bytes, rt⟩ ∧ Proxy.sequence ⟨bytes, rt⟩ = some n ∧
      (kind ⟨bytes, rt⟩ = .heartbeat ↔ n % 2 = 1) := by
  cases h with
  | heartbeat packet txSequence tickMs heven =>
    have hparse := heartbeat_parsed packet txSequence tickMs rt
    have hkind : kind ⟨(Rtt.sendHeartbeat packet txSequence tickMs).2, rt⟩ = .heartbeat := by
      unfold kind
      simp only
      rw [hparse]
      rfl
    refine ⟨⟨rfl, Or.inl hkind, Or.inl ?_⟩, ?_, iff_of_true hkind ?_⟩
    · unfold readOrder
      simp only
      rw [hparse]
      rfl
    · unfold Proxy.sequence
      rw [hparse]
      rfl
    · rw [Rtt.succ_mod_two, heven]
      decide
  | command packet txSequence tickMs hodd =>
    have hparse := zeroCommand_parsed packet txSequence tickMs rt
    have hkind : kind ⟨(Rtt.sendZeroCurrentCommand packet txSequence tickMs).2, rt⟩ = .command := by
      unfold kind
      simp only
      rw [hparse]
      rfl
    have hne : kind ⟨(Rtt.sendZeroCurrentCommand packet txSequence tickMs).2, rt⟩ ≠ .heartbeat := by
      rw [hkind]
      decide
    refine ⟨⟨rfl, Or.inr hkind, Or.inr (zero_command_order packet txSequence tickMs rt)⟩, ?_,
      iff_of_false hne ?_⟩
    · unfold Proxy.sequence
      rw [hparse]
      rfl
    · rw [Rtt.succ_mod_two, hodd]
      decide

/-! ## 3. What the proxy hears -/

section System

variable {config : ProxyConfig} {rt : SockAddr} {h : BridgeRun}

open Link

/-- What RT-Thread has said are its packets. -/
theorem toRight_packets : (bridge config rt).toRight h =
    (Rtt.packetsSent (lefts h)).map fun bytes => ⟨bytes, rt⟩ :=
  Machine.said_map _ _ _ _

/-- What the proxy has heard are the datagrams delivered to it. -/
theorem heard_delivered (hist : List LoopInput) :
    (canProxy config).heard (bridge config rt).heardRight hist = delivered hist := by
  induction hist with
  | nil => rfl
  | cons i hist ih =>
    rw [Machine.heard, ih]
    rfl

/-- **Every datagram delivered to the proxy is one of RT-Thread's.** -/
theorem fromRtt_of_carried (hc : (bridge config rt).Carried h) :
    ∀ d ∈ delivered (rights h), FromRtt rt d := by
  intro d hd
  rw [← @heard_delivered config rt] at hd
  have hsaid := hc.right_heard d hd
  rw [toRight_packets, List.mem_map] at hsaid
  obtain ⟨bytes, hbytes, rfl⟩ := hsaid
  obtain ⟨n, hsent⟩ := Rtt.sent_of_mem hbytes
  exact (fromRtt_of_sent hsent).1

/-- So the newest order, at any moment, is a command for zero. -/
theorem zero_of_ordered {hist : List LoopInput} (hfrom : ∀ d ∈ delivered hist, FromRtt rt d)
    {order : Order} {t : UInt64} (horder : (orders hist).head? = some (order, t)) :
    order = .command ⟨fun _ => 0, 100⟩ := by
  have hmem : order ∈ (delivered hist).filterMap readOrder := by
    rw [← orders_delivered]
    exact List.mem_map.mpr ⟨(order, t), List.mem_of_mem_head? horder, rfl⟩
  obtain ⟨d, hd, hread⟩ := List.mem_filterMap.mp hmem
  rcases (hfrom d hd).order with hnone | hzero
  · rw [hnone] at hread
    cases hread
  · rw [hzero] at hread
    exact (Option.some.inj hread).symm

/-! ## 4. Nothing moves -/

/-- Zero, cut to the limit. -/
theorem clampCurrent_zero (limit : Int) : clampCurrent 0 limit = 0 ↔ LimitFits limit 0 := by
  have hreduces := clampCurrent_reduces_iff limit 0
  have hzero : (0 : Int16).toInt = 0 := rfl
  rw [hzero] at hreduces
  rw [← hreduces]
  refine ⟨fun h => ?_, fun h => ?_⟩
  · rw [h]
    exact ⟨Nat.zero_le _, Nat.le_refl _, fun hlt => absurd hlt.1 (by decide),
      fun hlt => absurd hlt.1 (by decide)⟩
  · have hsize := h.within_request
    rw [Int.natAbs_zero, Nat.le_zero, Int.natAbs_eq_zero] at hsize
    exact Int16.toInt_inj.mp hsize

/-- The end of a turn's reception, as the turns of a run. -/
theorem delivered_cons (i : LoopInput) (hist : List LoopInput) :
    delivered (i :: hist) = i.datagrams.reverse ++ delivered hist := rfl

/-- Limits that leave a zero alone leave the system still. -/
theorem still_of_limit (hlimit : LimitFits config.maxCurrent 0) {hist : List LoopInput}
    {i : LoopInput} (hfrom : ∀ d ∈ delivered (i :: hist), FromRtt rt d) (k : Slot) :
    (midTurn config hist i.nowMs i.frames i.datagrams).currentCommand k = 0 := by
  by_contra hk
  obtain ⟨_, a, hhead, _, hwords⟩ := ordered_of_moving ⟨k, hk⟩
  have hzero : Order.command a.payload = .command ⟨fun _ => 0, 100⟩ :=
    zero_of_ordered hfrom hhead
  have hpayload : a.payload = ⟨fun _ => 0, 100⟩ := by
    injection hzero
  have hentry : (midTurn config hist i.nowMs i.frames i.datagrams).currentCommand 0 = 0 :=
    (remembers_midTurn config hist i.nowMs i.frames i.datagrams).entryZero
  refine Fin.cases (fun hk => hk hentry) (fun j hk => hk ?_) k hk
  rw [hwords j, commandCurrents, hpayload]
  exact (clampCurrent_zero config.maxCurrent).mpr hlimit

/-- A turn of the proxy at 1000 ms that hears the datagram `d`. -/
def hearingTurn (d : Datagram) : LoopInput := ⟨1000, [], [d], true, 1000⟩

/-- The first turn of the proxy when the network is quick: it hears RT-Thread's first command. -/
def quickTurn (rt : SockAddr) : LoopInput :=
  hearingTurn ⟨(Rtt.sendZeroCurrentCommand (fun _ => 0) 1 0).2, rt⟩

/-- A heartbeat, a command, and that turn. -/
def quickRun (rt : SockAddr) : BridgeRun :=
  let call : Rtt.CallInput := ⟨fun _ => 0, 0, none, 0⟩
  [.inr (quickTurn rt), .inl call, .inl call]

theorem quickRun_carried (config : ProxyConfig) (rt : SockAddr) :
    (bridge config rt).Carried (quickRun rt) := by
  refine ⟨fun m hm => ?_, ⟨fun m hm => ?_, ⟨fun m hm => ?_, trivial⟩⟩⟩
  · rw [List.mem_singleton.mp hm]
    exact List.mem_append_left _ (List.mem_singleton.mpr rfl)
  · cases hm
  · cases hm

/-- A turn that hears a command tries it. -/
theorem hearingTurn_attempted {config : ProxyConfig} (hallow : config.allowCurrent = true)
    {d : Datagram} {payload : CurrentCommand} (horder : readOrder d = some (.command payload)) :
    ∃ frame, ((canProxy config).answer [] (hearingTurn d)).attempted = some frame ∧
      ∀ k, frameCurrent frame.data k = commandCurrents config payload k := by
  have hcell : (midTurn config [] 1000 [] [d]).cell =
      ProxyState.initial.cell.obey config 1000 (readOrder d) :=
    receiveDatagram_cell config 1000 _ d
  rw [horder, CommandCell.obey, if_pos hallow] at hcell
  have hlive : (midTurn config [] 1000 [] [d]).cell.live config 1000 = true := by
    rw [hcell, CommandCell.live, hallow]
    have hage : (1000 : UInt64) - 1000 ≤ (effectiveTimeout payload.timeoutMs).toUInt64 := by
      rw [UInt64.le_iff_toNat_le]
      exact Nat.zero_le _
    simp only [hage, decide_true, Bool.and_true, Bool.true_and]
    decide
  have hattempt : ((canProxy config).answer [] (hearingTurn d)).attempted =
      some (currentFrame (midTurn config [] 1000 [] [d]).currentCommand) := by
    rw [attempted_eq]
    have hperiod : currentPeriodMs ≤ (1000 : UInt64) - 0 := by decide
    exact if_pos ⟨hlive, hperiod⟩
  refine ⟨_, hattempt, fun k => ?_⟩
  have hword : (midTurn config [] 1000 [] [d]).currentCommand k.succ =
      commandCurrents config payload k :=
    congrFun (congrArg CommandCell.currentCommand hcell) k.succ
  rw [← hword]
  exact frameCurrent_pack _ k

/-- The bridge never tries a frame with a current that is not zero. -/
def BridgeStill (config : ProxyConfig) (rt : SockAddr) : Prop :=
  ∀ h : BridgeRun, (bridge config rt).Carried h → ∀ i g, i :: g <:+ rights h →
    ∀ frame, ((canProxy config).answer g i).attempted = some frame → ∀ k, frameCurrent frame.data k = 0

theorem delivered_subset {g hist : List LoopInput} (hs : g <:+ hist) :
    ∀ d ∈ delivered g, d ∈ delivered hist := by
  obtain ⟨front, rfl⟩ := hs
  intro d hd
  rw [delivered, List.flatMap_append]
  exact List.mem_append_right _ hd

/-- **The bridge as it is never moves the chassis**, whatever the network does and however calls
    and turns are interleaved -- except with `--allow-current` and a negative `--max-current` that
    is no multiple of `2 ^ 16`: then zero itself is cut to the limit. -/
theorem bridge_still_iff (config : ProxyConfig) (rt : SockAddr) :
    BridgeStill config rt ↔ config.allowCurrent = false ∨ 0 ≤ config.maxCurrent ∨
      (2 ^ 16 : Int) ∣ config.maxCurrent := by
  rw [← limitFits_zero]
  refine ⟨fun hstill => ?_, fun hgiven h hc i g hs frame hframe k => ?_⟩
  · by_contra hbad
    rw [not_or, Bool.not_eq_false] at hbad
    obtain ⟨hallow, hlimit⟩ := hbad
    obtain ⟨frame, hframe, hwords⟩ := hearingTurn_attempted hallow
      (zero_command_order (fun _ => 0) 1 0 rt)
    have hzero := hstill (quickRun rt) (quickRun_carried config rt) _ [] (List.suffix_refl _) frame
      hframe 0
    rw [hwords 0] at hzero
    exact hlimit ((clampCurrent_zero config.maxCurrent).mp hzero)
  · obtain ⟨_, hwords⟩ := frame_of_attempted hframe
    have hfrom : ∀ d ∈ delivered (i :: g), FromRtt rt d := fun d hd =>
      fromRtt_of_carried hc d (delivered_subset hs d hd)
    rw [hwords k]
    rcases hgiven with hallow | hlimit
    · by_contra hk
      rw [(ordered_of_moving ⟨k.succ, hk⟩).1] at hallow
      cases hallow
    · exact still_of_limit hlimit hfrom k.succ

/-! ## 5. Nothing is refused -/

theorem arrivals_delivered (hist : List LoopInput) :
    (arrivals hist).map Prod.fst = delivered hist := by
  induction hist with
  | nil => rfl
  | cons i hist ih =>
    rw [arrivals, delivered_cons, List.map_append, ih, List.map_reverse, List.map_map]
    exact congrArg (· ++ delivered hist) (congrArg List.reverse (List.map_id _))

theorem kindCount_delivered (p : Kind → Bool) (hist : List LoopInput) :
    kindCount p (arrivals hist) = (delivered hist).countP fun d => p (kind d) := by
  rw [← arrivals_delivered, List.countP_map]
  rfl

/-- **The proxy refuses nothing, knows nobody but RT-Thread, and counts every delivered packet
    once.** In every run of the closed system: `invalid_packets` is 0; a peer is known exactly if
    a packet has been delivered, and it is RT-Thread; heartbeats and commands together are the
    packets delivered (modulo `2 ^ 64`), repetitions included. -/
theorem nothing_is_refused (config : ProxyConfig) (rt : SockAddr) (h : BridgeRun)
    (hc : (bridge config rt).Carried h) :
    let state := ((canProxy config).after (rights h)).proxy
    state.invalidPackets = 0 ∧
      (state.peerKnown = true ↔ delivered (rights h) ≠ []) ∧
      (state.peerKnown = true → state.peer = rt) ∧
      state.rxHeartbeat + state.rxCurrentCommand =
        UInt64.ofNat (delivered (rights h)).length := by
  intro state
  have hfrom := fromRtt_of_carried hc
  have hbooks := balanced_after config (rights h)
  have hheard : ∀ a ∈ arrivals (rights h), a.1 ∈ delivered (rights h) := fun a ha => by
    rw [← arrivals_delivered]
    exact List.mem_map_of_mem ha
  have hknown : state.peerKnown = (newestHeard (arrivals (rights h))).isSome := hbooks.known
  refine ⟨?_, ⟨fun hpeer hnone => ?_, fun hsome => ?_⟩, fun hpeer => ?_, ?_⟩
  · refine hbooks.invalid.trans ?_
    rw [kindCount_delivered, List.countP_eq_zero.mpr]
    · rfl
    intro d hd
    rcases (hfrom d hd).kind with hk | hk
    · rw [hk]
      decide
    · rw [hk]
      decide
  · rw [hknown, Option.isSome_iff_exists] at hpeer
    obtain ⟨a, ha⟩ := hpeer
    have hmem := hheard a (List.mem_of_find?_eq_some ha)
    rw [hnone] at hmem
    exact List.not_mem_nil hmem
  · obtain ⟨d, hd⟩ := List.exists_mem_of_ne_nil _ hsome
    rw [← arrivals_delivered] at hd
    obtain ⟨a, ha, rfl⟩ := List.mem_map.mp hd
    rw [hknown, newestHeard, List.find?_isSome]
    refine ⟨a, ha, decide_eq_true ?_⟩
    rcases (hfrom _ (hheard a ha)).kind with hk | hk
    · rw [hk]
      decide
    · rw [hk]
      decide
  · rw [hknown, Option.isSome_iff_exists] at hpeer
    obtain ⟨a, ha⟩ := hpeer
    exact (hbooks.heard a ha).1.trans (hfrom _ (hheard a (List.mem_of_find?_eq_some ha))).peer
  · have hsum : kindCount (· = .heartbeat) (arrivals (rights h)) +
        kindCount (· = .command) (arrivals (rights h)) = (delivered (rights h)).length := by
      rw [kindCount_delivered, kindCount_delivered]
      revert hfrom
      generalize delivered (rights h) = ds
      intro hfrom
      induction ds with
      | nil => rfl
      | cons d ds ih =>
        have ih' := ih fun e he => hfrom e (List.mem_cons_of_mem d he)
        rw [List.countP_cons, List.countP_cons, List.length_cons]
        rcases (hfrom d (List.mem_cons_self ..)).kind with hk | hk
        · rw [hk, if_pos (by decide), if_neg (by decide)]
          omega
        · rw [hk, if_neg (by decide), if_pos (by decide)]
          omega
    have hadd := (UInt64.ofNat_add (kindCount (· = .heartbeat) (arrivals (rights h)))
      (kindCount (· = .command) (arrivals (rights h)))).symm
    rw [hsum] at hadd
    rw [← hadd]
    exact congrArg₂ (· + ·) hbooks.heartbeats hbooks.commands

/-- In the quick run one command is delivered and counted. -/
theorem quick_run_counted :
    let state := ((canProxy ⟨true, 2000⟩).after (rights (quickRun sampleCommand.peer))).proxy
    state.invalidPackets = 0 ∧ state.peer = sampleCommand.peer ∧
      state.rxHeartbeat + state.rxCurrentCommand = 1 := by
  obtain ⟨hinvalid, hknown, hpeer, hcount⟩ := nothing_is_refused ⟨true, 2000⟩ sampleCommand.peer _
    (quickRun_carried ⟨true, 2000⟩ sampleCommand.peer)
  exact ⟨hinvalid, hpeer (hknown.mpr (List.cons_ne_nil _ _)), hcount⟩

/-! ## 6. What RT-Thread believes -/

/-- What a report of this proxy says: no targets, no faults. -/
def stateReported (state : ProxyState) (nowMs : UInt64) : Rtt.RttChassisState where
  targetRpm _ := 0
  feedbackRpm k := (state.feedback k.succ).speedRpm
  currentCommand k := state.currentCommand k.succ
  onlineMask := onlineMask state nowMs
  faultMask := 0

/-- A report of the proxy fits RT-Thread's buffer, is one to RT-Thread too, and says this. -/
theorem report_of_mem {config : ProxyConfig} {rt : SockAddr} {hist : List LoopInput}
    {i : LoopInput} {bytes : List UInt8}
    (hm : bytes ∈ reportsTo rt ((canProxy config).answer hist i)) :
    Rtt.IsReport bytes ∧
      Rtt.readReport bytes = stateReported (reported config hist i) i.nowMs := by
  unfold reportsTo at hm
  rw [List.mem_filterMap] at hm
  obtain ⟨packet, hpacket, hdest⟩ := hm
  rw [Option.mem_toList, statePacket_eq] at hpacket
  split at hpacket
  · cases hpacket
    simp only at hdest
    split at hdest
    · cases hdest
      have hread := report_read (reported config hist i) i.nowMs i.stampMs
      have hfits : Rtt.recvfrom ((List.range 48).map
          (reportPacket (reported config hist i) i.nowMs i.stampMs)) =
          (Buffer.ofList ((List.range 48).map
            (reportPacket (reported config hist i) i.nowMs i.stampMs)), 48) := by
        have hrecv := recvfrom_packet (n := 48) (by decide)
          (reportPacket (reported config hist i) i.nowMs i.stampMs) rt
        exact hrecv
      unfold Rtt.IsReport Rtt.readReport
      rw [hfits]
      refine ⟨hread.1, hread.2.trans ?_⟩
      rw [reported_targetRpm]
      rfl
    · cases hdest
  · cases hpacket

theorem isReport_of_toLeft {bytes : List UInt8} (hm : bytes ∈ (bridge config rt).toLeft h) :
    Rtt.IsReport bytes := by
  obtain ⟨i, g, _, hsaid⟩ := Machine.mem_said.mp hm
  exact (report_of_mem hsaid).1

/-- A call of `recvfrom` that returns `received`. -/
def hearingCall (received : Option (List UInt8)) : Rtt.CallInput := ⟨fun _ => 0, 0, received, 0⟩

/-- When RT-Thread listens, the network may hand it anything the proxy has sent. -/
theorem carried_hearing (hc : (bridge config rt).Carried h)
    (hphase : (Rtt.bridgeThread.after (lefts h)).phase = .receive) {received : Option (List UInt8)}
    (hsaid : ∀ bytes, received = some bytes → bytes ∈ (bridge config rt).toLeft h) :
    (bridge config rt).Carried (.inl (hearingCall received) :: h) := by
  refine carried_inl_iff.mpr ⟨fun m hm => ?_, hc⟩
  have hheard : m ∈ Rtt.heard (Rtt.bridgeThread.after (lefts h)) (hearingCall received) := hm
  rw [Rtt.heard, if_pos hphase] at hheard
  exact hsaid m (Option.mem_toList.mp hheard)

/-- **What RT-Thread holds for the state of the chassis is the report it has heard last**, which the
    proxy sent in some turn of the run: the last speeds, the currents in memory and the online mask
    of that moment; zeros before the first report arrives. Each packet it hears counts. When it
    listens next, any report the proxy has sent so far may arrive and become its belief, whether or
    not it has heard a newer one: it compares no numbers. -/
theorem belief_is_a_report (config : ProxyConfig) (rt : SockAddr) (h : BridgeRun)
    (hc : (bridge config rt).Carried h) :
    let rtt := Rtt.bridgeThread.after (lefts h)
    (rtt.rxStateCount = UInt32.ofNat (Rtt.bridgeThread.heard Rtt.heard (lefts h)).length) ∧
    (Rtt.bridgeThread.heard Rtt.heard (lefts h) = [] → rtt.lastState = .zero) ∧
    (∀ bytes older, Rtt.bridgeThread.heard Rtt.heard (lefts h) = bytes :: older →
      ∃ i g, i :: g <:+ rights h ∧ bytes ∈ reportsTo rt ((canProxy config).answer g i) ∧
        rtt.lastState = stateReported (reported config g i) i.nowMs) ∧
    (rtt.phase = .receive → ∀ i g, i :: g <:+ rights h →
      ∀ bytes ∈ reportsTo rt ((canProxy config).answer g i),
      ∃ call, (bridge config rt).Carried (.inl call :: h) ∧
        (Rtt.bridgeThread.after (lefts (.inl call :: h))).lastState =
          stateReported (reported config g i) i.nowMs) := by
  intro rtt
  obtain ⟨hbelief, hcount⟩ := Rtt.believes_newest (lefts h)
  have hsaid : ∀ m ∈ Rtt.bridgeThread.heard Rtt.heard (lefts h), m ∈ (bridge config rt).toLeft h :=
    hc.left_heard
  have hall : Rtt.reportsHeard (lefts h) = Rtt.bridgeThread.heard Rtt.heard (lefts h) :=
    List.filter_eq_self.mpr fun bytes hb => decide_eq_true (isReport_of_toLeft (hsaid bytes hb))
  rw [hall] at hbelief hcount
  refine ⟨hcount, fun hheard => ?_, fun bytes older hheard => ?_,
    fun hphase i g hs bytes hbytes => ?_⟩
  · rw [hheard] at hbelief
    exact hbelief
  · rw [hheard] at hbelief hsaid
    obtain ⟨i, g, hs, hm⟩ := Machine.mem_said.mp (hsaid bytes (List.mem_cons_self ..))
    exact ⟨i, g, hs, hm, hbelief.trans (report_of_mem hm).2⟩
  · obtain ⟨hreport, hread⟩ := report_of_mem hbytes
    have hpool : ∀ b, some bytes = some b → b ∈ (bridge config rt).toLeft h := fun b hb => by
      rw [← Option.some.inj hb]
      exact Machine.mem_said.mpr ⟨i, g, hs, hbytes⟩
    refine ⟨hearingCall (some bytes), carried_hearing hc hphase hpool, ?_⟩
    show (Rtt.bridgeStep rtt (hearingCall (some bytes))).1.lastState = _
    unfold Rtt.bridgeStep hearingCall
    rw [hphase]
    simp only
    rw [Rtt.receive_report hreport]
    exact hread

/-- The quick run, and RT-Thread hears the report that the proxy answers with. -/
def answeredRun (config : ProxyConfig) (rt : SockAddr) : BridgeRun :=
  .inl (hearingCall (reportsTo rt ((canProxy config).answer [] (quickTurn rt))).head?) ::
    quickRun rt

theorem answeredRun_carried (config : ProxyConfig) (rt : SockAddr) :
    (bridge config rt).Carried (answeredRun config rt) := by
  have hphase : (Rtt.bridgeThread.after (lefts (quickRun rt))).phase = .receive := rfl
  unfold answeredRun
  generalize hpackets : reportsTo rt ((canProxy config).answer [] (quickTurn rt)) = packets
  refine carried_hearing (quickRun_carried config rt) hphase fun bytes hb => ?_
  refine Machine.mem_said.mpr ⟨quickTurn rt, [], List.suffix_refl _, ?_⟩
  rw [bridge_right, bridge_saidRight, hpackets]
  exact List.mem_of_head? hb

/-- RT-Thread has counted it, and holds what it says. -/
theorem answered_run_believed :
    let rtt := Rtt.bridgeThread.after (lefts (answeredRun ⟨true, 2000⟩ sampleCommand.peer))
    rtt.rxStateCount = 1 ∧ ∃ bytes i g,
      i :: g <:+ rights (answeredRun ⟨true, 2000⟩ sampleCommand.peer) ∧
      bytes ∈ reportsTo sampleCommand.peer ((canProxy ⟨true, 2000⟩).answer g i) ∧
      rtt.lastState = stateReported (reported ⟨true, 2000⟩ g i) i.nowMs := by
  intro rtt
  obtain ⟨hcount, _, hbelief, _⟩ := belief_is_a_report ⟨true, 2000⟩ sampleCommand.peer _
    (answeredRun_carried ⟨true, 2000⟩ sampleCommand.peer)
  have hone : (Rtt.bridgeThread.heard Rtt.heard
      (lefts (answeredRun ⟨true, 2000⟩ sampleCommand.peer))).length = 1 := by decide +kernel
  obtain ⟨bytes, hheard⟩ := List.length_eq_one_iff.mp hone
  obtain ⟨i, g, hs, hm, hstate⟩ := hbelief bytes [] hheard
  exact ⟨hcount.trans (congrArg UInt32.ofNat hone), bytes, i, g, hs, hm, hstate⟩

/-! ## 7. The numbers on the packets -/

/-- In the closed system every report goes to RT-Thread. -/
theorem toLeft_reports (hc : (bridge config rt).Carried h) :
    (bridge config rt).toLeft h = (reports config (rights h)).map Prod.fst := by
  have hfrom := fromRtt_of_carried hc
  show (canProxy config).said (reportsTo rt) (rights h) = _
  revert hfrom
  generalize rights h = hist
  intro hfrom
  induction hist with
  | nil => rfl
  | cons i hist ih =>
    have ih' := ih fun d hd => hfrom d (delivered_subset (List.suffix_cons i hist) d hd)
    rw [Machine.said, reports, List.map_append, ih']
    refine congrArg (· ++ _) ?_
    unfold reportsTo
    cases hpacket : ((canProxy config).answer hist i).statePacket with
    | none => rfl
    | some packet =>
      obtain ⟨a, ha, hdest⟩ := @report_dest config hist i packet.1 packet.2 hpacket
      have hmem : a.1 ∈ delivered (i :: hist) := by
        rw [← arrivals_delivered]
        exact List.mem_map_of_mem (List.mem_of_find?_eq_some ha)
      rw [Option.toList_some, List.filterMap_cons, List.filterMap_nil,
        if_pos (hdest.trans (hfrom a.1 hmem).peer)]
      rfl

/-- The numbers of RT-Thread's packets, as the proxy can read them. -/
theorem toRight_numbers :
    ((bridge config rt).toRight h).map Proxy.sequence =
      (countdown ((bridge config rt).toRight h).length).map some := by
  have hsent := (Rtt.packets_numbered (lefts h)).1
  rw [toRight_packets, List.map_map, List.length_map]
  generalize countdown (Rtt.packetsSent (lefts h)).length = numbers at hsent
  generalize Rtt.packetsSent (lefts h) = packets at hsent
  induction hsent with
  | nil => rfl
  | cons hfirst _ ih =>
    rw [List.map_cons, List.map_cons, ih]
    exact congrArg (· :: _) (fromRtt_of_sent hfirst).2.1

/-- **Both ends number their packets 1, 2, 3, ..** in every run of the closed system, and the number
    field of a header, decoded as the proxy does it, gives the numbers back: RT-Thread's heartbeats
    are the odd ones, its commands the even ones; in either direction no number comes twice among the
    first `2 ^ 32` packets. What the network has done to the order could be told from them; neither
    side does. -/
theorem numbers_tell_order (config : ProxyConfig) (rt : SockAddr) (h : BridgeRun)
    (hc : (bridge config rt).Carried h) :
    let there := (bridge config rt).toRight h
    let back := (bridge config rt).toLeft h
    there.map Proxy.sequence = (countdown there.length).map some ∧
      (∀ d ∈ there, ∃ n, Proxy.sequence d = some n ∧ (kind d = .heartbeat ↔ n % 2 = 1) ∧
        (kind d = .command ↔ n % 2 = 0)) ∧
      back.map packetNumber = countdown back.length ∧
      (there.length ≤ 2 ^ 32 → (there.map Proxy.sequence).Nodup) ∧
      (back.length ≤ 2 ^ 32 → (back.map packetNumber).Nodup) := by
  intro there back
  have hthere : there.map Proxy.sequence = (countdown there.length).map some := toRight_numbers
  have hback : back.map packetNumber = countdown back.length := by
    have hnumbers := (reports_numbered config (rights h)).1
    have hreports : back = (reports config (rights h)).map Prod.fst := toLeft_reports hc
    rw [hreports, List.map_map, List.length_map]
    exact hnumbers
  refine ⟨hthere, fun d hd => ?_, hback, fun hfew => ?_, fun hfew => ?_⟩
  · have hpackets : there = (Rtt.packetsSent (lefts h)).map fun bytes => ⟨bytes, rt⟩ :=
      toRight_packets
    rw [hpackets, List.mem_map] at hd
    obtain ⟨bytes, hbytes, rfl⟩ := hd
    obtain ⟨n, hsent⟩ := Rtt.sent_of_mem hbytes
    obtain ⟨hfrom, hnumber, hodd⟩ := @fromRtt_of_sent rt n bytes hsent
    refine ⟨n, hnumber, hodd, ?_⟩
    have hparity : n % 2 = 0 ∨ n % 2 = 1 := by
      have hlt := Nat.mod_lt n.toNat (by decide : 2 > 0)
      rcases (by omega : n.toNat % 2 = 0 ∨ n.toNat % 2 = 1) with h0 | h1
      · exact Or.inl (UInt32.toNat_inj.mp h0)
      · exact Or.inr (UInt32.toNat_inj.mp h1)
    rcases hfrom.kind with hk | hk
    · rw [hk, hodd.mp hk]
      decide
    · have hnot : n % 2 ≠ 1 := fun h1 => by
        have hheart := hodd.mpr h1
        rw [hk] at hheart
        cases hheart
      exact iff_of_true hk (hparity.resolve_right hnot)
  · rw [hthere]
    exact (countdown_nodup hfew).map (Option.some_injective _)
  · rw [hback]
    exact countdown_nodup hfew

/-- The two packets of the answered run are numbered 1 and 2, its report 1. -/
theorem answered_run_numbers :
    ((bridge ⟨true, 2000⟩ sampleCommand.peer).toRight
        (answeredRun ⟨true, 2000⟩ sampleCommand.peer)).map Proxy.sequence = [some 2, some 1] ∧
      ((bridge ⟨true, 2000⟩ sampleCommand.peer).toLeft
        (answeredRun ⟨true, 2000⟩ sampleCommand.peer)).map packetNumber = [1] := by
  obtain ⟨hthere, _, hback, _⟩ := numbers_tell_order ⟨true, 2000⟩ sampleCommand.peer _
    (answeredRun_carried ⟨true, 2000⟩ sampleCommand.peer)
  have htwo : ((bridge ⟨true, 2000⟩ sampleCommand.peer).toRight
      (answeredRun ⟨true, 2000⟩ sampleCommand.peer)).length = 2 := rfl
  have hone : ((bridge ⟨true, 2000⟩ sampleCommand.peer).toLeft
      (answeredRun ⟨true, 2000⟩ sampleCommand.peer)).length = 1 := by decide +kernel
  rw [hthere, hback, htwo, hone]
  exact ⟨rfl, rfl⟩

end System

end Rk3588Chassis
