/-
  File:      Rk3588Chassis/ProxyAccounts.lean
  Subject:   The books of the proxy: every datagram and every packet accounted for, and how often
             it may write.

  ProxyHistory.lean says what the command cell is after a history and ProxyOnline.lean what the time
  table is; here are the other fields.

  * `Kind`, `receiveDatagram_books` -- the six things a datagram can be, and what each does to the
    counters and the peer;
  * `proxy_books` -- after every run the counters are the numbers of datagrams of their kind, and
    the peer is the sender of the newest datagram that passed `parse_header`;
  * `reports_numbered` -- the state reports carry the numbers 1, 2, 3, ..;
  * `frames_spaced`, `reports_spaced` -- the two throttles of the loop (Library/Throttle.lean).
-/
import Rk3588Chassis.Library.Throttle
import Rk3588Chassis.ProxyOnline
import Rk3588Chassis.ProxyReception
import Rk3588Chassis.StateReport

namespace Rk3588Chassis.Proxy

open Bytes Reactive

/-! ## 1. Kinds of datagrams -/

/-- What `receive_udp` takes a datagram for. -/
inductive Kind where
  | refused
  | heartbeat
  | estop
  | malformed
  | command
  | unknown
  deriving DecidableEq

/-- The kind of a datagram. -/
def kind (datagram : Datagram) : Kind :=
  let (packet, length) := recvfrom datagram
  match parseHeader packet length with
  | none => .refused
  | some header =>
    if header.type = rttBridgeMsgHeartbeat then .heartbeat
    else if header.type = rttBridgeMsgEstop then .estop
    else if header.type = rttBridgeMsgCurrentCommand then
      if header.payloadLength ≠ currentPayloadSize then .malformed else .command
    else .unknown

/-- The fields that keep the books. -/
structure Books where
  rxHeartbeat : UInt64
  rxCurrentCommand : UInt64
  invalidPackets : UInt64
  peerKnown : Bool
  peer : SockAddr
  lastRtMs : UInt64
  deriving DecidableEq

/-- The books of a proxy. -/
def ProxyState.books (state : ProxyState) : Books :=
  ⟨state.rxHeartbeat, state.rxCurrentCommand, state.invalidPackets, state.peerKnown, state.peer,
    state.lastRtMs⟩

/-- `n` more, if `b`. -/
def tally (b : Bool) (n : UInt64) : UInt64 := if b then n + 1 else n

/-- What a datagram of a kind does to the books. -/
def Books.enter (books : Books) (kind : Kind) (peer : SockAddr) (nowMs : UInt64) : Books :=
  { rxHeartbeat := tally (kind = .heartbeat) books.rxHeartbeat
    rxCurrentCommand := tally (kind = .command) books.rxCurrentCommand
    invalidPackets := tally (kind = .refused ∨ kind = .malformed) books.invalidPackets
    peerKnown := books.peerKnown || kind ≠ .refused
    peer := if kind = .refused then books.peer else peer
    lastRtMs := if kind = .refused then books.lastRtMs else nowMs }

/-- **A datagram enters the books as its kind.** -/
theorem receiveDatagram_books (config : ProxyConfig) (nowMs : UInt64) (state : ProxyState)
    (datagram : Datagram) :
    (receiveDatagram config nowMs state datagram).books =
      state.books.enter (kind datagram) datagram.peer nowMs := by
  have hknown : (state.peerKnown || true) = true := Bool.or_true _
  have hunknown : (state.peerKnown || false) = state.peerKnown := Bool.or_false _
  unfold receiveDatagram kind
  simp only
  cases parseHeader (recvfrom datagram).1 (recvfrom datagram).2 with
  | none =>
    show _ = Books.mk _ _ _ (state.peerKnown || false) _ _
    rw [hunknown]
    rfl
  | some header =>
    simp only
    by_cases hheart : header.type = rttBridgeMsgHeartbeat
    · rw [if_pos hheart, if_pos hheart]
      show _ = Books.mk _ _ _ (state.peerKnown || true) _ _
      rw [hknown]
      rfl
    rw [if_neg hheart, if_neg hheart]
    by_cases hestop : header.type = rttBridgeMsgEstop
    · rw [if_pos hestop, if_pos hestop]
      show _ = Books.mk _ _ _ (state.peerKnown || true) _ _
      rw [hknown]
      rfl
    rw [if_neg hestop, if_neg hestop]
    by_cases hcommand : header.type = rttBridgeMsgCurrentCommand
    · rw [if_pos hcommand, if_pos hcommand]
      by_cases hlength : header.payloadLength = currentPayloadSize
      · rw [if_neg (not_not.mpr hlength), if_neg (not_not.mpr hlength)]
        show _ = Books.mk _ _ _ (state.peerKnown || true) _ _
        rw [hknown]
        cases hallow : config.allowCurrent <;> rfl
      · rw [if_pos hlength, if_pos hlength]
        show _ = Books.mk _ _ _ (state.peerKnown || true) _ _
        rw [hknown]
        rfl
    · rw [if_neg hcommand, if_neg hcommand]
      show _ = Books.mk _ _ _ (state.peerKnown || true) _ _
      rw [hknown]
      rfl

section Keeps

variable {α : Type} {f : ProxyState → α}

/-- What no frame changes, `drain_feedback` does not change. -/
theorem drainFeedback_keeps (h : ∀ state frame stampMs, f (drainFrame state frame stampMs) = f state)
    (frames : List (CanFrame × UInt64)) (state : ProxyState) :
    f (drainFeedback state frames) = f state := by
  unfold drainFeedback
  induction frames generalizing state with
  | nil => rfl
  | cons frame frames ih => exact (ih _).trans (h state frame.1 frame.2)

/-- What no datagram changes, `receive_udp` does not change. -/
theorem receiveUdp_keeps {config : ProxyConfig} {nowMs : UInt64}
    (h : ∀ state d, f (receiveDatagram config nowMs state d) = f state) (ds : List Datagram)
    (state : ProxyState) : f (receiveUdp config nowMs state ds) = f state := by
  unfold receiveUdp
  induction ds generalizing state with
  | nil => rfl
  | cons d ds ih => exact (ih _).trans (h state d)

/-- What clearing the currents does not change, the send branch does not change. -/
theorem sendOrExpire_keeps (h : ∀ state, f { state with currentCommand := fun _ => 0 } = f state)
    (config : ProxyConfig) (s : LoopState) (nowMs : UInt64) :
    f (sendOrExpire config s nowMs).1.proxy = f s.proxy := by
  unfold sendOrExpire
  split
  · split <;> rfl
  · exact h s.proxy

end Keeps

theorem drainFrame_books (state : ProxyState) (frame : CanFrame) (stampMs : UInt64) :
    (drainFrame state frame stampMs).books = state.books := by
  unfold drainFrame
  cases receiveFeedback frame stampMs <;> rfl

theorem reportState_books (s : LoopState) (nowMs stampMs : UInt64) :
    (reportState s nowMs stampMs).1.proxy.books = s.proxy.books := by
  unfold reportState sendChassisState
  split
  · split <;> rfl
  · rfl

/-- Feedback and the send branch do not touch the books. -/
theorem reported_books (config : ProxyConfig) (hist : List LoopInput) (i : LoopInput) :
    (reported config hist i).books =
      (receiveUdp config i.nowMs
        (drainFeedback ((canProxy config).after hist).proxy i.frames) i.datagrams).books :=
  sendOrExpire_keeps (fun _ => rfl) config _ i.nowMs

/-! ## 2. The books of a run -/

/-- The datagrams of a run with the loop times they were processed at, newest first. -/
def arrivals : List LoopInput → List (Datagram × UInt64)
  | [] => []
  | i :: hist => (i.datagrams.map fun d => (d, i.nowMs)).reverse ++ arrivals hist

/-- The number of datagrams of a kind. -/
def kindCount (p : Kind → Bool) (past : List (Datagram × UInt64)) : Nat :=
  past.countP fun a => p (kind a.1)

/-- The newest datagram that passed `parse_header`. -/
def newestHeard (past : List (Datagram × UInt64)) : Option (Datagram × UInt64) :=
  past.find? fun a => kind a.1 ≠ .refused

/-- Books that are right about the datagrams of the past. -/
structure Balanced (past : List (Datagram × UInt64)) (books : Books) : Prop where
  heartbeats : books.rxHeartbeat = UInt64.ofNat (kindCount (· = .heartbeat) past)
  commands : books.rxCurrentCommand = UInt64.ofNat (kindCount (· = .command) past)
  invalid : books.invalidPackets =
    UInt64.ofNat (kindCount (fun k => k = .refused ∨ k = .malformed) past)
  known : books.peerKnown = (newestHeard past).isSome
  heard : ∀ a, newestHeard past = some a → books.peer = a.1.peer ∧ books.lastRtMs = a.2

theorem kindCount_cons (p : Kind → Bool) (a : Datagram × UInt64) (past : List (Datagram × UInt64)) :
    UInt64.ofNat (kindCount p (a :: past)) = tally (p (kind a.1)) (UInt64.ofNat (kindCount p past)) := by
  unfold kindCount tally
  cases h : p (kind a.1) with
  | false => rw [List.countP_cons_of_neg (by rw [h]; exact Bool.false_ne_true), if_neg Bool.false_ne_true]
  | true =>
    rw [List.countP_cons_of_pos (by rw [h]), if_pos rfl, UInt64.ofNat_add]
    rfl

theorem newestHeard_cons (a : Datagram × UInt64) (past : List (Datagram × UInt64)) :
    newestHeard (a :: past) = if kind a.1 = .refused then newestHeard past else some a := by
  unfold newestHeard
  rw [List.find?_cons]
  by_cases h : kind a.1 = .refused
  · rw [decide_eq_false (not_not.mpr h), if_pos h]
  · rw [decide_eq_true h, if_neg h]

/-- **One datagram keeps the balance.** -/
theorem Balanced.enter {past : List (Datagram × UInt64)} {books : Books} (h : Balanced past books)
    (datagram : Datagram) (nowMs : UInt64) :
    Balanced ((datagram, nowMs) :: past)
      (books.enter (kind datagram) datagram.peer nowMs) := by
  refine ⟨?_, ?_, ?_, ?_, ?_⟩
  · rw [kindCount_cons, ← h.heartbeats]
    rfl
  · rw [kindCount_cons, ← h.commands]
    rfl
  · rw [kindCount_cons, ← h.invalid]
    rfl
  · rw [newestHeard_cons]
    show (books.peerKnown || decide (kind datagram ≠ .refused)) = _
    by_cases hk : kind datagram = .refused
    · rw [decide_eq_false (not_not.mpr hk), Bool.or_false, if_pos hk]
      exact h.known
    · rw [decide_eq_true hk, Bool.or_true, if_neg hk]
      rfl
  · intro a ha
    rw [newestHeard_cons] at ha
    unfold Books.enter
    by_cases hk : kind datagram = .refused
    · rw [if_pos hk] at ha
      simp only [if_pos hk]
      exact h.heard a ha
    · rw [if_neg hk] at ha
      simp only [if_neg hk]
      cases ha
      exact ⟨rfl, rfl⟩

/-- A batch of datagrams keeps it. -/
theorem receiveUdp_balanced (config : ProxyConfig) (nowMs : UInt64) (ds : List Datagram) :
    ∀ {past : List (Datagram × UInt64)} {state : ProxyState}, Balanced past state.books →
      Balanced ((ds.map fun d => (d, nowMs)).reverse ++ past)
        (receiveUdp config nowMs state ds).books := by
  induction ds with
  | nil => exact fun h => h
  | cons d ds ih =>
    intro past state h
    rw [List.map_cons, List.reverse_cons, List.append_assoc]
    refine ih ?_
    rw [receiveDatagram_books]
    exact h.enter d nowMs

/-- The books of a turn, when it reports and when it ends. -/
theorem reported_balanced {config : ProxyConfig} {hist : List LoopInput}
    (h : Balanced (arrivals hist) ((canProxy config).after hist).proxy.books) (i : LoopInput) :
    Balanced (arrivals (i :: hist)) (reported config hist i).books := by
  rw [reported_books]
  refine receiveUdp_balanced config i.nowMs i.datagrams ?_
  rwa [drainFeedback_keeps drainFrame_books]

/-- The books balance after every run. -/
theorem balanced_after (config : ProxyConfig) : ∀ hist,
    Balanced (arrivals hist) ((canProxy config).after hist).proxy.books
  | [] => ⟨rfl, rfl, rfl, rfl, fun _ h => nomatch h⟩
  | i :: hist => by
    have hafter : ((canProxy config).after (i :: hist)).proxy.books =
        (reported config hist i).books := reportState_books _ i.nowMs i.stampMs
    rw [hafter]
    exact reported_balanced (balanced_after config hist) i

/-! ## 3. The state reports -/

theorem receive_lastMs (config : ProxyConfig) (hist : List LoopInput) (i : LoopInput) :
    (sendOrExpire config { (canProxy config).after hist with
      proxy := receive config ((canProxy config).after hist).proxy i } i.nowMs).1.lastStateMs =
        ((canProxy config).after hist).lastStateMs := by
  unfold sendOrExpire
  split
  · split <;> rfl
  · rfl

/-- **The report of a turn**: every 20 ms, to a known peer. -/
theorem statePacket_eq (config : ProxyConfig) (hist : List LoopInput) (i : LoopInput) :
    ((canProxy config).answer hist i).statePacket =
      if statePeriodMs ≤ i.nowMs - ((canProxy config).after hist).lastStateMs ∧
        (reported config hist i).peerKnown = true
      then some ((List.range 48).map (reportPacket (reported config hist i) i.nowMs i.stampMs),
        (reported config hist i).peer)
      else none := by
  show (reportState _ i.nowMs i.stampMs).2 = _
  unfold reportState
  rw [receive_lastMs]
  by_cases hperiod : statePeriodMs ≤ i.nowMs - ((canProxy config).after hist).lastStateMs
  · rw [if_pos hperiod]
    by_cases hknown : (reported config hist i).peerKnown = true
    · rw [if_pos ⟨hperiod, hknown⟩]
      exact sendChassisState_known hknown i.nowMs i.stampMs
    · rw [if_neg fun h => hknown h.2]
      unfold sendChassisState
      exact congrArg Prod.snd (if_pos (by rwa [Bool.not_eq_true', ← Bool.not_eq_true]))
  · rw [if_neg hperiod, if_neg fun h => hperiod h.1]

theorem reportState_txSequence (s : LoopState) (nowMs stampMs : UInt64) :
    (reportState s nowMs stampMs).1.proxy.txSequence =
      if (reportState s nowMs stampMs).2.isSome then s.proxy.txSequence + 1
      else s.proxy.txSequence := by
  unfold reportState
  split
  · unfold sendChassisState
    cases s.proxy.peerKnown <;> rfl
  · rfl

/-- The fields that neither feedback nor datagrams touch. -/
def ProxyState.untouched (state : ProxyState) : UInt32 × (Slot → Int16) :=
  (state.txSequence, state.targetRpm)

theorem receiveDatagram_untouched (config : ProxyConfig) (nowMs : UInt64) (state : ProxyState)
    (d : Datagram) : (receiveDatagram config nowMs state d).untouched = state.untouched := by
  unfold receiveDatagram
  simp only
  cases parseHeader (recvfrom d).1 (recvfrom d).2 with
  | none => rfl
  | some header =>
    simp only
    split_ifs <;> rfl

theorem drainFrame_untouched (state : ProxyState) (frame : CanFrame) (stampMs : UInt64) :
    (drainFrame state frame stampMs).untouched = state.untouched := by
  unfold drainFrame
  cases receiveFeedback frame stampMs <;> rfl

theorem reported_untouched (config : ProxyConfig) (hist : List LoopInput) (i : LoopInput) :
    (reported config hist i).untouched = ((canProxy config).after hist).proxy.untouched := by
  refine (sendOrExpire_keeps (fun _ => rfl) config _ i.nowMs).trans ?_
  refine (receiveUdp_keeps (receiveDatagram_untouched config i.nowMs) i.datagrams _).trans ?_
  exact drainFeedback_keeps drainFrame_untouched i.frames _

/-- Only a report takes a number. -/
theorem reported_txSequence (config : ProxyConfig) (hist : List LoopInput) (i : LoopInput) :
    (reported config hist i).txSequence = ((canProxy config).after hist).proxy.txSequence :=
  congrArg Prod.fst (reported_untouched config hist i)

theorem reportState_targetRpm (s : LoopState) (nowMs stampMs : UInt64) :
    (reportState s nowMs stampMs).1.proxy.targetRpm = s.proxy.targetRpm := by
  unfold reportState sendChassisState
  split
  · split <;> rfl
  · rfl

/-- The proxy has no targets of its own: the field is never written. -/
theorem targetRpm_after (config : ProxyConfig) : ∀ hist : List LoopInput,
    ((canProxy config).after hist).proxy.targetRpm = fun _ => 0
  | [] => rfl
  | i :: hist => by
    have hreport : ((canProxy config).after (i :: hist)).proxy.targetRpm =
        (reported config hist i).targetRpm := reportState_targetRpm _ i.nowMs i.stampMs
    have hkept := congrArg Prod.snd (reported_untouched config hist i)
    exact hreport.trans (hkept.trans (targetRpm_after config hist))

/-- Nor has a report. -/
theorem reported_targetRpm (config : ProxyConfig) (hist : List LoopInput) (i : LoopInput) :
    (reported config hist i).targetRpm = fun _ => 0 :=
  (congrArg Prod.snd (reported_untouched config hist i)).trans (targetRpm_after config hist)

/-- The report of a turn is numbered, if there is one. -/
theorem after_txSequence (config : ProxyConfig) (hist : List LoopInput) (i : LoopInput) :
    ((canProxy config).after (i :: hist)).proxy.txSequence =
      if ((canProxy config).answer hist i).statePacket.isSome
      then ((canProxy config).after hist).proxy.txSequence + 1
      else ((canProxy config).after hist).proxy.txSequence := by
  rw [← reported_txSequence config hist i]
  exact reportState_txSequence _ i.nowMs i.stampMs

/-- The reports of a run and where they went, newest first. -/
def reports (config : ProxyConfig) : List LoopInput → List (List UInt8 × SockAddr)
  | [] => []
  | i :: hist => ((canProxy config).answer hist i).statePacket.toList ++ reports config hist

/-- The number in the header of a packet. -/
def packetNumber (bytes : List UInt8) : UInt32 := (readHeader (Buffer.ofList bytes)).sequence

theorem reportPacket_number (state : ProxyState) (nowMs stampMs : UInt64) :
    packetNumber ((List.range 48).map (reportPacket state nowMs stampMs)) = state.txSequence + 1 := by
  have hpacket := agreeBelow_packet 48 (reportPacket state nowMs stampMs)
  have hheader := (report_stages state nowMs stampMs).1.trans hpacket (by decide)
  unfold packetNumber
  rw [readHeader_agree hheader, reportHeader, readHeader_written]
  rfl

/-- The report of a turn, if there is one, carries the number after those of the run before. -/
theorem report_number {config : ProxyConfig} {hist : List LoopInput} {i : LoopInput}
    {bytes : List UInt8} {dest : SockAddr}
    (h : ((canProxy config).answer hist i).statePacket = some (bytes, dest)) :
    packetNumber bytes = ((canProxy config).after hist).proxy.txSequence + 1 ∧
      (reported config hist i).peerKnown = true ∧ dest = (reported config hist i).peer := by
  rw [statePacket_eq] at h
  split at h
  · rename_i hsend
    cases h
    refine ⟨?_, hsend.2, rfl⟩
    rw [reportPacket_number, reported_txSequence]
  · cases h

/-- **The reports of a run are numbered 1, 2, 3, ..**, and `tx_sequence` is their number. -/
theorem reports_numbered (config : ProxyConfig) (hist : List LoopInput) :
    (reports config hist).map (fun report => packetNumber report.1) =
      countdown (reports config hist).length ∧
    ((canProxy config).after hist).proxy.txSequence =
      UInt32.ofNat (reports config hist).length := by
  induction hist with
  | nil => exact ⟨rfl, rfl⟩
  | cons i hist ih =>
    obtain ⟨hnumbers, hlast⟩ := ih
    rw [after_txSequence, reports]
    cases hreport : ((canProxy config).answer hist i).statePacket with
    | none => exact ⟨hnumbers, hlast⟩
    | some report =>
      obtain ⟨hnumber, _⟩ := @report_number config hist i report.1 report.2 hreport
      rw [hlast] at hnumber
      have hnext : UInt32.ofNat (reports config hist).length + 1 =
          UInt32.ofNat ((reports config hist).length + 1) := (UInt32.ofNat_add ..).symm
      refine ⟨?_, ?_⟩
      · rw [Option.toList_some, List.singleton_append, List.map_cons, List.length_cons,
          countdown_succ, hnumbers, hnumber, hnext]
      · rw [Option.toList_some, List.singleton_append, List.length_cons, ← hnext, hlast]
        rfl

/-- **A report goes to the sender of the newest datagram that has passed `parse_header`.** -/
theorem report_dest {config : ProxyConfig} {hist : List LoopInput} {i : LoopInput}
    {bytes : List UInt8} {dest : SockAddr}
    (h : ((canProxy config).answer hist i).statePacket = some (bytes, dest)) :
    ∃ a, newestHeard (arrivals (i :: hist)) = some a ∧ dest = a.1.peer := by
  obtain ⟨_, hknown, hdest⟩ := report_number h
  have hbooks := reported_balanced (balanced_after config hist) i
  have hsome : (newestHeard (arrivals (i :: hist))).isSome = true := hbooks.known.symm.trans hknown
  obtain ⟨a, ha⟩ := Option.isSome_iff_exists.mp hsome
  exact ⟨a, ha, hdest.trans (hbooks.heard a ha).1⟩

/-- **The books of the proxy, after every run.** Each of its three counters is the number of
    datagrams of its kind (modulo `2 ^ 64`); the peer, known once a datagram has passed
    `parse_header`, is the sender of the newest one that has, heard at the time of its turn; the
    state reports carry the numbers 1, 2, 3, .. (modulo `2 ^ 32`), and each of them went to the
    sender of the newest such datagram of its own time. -/
theorem proxy_books (config : ProxyConfig) (hist : List LoopInput) :
    Balanced (arrivals hist) ((canProxy config).after hist).proxy.books ∧
    (reports config hist).map (fun report => packetNumber report.1) =
      countdown (reports config hist).length ∧
    ((canProxy config).after hist).proxy.txSequence =
      UInt32.ofNat (reports config hist).length ∧
    ∀ i g, i :: g <:+ hist → ∀ bytes dest,
      ((canProxy config).answer g i).statePacket = some (bytes, dest) →
      ∃ a, newestHeard (arrivals (i :: g)) = some a ∧ dest = a.1.peer := by
  obtain ⟨hnumbers, hlast⟩ := reports_numbered config hist
  exact ⟨balanced_after config hist, hnumbers, hlast, fun i g _ bytes dest => report_dest⟩

/-! ## 4. How often the proxy writes -/

open Throttle

/-- The loop's clock reading. -/
def turnMs (i : LoopInput) : Nat := i.nowMs.toNat

/-- A turn that tries a current frame. -/
def triesFrame (config : ProxyConfig) (hist : List LoopInput) (i : LoopInput) : Bool :=
  ((canProxy config).answer hist i).attempted.isSome

/-- A turn that sends a state report. -/
def sendsReport (config : ProxyConfig) (hist : List LoopInput) (i : LoopInput) : Bool :=
  ((canProxy config).answer hist i).statePacket.isSome

/-- A turn in which the report is due, whether or not there is a peer to send it to. -/
def reportDue (config : ProxyConfig) (hist : List LoopInput) (i : LoopInput) : Bool :=
  decide (statePeriodMs ≤ i.nowMs - ((canProxy config).after hist).lastStateMs)

/-- The loop times do not run backwards. -/
def TurnsForward (hist : List LoopInput) : Prop :=
  hist.Pairwise fun later earlier => earlier.nowMs ≤ later.nowMs

theorem TurnsForward.clock {hist : List LoopInput} (h : TurnsForward hist) :
    Forward turnMs turnMs hist :=
  ⟨h.imp fun hle => UInt64.le_iff_toNat_le.mp hle, fun _ _ => Nat.le_refl _⟩

/-- `last_current_ms` is the mark of the frames. -/
theorem lastCurrentMs_mark (config : ProxyConfig) : ∀ hist,
    ((canProxy config).after hist).lastCurrentMs.toNat =
      mark turnMs (triesFrame config) hist
  | [] => rfl
  | i :: hist => by
    have ih := lastCurrentMs_mark config hist
    rw [after_lastCurrentMs, mark, triesFrame, attempted_eq]
    split
    · rfl
    · exact ih

/-- `last_state_ms` is the mark of the reports. -/
theorem lastStateMs_mark (config : ProxyConfig) : ∀ hist,
    ((canProxy config).after hist).lastStateMs.toNat = mark turnMs (reportDue config) hist
  | [] => rfl
  | i :: hist => by
    have ih := lastStateMs_mark config hist
    have hstep : ((canProxy config).after (i :: hist)).lastStateMs =
        if statePeriodMs ≤ i.nowMs - ((canProxy config).after hist).lastStateMs then i.nowMs
        else ((canProxy config).after hist).lastStateMs := by
      show (reportState _ i.nowMs i.stampMs).1.lastStateMs = _
      unfold reportState
      rw [receive_lastMs]
      split
      · rfl
      · exact receive_lastMs config hist i
    rw [hstep, mark, reportDue]
    by_cases hdue : statePeriodMs ≤ i.nowMs - ((canProxy config).after hist).lastStateMs
    · rw [if_pos hdue, if_pos (decide_eq_true hdue)]
      rfl
    · rw [if_neg hdue, if_neg (by rwa [decide_eq_true_eq])]
      exact ih

/-- An elapsed time that reaches a period, on a clock that has not run backwards. -/
theorem period_passed {nowMs lastMs period : UInt64} (hle : lastMs.toNat ≤ nowMs.toNat)
    (h : period ≤ nowMs - lastMs) : lastMs.toNat + period.toNat ≤ nowMs.toNat := by
  have hsub := UInt64.toNat_sub_of_le _ _ (UInt64.le_iff_toNat_le.mpr hle)
  rw [UInt64.le_iff_toNat_le, hsub] at h
  omega

/-- **Current frames are 10 ms apart.** -/
theorem frames_spaced (config : ProxyConfig) {hist : List LoopInput} (h : TurnsForward hist) :
    Spaced 10 (firings turnMs (triesFrame config) hist) := by
  refine spaced_firings h.clock fun i g _ hfire hle => ?_
  rw [← lastCurrentMs_mark] at hle ⊢
  rw [triesFrame, attempted_eq] at hfire
  split at hfire
  · rename_i hlive
    exact period_passed hle hlive.2
  · cases hfire

/-- **State reports are 20 ms apart.** -/
theorem reports_spaced (config : ProxyConfig) {hist : List LoopInput} (h : TurnsForward hist) :
    Spaced 20 (firings turnMs (sendsReport config) hist) := by
  have hdue : Spaced 20 (firings turnMs (reportDue config) hist) := by
    refine spaced_firings h.clock fun i g _ hfire hle => ?_
    rw [← lastStateMs_mark] at hle ⊢
    exact period_passed hle (of_decide_eq_true hfire)
  refine hdue.sublist (firings_sublist fun i g _ hsend => ?_)
  rw [sendsReport, statePacket_eq] at hsend
  split at hsend
  · rename_i hboth
    exact decide_eq_true hboth.1
  · cases hsend

/-- **The load the proxy's loop puts on the bus and on the network is bounded.** While its clock does
    not run backwards, in whatever way commands, feedback and datagrams arrive: any `w` ms of the
    loop see at most `w / 10 + 1` current frames and `w / 20 + 1` state reports, frames are 10 ms
    apart and reports 20 ms. The burst behind the loop is not meant. -/
theorem proxy_load (config : ProxyConfig) (hist : List LoopInput) (h : TurnsForward hist) :
    Spaced 10 (firings turnMs (triesFrame config) hist) ∧
    Spaced 20 (firings turnMs (sendsReport config) hist) ∧
    ∀ a w,
      ((firings turnMs (triesFrame config) hist).filter
        fun t => decide (a ≤ t ∧ t ≤ a + w)).length ≤ w / 10 + 1 ∧
      ((firings turnMs (sendsReport config) hist).filter
        fun t => decide (a ≤ t ∧ t ≤ a + w)).length ≤ w / 20 + 1 :=
  ⟨frames_spaced config h, reports_spaced config h, fun a w =>
    ⟨(frames_spaced config h).window (by decide) a w,
      (reports_spaced config h).window (by decide) a w⟩⟩

/-- Three turns 5 ms apart, with a command in the first: two frames are tried, not three. -/
theorem five_ms_turns_throttled :
    let turn : UInt64 → List Datagram → LoopInput := fun nowMs ds => ⟨nowMs, [], ds, true, nowMs⟩
    let hist := [turn 1010 [], turn 1005 [], turn 1000 [sampleCommand]]
    firings turnMs (triesFrame ⟨true, 2000⟩) hist = [1010, 1000] ∧
      Spaced 10 (firings turnMs (triesFrame ⟨true, 2000⟩) hist) := by
  intro turn hist
  have hclock : TurnsForward hist := by
    show List.Pairwise _ [turn 1010 [], turn 1005 [], turn 1000 [sampleCommand]]
    simp only [List.pairwise_cons, List.mem_cons, List.not_mem_nil, forall_eq_or_imp,
      false_imp_iff, implies_true, and_true, List.Pairwise.nil]
    decide
  exact ⟨by decide, (proxy_load ⟨true, 2000⟩ hist hclock).1⟩

end Rk3588Chassis.Proxy
