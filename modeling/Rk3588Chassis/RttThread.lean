/-
  File:      Rk3588Chassis/RttThread.lean
  Subject:   The bridge thread of RT-Thread (`rtthread_port/rtt_chassis_bridge.c`).

  `rtt_chassis_bridge_entry` never returns; it is a machine of single calls, so that the proxy may
  take its turns between any two of them. `Phase` is the place in the loop body, `bridgeStep` the
  next call and what follows it up to the one after. What `sendto` returns is ignored by the
  source: a packet it could not send is one the network has lost.

  * `heard_bridgeStep` -- what a call leaves of `last_state` and `rx_state_count`;
  * `Numbered`, `numbered_step` -- heartbeats carry odd numbers, commands the even number after.
-/
import Rk3588Chassis.Library.Link
import Rk3588Chassis.StateReport

namespace Rk3588Chassis.Rtt

open Bytes Reactive

/-! ## 1. State -/

/-- `RTT_BRIDGE_PRINT_PERIOD_MS`. -/
def rttBridgePrintPeriodMs : UInt32 := 1000

/-- The size of `packet` in the loop. -/
def receiveBufferSize : Nat := 128

/-- The place in the loop body: the call that comes next. -/
inductive Phase where
  | heartbeat
  | command
  | receive
  | print
  deriving DecidableEq

/-- The statics and locals that live through the loop. -/
structure BridgeThread where
  phase : Phase
  txSequence : UInt32
  lastState : RttChassisState
  lastPrintMs : UInt32
  rxStateCount : UInt32

/-- A zeroed `RttChassisState`. -/
def RttChassisState.zero : RttChassisState := ⟨fun _ => 0, fun _ => 0, fun _ => 0, 0, 0⟩

/-- The thread when its socket is bound. -/
def BridgeThread.initial : BridgeThread := ⟨.heartbeat, 0, .zero, 0, 0⟩

/-- The numbers that the loop prints. -/
structure StatusLine where
  states : UInt32
  online : UInt16
  rpm : Fin 4 → Int16

/-- What the environment answers to the next call: the memory a packet is built in, the first
    reading of the tick and a second one, and what `recvfrom` returns (`none` is -1). -/
structure CallInput where
  packet : Buffer
  tickMs : UInt64
  received : Option (List UInt8)
  printedMs : UInt64

/-- What a call hands to `sendto`, and what it prints. -/
structure CallOutput where
  sent : Option (List UInt8)
  printed : Option StatusLine

/-! ## 2. One call -/

/-- `recvfrom` into `packet`: at most its size is copied. -/
def recvfrom (bytes : List UInt8) : Buffer × Nat :=
  let copied := bytes.take receiveBufferSize
  (Buffer.ofList copied, copied.length)

/-- What the loop does with the result of `recvfrom`; the inner loop goes on while it is
    positive. -/
def receiveState (s : BridgeThread) (received : Option (List UInt8)) : BridgeThread :=
  match received with
  | none => { s with phase := .print }
  | some bytes =>
    let (packet, length) := recvfrom bytes
    if 0 < length then
      let (parsed, lastState) := parseChassisState packet length s.lastState
      { s with
        lastState := lastState
        rxStateCount := if parsed then s.rxStateCount + 1 else s.rxStateCount }
    else { s with phase := .print }

/-- One call of `rtt_chassis_bridge_entry`. -/
def bridgeStep (s : BridgeThread) (input : CallInput) : BridgeThread × CallOutput :=
  match s.phase with
  | .heartbeat =>
    let (txSequence, packet) := sendHeartbeat input.packet s.txSequence input.tickMs
    ({ s with txSequence := txSequence, phase := .command }, ⟨some packet, none⟩)
  | .command =>
    let (txSequence, packet) := sendZeroCurrentCommand input.packet s.txSequence input.tickMs
    ({ s with txSequence := txSequence, phase := .receive }, ⟨some packet, none⟩)
  | .receive => (receiveState s input.received, ⟨none, none⟩)
  | .print =>
    let s := { s with phase := .heartbeat }
    if rttBridgePrintPeriodMs ≤ monotonicMs32 input.tickMs - s.lastPrintMs then
      ({ s with lastPrintMs := monotonicMs32 input.printedMs },
        ⟨none, some ⟨s.rxStateCount, s.lastState.onlineMask, s.lastState.feedbackRpm⟩⟩)
    else (s, ⟨none, none⟩)

/-- `rtt_chassis_bridge_entry`, from the bound socket on. -/
def bridgeThread : Machine BridgeThread CallInput CallOutput where
  start := .initial
  step := bridgeStep

/-! ## 3. Starting it -/

/-- `rtt_chassis_bridge_start`: whether the thread exists afterwards, whether this call started
    it, and what it returns; `created` is the answer of `rt_thread_create`. -/
def rttChassisBridgeStart (rtError : Int) (running created : Bool) : Bool × Bool × Int :=
  if running then (true, false, 0)
  else if created then (true, true, 0)
  else (false, false, -rtError)

/-- The threads that a sequence of calls has started, by the answers of `rt_thread_create`. -/
def threadsStarted (rtError : Int) : Bool → List Bool → Nat
  | _, [] => 0
  | running, created :: calls =>
    let (running', started, _) := rttChassisBridgeStart rtError running created
    (if started then 1 else 0) + threadsStarted rtError running' calls

theorem threadsStarted_running (rtError : Int) (calls : List Bool) :
    threadsStarted rtError true calls = 0 := by
  induction calls with
  | nil => rfl
  | cons created calls ih => exact (Nat.zero_add _).trans ih

/-- **`main` and the shell may call it as often as they like**: one thread at most is started,
    and one is as soon as a call is given one. -/
theorem threadsStarted_eq (rtError : Int) (calls : List Bool) :
    threadsStarted rtError false calls = if true ∈ calls then 1 else 0 := by
  induction calls with
  | nil => rfl
  | cons created calls ih =>
    cases created with
    | false =>
      have hmem : true ∈ false :: calls ↔ true ∈ calls := by simp
      rw [if_congr hmem rfl rfl, ← ih]
      exact Nat.zero_add _
    | true =>
      rw [if_pos (List.mem_cons_self ..)]
      exact congrArg (1 + ·) (threadsStarted_running rtError calls)

/-! ## 4. What a call does -/

/-- What a call hears. -/
def heard (s : BridgeThread) (input : CallInput) : List (List UInt8) :=
  if s.phase = .receive then input.received.toList else []

/-- A state packet as it lies in the buffer. -/
def IsReport (bytes : List UInt8) : Prop := StatePacket (recvfrom bytes).1 (recvfrom bytes).2

/-- The fields of a packet. -/
def readReport (bytes : List UInt8) : RttChassisState := readState (recvfrom bytes).1

instance (bytes : List UInt8) : Decidable (IsReport bytes) :=
  inferInstanceAs (Decidable (_ ∧ _))

/-- **A state packet is believed and counted**, in the phase that listens. -/
theorem receive_report {s : BridgeThread} {bytes : List UInt8} (h : IsReport bytes) :
    receiveState s (some bytes) =
      { s with lastState := readReport bytes, rxStateCount := s.rxStateCount + 1 } := by
  have hlength : 0 < (recvfrom bytes).2 := by
    rw [h.1]
    decide
  unfold receiveState
  simp only [hlength, if_true, parseChassisState_accepts h]
  rfl

/-- Anything else is neither. -/
theorem receive_other {s : BridgeThread} {received : Option (List UInt8)}
    (h : ∀ bytes, received = some bytes → ¬ IsReport bytes) :
    (receiveState s received).lastState = s.lastState ∧
      (receiveState s received).rxStateCount = s.rxStateCount := by
  unfold receiveState
  cases received with
  | none => exact ⟨rfl, rfl⟩
  | some bytes =>
    have hreject := parseChassisState_rejects (h bytes rfl) s.lastState
    simp only
    split
    · rw [hreject]
      exact ⟨rfl, rfl⟩
    · exact ⟨rfl, rfl⟩

/-- **What a call leaves of `last_state` and `rx_state_count`**: the report it hears, or what they
    were. -/
theorem heard_bridgeStep (s : BridgeThread) (input : CallInput) :
    (∃ bytes, heard s input = [bytes] ∧ IsReport bytes ∧
      (bridgeStep s input).1.lastState = readReport bytes ∧
      (bridgeStep s input).1.rxStateCount = s.rxStateCount + 1) ∨
    ((∀ bytes ∈ heard s input, ¬ IsReport bytes) ∧
      (bridgeStep s input).1.lastState = s.lastState ∧
      (bridgeStep s input).1.rxStateCount = s.rxStateCount) := by
  unfold bridgeStep heard
  cases hphase : s.phase with
  | heartbeat => exact Or.inr ⟨fun _ hb => absurd hb List.not_mem_nil, rfl, rfl⟩
  | command => exact Or.inr ⟨fun _ hb => absurd hb List.not_mem_nil, rfl, rfl⟩
  | print =>
    refine Or.inr ⟨fun _ hb => absurd hb List.not_mem_nil, ?_⟩
    simp only
    split <;> exact ⟨rfl, rfl⟩
  | receive =>
    simp only [if_true]
    cases hreceived : input.received with
    | none =>
      exact Or.inr ⟨fun _ hb => absurd hb List.not_mem_nil, receive_other fun _ h => nomatch h⟩
    | some bytes =>
      by_cases hreport : IsReport bytes
      · refine Or.inl ⟨bytes, rfl, hreport, ?_⟩
        rw [receive_report hreport]
        exact ⟨rfl, rfl⟩
      · refine Or.inr ⟨fun b hb => ?_, receive_other fun b hb => ?_⟩
        · rwa [← Option.some.inj (Option.mem_toList.mp hb)]
        · rwa [← Option.some.inj hb]

/-- The reports a run has heard, newest first. -/
def reportsHeard (calls : List CallInput) : List (List UInt8) :=
  (bridgeThread.heard heard calls).filter fun bytes => decide (IsReport bytes)

/-- **What RT-Thread holds for the state of the chassis is the newest report it has heard**, and it
    has counted them all. -/
theorem believes_newest (calls : List CallInput) :
    (bridgeThread.after calls).lastState =
      ((reportsHeard calls).head?.map readReport).getD .zero ∧
    (bridgeThread.after calls).rxStateCount = UInt32.ofNat (reportsHeard calls).length := by
  induction calls with
  | nil => exact ⟨rfl, rfl⟩
  | cons input calls ih =>
    have hcons : reportsHeard (input :: calls) =
        ((heard (bridgeThread.after calls) input).reverse.filter fun bytes =>
          decide (IsReport bytes)) ++ reportsHeard calls := List.filter_append ..
    rw [hcons]
    rcases heard_bridgeStep (bridgeThread.after calls) input with
      ⟨bytes, hheard, hreport, hlast, hcount⟩ | ⟨hnone, hlast, hcount⟩
    · rw [hheard, List.reverse_singleton, List.filter_singleton, decide_eq_true hreport]
      refine ⟨hlast, hcount.trans ?_⟩
      rw [ih.2]
      exact (UInt32.ofNat_add ..).symm
    · have hempty : ((heard (bridgeThread.after calls) input).reverse.filter fun bytes =>
          decide (IsReport bytes)) = [] := by
        rw [List.filter_eq_nil_iff]
        intro bytes hb
        rw [decide_eq_true_eq]
        exact hnone bytes (List.mem_reverse.mp hb)
      rw [hempty]
      exact ⟨hlast.trans ih.1, hcount.trans ih.2⟩

/-! ## 5. What is sent -/

/-- The two packets that RT-Thread sends, with their numbers. -/
inductive Sent : UInt32 → List UInt8 → Prop where
  | heartbeat (packet : Buffer) (txSequence : UInt32) (tickMs : UInt64) :
      txSequence % 2 = 0 → Sent (txSequence + 1) (sendHeartbeat packet txSequence tickMs).2
  | command (packet : Buffer) (txSequence : UInt32) (tickMs : UInt64) :
      txSequence % 2 = 1 → Sent (txSequence + 1) (sendZeroCurrentCommand packet txSequence tickMs).2

/-- The number in hand is odd between a heartbeat and its command, and even otherwise. -/
def Numbered (s : BridgeThread) : Prop := s.txSequence % 2 = if s.phase = .command then 1 else 0

theorem succ_mod_two (n : UInt32) : (n + 1) % 2 = 1 - n % 2 := by
  apply UInt32.toNat_inj.mp
  have hn := n.toNat_lt
  have hone : (1 - n % 2 : UInt32).toNat = 1 - n.toNat % 2 := by
    rw [UInt32.toNat_sub_of_le, UInt32.toNat_mod]
    · rfl
    · rw [UInt32.le_iff_toNat_le, UInt32.toNat_mod]
      exact Nat.le_of_lt_succ (Nat.mod_lt _ (by decide))
  rw [hone, UInt32.toNat_mod, UInt32.toNat_add]
  show (n.toNat + 1) % 2 ^ 32 % 2 = _
  omega

/-- **A call keeps the numbers in step, and sends the next one if it sends.** -/
theorem numbered_step {s : BridgeThread} (h : Numbered s) (input : CallInput) :
    Numbered (bridgeStep s input).1 ∧ ∀ bytes, (bridgeStep s input).2.sent = some bytes →
      Sent (s.txSequence + 1) bytes ∧ (bridgeStep s input).1.txSequence = s.txSequence + 1 := by
  unfold Numbered at h ⊢
  unfold bridgeStep
  cases hphase : s.phase with
  | heartbeat =>
    rw [hphase] at h
    refine ⟨?_, fun bytes hsent => ?_⟩
    · show (s.txSequence + 1) % 2 = 1
      rw [succ_mod_two, h]
      decide
    · cases hsent
      exact ⟨.heartbeat _ _ _ h, rfl⟩
  | command =>
    rw [hphase] at h
    refine ⟨?_, fun bytes hsent => ?_⟩
    · show (s.txSequence + 1) % 2 = 0
      rw [succ_mod_two, h]
      decide
    · cases hsent
      exact ⟨.command _ _ _ h, rfl⟩
  | receive =>
    rw [hphase] at h
    refine ⟨?_, fun bytes hsent => nomatch hsent⟩
    show (receiveState s input.received).txSequence % 2 =
      if (receiveState s input.received).phase = .command then 1 else 0
    unfold receiveState
    cases input.received with
    | none => exact h
    | some bytes =>
      simp only
      split
      · simp only [hphase]
        exact h
      · exact h
  | print =>
    rw [hphase] at h
    simp only
    split <;> exact ⟨h, fun bytes hsent => nomatch hsent⟩

/-- A call that sends nothing takes no number. -/
theorem silent_step {s : BridgeThread} {input : CallInput}
    (h : (bridgeStep s input).2.sent = none) :
    (bridgeStep s input).1.txSequence = s.txSequence := by
  unfold bridgeStep at h ⊢
  cases hphase : s.phase with
  | heartbeat =>
    rw [hphase] at h
    cases h
  | command =>
    rw [hphase] at h
    cases h
  | receive =>
    show (receiveState s input.received).txSequence = s.txSequence
    unfold receiveState
    cases input.received with
    | none => rfl
    | some bytes =>
      simp only
      split <;> rfl
  | print =>
    simp only
    split <;> rfl

/-- The packets of a run, newest first. -/
def packetsSent (calls : List CallInput) : List (List UInt8) :=
  bridgeThread.said (fun output => output.sent.toList) calls

/-- Nothing else is sent. -/
theorem sent_of_mem {calls : List CallInput} {bytes : List UInt8} (h : bytes ∈ packetsSent calls) :
    ∃ n, Sent n bytes := by
  have hstart : Numbered bridgeThread.start := rfl
  refine Machine.said_forall (P := fun bytes => ∃ n, Sent n bytes) hstart
    (fun s input hs => ?_) calls bytes h
  obtain ⟨hnext, hsent⟩ := numbered_step hs input
  exact ⟨hnext, fun b hb => ⟨_, (hsent b (Option.mem_toList.mp hb)).1⟩⟩

/-- **The packets of a run carry the numbers 1, 2, 3, ..**: odd for heartbeats, even for commands,
    and `tx_sequence` is their number. -/
theorem packets_numbered (calls : List CallInput) :
    List.Forall₂ Sent (countdown (packetsSent calls).length) (packetsSent calls) ∧
    (bridgeThread.after calls).txSequence = UInt32.ofNat (packetsSent calls).length ∧
    Numbered (bridgeThread.after calls) := by
  induction calls with
  | nil => exact ⟨List.Forall₂.nil, rfl, rfl⟩
  | cons input calls ih =>
    obtain ⟨hpackets, hlast, hnumbered⟩ := ih
    obtain ⟨hnumbered', hsent⟩ := numbered_step hnumbered input
    have hcons : packetsSent (input :: calls) =
        (bridgeStep (bridgeThread.after calls) input).2.sent.toList ++ packetsSent calls := rfl
    have hafter : (bridgeThread.after (input :: calls)).txSequence =
        (bridgeStep (bridgeThread.after calls) input).1.txSequence := rfl
    rw [hcons, hafter]
    cases hbytes : (bridgeStep (bridgeThread.after calls) input).2.sent with
    | none =>
      rw [silent_step hbytes]
      exact ⟨hpackets, hlast, hnumbered'⟩
    | some bytes =>
      obtain ⟨hnext, hnumber⟩ := hsent bytes hbytes
      have hsucc : UInt32.ofNat (packetsSent calls).length + 1 =
          UInt32.ofNat ((packetsSent calls).length + 1) := (UInt32.ofNat_add ..).symm
      rw [hlast] at hnext hnumber
      rw [Option.toList_some, List.singleton_append, List.length_cons, countdown_succ, ← hsucc]
      exact ⟨List.Forall₂.cons hnext hpackets, hnumber, hnumbered'⟩

end Rk3588Chassis.Rtt
