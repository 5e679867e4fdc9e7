/-
  File:      Rk3588Chassis/ProxyBus.lean
  Subject:   What the proxy puts on the bus, as a function of what it was sent: where the rules
             of `docs/rtt_bridge_protocol.md` for current frames hold and where they do not.

  * `commandActive`, `sendSlot`, `newestOrder` -- the send branch read off the inputs alone;
  * `attempted_currents` -- under a forward clock a turn writes the newest order's currents in a
    send slot, and nothing otherwise;
  * `quiet_iff_withdrawn` -- the expire branch clears memory and writes nothing, so the bus is
    left with zeros exactly where the peer withdrew its command in time;
  * `covered_iff_fresh` -- the send branch does not look at the feedback, so non-zero frames are
    covered by fresh feedback exactly where the inputs happen to see to it.
-/
import Mathlib.Data.List.Infix
import Rk3588Chassis.ProxySafety

namespace Rk3588Chassis.Proxy

open Reactive

/-! ## 1. The send branch, read off the inputs -/

/-- A current command is active: allowed, accepted, and not older than its own timeout. -/
def commandActive (config : ProxyConfig) (hist : List LoopInput) (nowMs : UInt64) : Bool :=
  config.allowCurrent && match newestCommand (orders hist) with
    | none => false
    | some a => decide (nowMs.toNat ≤ a.atMs.toNat + a.timeout)

/-- The time of the last send slot, 0 before the first: a turn with an active command, not
    sooner than 10 ms after the slot before it. -/
def lastSlot (config : ProxyConfig) : List LoopInput → Nat
  | [] => 0
  | i :: hist =>
    if commandActive config (i :: hist) i.nowMs && decide (lastSlot config hist + 10 ≤ i.nowMs.toNat)
    then i.nowMs.toNat else lastSlot config hist

/-- The turn `i` after `hist` is a send slot. -/
def sendSlot (config : ProxyConfig) (hist : List LoopInput) (i : LoopInput) : Bool :=
  commandActive config (i :: hist) i.nowMs && decide (lastSlot config hist + 10 ≤ i.nowMs.toNat)

/-- The newest order processed. -/
def newestOrder (hist : List LoopInput) : Option Order := (orders hist).head?.map Prod.fst

/-- The currents an order asks for, clamped. -/
def orderCurrents (config : ProxyConfig) : Order → Fin 4 → Int16
  | .estop => fun _ => 0
  | .command payload => commandCurrents config payload

/-! ## 2. The memory of a turn -/

/-- An active command needs `--allow-current` and some order processed. -/
theorem order_of_active {config : ProxyConfig} {hist : List LoopInput} {nowMs : UInt64}
    (h : commandActive config hist nowMs = true) :
    config.allowCurrent = true ∧ ∃ o, (orders hist).head? = some o := by
  rw [commandActive, Bool.and_eq_true] at h
  refine ⟨h.1, ?_⟩
  cases hn : orders hist with
  | nil =>
    rw [hn] at h
    cases h.2
  | cons o os => exact ⟨o, rfl⟩

section Turn

variable {config : ProxyConfig} {hist : List LoopInput} {i : LoopInput}
  (hclock : LoopClock (i :: hist))
include hclock

/-- **The live test is the active command.** -/
theorem live_eq_active : (midTurn config hist i.nowMs i.frames i.datagrams).cell.live config i.nowMs =
    commandActive config (i :: hist) i.nowMs := by
  have hr := remembers_midTurn config hist i.nowMs i.frames i.datagrams
  cases hallow : config.allowCurrent with
  | false => simp only [CommandCell.live, commandActive, hallow, Bool.false_and]
  | true =>
    have hgrant := lastGrant_leaseLogAt hallow hist i.nowMs i.datagrams
    unfold commandActive
    rw [hallow, Bool.true_and]
    cases hn : newestCommand (orders (i :: hist)) with
    | none =>
      have hnone : lastGrant (leaseLogAt config hist i.nowMs i.datagrams) = none :=
        hgrant.trans (congrArg (Option.map Accepted.lease) hn)
      rw [CommandCell.live, hr.fresh hnone]
      simp only [bne_self_eq_false, Bool.and_false, Bool.false_and]
    | some a =>
      have hsome : lastGrant (leaseLogAt config hist i.nowMs i.datagrams) = some a.lease :=
        hgrant.trans (congrArg (Option.map Accepted.lease) hn)
      obtain ⟨hle, hpos⟩ := hclock.grantsBy i.datagrams _ hsome
      rw [Bool.eq_iff_iff, live_iff (hr.granted _ hsome) hle hpos, decide_eq_true_eq]
      rfl

/-- **In an active turn memory holds the newest order's currents.** -/
theorem currents_of_active (hactive : commandActive config (i :: hist) i.nowMs = true) :
    ∃ order, newestOrder (i :: hist) = some order ∧ ∀ k : Fin 4,
      (midTurn config hist i.nowMs i.frames i.datagrams).currentCommand k.succ =
        orderCurrents config order k := by
  have hlive := (live_eq_active hclock).trans hactive
  obtain ⟨hallow, ⟨order, t⟩, ho⟩ := order_of_active hactive
  refine ⟨order, congrArg (Option.map Prod.fst) ho, fun k => ?_⟩
  have hlatest := latestLease_leaseLogAt config hist i.nowMs i.datagrams
  have ho' : (batchOrders i.nowMs i.datagrams ++ orders hist).head? = some (order, t) := ho
  rw [ho', Option.bind_some] at hlatest
  cases order with
  | estop =>
    -- the stop revoked the lease, so nothing moves
    by_contra hk
    obtain ⟨_, a', hhead, _⟩ := ordered_of_moving ⟨k.succ, hk⟩
    rw [ho'] at hhead
    cases hhead
  | command p =>
    rw [orderLease, if_pos hallow] at hlatest
    have hr := remembers_midTurn config hist i.nowMs i.frames i.datagrams
    have hsome := lastGrant_of_latestLease hlatest
    obtain ⟨hle, hpos⟩ := hclock.grantsBy i.datagrams _ hsome
    have hdead := (live_iff (hr.granted _ hsome) hle hpos).mp hlive
    have hheld := held_of_latestLease hdead (hclock.ticks_le i.datagrams) hlatest
    exact recalls_midTurn_of (recalls_after config hist hclock.tail) i.nowMs i.frames i.datagrams
      _ hheld k

end Turn

/-! ## 3. The frame limiter -/

/-- A slot is the time of some turn, or none has come yet. -/
theorem lastSlot_le {config : ProxyConfig} {nowMs : UInt64} :
    ∀ {hist : List LoopInput}, (∀ j ∈ hist, j.nowMs ≤ nowMs) →
      lastSlot config hist ≤ nowMs.toNat
  | [], _ => Nat.zero_le _
  | i :: hist, h => by
    have ih : lastSlot config hist ≤ nowMs.toNat :=
      lastSlot_le fun j hj => h j (List.mem_cons_of_mem i hj)
    have hi := UInt64.le_iff_toNat_le.mp (h i (List.mem_cons_self ..))
    unfold lastSlot
    split
    · exact hi
    · exact ih

/-- What a turn does to the time of the last frame. -/
theorem after_lastCurrentMs (config : ProxyConfig) (hist : List LoopInput) (i : LoopInput) :
    ((canProxy config).after (i :: hist)).lastCurrentMs =
      if (midTurn config hist i.nowMs i.frames i.datagrams).cell.live config i.nowMs = true ∧
        currentPeriodMs ≤ i.nowMs - ((canProxy config).after hist).lastCurrentMs
      then i.nowMs else ((canProxy config).after hist).lastCurrentMs :=
  (reportState_lastCurrentMs _ _ _).trans
    (sendOrExpire_frame config { (canProxy config).after hist with
      proxy := midTurn config hist i.nowMs i.frames i.datagrams } i.nowMs).2

/-- The test of the send branch is the send slot, if the limiter is where it should be. -/
theorem slot_iff {config : ProxyConfig} {hist : List LoopInput} {i : LoopInput}
    (hclock : LoopClock (i :: hist)) {lastMs : UInt64}
    (hlast : lastMs.toNat = lastSlot config hist) :
    ((midTurn config hist i.nowMs i.frames i.datagrams).cell.live config i.nowMs = true ∧
      currentPeriodMs ≤ i.nowMs - lastMs) ↔ sendSlot config hist i = true := by
  have hle : lastSlot config hist ≤ i.nowMs.toNat := lastSlot_le fun j hj => hclock.le hj
  have hle' : lastMs ≤ i.nowMs := by
    rw [UInt64.le_iff_toNat_le, hlast]
    exact hle
  have hsub := UInt64.toNat_sub_of_le _ _ hle'
  have hperiod : currentPeriodMs ≤ i.nowMs - lastMs ↔ lastSlot config hist + 10 ≤ i.nowMs.toNat := by
    have hten : currentPeriodMs.toNat = 10 := rfl
    rw [UInt64.le_iff_toNat_le, hsub, hten, hlast]
    omega
  rw [live_eq_active hclock, hperiod, sendSlot, Bool.and_eq_true, decide_eq_true_eq]

/-- **The limiter remembers the last slot.** -/
theorem lastCurrentMs_eq (config : ProxyConfig) : ∀ hist, LoopClock hist →
    ((canProxy config).after hist).lastCurrentMs.toNat = lastSlot config hist
  | [], _ => rfl
  | i :: hist, h => by
    have ih := lastCurrentMs_eq config hist h.tail
    rw [after_lastCurrentMs, apply_ite UInt64.toNat, ih]
    have hslot := slot_iff h ih
    by_cases hs : sendSlot config hist i = true
    · rw [if_pos (hslot.mpr hs)]
      exact (if_pos hs).symm
    · rw [if_neg (mt hslot.mp hs)]
      exact (if_neg hs).symm

/-- **What a turn tries to write, read off the inputs**: the newest order's currents, in a send
    slot. -/
theorem attempted_currents (config : ProxyConfig) {hist : List LoopInput} {i : LoopInput}
    (hclock : LoopClock (i :: hist)) :
    ((canProxy config).answer hist i).attempted.map (fun frame => frameCurrent frame.data) =
      if sendSlot config hist i then (newestOrder (i :: hist)).map (orderCurrents config)
      else none := by
  have hslot := slot_iff hclock (lastCurrentMs_eq config hist hclock.tail)
  rw [attempted_eq]
  by_cases hs : sendSlot config hist i = true
  · have hactive : commandActive config (i :: hist) i.nowMs = true := by
      rw [sendSlot, Bool.and_eq_true] at hs
      exact hs.1
    obtain ⟨order, horder, hwords⟩ := currents_of_active hclock hactive
    rw [if_pos (hslot.mpr hs), if_pos hs, horder, Option.map_some, Option.map_some]
    refine congrArg some (funext fun k => ?_)
    exact (frameCurrent_pack _ k).trans (hwords k)
  · rw [if_neg (mt hslot.mp hs), if_neg hs]
    rfl

/-! ## 4. The last frame on the bus -/

/-- The most recent 0x200 frame the loop has written to the bus. -/
def lastWritten (config : ProxyConfig) : List LoopInput → Option CanFrame
  | [] => none
  | i :: hist => ((canProxy config).answer hist i).written.or (lastWritten config hist)

/-- The newest order at the last send slot whose write succeeded. -/
def lastOrderWritten (config : ProxyConfig) : List LoopInput → Option Order
  | [] => none
  | i :: hist =>
    if sendSlot config hist i && i.canWriteOk then newestOrder (i :: hist)
    else lastOrderWritten config hist

/-- A slot has an order to write. -/
theorem newestOrder_of_sendSlot {config : ProxyConfig} {hist : List LoopInput} {i : LoopInput}
    (h : sendSlot config hist i = true) : ∃ order, newestOrder (i :: hist) = some order := by
  rw [sendSlot, Bool.and_eq_true] at h
  obtain ⟨_, o, ho⟩ := order_of_active h.1
  exact ⟨o.1, congrArg (Option.map Prod.fst) ho⟩

/-- **What a turn writes, read off the inputs.** -/
theorem written_currents (config : ProxyConfig) {hist : List LoopInput} {i : LoopInput}
    (hclock : LoopClock (i :: hist)) :
    ((canProxy config).answer hist i).written.map (fun frame => frameCurrent frame.data) =
      if sendSlot config hist i && i.canWriteOk then
        (newestOrder (i :: hist)).map (orderCurrents config)
      else none := by
  have hwritten : ((canProxy config).answer hist i).written =
      if i.canWriteOk then ((canProxy config).answer hist i).attempted else none := rfl
  rw [hwritten]
  cases i.canWriteOk with
  | true =>
    rw [Bool.and_true]
    exact attempted_currents config hclock
  | false =>
    rw [Bool.and_false]
    rfl

/-- **The last frame on the bus carries the last order written.** -/
theorem lastWritten_currents (config : ProxyConfig) : ∀ hist, LoopClock hist →
    (lastWritten config hist).map (fun frame => frameCurrent frame.data) =
      (lastOrderWritten config hist).map (orderCurrents config)
  | [], _ => rfl
  | i :: hist, h => by
    have ih := lastWritten_currents config hist h.tail
    rw [lastWritten, lastOrderWritten, Option.map_or, ih, written_currents config h]
    by_cases hs : (sendSlot config hist i && i.canWriteOk) = true
    · obtain ⟨order, horder⟩ := newestOrder_of_sendSlot (Bool.and_eq_true_iff.mp hs).1
      rw [if_pos hs, if_pos hs, horder]
      rfl
    · rw [if_neg hs, if_neg hs]
      rfl

/-! ## 5. Zeros after a command has lapsed -/

/-- The order asks for no motion. -/
def Order.Still (config : ProxyConfig) (order : Order) : Prop :=
  ∀ k, orderCurrents config order k = 0

/-- The turn leaves the bus quiet: if no command is active at its end, the most recent frame on
    the bus, if there is one, carries four zeros. -/
def QuietTurn (config : ProxyConfig) (hist : List LoopInput) (i : LoopInput) : Prop :=
  commandActive config (i :: hist) i.nowMs = false →
    ∀ frame, lastWritten config (i :: hist) = some frame → ∀ k, frameCurrent frame.data k = 0

/-- The peer withdrew its command in time: if no command is active in the turn, the newest order
    at the last send slot before it (among those whose write succeeded) was an emergency stop
    or a command of zeros. -/
def WithdrawnTurn (config : ProxyConfig) (hist : List LoopInput) (i : LoopInput) : Prop :=
  commandActive config (i :: hist) i.nowMs = false →
    ∀ order, lastOrderWritten config hist = some order → Order.Still config order

/-- A turn without an active command is no send slot. -/
theorem lastOrderWritten_inactive {config : ProxyConfig} {hist : List LoopInput} {i : LoopInput}
    (h : commandActive config (i :: hist) i.nowMs = false) :
    lastOrderWritten config (i :: hist) = lastOrderWritten config hist := by
  rw [lastOrderWritten, sendSlot, h, Bool.false_and, Bool.false_and]
  rfl

/-- Two options that agree after a map agree about what all their elements satisfy. -/
theorem forall_some_iff_of_map_eq {α β γ : Type} {f : α → γ} {g : β → γ} {x : Option α}
    {y : Option β} (h : x.map f = y.map g) (P : γ → Prop) :
    (∀ a, x = some a → P (f a)) ↔ ∀ b, y = some b → P (g b) := by
  cases x with
  | none =>
    cases y with
    | none =>
      constructor <;> intro _ _ hx <;> cases hx
    | some b => cases h
  | some a =>
    cases y with
    | none => cases h
    | some b =>
      have hfg : f a = g b := Option.some_inj.mp h
      constructor
      · intro hP b' hb'
        cases hb'
        rw [← hfg]
        exact hP a rfl
      · intro hP a' ha'
        cases ha'
        rw [hfg]
        exact hP b rfl

/-- One turn of a run. -/
theorem quietTurn_iff {config : ProxyConfig} {hist : List LoopInput} {i : LoopInput}
    (hclock : LoopClock (i :: hist)) : QuietTurn config hist i ↔ WithdrawnTurn config hist i := by
  unfold QuietTurn WithdrawnTurn
  refine imp_congr_right fun hinactive => ?_
  rw [← lastOrderWritten_inactive hinactive]
  exact forall_some_iff_of_map_eq (lastWritten_currents config _ hclock) fun c => ∀ k, c k = 0

theorem LoopClock.suffix {hist run : List LoopInput} (h : LoopClock run) (hs : hist <:+ run) :
    LoopClock hist :=
  ⟨h.1.sublist hs.sublist, fun i hi => h.2 i (hs.subset hi)⟩

/-- A command at 1000 ms that the peer then lets lapse (newest turn first). -/
def lapsedRun : List LoopInput :=
  [⟨1200, [], [], true, 1200⟩, ⟨1000, [], [sampleCommand], true, 1000⟩]

theorem lapsedRun_clock : LoopClock lapsedRun := by
  unfold LoopClock
  decide

/-- **A lapsed command stays on the bus**: at 1200 ms nothing is active, and the most recent
    frame still carries 500 for each motor. -/
theorem lapsed_command_stays : LoopClock lapsedRun ∧
    ¬ ∀ i hist, (i :: hist) <:+ lapsedRun → QuietTurn ⟨true, 2000⟩ hist i := by
  refine ⟨lapsedRun_clock, fun h => ?_⟩
  have hquiet := h _ _ (List.suffix_refl lapsedRun) rfl
  have hlast : (lastWritten ⟨true, 2000⟩ lapsedRun).map (fun frame => frameCurrent frame.data 0) =
      some 500 := by decide
  rw [Option.map_eq_some_iff] at hlast
  obtain ⟨frame, hframe, hword⟩ := hlast
  rw [hquiet frame hframe 0] at hword
  revert hword
  decide

/-- **When the bus is left with zeros.** Over every run under a forward clock: every turn
    without an active command has a last frame of four zeros exactly if, before every such turn,
    the peer had withdrawn its command by the last send slot. The expire branch itself writes
    nothing. -/
theorem quiet_iff_withdrawn (config : ProxyConfig) (run : List LoopInput)
    (hclock : LoopClock run) :
    (∀ i hist, (i :: hist) <:+ run → QuietTurn config hist i) ↔
      ∀ i hist, (i :: hist) <:+ run → WithdrawnTurn config hist i :=
  forall_congr' fun _ => forall_congr' fun _ => imp_congr_right fun hs =>
    quietTurn_iff (hclock.suffix hs)

/-- The same command, withdrawn by an emergency stop while it could still be sent. -/
def withdrawnRun : List LoopInput :=
  [⟨1200, [], [], true, 1200⟩, ⟨1020, [], [sampleEstop], true, 1020⟩,
    ⟨1000, [], [sampleCommand], true, 1000⟩]

theorem withdrawnRun_clock : LoopClock withdrawnRun := by
  unfold LoopClock
  decide

/-- Its only turn without an active command is the last, and the slot before it wrote the
    emergency stop. -/
theorem withdrawnRun_withdrawn : ∀ i hist, (i :: hist) <:+ withdrawnRun →
    WithdrawnTurn ⟨true, 2000⟩ hist i := by
  refine forall_turn_cons.mpr ⟨fun _ order horder k => ?_, forall_turn_cons.mpr
    ⟨fun hinactive => absurd hinactive (by decide), forall_turn_cons.mpr
      ⟨fun hinactive => absurd hinactive (by decide), forall_turn_nil⟩⟩⟩
  have hestop : lastOrderWritten ⟨true, 2000⟩ [⟨1020, [], [sampleEstop], true, 1020⟩,
      ⟨1000, [], [sampleCommand], true, 1000⟩] = some .estop := rfl
  rw [hestop] at horder
  cases horder
  rfl

/-- It leaves zeros on the bus. -/
theorem withdrawn_run_is_quiet : ∃ frame, lastWritten ⟨true, 2000⟩ withdrawnRun = some frame ∧
    (fun k => frameCurrent frame.data k) = fun _ => 0 := by
  have hquiet := (quiet_iff_withdrawn ⟨true, 2000⟩ withdrawnRun withdrawnRun_clock).mpr
    withdrawnRun_withdrawn _ _ (List.suffix_refl withdrawnRun) rfl
  have hlast : (lastWritten ⟨true, 2000⟩ withdrawnRun).isSome = true := by decide
  obtain ⟨frame, hframe⟩ := Option.isSome_iff_exists.mp hlast
  exact ⟨frame, hframe, funext (hquiet frame hframe)⟩

/-! ## 6. Feedback behind every current -/

/-- Motor `i` has delivered a valid feedback frame no more than 200 ms before `nowMs`. -/
def FreshFeedback (hist : List LoopInput) (i : Slot) (nowMs : UInt64) : Prop :=
  ∃ turn ∈ hist, ∃ f ∈ turn.frames, Believed f.1 i ∧ nowMs.toNat ≤ f.2.toNat + 200

/-- If the turn writes a non-zero current, all four motors have delivered in time. -/
def CoveredTurn (config : ProxyConfig) (hist : List LoopInput) (i : LoopInput) : Prop :=
  ∀ frame, ((canProxy config).answer hist i).written = some frame →
    (∃ k, frameCurrent frame.data k ≠ 0) →
    ∀ k : Fin 4, FreshFeedback (i :: hist) k.succ i.nowMs

/-- If the turn is a send slot whose write succeeds and its newest order asks for motion, all
    four motors have delivered in time. -/
def FreshTurn (config : ProxyConfig) (hist : List LoopInput) (i : LoopInput) : Prop :=
  (sendSlot config hist i && i.canWriteOk) = true →
    ∀ order, newestOrder (i :: hist) = some order → ¬ Order.Still config order →
    ∀ k : Fin 4, FreshFeedback (i :: hist) k.succ i.nowMs

/-- One turn of a run. -/
theorem coveredTurn_iff {config : ProxyConfig} {hist : List LoopInput} {i : LoopInput}
    (hclock : LoopClock (i :: hist)) : CoveredTurn config hist i ↔ FreshTurn config hist i := by
  have hwritten := written_currents config hclock
  unfold CoveredTurn FreshTurn
  by_cases hs : (sendSlot config hist i && i.canWriteOk) = true
  · rw [if_pos hs] at hwritten
    have hiff := forall_some_iff_of_map_eq hwritten fun c => (∃ k, c k ≠ 0) →
      ∀ k : Fin 4, FreshFeedback (i :: hist) k.succ i.nowMs
    simp only [Order.Still, not_forall, hs, true_imp_iff]
    exact hiff
  · rw [if_neg hs, Option.map_eq_none_iff] at hwritten
    refine iff_of_true (fun frame hframe => ?_) fun hslot => absurd hslot hs
    rw [hwritten] at hframe
    cases hframe

/-- **The feedback is not looked at**: the first turn of the run above writes 500 for each motor
    although no motor has ever delivered a frame. -/
theorem current_without_feedback : LoopClock lapsedRun ∧
    ¬ ∀ i hist, (i :: hist) <:+ lapsedRun → CoveredTurn ⟨true, 2000⟩ hist i := by
  refine ⟨lapsedRun_clock, fun h => ?_⟩
  have hfirst : ([⟨1000, [], [sampleCommand], true, 1000⟩] : List LoopInput) <:+ lapsedRun :=
    List.suffix_cons _ _
  have hcovered := h _ _ hfirst
  have hword : ((canProxy ⟨true, 2000⟩).answer [] ⟨1000, [], [sampleCommand], true, 1000⟩).written.map
      (fun frame => frameCurrent frame.data 0) = some 500 := by decide
  rw [Option.map_eq_some_iff] at hword
  obtain ⟨frame, hframe, hzero⟩ := hword
  have hmoves : frameCurrent frame.data 0 ≠ 0 := by
    rw [hzero]
    decide
  obtain ⟨turn, hturn, f, hf, _⟩ := hcovered frame hframe ⟨0, hmoves⟩ 0
  rw [List.mem_singleton.mp hturn] at hf
  cases hf

/-- **When every non-zero current is covered by fresh feedback.** Over every run under a
    forward clock: exactly if, at every send slot whose write succeeds and whose newest order
    asks for motion, all four motors happen to have delivered a frame within 200 ms. -/
theorem covered_iff_fresh (config : ProxyConfig) (run : List LoopInput) (hclock : LoopClock run) :
    (∀ i hist, (i :: hist) <:+ run → CoveredTurn config hist i) ↔
      ∀ i hist, (i :: hist) <:+ run → FreshTurn config hist i :=
  forall_congr' fun _ => forall_congr' fun _ => imp_congr_right fun hs =>
    coveredTurn_iff (hclock.suffix hs)

/-- A feedback frame of the motor with this identifier. -/
def feedbackFrame (canId : UInt32) : CanFrame := ⟨canId, 8, fun _ => 0, fullDlc_le⟩

/-- A turn in which every motor has delivered, and the command comes. -/
def freshTurn : LoopInput :=
  ⟨1000, [(feedbackFrame 0x201, 1000), (feedbackFrame 0x202, 1000), (feedbackFrame 0x203, 1001),
    (feedbackFrame 0x204, 1001)], [sampleCommand], true, 1000⟩

theorem freshTurn_fresh : ∀ i hist, (i :: hist) <:+ [freshTurn] →
    FreshTurn ⟨true, 2000⟩ hist i := by
  refine forall_turn_cons.mpr ⟨fun _ order _ _ k => ?_, forall_turn_nil⟩
  have hall : ∀ j : Fin 4, ∃ f ∈ freshTurn.frames,
      Believed f.1 j.succ ∧ freshTurn.nowMs.toNat ≤ f.2.toNat + 200 := by decide
  exact ⟨freshTurn, List.mem_cons_self .., hall k⟩

/-- Its current is covered, for motor 4 too. -/
theorem fresh_turn_is_covered : ∃ frame,
    ((canProxy ⟨true, 2000⟩).answer [] freshTurn).written = some frame ∧
      frameCurrent frame.data 0 = 500 ∧ FreshFeedback [freshTurn] 4 1000 := by
  have hclock : LoopClock [freshTurn] := by
    unfold LoopClock
    decide
  have hcovered := (covered_iff_fresh ⟨true, 2000⟩ [freshTurn] hclock).mpr freshTurn_fresh _ _
    (List.suffix_refl [freshTurn])
  have hword : ((canProxy ⟨true, 2000⟩).answer [] freshTurn).written.map
      (fun frame => frameCurrent frame.data 0) = some 500 := by decide
  rw [Option.map_eq_some_iff] at hword
  obtain ⟨frame, hframe, hword⟩ := hword
  have hmoves : ∃ k, frameCurrent frame.data k ≠ 0 := ⟨0, by rw [hword]; decide⟩
  exact ⟨frame, hframe, hword, hcovered frame hframe hmoves 3⟩

end Rk3588Chassis.Proxy
