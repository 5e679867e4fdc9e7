/-
  File:      Rk3588Chassis/ProxyOnline.lean
  Subject:   Does the online mask of the proxy tell the truth?

  The loop reads its clock before it drains the feedback, and `drain_feedback` reads it again for
  every frame, so a stamp can be later than the `now` it is compared with. The controller's
  `elapsed_ms` saturates there; `online_mask` subtracts, and wraps.

  * `lastFeedbackMs_after` -- the time table is a keyed store of all frames drained
    (FeedbackPaths.lean);
  * `motorOnline_iff` -- the test of one motor, stamp by stamp;
  * `mask_true_iff` -- over whole runs: the mask is right exactly where no motor's last frame of
    a turn is stamped later than the turn.
-/
import Mathlib.Data.Fin.VecNotation
import Mathlib.Data.List.Infix
import Rk3588Chassis.FeedbackPaths
import Rk3588Chassis.ProxyBus

namespace Rk3588Chassis.Proxy

open Reactive Store

/-! ## 1. The clock -/

/-- The clock readings of a turn, in order: the loop's own, then one for every full frame. -/
def turnReadings (i : LoopInput) : List UInt64 :=
  i.nowMs :: (i.frames.filter fun f => decide (8 ≤ f.1.canDlc)).map Prod.snd

/-- The clock readings of a run, oldest first. -/
def readings : List LoopInput → List UInt64
  | [] => []
  | i :: hist => readings hist ++ turnReadings i

/-- All readings are positive and do not run backwards. -/
def FrameClock (hist : List LoopInput) : Prop :=
  (readings hist).Pairwise (fun earlier later => earlier ≤ later) ∧ ∀ t ∈ readings hist, t ≠ 0

/-- All frames drained, oldest first. -/
def drained : List LoopInput → List (CanFrame × UInt64)
  | [] => []
  | i :: hist => drained hist ++ i.frames

/-- The frames of motor `i` among some frames. -/
def believedFrom (i : Slot) (frames : List (CanFrame × UInt64)) : List (CanFrame × UInt64) :=
  frames.filter fun f => decide (Believed f.1 i)

theorem stamp_mem_turnReadings {i : LoopInput} {f : CanFrame × UInt64} (hf : f ∈ i.frames)
    {k : Slot} (hb : Believed f.1 k) : f.2 ∈ turnReadings i := by
  refine List.mem_cons_of_mem _ (List.mem_map.mpr ⟨f, List.mem_filter.mpr ⟨hf, ?_⟩, rfl⟩)
  exact decide_eq_true (dlc_full_iff.mpr hb.2.1)

/-- The stamp of a frame that was believed is a clock reading. -/
theorem stamp_mem_readings {k : Slot} {f : CanFrame × UInt64} (hb : Believed f.1 k) :
    ∀ {hist : List LoopInput}, f ∈ drained hist → f.2 ∈ readings hist
  | i :: hist, hf => by
    rcases List.mem_append.mp hf with h | h
    · exact List.mem_append_left _ (stamp_mem_readings hb h)
    · exact List.mem_append_right _ (stamp_mem_turnReadings h hb)

/-- No reading of earlier turns is later than the loop's own reading. -/
theorem FrameClock.le_now {i : LoopInput} {hist : List LoopInput} (h : FrameClock (i :: hist))
    {t : UInt64} (ht : t ∈ readings hist) : t ≤ i.nowMs :=
  (List.pairwise_append.mp h.1).2.2 t ht i.nowMs (List.mem_cons_self ..)

theorem FrameClock.suffix : ∀ {hist run : List LoopInput}, FrameClock run → hist <:+ run →
    FrameClock hist
  | hist, [], h, hs => by
    rw [List.suffix_nil.mp hs]
    exact h
  | hist, i :: run, h, hs => by
    rcases List.suffix_cons_iff.mp hs with rfl | hs
    · exact h
    · have hrun : FrameClock run :=
        ⟨(List.pairwise_append.mp h.1).1, fun t ht => h.2 t (List.mem_append_left _ ht)⟩
      exact hrun.suffix hs

/-! ## 2. The time table -/

theorem receiveDatagram_lastFeedbackMs (config : ProxyConfig) (nowMs : UInt64) (s : ProxyState)
    (d : Datagram) : (receiveDatagram config nowMs s d).lastFeedbackMs = s.lastFeedbackMs := by
  unfold receiveDatagram
  simp only
  cases parseHeader (recvfrom d).1 (recvfrom d).2 with
  | none => rfl
  | some header =>
    simp only
    split_ifs <;> rfl

/-- Packets do not touch the time table. -/
theorem receiveUdp_lastFeedbackMs (config : ProxyConfig) (nowMs : UInt64) (s : ProxyState)
    (ds : List Datagram) : (receiveUdp config nowMs s ds).lastFeedbackMs = s.lastFeedbackMs := by
  unfold receiveUdp
  induction ds generalizing s with
  | nil => rfl
  | cons d ds ih => exact (ih _).trans (receiveDatagram_lastFeedbackMs config nowMs s d)

theorem sendOrExpire_lastFeedbackMs (config : ProxyConfig) (s : LoopState) (nowMs : UInt64) :
    (sendOrExpire config s nowMs).1.proxy.lastFeedbackMs = s.proxy.lastFeedbackMs := by
  unfold sendOrExpire
  split
  · split <;> rfl
  · rfl

theorem reportState_lastFeedbackMs (s : LoopState) (nowMs stampMs : UInt64) :
    (reportState s nowMs stampMs).1.proxy.lastFeedbackMs = s.proxy.lastFeedbackMs := by
  unfold reportState sendChassisState
  split
  · split <;> rfl
  · rfl

/-- The proxy whose state a turn reports: feedback and packets processed, the command sent or
    expired. -/
def reported (config : ProxyConfig) (hist : List LoopInput) (i : LoopInput) : ProxyState :=
  (sendOrExpire config { (canProxy config).after hist with
    proxy := receive config ((canProxy config).after hist).proxy i } i.nowMs).1.proxy

theorem after_lastFeedbackMs (config : ProxyConfig) (hist : List LoopInput) (i : LoopInput) :
    ((canProxy config).after (i :: hist)).proxy.lastFeedbackMs =
      (reported config hist i).lastFeedbackMs :=
  reportState_lastFeedbackMs _ _ _

theorem drainFeedback_lastFeedbackMs (s : ProxyState) (frames : List (CanFrame × UInt64)) :
    (drainFeedback s frames).lastFeedbackMs =
      putAll stampWrite s.lastFeedbackMs (frames.map handOver) := by
  rw [drainFeedback_proxyStore, proxyStore_all]

/-- **The time table holds the stamps of all frames drained.** -/
theorem lastFeedbackMs_reported (config : ProxyConfig) (hist : List LoopInput) (i : LoopInput) :
    (reported config hist i).lastFeedbackMs =
      putAll stampWrite ((canProxy config).after hist).proxy.lastFeedbackMs
        (i.frames.map handOver) := by
  rw [reported, sendOrExpire_lastFeedbackMs]
  exact (receiveUdp_lastFeedbackMs _ _ _ _).trans (drainFeedback_lastFeedbackMs _ _)

theorem lastFeedbackMs_after (config : ProxyConfig) : ∀ hist,
    ((canProxy config).after hist).proxy.lastFeedbackMs =
      putAll stampWrite (fun _ => 0) ((drained hist).map handOver)
  | [] => rfl
  | i :: hist => by
    rw [after_lastFeedbackMs, lastFeedbackMs_reported, lastFeedbackMs_after config hist, drained,
      List.map_append]
    exact (List.foldl_append ..).symm

theorem fromMotor_handOver {i : Slot} {f : CanFrame × UInt64} :
    FromMotor i (handOver f).1 ↔ Believed f.1 i := by
  have hdlc : 8 ≤ (handOver f).1.dlc ↔ f.1.canDlc = 8 := dlc_full_iff
  exact ⟨fun h => ⟨h.1, hdlc.mp h.2.2, h.2.1⟩, fun h => ⟨h.1, h.2.2, hdlc.mpr h.2.1⟩⟩

/-- The stamps that frames write under motor `i`. -/
theorem writesAt_stamps (i : Slot) (frames : List (CanFrame × UInt64)) :
    writesAt stampWrite i (frames.map handOver) = (believedFrom i frames).map Prod.snd := by
  have hmap : writesAt stampWrite i (frames.map handOver) =
      (writesAt feedbackWrite i (frames.map handOver)).map Motor3508Feedback.lastUpdateMs :=
    writesAt_map feedbackWrite Motor3508Feedback.lastUpdateMs i _
  have hfilter : framesOf i (frames.map handOver) = (believedFrom i frames).map handOver := by
    rw [framesOf, List.filter_map]
    refine congrArg (List.map handOver) (List.filter_congr fun f _ => ?_)
    exact decide_eq_decide.mpr fromMotor_handOver
  rw [hmap, writesAt_feedback, hfilter, List.map_map, List.map_map]
  rfl

/-- The last frame of motor `i` in a history. -/
def lastFrame (i : Slot) (hist : List LoopInput) : Option (CanFrame × UInt64) :=
  (believedFrom i (drained hist)).getLast?

/-- The last frame of a history is the newest turn's, if that turn has one. -/
theorem lastFrame_cons (k : Slot) (i : LoopInput) (hist : List LoopInput) :
    lastFrame k (i :: hist) = (believedFrom k i.frames).getLast?.or (lastFrame k hist) := by
  rw [lastFrame, drained, believedFrom, List.filter_append, List.getLast?_append]
  rfl

/-- **The time table is the stamp of each motor's last frame**, 0 before the first. -/
theorem lastFeedbackMs_lastFrame (config : ProxyConfig) (hist : List LoopInput) (i : LoopInput)
    (k : Slot) : (reported config hist i).lastFeedbackMs k =
      ((lastFrame k (i :: hist)).map Prod.snd).getD 0 := by
  rw [← after_lastFeedbackMs, lastFeedbackMs_after, putAll_apply, writesAt_stamps, List.getLast?_map]
  rfl

/-! ## 3. The mask -/

/-- **Bit `k` of the mask is the test of motor `k + 1`.** -/
theorem onlineMask_testBit (s : ProxyState) (nowMs : UInt64) (k : Fin 4) :
    (onlineMask s nowMs).toNat.testBit k = motorOnline s nowMs k.succ := by
  have hmask : ∀ (b : Slot → Bool) (k : Fin 4), (motors.foldl (fun mask i =>
      if b i then mask ||| 1 <<< UInt16.ofNat (i.val - 1) else mask) (0 : UInt16)).toNat.testBit k =
        b k.succ := by
    intro b
    have hb : ∀ b1 b2 b3 b4 : Bool, ∀ k : Fin 4, ([(b1, 1), (b2, 2), (b3, 3), (b4, 4)].foldl
        (fun mask p => if p.1 then mask ||| 1 <<< UInt16.ofNat (p.2 - 1) else mask)
          (0 : UInt16)).toNat.testBit k = ![b1, b2, b3, b4] k := by decide
    have hk : ∀ k : Fin 4, ![b 1, b 2, b 3, b 4] k = b k.succ := fun
      | 0 => rfl
      | 1 => rfl
      | 2 => rfl
      | 3 => rfl
    exact fun k => (hb (b 1) (b 2) (b 3) (b 4) k).trans (hk k)
  exact hmask (motorOnline s nowMs) k

/-- Motor `k + 1` is fresh at `nowMs`: it has delivered a frame, and its last one no more than
    200 ms before; a frame stamped later than `nowMs` is fresh. -/
def Fresh (hist : List LoopInput) (nowMs : UInt64) (k : Fin 4) : Prop :=
  ∃ f, lastFrame k.succ hist = some f ∧ nowMs.toNat ≤ f.2.toNat + 200

/-- The mask a turn reports is right for all four motors. -/
def TruthfulTurn (config : ProxyConfig) (hist : List LoopInput) (i : LoopInput) : Prop :=
  ∀ k : Fin 4, (onlineMask (reported config hist i) i.nowMs).toNat.testBit k = true ↔
    Fresh (i :: hist) i.nowMs k

/-- The distance the code computes, as a number. -/
theorem sub_le_window {nowMs stampMs : UInt64} : nowMs - stampMs ≤ onlineWindowMs ↔
    (stampMs ≤ nowMs ∧ nowMs.toNat ≤ stampMs.toNat + 200) ∨
      (nowMs < stampMs ∧ 2 ^ 64 + nowMs.toNat ≤ stampMs.toNat + 200) := by
  have hwindow : onlineWindowMs.toNat = 200 := rfl
  have hnow := nowMs.toNat_lt
  have hstamp := stampMs.toNat_lt
  rw [UInt64.le_iff_toNat_le, UInt64.le_iff_toNat_le, UInt64.lt_iff_toNat_lt, UInt64.toNat_sub,
    hwindow]
  omega

/-- The test of one motor: with a frame delivered, the distance decides; without, it fails. -/
theorem motorOnline_iff {config : ProxyConfig} {hist : List LoopInput} {i : LoopInput}
    (hclock : FrameClock (i :: hist)) (k : Fin 4) :
    motorOnline (reported config hist i) i.nowMs k.succ = true ↔
      ∃ f, lastFrame k.succ (i :: hist) = some f ∧ i.nowMs - f.2 ≤ onlineWindowMs := by
  rw [motorOnline, lastFeedbackMs_lastFrame, Bool.and_eq_true, bne_iff_ne, decide_eq_true_eq]
  cases hlast : lastFrame k.succ (i :: hist) with
  | none =>
    refine iff_of_false (fun h => h.1 rfl) ?_
    rintro ⟨f, hf, _⟩
    cases hf
  | some f =>
    have hmem : f ∈ believedFrom k.succ (drained (i :: hist)) := List.mem_of_getLast? hlast
    obtain ⟨hdrained, hb⟩ := List.mem_filter.mp hmem
    have hpos : f.2 ≠ 0 := hclock.2 _ (stamp_mem_readings (of_decide_eq_true hb) hdrained)
    constructor
    · exact fun h => ⟨f, rfl, h.2⟩
    · rintro ⟨g, hg, hle⟩
      cases hg
      exact ⟨hpos, hle⟩

/-- No motor's last frame of the turn is stamped later than the turn, or if so, so much later
    that the difference wraps into the window again. -/
def NotAhead (i : LoopInput) : Prop :=
  ∀ k : Fin 4, ∀ f, (believedFrom k.succ i.frames).getLast? = some f →
    f.2 ≤ i.nowMs ∨ 2 ^ 64 + i.nowMs.toNat ≤ f.2.toNat + 200

/-- The last frame of a motor is the turn's, or else an earlier one and not ahead. -/
theorem lastFrame_cases {i : LoopInput} {hist : List LoopInput} (hclock : FrameClock (i :: hist))
    {k : Slot} {f : CanFrame × UInt64} (h : lastFrame k (i :: hist) = some f) :
    (believedFrom k i.frames).getLast? = some f ∨
      ((believedFrom k i.frames).getLast? = none ∧ f.2 ≤ i.nowMs) := by
  rw [lastFrame_cons] at h
  cases hturn : (believedFrom k i.frames).getLast? with
  | some g =>
    rw [hturn] at h
    exact Or.inl h
  | none =>
    rw [hturn, Option.none_or] at h
    obtain ⟨hdrained, hb⟩ := List.mem_filter.mp (List.mem_of_getLast? h)
    exact Or.inr ⟨rfl, hclock.le_now (stamp_mem_readings (of_decide_eq_true hb) hdrained)⟩

/-- One turn of a run. -/
theorem truthfulTurn_iff {config : ProxyConfig} {hist : List LoopInput} {i : LoopInput}
    (hclock : FrameClock (i :: hist)) : TruthfulTurn config hist i ↔ NotAhead i := by
  unfold TruthfulTurn NotAhead Fresh
  refine forall_congr' fun k => ?_
  rw [onlineMask_testBit, motorOnline_iff hclock]
  cases hlast : lastFrame k.succ (i :: hist) with
  | none =>
    rw [lastFrame_cons, Option.or_eq_none_iff] at hlast
    rw [hlast.1]
    simp only [reduceCtorEq, false_and, exists_false, false_imp_iff, implies_true]
  | some f =>
    simp only [Option.some.injEq, exists_eq_left', sub_le_window]
    rcases lastFrame_cases hclock hlast with hturn | ⟨hturn, hle⟩
    · simp only [hturn, Option.some.injEq, forall_eq']
      rw [UInt64.le_iff_toNat_le, UInt64.lt_iff_toNat_lt]
      omega
    · simp only [hturn, reduceCtorEq, false_imp_iff, implies_true, iff_true]
      rw [UInt64.le_iff_toNat_le] at hle
      rw [UInt64.le_iff_toNat_le, UInt64.lt_iff_toNat_lt]
      omega

/-! ## 4. Whole runs -/

/-- One full frame of motor 1, stamped `stampMs`, in a turn at 1000 ms. -/
def turnAt1000 (stampMs : UInt64) : LoopInput :=
  ⟨1000, [(feedbackFrame 0x201, stampMs)], [], true, 1001⟩

theorem turnAt1000_clock {stampMs : UInt64} (h : 1000 ≤ stampMs) :
    FrameClock [turnAt1000 stampMs] := by
  have hreadings : readings [turnAt1000 stampMs] = [1000, stampMs] := rfl
  unfold FrameClock
  rw [hreadings]
  refine ⟨List.pairwise_pair.mpr h, fun t ht => ?_⟩
  rcases List.mem_cons.mp ht with rfl | ht
  · decide
  · rintro rfl
    rw [← List.mem_singleton.mp ht] at h
    revert h
    decide

/-- **A frame one millisecond too fresh hides its motor**: the loop's clock says 1000, the frame
    is stamped 1001, and bit 0 is clear. -/
theorem early_now_hides_motor : FrameClock [turnAt1000 1001] ∧
    ¬ ∀ i hist, (i :: hist) <:+ [turnAt1000 1001] → TruthfulTurn ⟨false, 2000⟩ hist i := by
  refine ⟨turnAt1000_clock (by decide), fun h => ?_⟩
  have htruth := h _ _ (List.suffix_refl [turnAt1000 1001]) 0
  have hfresh : Fresh [turnAt1000 1001] (turnAt1000 1001).nowMs 0 :=
    ⟨(feedbackFrame 0x201, 1001), rfl, by decide⟩
  exact absurd (htruth.mpr hfresh) (by decide)

/-- **The mask tells the truth in every turn of a run exactly where no turn drains, as a motor's
    last frame, one stamped later than the turn.** -/
theorem mask_true_iff (config : ProxyConfig) (run : List LoopInput) (hclock : FrameClock run) :
    (∀ i hist, (i :: hist) <:+ run → TruthfulTurn config hist i) ↔ ∀ i ∈ run, NotAhead i := by
  constructor
  · intro htrue i hi
    obtain ⟨before, hist, rfl⟩ := List.append_of_mem hi
    have hsuffix : (i :: hist) <:+ before ++ i :: hist := List.suffix_append ..
    exact (truthfulTurn_iff (hclock.suffix hsuffix)).mp (htrue i hist hsuffix)
  · intro hahead i hist hsuffix
    have hi : NotAhead i := hahead i (hsuffix.subset (List.mem_cons_self ..))
    exact (truthfulTurn_iff (hclock.suffix hsuffix)).mpr hi

/-- Stamped in the millisecond of the turn, the same frame is shown. -/
theorem prompt_frame_shown : TruthfulTurn ⟨false, 2000⟩ [] (turnAt1000 1000) ∧
    (onlineMask (reported ⟨false, 2000⟩ [] (turnAt1000 1000)) 1000).toNat.testBit 0 = true := by
  have hnot : ∀ i ∈ [turnAt1000 1000], NotAhead i := by
    intro i hi k f hf
    rw [List.mem_singleton.mp hi] at hf ⊢
    have hmem := List.mem_of_getLast? hf
    have hf' : f = (feedbackFrame 0x201, 1000) :=
      List.mem_singleton.mp (List.mem_filter.mp hmem).1
    subst hf'
    exact Or.inl (by decide)
  have hclock : FrameClock [turnAt1000 1000] := turnAt1000_clock (UInt64.le_refl _)
  have htruth := (mask_true_iff ⟨false, 2000⟩ [turnAt1000 1000] hclock).mpr hnot _ _
    (List.suffix_refl _)
  refine ⟨htruth, (htruth 0).mpr ?_⟩
  exact ⟨(feedbackFrame 0x201, 1000), rfl, by decide⟩

end Rk3588Chassis.Proxy
