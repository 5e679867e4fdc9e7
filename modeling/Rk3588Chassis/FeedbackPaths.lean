/-
  File:      Rk3588Chassis/FeedbackPaths.lean
  Subject:   Three copies of the feedback update: the bench tools (`tools/monitor_3508.c`,
             `tools/test_speed_pid.c`), the daemon and the proxy.

  Each is given here as what it does to one frame handed over by `socketcan_receive`:
  `benchStore`, `daemonStore`, `Proxy.proxyStore`. All three are the same keyed store
  (Library/Store.lean): a frame writes its decoding under its motor (`feedbackWrite`).

  * `writesAt_feedback` -- what a run of frames writes under a motor: that motor's frames,
    decoded;
  * `feedback_paths_agree` -- so the three end with the same slots, and only the order of each
    motor's own frames matters.
-/
import Rk3588Chassis.Daemon
import Rk3588Chassis.Library.Store
import Rk3588Chassis.Proxy

set_option linter.unusedSectionVars false

namespace Rk3588Chassis

open Bytes CFloat Store

/-! ## 1. What a frame says -/

/-- A big-endian two's-complement word. -/
def signedWord (high low : UInt8) : Int := (256 * high.toNat + low.toNat : Int).bmod 65536

/-- The slot is the decoding of motor `i`'s data bytes, received at `atMs`. -/
structure ReadsAs (slot : Motor3508Feedback) (i : Slot) (data : Fin 8 → UInt8) (atMs : UInt64) :
    Prop where
  id : slot.id.toNat = i.val
  angle : slot.angle.toInt = signedWord (data 0) (data 1)
  speedRpm : slot.speedRpm.toInt = signedWord (data 2) (data 3)
  current : slot.current.toInt = signedWord (data 4) (data 5)
  temperature : slot.temperature.toInt = ((data 6).toNat : Int).bmod 256
  lastUpdateMs : slot.lastUpdateMs = atMs
  online : slot.online = 1

theorem bytesToI16_toInt (high low : UInt8) :
    (bytesToI16 high low).toInt = signedWord high low := by
  have hbits : (bytesToI16 high low).toInt = (bytesToI16 high low).toBitVec.toInt := rfl
  have hword : (bytesToI16 high low).toBitVec.toNat = (joinU16 high low).toNat := rfl
  rw [hbits, BitVec.toInt_eq_toNat_bmod, hword, joinU16_toNat]
  unfold signedWord
  push_cast
  rfl

/-- **The decoding is what the wire says.** -/
theorem decodeFeedback_reads (i : Slot) (data : Fin 8 → UInt8) (atMs : UInt64) :
    ReadsAs (decodeFeedback i data atMs) i data atMs where
  id := by
    have hid : ∀ j : Slot, (UInt8.ofNat j.val).toNat = j.val := by decide
    exact hid i
  angle := bytesToI16_toInt _ _
  speedRpm := bytesToI16_toInt _ _
  current := bytesToI16_toInt _ _
  temperature := BitVec.toInt_eq_toNat_bmod _
  lastUpdateMs := rfl
  online := rfl

/-- A received frame with the clock reading taken for it. -/
abbrev Reception := Received × UInt64

/-- A full frame with motor `i`'s identifier. -/
def FromMotor (i : Slot) (r : Received) : Prop :=
  i ≠ 0 ∧ r.canId = 0x200 + UInt32.ofNat i.val ∧ 8 ≤ r.dlc

instance (i : Slot) (r : Received) : Decidable (FromMotor i r) :=
  inferInstanceAs (Decidable (_ ∧ _))

/-- The frames of motor `i`, in order. -/
def framesOf (i : Slot) (frames : List Reception) : List Reception :=
  frames.filter fun f => decide (FromMotor i f.1)

/-- A frame belongs to one motor at most. -/
theorem FromMotor.unique {i j : Slot} {r : Received} (hi : FromMotor i r) (hj : FromMotor j r) :
    i = j :=
  feedbackId_injective (hi.2.1.symm.trans hj.2.1)

/-- What all three paths do first: test the length, parse. -/
def acceptFeedback (f : Reception) : Option Motor3508Feedback :=
  if 8 ≤ f.1.dlc then motor3508ParseFeedback f.1.canId f.1.data f.2 else none

theorem acceptFeedback_motor {i : Slot} {f : Reception} (h : FromMotor i f.1) :
    acceptFeedback f = some (decodeFeedback i f.1.data f.2) := by
  obtain ⟨hi, hid, hdlc⟩ := h
  rw [acceptFeedback, if_pos hdlc, hid]
  exact parse_motor hi _ _

/-- **A frame of no motor is dropped**, whichever of its fields is to blame. -/
theorem acceptFeedback_foreign {f : Reception} (h : ∀ i, ¬ FromMotor i f.1) :
    acceptFeedback f = none := by
  by_cases hdlc : 8 ≤ f.1.dlc
  · have hr : ¬ (f.1.canId < 0x201 || 0x204 < f.1.canId) = false := fun hr => by
      obtain ⟨i, hi, hid⟩ := feedbackId_iff.mp hr
      exact h i ⟨hi, hid, hdlc⟩
    rw [acceptFeedback, if_pos hdlc]
    exact if_pos (Bool.eq_true_of_not_eq_false hr)
  · exact if_neg hdlc

/-- What a frame writes, and under which motor. -/
def feedbackWrite (f : Reception) : Option (Slot × Motor3508Feedback) :=
  (acceptFeedback f).map fun feedback => (slotOf feedback.id, feedback)

theorem slotOf_motor (i : Slot) : slotOf (UInt8.ofNat i.val) = i := by
  revert i
  decide

theorem feedbackWrite_motor {i : Slot} {f : Reception} (h : FromMotor i f.1) :
    feedbackWrite f = some (i, decodeFeedback i f.1.data f.2) := by
  have hslot : slotOf (decodeFeedback i f.1.data f.2).id = i := slotOf_motor i
  rw [feedbackWrite, acceptFeedback_motor h, Option.map_some, hslot]

theorem feedbackWrite_foreign {f : Reception} (h : ∀ i, ¬ FromMotor i f.1) :
    feedbackWrite f = none := by
  rw [feedbackWrite, acceptFeedback_foreign h, Option.map_none]

/-- **What a run of frames writes under motor `i`**: motor `i`'s frames, decoded. -/
theorem writesAt_feedback (i : Slot) (frames : List Reception) :
    writesAt feedbackWrite i frames =
      (framesOf i frames).map fun f => decodeFeedback i f.1.data f.2 := by
  induction frames with
  | nil => rfl
  | cons f frames ih =>
    rw [writesAt_cons, ih]
    unfold framesOf
    rw [List.filter_cons]
    by_cases h : FromMotor i f.1
    · have hwrite : writeAt feedbackWrite i f = some (decodeFeedback i f.1.data f.2) := by
        rw [writeAt, feedbackWrite_motor h, Option.bind_some, if_pos rfl]
      rw [hwrite, if_pos (decide_eq_true h)]
      rfl
    · have hwrite : writeAt feedbackWrite i f = none := by
        by_cases hsome : ∃ j, FromMotor j f.1
        · obtain ⟨j, hj⟩ := hsome
          have hji : j ≠ i := fun e => h (e ▸ hj)
          rw [writeAt, feedbackWrite_motor hj, Option.bind_some, if_neg hji]
        · rw [writeAt, feedbackWrite_foreign (not_exists.mp hsome), Option.bind_none]
      rw [hwrite, if_neg fun hd => h (of_decide_eq_true hd)]
      rfl

/-! ## 2. The three paths -/

/-- The bench tools: `if (dlc >= 8U) motor3508_update_feedback(can_id, data, feedbacks, now);`. -/
def benchStore (feedbacks : Slot → Motor3508Feedback) (f : Reception) : Slot → Motor3508Feedback :=
  if 8 ≤ f.1.dlc then (motor3508UpdateFeedback f.1.canId f.1.data feedbacks f.2).1 else feedbacks

/-- What is left of a raw frame when `socketcan_receive` has handed it over, into a zeroed
    buffer. -/
def handOver (f : CanFrame × UInt64) : Reception := (socketcanReceive f.1 fun _ => 0, f.2)

/-- **The bench tools are a keyed store.** -/
theorem benchStore_put (feedbacks : Slot → Motor3508Feedback) (f : Reception) :
    benchStore feedbacks f = put feedbackWrite feedbacks f := by
  unfold benchStore put feedbackWrite acceptFeedback motor3508UpdateFeedback
  by_cases hdlc : 8 ≤ f.1.dlc
  · rw [if_pos hdlc, if_pos hdlc]
    cases motor3508ParseFeedback f.1.canId f.1.data f.2 <;> rfl
  · rw [if_neg hdlc, if_neg hdlc]
    rfl

theorem benchStore_all (feedbacks : Slot → Motor3508Feedback) (frames : List Reception) :
    frames.foldl benchStore feedbacks = putAll feedbackWrite feedbacks frames :=
  congrArg (fun step => frames.foldl step feedbacks)
    (funext fun table => funext fun f => benchStore_put table f)

section Daemon

variable {F : Type} [Zero F] [Neg F] [Add F] [Sub F] [Mul F] [Div F] [LT F] [LE F] [BEq F]
  [DecidableLT F] [DecidableLE F] [CFloat F]

/-- The daemon: parse, then `chassis_update_feedback`. -/
def daemonStore (controller : ChassisController F) (f : Reception) : ChassisController F :=
  if 8 ≤ f.1.dlc then
    match motor3508ParseFeedback f.1.canId f.1.data f.2 with
    | none => controller
    | some feedback => chassisUpdateFeedback controller feedback
  else controller

/-- **The daemon is the same store**, and touches nothing but the slots. -/
theorem daemonStore_put (c : ChassisController F) (f : Reception) :
    daemonStore c f = { c with feedback := put feedbackWrite c.feedback f } := by
  have hmatch : daemonStore c f = match acceptFeedback f with
      | none => c
      | some feedback => chassisUpdateFeedback c feedback := by
    unfold daemonStore acceptFeedback
    by_cases hdlc : 8 ≤ f.1.dlc
    · rw [if_pos hdlc, if_pos hdlc]
    · rw [if_neg hdlc, if_neg hdlc]
  rw [hmatch]
  by_cases h : ∃ i, FromMotor i f.1
  · obtain ⟨i, hi⟩ := h
    simp only [acceptFeedback_motor hi, put, feedbackWrite_motor hi]
    exact chassisUpdateFeedback_motor c hi.1 rfl
  · simp only [acceptFeedback_foreign (not_exists.mp h), put, feedbackWrite_foreign (not_exists.mp h)]

theorem daemonStore_all (c : ChassisController F) (frames : List Reception) :
    frames.foldl daemonStore c = { c with feedback := putAll feedbackWrite c.feedback frames } := by
  induction frames generalizing c with
  | nil => rfl
  | cons f frames ih =>
    rw [List.foldl_cons, ih, daemonStore_put]
    rfl

/-- **The drain loop of the daemon is this path**, on what is handed over. -/
theorem drainFeedback_daemonStore (c : ChassisController F) (stats : DaemonStats)
    (pending : List (CanFrame × UInt64)) :
    (drainFeedback c stats pending).1 = (pending.map handOver).foldl daemonStore c := by
  unfold drainFeedback
  induction pending generalizing c stats with
  | nil => rfl
  | cons f pending ih =>
    have hstep : (drainFrame c stats f.1 f.2).1 = daemonStore c (handOver f) := by
      unfold drainFrame receiveFeedback daemonStore handOver
      simp only
      split_ifs with hdlc
      · cases motor3508ParseFeedback (socketcanReceive f.1 fun _ => 0).canId
          (socketcanReceive f.1 fun _ => 0).data f.2 <;> rfl
      · rfl
    rw [List.foldl_cons, List.map_cons, List.foldl_cons, ← hstep]
    exact ih _ _

end Daemon

namespace Proxy

/-- The proxy: parse, then store into the table and its time table. -/
def proxyStore (state : ProxyState) (f : Reception) : ProxyState :=
  if 8 ≤ f.1.dlc then
    match motor3508ParseFeedback f.1.canId f.1.data f.2 with
    | none => state
    | some feedback =>
      { state with
        feedback := Function.update state.feedback (slotOf feedback.id) feedback
        lastFeedbackMs :=
          Function.update state.lastFeedbackMs (slotOf feedback.id) feedback.lastUpdateMs }
  else state

/-- The time stamp a frame writes beside its decoding. -/
def stampWrite (f : Reception) : Option (Slot × UInt64) :=
  (feedbackWrite f).map fun w => (w.1, w.2.lastUpdateMs)

/-- **The proxy is the same store**, with a second table for the time stamps. -/
theorem proxyStore_put (s : ProxyState) (f : Reception) :
    proxyStore s f =
      { s with
        feedback := put feedbackWrite s.feedback f
        lastFeedbackMs := put stampWrite s.lastFeedbackMs f } := by
  unfold proxyStore put stampWrite feedbackWrite acceptFeedback
  by_cases hdlc : 8 ≤ f.1.dlc
  · rw [if_pos hdlc, if_pos hdlc]
    cases motor3508ParseFeedback f.1.canId f.1.data f.2 <;> rfl
  · rw [if_neg hdlc, if_neg hdlc]
    rfl

theorem proxyStore_all (s : ProxyState) (frames : List Reception) :
    frames.foldl proxyStore s =
      { s with
        feedback := putAll feedbackWrite s.feedback frames
        lastFeedbackMs := putAll stampWrite s.lastFeedbackMs frames } := by
  induction frames generalizing s with
  | nil => rfl
  | cons f frames ih =>
    rw [List.foldl_cons, ih, proxyStore_put]
    rfl

/-- **The drain loop of the proxy is this path**, on what is handed over. -/
theorem drainFeedback_proxyStore (s : ProxyState) (pending : List (CanFrame × UInt64)) :
    drainFeedback s pending = (pending.map handOver).foldl proxyStore s := by
  have hstep : ∀ s f, drainFrame s f.1 f.2 = proxyStore s (handOver f) := by
    intro s f
    unfold drainFrame receiveFeedback proxyStore handOver
    simp only
    split_ifs with hdlc
    · rfl
    · rfl
  rw [List.foldl_map]
  exact congrArg (fun step => pending.foldl step s) (funext fun s => funext fun f => hstep s f)

end Proxy

/-! ## 3. Order -/

/-- Two runs of frames with the same frames of each motor, each motor's in the same order. -/
def SameFrames (frames frames' : List Reception) : Prop :=
  ∀ k : Fin 4, framesOf k.succ frames = framesOf k.succ frames'

/-- **Only each motor's own order matters.** -/
theorem writesAt_congr {frames frames' : List Reception} (h : SameFrames frames frames') (i : Slot) :
    writesAt feedbackWrite i frames = writesAt feedbackWrite i frames' := by
  rw [writesAt_feedback, writesAt_feedback]
  refine Fin.cases ?_ (fun k => congrArg _ (h k)) i
  -- no frame is from entry 0
  have hnone : ∀ l, framesOf 0 l = [] := fun l =>
    List.filter_eq_nil_iff.mpr fun f _ hf => (of_decide_eq_true hf).1 rfl
  rw [hnone, hnone]

theorem putAll_frames_congr {frames frames' : List Reception} (h : SameFrames frames frames')
    (table : Slot → Motor3508Feedback) :
    putAll feedbackWrite table frames = putAll feedbackWrite table frames' :=
  putAll_congr (writesAt_congr h) table

theorem putAll_stamps_congr {frames frames' : List Reception} (h : SameFrames frames frames')
    (table : Slot → UInt64) :
    putAll Proxy.stampWrite table frames = putAll Proxy.stampWrite table frames' := by
  refine putAll_congr (fun i => ?_) table
  have hmap : ∀ l, writesAt Proxy.stampWrite i l =
      (writesAt feedbackWrite i l).map Motor3508Feedback.lastUpdateMs :=
    writesAt_map feedbackWrite Motor3508Feedback.lastUpdateMs i
  rw [hmap, hmap, writesAt_congr h]

/-- The slot after a run of frames: the last frame of its motor, or what was there. -/
theorem putAll_reads (table : Slot → Motor3508Feedback) (frames : List Reception) (i : Slot) :
    match (framesOf i frames).getLast? with
    | none => putAll feedbackWrite table frames i = table i
    | some f => ReadsAs (putAll feedbackWrite table frames i) i f.1.data f.2 := by
  rw [putAll_apply, writesAt_feedback, List.getLast?_map]
  cases (framesOf i frames).getLast? with
  | none => rfl
  | some f => exact decodeFeedback_reads i f.1.data f.2

section Events

variable {F : Type} [Zero F] [Neg F] [Add F] [Sub F] [Mul F] [Div F] [LT F] [LE F] [BEq F]
  [DecidableLT F] [DecidableLE F] [CFloat F]

/-- A frame, or a `chassis_set_command` call between two frames. -/
inductive DaemonEvent (F : Type) where
  | frame (f : Reception)
  | setCommand (forward strafe rotate : F) (nowMs : UInt64)

/-- What an event does to the daemon's controller. -/
def daemonEvent (controller : ChassisController F) : DaemonEvent F → ChassisController F
  | .frame f => daemonStore controller f
  | .setCommand forward strafe rotate nowMs =>
    chassisSetCommand controller forward strafe rotate nowMs

/-- The frame of an event, if it is one. -/
def DaemonEvent.frame? : DaemonEvent F → Option Reception
  | .frame f => some f
  | .setCommand .. => none

/-- The command an event leaves behind, and its time. -/
def DaemonEvent.command? : DaemonEvent F → Option (ChassisCommand F × UInt64)
  | .frame _ => none
  | .setCommand forward strafe rotate nowMs =>
    some (⟨clampFloat forward (-ofRat 1) (ofRat 1), clampFloat strafe (-ofRat 1) (ofRat 1),
      clampFloat rotate (-ofRat 1) (ofRat 1)⟩, nowMs)

/-- The newest command of a run of events, or what was there. -/
def lastCommand (cell : ChassisCommand F × UInt64) (events : List (DaemonEvent F)) :
    ChassisCommand F × UInt64 :=
  (events.filterMap DaemonEvent.command?).getLast?.getD cell

theorem lastCommand_cons (cell : ChassisCommand F × UInt64) (e : DaemonEvent F)
    (events : List (DaemonEvent F)) :
    lastCommand cell (e :: events) = lastCommand (e.command?.getD cell) events := by
  unfold lastCommand
  rw [List.filterMap_cons]
  cases e.command? with
  | none => rfl
  | some w =>
    cases events.filterMap DaemonEvent.command? with
    | nil => rfl
    | cons v vs => simp only [List.getLast?_cons, Option.getD_some]

/-- **Frames and commands do not meet**: the frames decide about the slots, the newest command
    about the rest. -/
theorem daemonEvents_apart (c : ChassisController F) (events : List (DaemonEvent F)) :
    events.foldl daemonEvent c =
      { c with
        feedback := putAll feedbackWrite c.feedback (events.filterMap DaemonEvent.frame?)
        command := (lastCommand (c.command, c.lastCommandMs) events).1
        lastCommandMs := (lastCommand (c.command, c.lastCommandMs) events).2 } := by
  induction events generalizing c with
  | nil => rfl
  | cons e events ih =>
    rw [List.foldl_cons, ih, lastCommand_cons]
    cases e with
    | frame f =>
      have hstep : daemonEvent c (.frame f) =
          { c with feedback := put feedbackWrite c.feedback f } := daemonStore_put c f
      rw [hstep]
      rfl
    | setCommand f s r t => rfl

/-- A frame of no motor changes nothing on any path. -/
theorem foreign_frame_ignored {f : Reception}
    (hf : f.1.canId < 0x201 ∨ 0x204 < f.1.canId ∨ f.1.dlc < 8) (start : Slot → Motor3508Feedback)
    (c : ChassisController F) (s : Proxy.ProxyState) :
    benchStore start f = start ∧ daemonStore c f = c ∧ Proxy.proxyStore s f = s := by
  have hforeign : ∀ i, ¬ FromMotor i f.1 := by
    intro i hi
    have hrange := feedbackId_bounds hi.1 hi.2.1
    rcases hf with h | h | h
    · exact hrange.1 h
    · exact hrange.2 h
    · exact UInt8.not_lt.mpr hi.2.2 h
  have hwrite := feedbackWrite_foreign hforeign
  refine ⟨?_, ?_, ?_⟩
  · rw [benchStore_put]
    simp only [put, hwrite]
  · rw [daemonStore_put]
    simp only [put, hwrite]
  · rw [Proxy.proxyStore_put]
    simp only [put, hwrite, Proxy.stampWrite, Option.map_none]

/-- **The three feedback paths agree.** For every run of received frames and every starting
    table: the daemon and the proxy end with the slots of the bench tools. A motor's slot is the
    decoding of its last frame, or its starting value if there was none. Frames of no motor
    change nothing; runs with the same frames of each motor, in any order between motors, leave
    the same final state, and so do events interleaved in any way with the same commands. The
    drain loops do what is said here, on what `socketcan_receive` hands over. -/
theorem feedback_paths_agree (c : ChassisController F) (s : Proxy.ProxyState)
    (start : Slot → Motor3508Feedback) (frames : List Reception) :
    let bench := frames.foldl benchStore start
    let daemon := frames.foldl daemonStore { c with feedback := start }
    let proxy := frames.foldl Proxy.proxyStore { s with feedback := start }
    (daemon.feedback = bench ∧ proxy.feedback = bench) ∧
    (∀ k : Fin 4, match (framesOf k.succ frames).getLast? with
      | none => bench k.succ = start k.succ
      | some f => ReadsAs (bench k.succ) k.succ f.1.data f.2) ∧
    (∀ frames', SameFrames frames frames' → frames'.foldl benchStore start = bench ∧
      frames'.foldl daemonStore { c with feedback := start } = daemon ∧
      frames'.foldl Proxy.proxyStore { s with feedback := start } = proxy) ∧
    (∀ events events' : List (DaemonEvent F),
      SameFrames (events.filterMap DaemonEvent.frame?) (events'.filterMap DaemonEvent.frame?) →
      events.filterMap DaemonEvent.command? = events'.filterMap DaemonEvent.command? →
      events.foldl daemonEvent c = events'.foldl daemonEvent c) ∧
    (∀ f : Reception, f.1.canId < 0x201 ∨ 0x204 < f.1.canId ∨ f.1.dlc < 8 →
      benchStore start f = start ∧ daemonStore c f = c ∧ Proxy.proxyStore s f = s) ∧
    (∀ pending stats, (drainFeedback c stats pending).1 = (pending.map handOver).foldl daemonStore c ∧
      Proxy.drainFeedback s pending = (pending.map handOver).foldl Proxy.proxyStore s) := by
  intro bench daemon proxy
  have hbench : ∀ l : List Reception, l.foldl benchStore start = putAll feedbackWrite start l :=
    benchStore_all start
  have hdaemon : ∀ l : List Reception, l.foldl daemonStore { c with feedback := start } =
      { c with feedback := putAll feedbackWrite start l } := daemonStore_all _
  have hproxy : ∀ l : List Reception, l.foldl Proxy.proxyStore { s with feedback := start } =
      { s with
        feedback := putAll feedbackWrite start l
        lastFeedbackMs := putAll Proxy.stampWrite s.lastFeedbackMs l } := Proxy.proxyStore_all _
  refine ⟨⟨?_, ?_⟩, fun k => ?_, fun frames' h => ⟨?_, ?_, ?_⟩, fun events events' hf hc => ?_,
    fun f hf => ?_, fun pending stats =>
      ⟨drainFeedback_daemonStore c stats pending, Proxy.drainFeedback_proxyStore s pending⟩⟩
  · exact (congrArg ChassisController.feedback (hdaemon frames)).trans (hbench frames).symm
  · exact (congrArg Proxy.ProxyState.feedback (hproxy frames)).trans (hbench frames).symm
  · rw [show bench = _ from hbench frames]
    exact putAll_reads start frames k.succ
  · exact (hbench frames').trans ((putAll_frames_congr h start).symm.trans (hbench frames).symm)
  · refine (hdaemon frames').trans (Eq.trans ?_ (hdaemon frames).symm)
    rw [putAll_frames_congr h]
  · refine (hproxy frames').trans (Eq.trans ?_ (hproxy frames).symm)
    rw [putAll_frames_congr h, putAll_stamps_congr h]
  · rw [daemonEvents_apart, daemonEvents_apart, putAll_frames_congr hf, lastCommand, lastCommand, hc]
  · exact foreign_frame_ignored hf start c s

end Events

end Rk3588Chassis
