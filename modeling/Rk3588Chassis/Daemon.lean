/-
  File:      Rk3588Chassis/Daemon.lean
  Subject:   The feedback path of the daemon (`tools/chassis_daemon.c`): which raw CAN frames
             reach a feedback slot.

  `drainFrame` is one turn of `drain_feedback`, `drainFeedback` the loop over everything that is
  pending. A frame is `Genuine` if it is what a motor sends: a standard data frame with a
  feedback identifier and eight bytes.

  The socket layer masks the identifier to eleven bits BEFORE the parser tests its range, and so
  drops the flag bits the test would need: `drainFrame_genuine_iff` says for which frames that
  does no harm.
-/
import Rk3588Chassis.ControlIsolation

set_option linter.unusedSectionVars false

namespace Rk3588Chassis

open CFloat Reactive

/-! ## 1. The drain loop -/

/-- `DaemonStats`. -/
structure DaemonStats where
  startMs : UInt64
  feedbackCount : Slot → UInt64
  udpCommandCount : UInt64
  invalidCommandCount : UInt64
  onlineDropCount : UInt64
  lastOnline : Int

section Drain

variable {F : Type} [Zero F] [Neg F] [Add F] [Sub F] [Mul F] [Div F] [LT F] [LE F] [BEq F]
  [DecidableLT F] [DecidableLE F] [CFloat F]

/-- One turn of `drain_feedback`, on a frame that was pending; `stampMs` is the clock reading
    taken for it. -/
def drainFrame (controller : ChassisController F) (stats : DaemonStats) (frame : CanFrame)
    (stampMs : UInt64) : ChassisController F × DaemonStats :=
  match receiveFeedback frame stampMs with
  | none => (controller, stats)
  | some feedback =>
    let count := stats.feedbackCount (slotOf feedback.id)
    (chassisUpdateFeedback controller feedback,
      { stats with
        feedbackCount := Function.update stats.feedbackCount (slotOf feedback.id) (count + 1) })

/-- `drain_feedback`: every pending frame, with the clock reading taken for it. -/
def drainFeedback (controller : ChassisController F) (stats : DaemonStats)
    (pending : List (CanFrame × UInt64)) : ChassisController F × DaemonStats :=
  pending.foldl (fun s f => drainFrame s.1 s.2 f.1 f.2) (controller, stats)

/-- **The drain loop is how frames reach the `vehicle` machine.** -/
theorem drainFrame_vehicle (memory : ChassisController F) (config : ChassisConfig F)
    (initMs : UInt64) (c : ChassisController F) (stats : DaemonStats) (frame : CanFrame)
    (stampMs : UInt64) : (drainFrame c stats frame stampMs).1 =
      ((vehicle memory config initMs).step c (.frame frame stampMs)).1 := by
  simp only [drainFrame, vehicle, VehicleOp.controlOp]
  cases receiveFeedback frame stampMs with
  | none => rfl
  | some fb => rfl

/-- So a whole drain is a run of it. -/
theorem drainFeedback_vehicle (memory : ChassisController F) (config : ChassisConfig F)
    (initMs : UInt64) (hist : List (VehicleOp F)) (stats : DaemonStats)
    (pending : List (CanFrame × UInt64)) :
    (drainFeedback ((vehicle memory config initMs).after hist) stats pending).1 =
      (vehicle memory config initMs).after
        ((pending.map fun f => VehicleOp.frame f.1 f.2).reverse ++ hist) := by
  unfold drainFeedback
  induction pending generalizing hist stats with
  | nil => rfl
  | cons f pending ih =>
    have hstep : (drainFrame ((vehicle memory config initMs).after hist) stats f.1 f.2).1 =
        (vehicle memory config initMs).after (.frame f.1 f.2 :: hist) :=
      drainFrame_vehicle memory config initMs _ stats f.1 f.2
    have hpair : drainFrame ((vehicle memory config initMs).after hist) stats f.1 f.2 =
        ((vehicle memory config initMs).after (.frame f.1 f.2 :: hist),
          (drainFrame ((vehicle memory config initMs).after hist) stats f.1 f.2).2) :=
      Prod.ext hstep rfl
    rw [List.foldl_cons, hpair, ih, List.map_cons, List.reverse_cons, List.append_assoc]
    rfl

/-- A believed frame is stored, into its motor's slot. -/
theorem drainFrame_believed {frame : CanFrame} {i : Slot} (h : Believed frame i)
    (c : ChassisController F) (stats : DaemonStats) (stampMs : UInt64) :
    (drainFrame c stats frame stampMs).1 =
      { c with feedback := Function.update c.feedback i (decodeFeedback i frame.data stampMs) } := by
  simp only [drainFrame, receiveFeedback_believed h]
  exact chassisUpdateFeedback_motor c h.1 rfl

/-- Any other frame changes nothing at all. -/
theorem drainFrame_foreign {frame : CanFrame} (h : ∀ i, ¬ Believed frame i)
    (c : ChassisController F) (stats : DaemonStats) (stampMs : UInt64) :
    drainFrame c stats frame stampMs = (c, stats) := by
  simp only [drainFrame, receiveFeedback_none h]

end Drain

/-! ## 2. Genuine frames -/

/-- `CAN_EFF_FLAG`: extended frame format. -/
def canEffFlag : UInt32 := 0x80000000

/-- `CAN_RTR_FLAG`: remote transmission request. -/
def canRtrFlag : UInt32 := 0x40000000

/-- `CAN_ERR_FLAG`: error message frame. -/
def canErrFlag : UInt32 := 0x20000000

/-- `CAN_EFF_MASK`: the identifier bits of a raw `can_id`, without the flags. -/
def canEffMask : UInt32 := 0x1FFFFFFF

/-- What motor `i` really sends: a standard data frame with its identifier and eight bytes. -/
def Genuine (frame : CanFrame) (i : Slot) : Prop :=
  i ≠ 0 ∧ frame.canId &&& canEffFlag = 0 ∧ frame.canId &&& canRtrFlag = 0 ∧
    frame.canId &&& canErrFlag = 0 ∧ frame.canId &&& canEffMask = 0x200 + UInt32.ofNat i.val ∧
    frame.canDlc = 8

/-- A standard data frame is its identifier. -/
theorem canId_of_flags_clear {id : UInt32} (he : id &&& canEffFlag = 0)
    (hr : id &&& canRtrFlag = 0) (herr : id &&& canErrFlag = 0) : id &&& canEffMask = id := by
  have hall : canEffMask ||| canEffFlag ||| canRtrFlag ||| canErrFlag = -1 := by decide
  calc id &&& canEffMask
      = id &&& (canEffMask ||| canEffFlag ||| canRtrFlag ||| canErrFlag) := by
        simp only [Bytes.and_or_distrib, he, hr, herr, UInt32.or_zero]
    _ = id := by rw [hall, UInt32.and_neg_one]

/-- The frames motor `i` sends, as raw identifiers. -/
theorem genuine_iff {frame : CanFrame} {i : Slot} : Genuine frame i ↔
    i ≠ 0 ∧ frame.canId = 0x200 + UInt32.ofNat i.val ∧ frame.canDlc = 8 := by
  constructor
  · rintro ⟨hi, he, hr, herr, hid, hd⟩
    rw [canId_of_flags_clear he hr herr] at hid
    exact ⟨hi, hid, hd⟩
  · rintro ⟨hi, hid, hd⟩
    have hbits : ∀ j : Slot, (0x200 + UInt32.ofNat j.val) &&& canEffFlag = 0 ∧
        (0x200 + UInt32.ofNat j.val) &&& canRtrFlag = 0 ∧
        (0x200 + UInt32.ofNat j.val) &&& canErrFlag = 0 ∧
        (0x200 + UInt32.ofNat j.val) &&& canEffMask = 0x200 + UInt32.ofNat j.val := by decide
    obtain ⟨h1, h2, h3, h4⟩ := hbits i
    unfold Genuine
    rw [hid]
    exact ⟨hi, h1, h2, h3, h4, hd⟩

/-- The mask does nothing to an eleven-bit identifier. -/
theorem sffMask_eq_self {id : UInt32} (h : id ≤ canSffMask) : id &&& canSffMask = id := by
  apply UInt32.toNat_inj.mp
  have hle : id.toNat ≤ 2047 := UInt32.le_iff_toNat_le.mp h
  have hmod : id.toNat &&& (2 ^ 11 - 1) = id.toNat % 2 ^ 11 := Nat.and_two_pow_sub_one_eq_mod _ _
  rw [UInt32.toNat_and]
  exact hmod.trans (Nat.mod_eq_of_lt (by omega))

/-- What motors send is believed. -/
theorem Genuine.believed {frame : CanFrame} {i : Slot} (h : Genuine frame i) : Believed frame i := by
  obtain ⟨hi, hid, hd⟩ := genuine_iff.mp h
  refine ⟨hi, hd, ?_⟩
  have hbits : ∀ j : Slot,
      (0x200 + UInt32.ofNat j.val) &&& canSffMask = 0x200 + UInt32.ofNat j.val := by decide
  rw [hid, hbits]

/-- What is believed, if its raw identifier has eleven bits, is what a motor sends. -/
theorem Believed.genuine {frame : CanFrame} {i : Slot} (h : Believed frame i)
    (hid : frame.canId ≤ canSffMask) : Genuine frame i := by
  refine genuine_iff.mpr ⟨h.1, ?_, h.2.1⟩
  rw [← h.2.2, sffMask_eq_self hid]

/-! ## 3. Genuine frames only -/

/-- A drain that believes genuine frames only: such a frame is stored into the slot of its
    motor and nowhere else, any other frame leaves the controller as it was. -/
def BelievesGenuineOnly (frame : CanFrame) : Prop :=
  ∀ (controller : ChassisController ℚ) (stats : DaemonStats) (stampMs : UInt64),
    (∀ i, Genuine frame i → (drainFrame controller stats frame stampMs).1 =
      { controller with
        feedback := Function.update controller.feedback i (decodeFeedback i frame.data stampMs) }) ∧
    ((∀ i, ¬ Genuine frame i) → (drainFrame controller stats frame stampMs).1 = controller)

/-- A frame that is believed but not genuine overwrites a slot it has no right to. -/
theorem not_genuineOnly_of_believed {frame : CanFrame} {i : Slot} (hb : Believed frame i)
    (hg : ∀ j, ¬ Genuine frame j) : ¬ BelievesGenuineOnly frame := by
  intro h
  have hdrain := (h blankMemory ⟨0, fun _ => 0, 0, 0, 0, 0⟩ 0).2 hg
  rw [drainFrame_believed hb] at hdrain
  have honline := congrArg (fun c => (c.feedback i).online) hdrain
  simp only [Function.update_self] at honline
  cases honline

/-- An extended data frame with identifier 0x201. -/
def extendedFrame : CanFrame where
  canId := 0x80000201
  canDlc := 8
  data _ := 0
  dlc_le := fullDlc_le

/-- **The masked flag bits are missed**: an extended frame is stored as feedback of motor 1. -/
theorem extended_frame_believed : ¬ BelievesGenuineOnly extendedFrame := by
  have heff : extendedFrame.canId &&& canEffFlag ≠ 0 := by decide
  have hbel : Believed extendedFrame 1 := ⟨by decide, rfl, by decide⟩
  exact not_genuineOnly_of_believed hbel fun i hg => heff hg.2.1

/-- A motor's raw identifier has eleven bits. -/
theorem Genuine.canId_le {frame : CanFrame} {i : Slot} (h : Genuine frame i) :
    frame.canId ≤ canSffMask := by
  have hle : ∀ j : Slot, (0x200 + UInt32.ofNat j.val) ≤ canSffMask := by decide
  rw [(genuine_iff.mp h).2.1]
  exact hle i

/-- **When only genuine frames are believed**: for a raw identifier of eleven bits, and for
    every frame that the length test or the range test on the masked identifier drops. The frames
    left are those whose flags or upper identifier bits are masked away from a feedback
    identifier. -/
theorem drainFrame_genuine_iff (frame : CanFrame) : BelievesGenuineOnly frame ↔
    frame.canId ≤ canSffMask ∨ frame.canId &&& canSffMask < 0x201 ∨
      0x204 < frame.canId &&& canSffMask ∨ frame.canDlc ≠ 8 := by
  constructor
  · intro h
    by_contra hcond
    simp only [not_or, ne_eq, not_not] at hcond
    obtain ⟨hbig, hlo, hhi, hd⟩ := hcond
    have hrange : (frame.canId &&& canSffMask < 0x201 ||
        0x204 < frame.canId &&& canSffMask) = false := by
      rw [decide_eq_false hlo, decide_eq_false hhi]
      rfl
    obtain ⟨i, hi, hid⟩ := feedbackId_iff.mp hrange
    exact not_genuineOnly_of_believed ⟨hi, hd, hid⟩ (fun j hg => hbig hg.canId_le) h
  · intro hcond controller stats stampMs
    refine ⟨fun i hg => drainFrame_believed hg.believed controller stats stampMs, fun hno => ?_⟩
    have hforeign : ∀ i, ¬ Believed frame i := by
      intro i hb
      have hrange := feedbackId_bounds hb.1 hb.2.2
      rcases hcond with h | h | h | h
      · exact hno i (hb.genuine h)
      · exact hrange.1 h
      · exact hrange.2 h
      · exact h hb.2.1
    rw [drainFrame_foreign hforeign]

end Rk3588Chassis
