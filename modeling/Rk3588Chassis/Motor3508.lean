/-
  File:      Rk3588Chassis/Motor3508.lean
  Subject:   The 3508 motors' CAN frames (`src/motor_3508.c`) and the raw socket under them
             (`src/socketcan.c`).

  * `motor3508PackCurrentArray`, `currentFrame` -- four currents to the eight bytes of a 0x200
    frame;
  * `motor3508ParseFeedback` -- identifier and data bytes to a feedback record;
  * `socketcanReceive` -- what of a raw kernel frame reaches the caller;
  * `receiveFeedback` -- the body of the drain loops: receive, test the length, parse.

  A packed frame determines its four currents (`frameCurrent_pack`), and only the two bytes of
  a motor depend on that motor's current (`pack_bytes_congr`). `receiveFeedback_believed` and
  `receiveFeedback_none` say which raw frames are believed and what they are read as.
-/
import Rk3588Chassis.Library.Bytes
import Rk3588Chassis.Types

namespace Rk3588Chassis

open Bytes

/-! ## 1. Current frames -/

/-- `bytes_to_i16`. -/
def bytesToI16 (high low : UInt8) : Int16 := (joinU16 high low).toInt16

/-- `i16_to_bytes`: the high and the low byte. -/
def i16ToBytes (value : Int16) : UInt8 × UInt8 := (highU16 value.toUInt16, lowU16 value.toUInt16)

theorem bytesToI16_i16ToBytes (v : Int16) : bytesToI16 (i16ToBytes v).1 (i16ToBytes v).2 = v := by
  simp only [bytesToI16, i16ToBytes, joinU16_bytes, Int16.toInt16_toUInt16]

theorem i16ToBytes_bytesToI16 (high low : UInt8) : i16ToBytes (bytesToI16 high low) = (high, low) := by
  simp only [bytesToI16, i16ToBytes, UInt16.toUInt16_toInt16, highU16_join, lowU16_join]

/-- `motor3508_pack_current`. -/
def motor3508PackCurrent (motor1 motor2 motor3 motor4 : Int16) : Fin 8 → UInt8
  | 0 => (i16ToBytes motor1).1
  | 1 => (i16ToBytes motor1).2
  | 2 => (i16ToBytes motor2).1
  | 3 => (i16ToBytes motor2).2
  | 4 => (i16ToBytes motor3).1
  | 5 => (i16ToBytes motor3).2
  | 6 => (i16ToBytes motor4).1
  | 7 => (i16ToBytes motor4).2

/-- `motor3508_pack_current_array`. -/
def motor3508PackCurrentArray (currents : Slot → Int16) : Fin 8 → UInt8 :=
  motor3508PackCurrent (currents 1) (currents 2) (currents 3) (currents 4)

/-- The position of motor `k + 1`'s high byte in a current frame: `2 * k`. -/
def highPos (k : Fin 4) : Fin 8 := ⟨2 * k, by omega⟩

/-- The position of motor `k + 1`'s low byte: `2 * k + 1`. -/
def lowPos (k : Fin 4) : Fin 8 := ⟨2 * k + 1, by omega⟩

/-- The big-endian word of motor `k + 1` in the data of a current frame. -/
def frameCurrent (data : Fin 8 → UInt8) (k : Fin 4) : Int16 :=
  bytesToI16 (data (highPos k)) (data (lowPos k))

theorem pack_bytes (currents : Slot → Int16) : ∀ k : Fin 4,
    motor3508PackCurrentArray currents (highPos k) = (i16ToBytes (currents k.succ)).1 ∧
    motor3508PackCurrentArray currents (lowPos k) = (i16ToBytes (currents k.succ)).2
  | 0 => ⟨rfl, rfl⟩
  | 1 => ⟨rfl, rfl⟩
  | 2 => ⟨rfl, rfl⟩
  | 3 => ⟨rfl, rfl⟩

/-- **A packed frame carries, in motor order, the four currents.** -/
theorem frameCurrent_pack (currents : Slot → Int16) (k : Fin 4) :
    frameCurrent (motor3508PackCurrentArray currents) k = currents k.succ := by
  rw [frameCurrent, (pack_bytes currents k).1, (pack_bytes currents k).2, bytesToI16_i16ToBytes]

/-- **The two bytes of a motor depend on that motor's current only.** -/
theorem pack_bytes_congr {a b : Slot → Int16} {k : Fin 4} (h : a k.succ = b k.succ) :
    motor3508PackCurrentArray a (highPos k) = motor3508PackCurrentArray b (highPos k) ∧
    motor3508PackCurrentArray a (lowPos k) = motor3508PackCurrentArray b (lowPos k) := by
  rw [(pack_bytes a k).1, (pack_bytes b k).1, (pack_bytes a k).2, (pack_bytes b k).2, h]
  exact ⟨rfl, rfl⟩

/-! ## 2. Feedback frames -/

/-- `motor3508_parse_feedback`: `none` where the C function returns 0. -/
def motor3508ParseFeedback (canId : UInt32) (data : Fin 8 → UInt8) (nowMs : UInt64) :
    Option Motor3508Feedback :=
  if canId < 0x201 || 0x204 < canId then none
  else some
    { id := (canId - 0x200).toUInt8
      angle := bytesToI16 (data 0) (data 1)
      speedRpm := bytesToI16 (data 2) (data 3)
      current := bytesToI16 (data 4) (data 5)
      temperature := (data 6).toInt8
      lastUpdateMs := nowMs
      online := 1 }

/-- `motor3508_update_feedback`: the table and the return value. -/
def motor3508UpdateFeedback (canId : UInt32) (data : Fin 8 → UInt8)
    (feedbacks : Slot → Motor3508Feedback) (nowMs : UInt64) : (Slot → Motor3508Feedback) × Bool :=
  match motor3508ParseFeedback canId data nowMs with
  | none => (feedbacks, false)
  | some feedback => (Function.update feedbacks (slotOf feedback.id) feedback, true)

/-! ## 3. The raw socket -/

/-- `struct can_frame` as a raw socket delivers it: 32 identifier bits with the flags on top,
    and a length of at most eight. -/
structure CanFrame where
  canId : UInt32
  canDlc : UInt8
  data : Fin 8 → UInt8
  dlc_le : canDlc ≤ 8

/-- The length of a full frame is in range. -/
theorem fullDlc_le : (8 : UInt8) ≤ 8 := by decide

/-- What `socketcan_receive` hands to its caller. -/
structure Received where
  canId : UInt32
  dlc : UInt8
  data : Fin 8 → UInt8

/-- `CAN_SFF_MASK`. -/
def canSffMask : UInt32 := 0x7FF

/-- `socketcan_receive` on a frame that was there: the identifier is masked, and the first
    `can_dlc` bytes are copied over the caller's buffer. -/
def socketcanReceive (frame : CanFrame) (buffer : Fin 8 → UInt8) : Received where
  canId := frame.canId &&& canSffMask
  dlc := frame.canDlc
  data i := if i.val < frame.canDlc.toNat then frame.data i else buffer i

@[simp] theorem socketcanReceive_dlc (frame : CanFrame) (buffer : Fin 8 → UInt8) :
    (socketcanReceive frame buffer).dlc = frame.canDlc := rfl

@[simp] theorem socketcanReceive_canId (frame : CanFrame) (buffer : Fin 8 → UInt8) :
    (socketcanReceive frame buffer).canId = frame.canId &&& canSffMask := rfl

/-- A full frame overwrites the whole buffer. -/
theorem socketcanReceive_data {frame : CanFrame} (h : frame.canDlc = 8) (buffer : Fin 8 → UInt8) :
    (socketcanReceive frame buffer).data = frame.data := by
  funext k
  have hk : k.val < frame.canDlc.toNat := by
    rw [h]
    exact k.isLt
  exact if_pos hk

/-- The frame `socketcan_send` writes for `send_currents`: identifier
    `MOTOR3508_CMD_ID_1_TO_4`, eight data bytes. -/
def currentFrame (currents : Slot → Int16) : CanFrame where
  canId := 0x200
  canDlc := 8
  data := motor3508PackCurrentArray currents
  dlc_le := fullDlc_le

/-- One turn of a `drain_feedback` loop up to the store: receive into a zeroed buffer, test
    the length, parse with the clock reading `stampMs` taken for this frame. -/
def receiveFeedback (frame : CanFrame) (stampMs : UInt64) : Option Motor3508Feedback :=
  let received := socketcanReceive frame fun _ => 0
  if 8 ≤ received.dlc then motor3508ParseFeedback received.canId received.data stampMs else none

/-- The feedback record that motor `i`'s data bytes decode to. -/
def decodeFeedback (i : Slot) (data : Fin 8 → UInt8) (stampMs : UInt64) : Motor3508Feedback where
  id := UInt8.ofNat i.val
  angle := bytesToI16 (data 0) (data 1)
  speedRpm := bytesToI16 (data 2) (data 3)
  current := bytesToI16 (data 4) (data 5)
  temperature := (data 6).toInt8
  lastUpdateMs := stampMs
  online := 1

/-- The frames the drain loops believe to come from motor `i`. -/
def Believed (frame : CanFrame) (i : Slot) : Prop :=
  i ≠ 0 ∧ frame.canDlc = 8 ∧ frame.canId &&& canSffMask = 0x200 + UInt32.ofNat i.val

instance (frame : CanFrame) (i : Slot) : Decidable (Believed frame i) :=
  inferInstanceAs (Decidable (_ ∧ _))

/-- The range test of the parser, motor by motor. -/
theorem feedbackId_iff {id : UInt32} : (id < 0x201 || 0x204 < id) = false ↔
    ∃ i : Slot, i ≠ 0 ∧ id = 0x200 + UInt32.ofNat i.val := by
  simp only [Bool.or_eq_false_iff, decide_eq_false_iff_not, UInt32.not_lt]
  constructor
  · rintro ⟨h1, h2⟩
    have hlo : 513 ≤ id.toNat := h1
    have hhi : id.toNat ≤ 516 := h2
    refine ⟨Fin.ofNat 5 (id.toNat - 512), fun h => ?_, UInt32.toNat_inj.mp ?_⟩
    · rw [Fin.ext_iff, Fin.val_ofNat, Fin.val_zero] at h
      omega
    · simp only [Fin.val_ofNat, UInt32.toNat_add, UInt32.toNat_ofNat', UInt32.reduceToNat]
      omega
  · rintro ⟨i, hi, rfl⟩
    revert i
    decide

/-- A motor's identifier lies in the range. -/
theorem feedbackId_bounds {id : UInt32} {i : Slot} (hi : i ≠ 0)
    (hid : id = 0x200 + UInt32.ofNat i.val) : ¬ id < 0x201 ∧ ¬ 0x204 < id := by
  have hrange := feedbackId_iff.mpr ⟨i, hi, hid⟩
  rw [Bool.or_eq_false_iff, decide_eq_false_iff_not, decide_eq_false_iff_not] at hrange
  exact hrange

theorem parse_motor {i : Slot} (hi : i ≠ 0) (data : Fin 8 → UInt8) (stampMs : UInt64) :
    motor3508ParseFeedback (0x200 + UInt32.ofNat i.val) data stampMs =
      some (decodeFeedback i data stampMs) := by
  have hr : ((0x200 : UInt32) + UInt32.ofNat i.val < 0x201 ||
      0x204 < (0x200 : UInt32) + UInt32.ofNat i.val) = false := feedbackId_iff.mpr ⟨i, hi, rfl⟩
  have hid : ((0x200 : UInt32) + UInt32.ofNat i.val - 0x200).toUInt8 = UInt8.ofNat i.val := by
    revert i
    decide
  simp only [motor3508ParseFeedback, hr, hid, decodeFeedback, Bool.false_eq_true, if_false]

/-- The length test accepts full frames only: a raw frame is never longer than eight. -/
theorem dlc_full_iff {frame : CanFrame} : 8 ≤ frame.canDlc ↔ frame.canDlc = 8 :=
  ⟨fun h => UInt8.le_antisymm frame.dlc_le h, fun h => h ▸ UInt8.le_refl _⟩

/-- **A believed frame is read as its motor's feedback, with this frame's clock reading.** -/
theorem receiveFeedback_believed {frame : CanFrame} {i : Slot} (h : Believed frame i)
    (stampMs : UInt64) :
    receiveFeedback frame stampMs = some (decodeFeedback i frame.data stampMs) := by
  obtain ⟨hi, hd, hid⟩ := h
  simp only [receiveFeedback, socketcanReceive_dlc, socketcanReceive_canId,
    socketcanReceive_data hd, if_pos (dlc_full_iff.mpr hd)]
  rw [hid, parse_motor hi]

/-- **Every other frame is dropped.** -/
theorem receiveFeedback_none {frame : CanFrame} (h : ∀ i, ¬ Believed frame i) (stampMs : UInt64) :
    receiveFeedback frame stampMs = none := by
  by_cases hd : frame.canDlc = 8
  · have hr : ¬ (frame.canId &&& canSffMask < 0x201 || 0x204 < frame.canId &&& canSffMask) = false :=
      fun hr => by
        obtain ⟨i, hi, hid⟩ := feedbackId_iff.mp hr
        exact h i ⟨hi, hd, hid⟩
    have hd' : 8 ≤ frame.canDlc := dlc_full_iff.mpr hd
    simp only [receiveFeedback, socketcanReceive_dlc, socketcanReceive_canId, hd', if_true,
      motor3508ParseFeedback]
    exact if_pos (Bool.eq_true_of_not_eq_false hr)
  · exact if_neg fun hd' => hd (dlc_full_iff.mp hd')

/-- The feedback identifiers of two motors differ. -/
theorem feedbackId_injective {i j : Slot}
    (h : (0x200 : UInt32) + UInt32.ofNat i.val = 0x200 + UInt32.ofNat j.val) : i = j := by
  revert i j
  decide

/-- A frame is believed to come from one motor at most. -/
theorem Believed.unique {frame : CanFrame} {i j : Slot} (hi : Believed frame i)
    (hj : Believed frame j) : i = j :=
  feedbackId_injective (hi.2.2.symm.trans hj.2.2)

end Rk3588Chassis
