/-
  File:      Rk3588Chassis/ControlIsolation.lean
  Subject:   Wheel isolation: from CAN frames in to CAN frames out, the data bytes of one motor's
             feedback never reach another motor's current.

  `vehicle` is the controller as the daemon's drain loop feeds it, with raw frames instead of
  decoded records. Frames that differ only in data bytes of motor `j` decode to records that match
  outside the wheel `j` (`alike_vehicle_step`), so the relation of ControlRelation.lean holds along
  whole histories of them (`alike_vehicle`).
-/
import Rk3588Chassis.ControlRelation

set_option linter.unusedSectionVars false

namespace Rk3588Chassis

open CFloat Reactive

/-! ## 1. Frames instead of records -/

/-- What reaches the controller: an operation of its interface other than a feedback record,
    or a raw frame with the clock reading the drain loop takes for it. -/
inductive VehicleOp (F : Type) where
  | setCommand (forward strafe rotate : F) (nowMs : UInt64)
  | stop (nowMs : UInt64)
  | frame (frame : CanFrame) (stampMs : UInt64)
  | step (nowMs : UInt64) (dtS : F)

/-- The controller operation a vehicle operation comes down to, if any. -/
def VehicleOp.controlOp {F : Type} : VehicleOp F → Option (ControlOp F)
  | .setCommand forward strafe rotate nowMs => some (.setCommand forward strafe rotate nowMs)
  | .stop nowMs => some (.stop nowMs)
  | .frame raw stampMs => (receiveFeedback raw stampMs).map .updateFeedback
  | .step nowMs dtS => some (.step nowMs dtS)

/-- Two vehicle operations that agree in everything but the data bytes of frames of motor `j`. -/
inductive SameExceptMotor {F : Type} (j : Slot) : VehicleOp F → VehicleOp F → Prop
  | same (op : VehicleOp F) : SameExceptMotor j op op
  | frame (a b : CanFrame) (stampMs : UInt64) (hid : a.canId = b.canId)
      (hdlc : a.canDlc = b.canDlc)
      (hdata : a.canId &&& canSffMask ≠ 0x200 + UInt32.ofNat j.val → a.data = b.data) :
      SameExceptMotor j (.frame a stampMs) (.frame b stampMs)

section Isolation

variable {F : Type} [Zero F] [Neg F] [Add F] [Sub F] [Mul F] [Div F] [LT F] [LE F] [BEq F]
  [DecidableLT F] [DecidableLE F] [CFloat F]

/-- The controller fed with raw frames: only operations that come down to one move it. -/
def vehicle (memory : ChassisController F) (config : ChassisConfig F) (initMs : UInt64) :
    Machine (ChassisController F) (VehicleOp F) (Option StepResult) where
  start := chassisInit memory config initMs
  step c op := match op.controlOp with
    | some op => controlStep c op
    | none => (c, none)

/-! ## 2. Matching frames decode to matching records -/

/-- Frames with the same identifier and length come from the same motor, or from none. -/
theorem believed_congr {a b : CanFrame} (hid : a.canId = b.canId) (hdlc : a.canDlc = b.canDlc)
    (i : Slot) : Believed a i ↔ Believed b i := by
  unfold Believed
  rw [hid, hdlc]

/-- **Frames that differ in data bytes of motor `j` only give records that match outside `j`**,
    and two controllers that are alike outside `j` stay alike. -/
theorem alike_vehicle_step (hz : ZeroIsStill F) {j : Slot} {memory memory' : ChassisController F}
    {config : ChassisConfig F} {initMs : UInt64} {c d : ChassisController F}
    (h : Alike (fun i => i = j) c d) {op op' : VehicleOp F} (hop : SameExceptMotor j op op') :
    Alike (fun i => i = j) ((vehicle memory config initMs).step c op).1
      ((vehicle memory' config initMs).step d op').1 := by
  cases hop with
  | same =>
    simp only [vehicle]
    cases op.controlOp with
    | none => exact h
    | some op => exact alike_step hz h (.same op)
  | frame a b stampMs hid hdlc hdata =>
    simp only [vehicle, VehicleOp.controlOp]
    by_cases hb : ∃ i, Believed a i
    · obtain ⟨i, hi⟩ := hb
      rw [receiveFeedback_believed hi, receiveFeedback_believed ((believed_congr hid hdlc i).mp hi)]
      refine alike_step hz h (.feedback _ _ i hi.1 rfl rfl ⟨rfl, fun _ => rfl, fun _ hij => ?_⟩)
      -- the data of another motor's frame is the same on both sides
      have hne : a.canId &&& canSffMask ≠ 0x200 + UInt32.ofNat j.val :=
        fun e => hij (feedbackId_injective (hi.2.2.symm.trans e))
      rw [hdata hne]
    · rw [receiveFeedback_none (not_exists.mp hb),
        receiveFeedback_none fun i hi => hb ⟨i, (believed_congr hid hdlc i).mpr hi⟩]
      exact h

/-- After frame histories that match outside motor `j` the controllers are alike outside it. -/
theorem alike_vehicle (hz : ZeroIsStill F) {j : Slot} (memory memory' : ChassisController F)
    (config : ChassisConfig F) (initMs : UInt64) {hist hist' : List (VehicleOp F)}
    (h : List.Forall₂ (SameExceptMotor j) hist hist') :
    Alike (fun i => i = j) ((vehicle memory config initMs).after hist)
      ((vehicle memory' config initMs).after hist') :=
  Machine.after_related (vehicle memory config initMs) (vehicle memory' config initMs)
    (alike_init _ memory memory' config initMs)
    (fun _ _ _ _ hR hQ => alike_vehicle_step hz hR hQ) h

end Isolation

/-! ## 3. The theorem -/

/-- **Wheel isolation.** After two histories that differ only in data bytes of frames of motor
    `j`, a step at the same time with the same `dt_s` returns the same value in both runs, and
    the packed 0x200 frames agree on the two bytes of every other motor. -/
theorem wheel_isolation (memory memory' : ChassisController ℚ) (config : ChassisConfig ℚ)
    (initMs : UInt64) (j : Slot) (hist hist' : List (VehicleOp ℚ))
    (h : List.Forall₂ (SameExceptMotor j) hist hist') (nowMs : UInt64) (dtS : ℚ) :
    let result := (chassisStep ((vehicle memory config initMs).after hist) nowMs dtS).2
    let result' := (chassisStep ((vehicle memory' config initMs).after hist') nowMs dtS).2
    result.ret = result'.ret ∧ ∀ k : Fin 4, k.succ ≠ j →
      motor3508PackCurrentArray result.currents (highPos k) =
        motor3508PackCurrentArray result'.currents (highPos k) ∧
      motor3508PackCurrentArray result.currents (lowPos k) =
        motor3508PackCurrentArray result'.currents (lowPos k) := by
  intro result result'
  have halike := alike_vehicle zeroIsStill_rat memory memory' config initMs h
  have hres := (alike_chassisStep zeroIsStill_rat halike nowMs dtS).2
  exact ⟨hres.ret, fun k hk => pack_bytes_congr (hres.currents k.succ hk)⟩

/-- A full frame that repeats one byte. -/
def plainFrame (canId : UInt32) (byte : UInt8) : CanFrame := ⟨canId, 8, fun _ => byte, fullDlc_le⟩

/-- A command at 10 ms and one frame of each motor, motor 2's with the given byte. -/
def frameHist (byte : UInt8) : List (VehicleOp ℚ) :=
  [.frame (plainFrame 0x204 0) 12, .frame (plainFrame 0x203 0) 12, .frame (plainFrame 0x202 byte) 12,
    .frame (plainFrame 0x201 0) 12, .setCommand 1 0 0 10]

/-- What motor 2 reports does not reach motor 1's current. -/
theorem second_motor_isolated :
    let first := (chassisStep ((vehicle blankMemory chassisDefaultConfig 0).after (frameHist 0)) 20
      (1 / 100)).2
    let second := (chassisStep ((vehicle blankMemory chassisDefaultConfig 0).after (frameHist 7)) 20
      (1 / 100)).2
    first.ret = second.ret ∧ motor3508PackCurrentArray first.currents 0 =
      motor3508PackCurrentArray second.currents 0 := by
  have hframes : List.Forall₂ (SameExceptMotor 2) (frameHist 0) (frameHist 7) :=
    .cons (.same _) (.cons (.same _) (.cons
      (.frame _ _ 12 rfl rfl fun h => absurd (by decide) h) (.cons (.same _) (.cons (.same _) .nil))))
  have h := wheel_isolation blankMemory blankMemory chassisDefaultConfig 0 2 (frameHist 0)
    (frameHist 7) hframes 20 (1 / 100)
  exact ⟨h.1, (h.2 0 (by decide)).1⟩

end Rk3588Chassis
