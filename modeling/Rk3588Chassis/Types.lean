/-
  File:      Rk3588Chassis/Types.lean
  Subject:   The data model shared by the whole repository (`include/chassis_types.h`) and the
             reading of `float`.

  * `Slot` -- an index of the arrays `x[CHASSIS_MOTOR_COUNT + 1]`: the motors are 1..4, the
    entry 0 exists in memory and is never a motor;
  * `forMotors` -- the shape of every loop `for (i = 1; i <= CHASSIS_MOTOR_COUNT; ++i)` whose
    body touches entry `i` only;
  * `Motor3508Feedback` -- field by field, at the widths of the C structure;
  * `CFloat` -- what the code needs of `float` beyond its operators. The control code is
    written once over any such type; `ℚ` is the exact reading.

  Pointer arguments are values here: no caller in the repository passes NULL, and a C
  function that writes through a pointer returns the new value.
-/
import Mathlib.Data.List.Nodup
import Mathlib.Data.Rat.Floor
import Mathlib.Logic.Function.Basic
import Rk3588Chassis.Library.Rounding

namespace Rk3588Chassis

/-! ## 1. Motors and slots -/

/-- `CHASSIS_MOTOR_COUNT`. -/
def chassisMotorCount : Nat := 4

/-- An index of an array with `CHASSIS_MOTOR_COUNT + 1` entries. -/
abbrev Slot := Fin 5

/-- There is an entry 0 in every array of slots. -/
instance slotNeZero : NeZero 5 := ⟨by decide⟩

/-- The motor indices, in the order the loops visit them. -/
def motors : List Slot := [1, 2, 3, 4]

@[simp] theorem mem_motors {i : Slot} : i ∈ motors ↔ i ≠ 0 := by
  revert i
  decide

/-- `for (i = 1; i <= CHASSIS_MOTOR_COUNT; ++i) a[i] = f(i, a[i]);` -/
def forMotors {α : Type} (f : Slot → α → α) (a : Slot → α) : Slot → α :=
  fun i => if i = 0 then a i else f i (a i)

@[simp] theorem forMotors_zero {α : Type} (f : Slot → α → α) (a : Slot → α) :
    forMotors f a 0 = a 0 := rfl

theorem forMotors_motor {α : Type} (f : Slot → α → α) (a : Slot → α) {i : Slot} (hi : i ≠ 0) :
    forMotors f a i = f i (a i) := if_neg hi

/-- The slot a motor id names; only used behind the test `1 <= id <= CHASSIS_MOTOR_COUNT`. -/
def slotOf (id : UInt8) : Slot := Fin.ofNat 5 id.toNat

/-- What two arrays have in common at every motor survives an update of both at one of them. -/
theorem update_related {α β : Type} {R : Slot → α → β → Prop} {f : Slot → α} {g : Slot → β}
    (h : ∀ k, k ≠ 0 → R k (f k) (g k)) {i : Slot} {a : α} {b : β} (hab : R i a b) (k : Slot)
    (hk : k ≠ 0) : R k (Function.update f i a k) (Function.update g i b k) := by
  by_cases hki : k = i
  · subst hki
    rw [Function.update_self, Function.update_self]
    exact hab
  · rw [Function.update_of_ne hki, Function.update_of_ne hki]
    exact h k hk

/-- A counter that has counted is not what it was, not even after an overflow. -/
theorem counter_ne_succ (n : UInt64) : n ≠ n + 1 := by
  intro h
  have hone : (1 : UInt64).toNat = 1 := rfl
  have hnat := congrArg UInt64.toNat h
  rw [UInt64.toNat_add, hone] at hnat
  have hn := n.toNat_lt
  omega

/-- The numbers 1, 2, .., `n`, newest first. -/
def countdown (n : Nat) : List UInt32 := (List.range n).reverse.map fun k => UInt32.ofNat (k + 1)

theorem countdown_succ (n : Nat) : countdown (n + 1) = UInt32.ofNat (n + 1) :: countdown n := by
  unfold countdown
  rw [List.range_succ, List.reverse_append, List.reverse_singleton, List.singleton_append,
    List.map_cons]

/-- No number comes twice before all have come. -/
theorem countdown_nodup {n : Nat} (h : n ≤ 2 ^ 32) : (countdown n).Nodup := by
  unfold countdown
  refine List.Nodup.map_on (fun a ha b hb heq => ?_) (List.nodup_reverse.mpr List.nodup_range)
  have ha' := List.mem_range.mp (List.mem_reverse.mp ha)
  have hb' := List.mem_range.mp (List.mem_reverse.mp hb)
  have hnat := congrArg UInt32.toNat heq
  rw [UInt32.toNat_ofNat', UInt32.toNat_ofNat'] at hnat
  omega

/-! ## 2. Feedback -/

/-- `Motor3508Feedback`. -/
structure Motor3508Feedback where
  id : UInt8
  angle : Int16
  speedRpm : Int16
  current : Int16
  temperature : Int8
  lastUpdateMs : UInt64
  online : UInt8
  deriving DecidableEq, Repr

/-! ## 3. Floats -/

/-- What the code needs of `float` beyond `+ - * / <  <= ==`: the value that a literal or a
    converted integer takes, and `lrintf`. -/
class CFloat (F : Type) where
  ofRat : ℚ → F
  lrintf : F → Int

/-- Floats read as exact rationals, `lrintf` as round-half-to-even. -/
instance : CFloat ℚ where
  ofRat q := q
  lrintf q := Rounding.roundHalfEven q

@[simp] theorem ofRat_rat (q : ℚ) : (CFloat.ofRat q : ℚ) = q := rfl

theorem lrintf_rat (q : ℚ) : CFloat.lrintf q = Rounding.roundHalfEven q := rfl

end Rk3588Chassis
