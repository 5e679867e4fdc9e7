/-
  File:      Rk3588Chassis/Library/Rounding.lean
  Subject:   Rounding to the nearest integer with ties to even, and saturation to a range.

  Both over an arbitrary ordered field (rounding) or linear order (saturation): what a
  control loop needs between an exact result and the integer it puts on a wire.

  * `roundHalfEven_mono_int` -- rounding does not leave an interval with integer ends;
  * `roundHalfEven_neg` -- rounding is odd (the tie rule is the same on both sides);
  * `saturate_mem`, `saturate_eq_self`, `saturate_neg` -- saturation lands in its range,
    does nothing inside it, and is odd on a symmetric range.
-/
import Mathlib.Algebra.Order.Floor.Ring
import Mathlib.Tactic.Linarith

namespace Rounding

/-! ## 1. Ties to even -/

section HalfEven

variable {α : Type*} [Field α] [LinearOrder α] [IsStrictOrderedRing α] [FloorRing α]

/-- The nearest integer; a midpoint goes to the even one of its two neighbours. -/
def roundHalfEven (x : α) : ℤ :=
  if x - ⌊x⌋ < 1 / 2 then ⌊x⌋
  else if 1 / 2 < x - ⌊x⌋ then ⌊x⌋ + 1
  else if ⌊x⌋ % 2 = 0 then ⌊x⌋ else ⌊x⌋ + 1

theorem roundHalfEven_eq_of_sub_lt {x : α} {k : ℤ} (h1 : (k : α) - 1 / 2 < x)
    (h2 : x < k + 1 / 2) : roundHalfEven x = k := by
  by_cases hk : (k : α) ≤ x
  · have hf : ⌊x⌋ = k := Int.floor_eq_iff.mpr ⟨hk, by linarith⟩
    rw [roundHalfEven, hf, if_pos (by linarith)]
  · have hf : ⌊x⌋ = k - 1 := by
      refine Int.floor_eq_iff.mpr ⟨?_, ?_⟩ <;> push_cast <;> linarith
    have hr : 1 / 2 < x - ((k - 1 : ℤ) : α) := by push_cast; linarith
    rw [roundHalfEven, hf, if_neg (not_lt.mpr hr.le), if_pos hr, Int.sub_add_cancel]

/-- At a midpoint the parity of the lower neighbour decides. -/
theorem roundHalfEven_midpoint {x : α} {k : ℤ} (h : x = k + 1 / 2) :
    roundHalfEven x = if k % 2 = 0 then k else k + 1 := by
  have hf : ⌊x⌋ = k := Int.floor_eq_iff.mpr ⟨by linarith, by linarith⟩
  have hr : x - (k : α) = 1 / 2 := by linarith
  rw [roundHalfEven, hf, hr, if_neg (lt_irrefl _), if_neg (lt_irrefl _)]

/-- Every value is close to one integer or a midpoint between two. -/
theorem near_or_midpoint (x : α) :
    (∃ k : ℤ, (k : α) - 1 / 2 < x ∧ x < k + 1 / 2) ∨ ∃ k : ℤ, x = k + 1 / 2 := by
  have h0 := Int.floor_le x
  have h1 := Int.lt_floor_add_one x
  rcases lt_trichotomy (x - ⌊x⌋) (1 / 2) with h | h | h
  · exact Or.inl ⟨⌊x⌋, by linarith, by linarith⟩
  · exact Or.inr ⟨⌊x⌋, by linarith⟩
  · exact Or.inl ⟨⌊x⌋ + 1, by push_cast; linarith, by push_cast; linarith⟩

/-- **Rounding is odd.** -/
theorem roundHalfEven_neg (x : α) : roundHalfEven (-x) = -roundHalfEven x := by
  rcases near_or_midpoint x with ⟨k, h1, h2⟩ | ⟨k, h⟩
  · rw [roundHalfEven_eq_of_sub_lt h1 h2]
    refine roundHalfEven_eq_of_sub_lt ?_ ?_ <;> push_cast <;> linarith
  · have hneg : -x = ((-k - 1 : ℤ) : α) + 1 / 2 := by push_cast; linarith
    rw [roundHalfEven_midpoint h, roundHalfEven_midpoint hneg]
    -- `-k - 1` is even exactly when `k` is odd
    split_ifs <;> omega

/-- **Rounding keeps integer bounds.** -/
theorem roundHalfEven_mono_int {x : α} {a b : ℤ} (ha : (a : α) ≤ x) (hb : x ≤ b) :
    a ≤ roundHalfEven x ∧ roundHalfEven x ≤ b := by
  rcases near_or_midpoint x with ⟨k, h1, h2⟩ | ⟨k, h⟩
  · rw [roundHalfEven_eq_of_sub_lt h1 h2]
    have hak : (a : α) < ((k + 1 : ℤ) : α) := by push_cast; linarith
    have hkb : (k : α) < ((b + 1 : ℤ) : α) := by push_cast; linarith
    exact ⟨by have := Int.cast_lt.mp hak; omega, by have := Int.cast_lt.mp hkb; omega⟩
  · have hak : (a : α) < ((k + 1 : ℤ) : α) := by push_cast; linarith
    have hkb : (k : α) < (b : α) := by linarith
    have h1 := Int.cast_lt.mp hak
    have h2 := Int.cast_lt.mp hkb
    rw [roundHalfEven_midpoint h]
    split_ifs <;> omega

/-- **Rounding moves a number by at most a half.** -/
theorem roundHalfEven_near (x : α) : |(roundHalfEven x : α) - x| ≤ 1 / 2 := by
  rw [abs_le]
  rcases near_or_midpoint x with ⟨k, h1, h2⟩ | ⟨k, h⟩
  · rw [roundHalfEven_eq_of_sub_lt h1 h2]
    exact ⟨by linarith, by linarith⟩
  · rw [roundHalfEven_midpoint h]
    split_ifs
    · exact ⟨by linarith, by linarith⟩
    · push_cast
      exact ⟨by linarith, by linarith⟩

end HalfEven

/-! ## 2. Saturation -/

/-- `x`, cut off at the two ends of a range (the upper end is looked at first). -/
def saturate {α : Type*} [LT α] [DecidableLT α] (lo hi x : α) : α :=
  if hi < x then hi else if x < lo then lo else x

section Saturate

variable {α : Type*} [LinearOrder α]

/-- **A saturated value lies in the range.** -/
theorem saturate_mem {lo hi : α} (h : lo ≤ hi) (x : α) :
    lo ≤ saturate lo hi x ∧ saturate lo hi x ≤ hi := by
  unfold saturate
  split
  · exact ⟨h, le_refl hi⟩
  · rename_i hhi
    split
    · exact ⟨le_refl lo, h⟩
    · rename_i hlo
      exact ⟨not_lt.mp hlo, not_lt.mp hhi⟩

/-- Inside the range saturation does nothing. -/
theorem saturate_eq_self {lo hi x : α} (h1 : lo ≤ x) (h2 : x ≤ hi) : saturate lo hi x = x := by
  rw [saturate, if_neg (not_lt.mpr h2), if_neg (not_lt.mpr h1)]

/-- **Saturation to a symmetric range is odd.** -/
theorem saturate_neg [AddCommGroup α] [IsOrderedAddMonoid α] {a : α} (ha : 0 ≤ a) (x : α) :
    saturate (-a) a (-x) = -saturate (-a) a x := by
  have haa : -a ≤ a := (neg_nonpos.mpr ha).trans ha
  rcases lt_or_ge a x with h | h
  · rw [saturate, saturate, if_pos h, if_neg (not_lt.mpr ((neg_le_neg h.le).trans haa)),
      if_pos (neg_lt_neg h)]
  · rcases lt_or_ge x (-a) with h' | h'
    · rw [saturate, saturate, if_neg (not_lt.mpr h), if_pos h', neg_neg, if_pos (lt_neg.mp h')]
    · rw [saturate_eq_self h' h, saturate_eq_self (neg_le_neg h) (neg_le.mp h')]

end Saturate

end Rounding
