/-
  File:      Rk3588Chassis/Library/ExtRat.lean
  Subject:   Exact rationals with two infinities and NaN, under the comparison rules of IEEE 754.

  Every ordered comparison with NaN is false, and NaN is not equal to itself; an operation
  without a value (`inf - inf`, `0 * inf`, `0 / 0`, `inf / inf`) answers NaN. Rounding, overflow
  and the sign of zero are not modelled: a zero divisor counts as positive.

  * `finite_add`, `finite_sub`, `finite_mul`, `finite_neg` -- a result is finite exactly when the
    operands are: what is not finite spreads;
  * `finite_div` -- and a quotient of finite values by one that is not zero is finite;
  * `saturate_finite`, `saturate_nan` -- saturation by two comparisons brings everything into its
    range, infinities included, but lets NaN through.
-/
import Rk3588Chassis.Library.Rounding
import Mathlib.Algebra.Order.Ring.Rat

/-- A rational number, an infinity, or no number at all. -/
inductive ExtRat where
  | finite (q : ℚ)
  | inf (negative : Bool)
  | nan
  deriving DecidableEq

namespace ExtRat

/-! ## 1. Comparisons -/

/-- `a < b`. -/
def lt : ExtRat → ExtRat → Bool
  | .finite a, .finite b => decide (a < b)
  | .finite _, .inf negative => !negative
  | .inf negative, .finite _ => negative
  | .inf negative, .inf negative' => negative && !negative'
  | .nan, _ => false
  | _, .nan => false

/-- `a == b`. -/
def eq : ExtRat → ExtRat → Bool
  | .finite a, .finite b => decide (a = b)
  | .inf negative, .inf negative' => negative == negative'
  | _, _ => false

instance : LT ExtRat := ⟨fun a b => lt a b = true⟩

instance : LE ExtRat := ⟨fun a b => (lt a b || eq a b) = true⟩

instance : DecidableLT ExtRat := fun a b => inferInstanceAs (Decidable (lt a b = true))

instance : DecidableLE ExtRat := fun a b => inferInstanceAs (Decidable ((lt a b || eq a b) = true))

instance : BEq ExtRat := ⟨eq⟩

theorem finite_lt {a b : ℚ} : finite a < finite b ↔ a < b := decide_eq_true_iff

/-- **NaN is not below anything, nor above.** -/
theorem not_nan_lt (a : ExtRat) : ¬ nan < a := Bool.false_ne_true

theorem not_lt_nan (a : ExtRat) : ¬ a < nan := by
  cases a <;> exact Bool.false_ne_true

/-! ## 2. Arithmetic -/

/-- The infinity with the sign of a product or quotient. -/
def signedInf (negative negative' : Bool) : ExtRat := .inf (negative != negative')

instance : Zero ExtRat := ⟨.finite 0⟩

instance : Neg ExtRat where
  neg
    | .finite a => .finite (-a)
    | .inf negative => .inf !negative
    | .nan => .nan

instance : Add ExtRat where
  add
    | .finite a, .finite b => .finite (a + b)
    | .finite _, .inf negative => .inf negative
    | .inf negative, .finite _ => .inf negative
    | .inf negative, .inf negative' => if negative = negative' then .inf negative else .nan
    | .nan, _ => .nan
    | _, .nan => .nan

instance : Sub ExtRat := ⟨fun a b => a + -b⟩

/-- A number times an infinity. -/
def scaleInf (a : ℚ) (negative : Bool) : ExtRat :=
  if a = 0 then .nan else signedInf (decide (a < 0)) negative

instance : Mul ExtRat where
  mul
    | .finite a, .finite b => .finite (a * b)
    | .finite a, .inf negative => scaleInf a negative
    | .inf negative, .finite b => scaleInf b negative
    | .inf negative, .inf negative' => signedInf negative negative'
    | .nan, _ => .nan
    | _, .nan => .nan

instance : Div ExtRat where
  div
    | .finite a, .finite b => if b = 0 then scaleInf a false else .finite (a / b)
    | .finite _, .inf _ => .finite 0
    | .inf negative, .finite b => signedInf negative (decide (b < 0))
    | .inf _, .inf _ => .nan
    | .nan, _ => .nan
    | _, .nan => .nan

/-! ## 3. What is finite -/

/-- The value is a number. -/
def IsFinite : ExtRat → Prop
  | .finite _ => True
  | _ => False

instance : DecidablePred IsFinite
  | .finite _ => isTrue trivial
  | .inf _ => isFalse not_false
  | .nan => isFalse not_false

@[simp] theorem isFinite_finite (q : ℚ) : IsFinite (.finite q) := trivial

theorem isFinite_iff {a : ExtRat} : IsFinite a ↔ ∃ q, a = .finite q := by
  constructor
  · cases a with
    | finite q => exact fun _ => ⟨q, rfl⟩
    | inf negative => exact False.elim
    | nan => exact False.elim
  · intro hgiven
    obtain ⟨q, rfl⟩ := hgiven
    trivial

theorem scaleInf_not_finite (a : ℚ) (negative : Bool) : ¬ IsFinite (scaleInf a negative) := by
  unfold scaleInf
  split <;> exact not_false

theorem finite_neg {a : ExtRat} : IsFinite (-a) ↔ IsFinite a := by
  cases a <;> exact Iff.rfl

/-- **A sum is finite if both terms are.** -/
theorem finite_add {a b : ExtRat} : IsFinite (a + b) ↔ IsFinite a ∧ IsFinite b := by
  rcases a with a | n | _ <;> rcases b with b | n' | _
  · exact iff_of_true trivial ⟨trivial, trivial⟩
  · exact iff_of_false not_false fun h => h.2
  · exact iff_of_false not_false fun h => h.2
  · exact iff_of_false not_false fun h => h.1
  · refine iff_of_false ?_ fun h => h.1
    show ¬ IsFinite (if n = n' then .inf n else .nan)
    split <;> exact not_false
  all_goals exact iff_of_false not_false fun h => h.1

theorem finite_sub {a b : ExtRat} : IsFinite (a - b) ↔ IsFinite a ∧ IsFinite b := by
  show IsFinite (a + -b) ↔ _
  rw [finite_add, finite_neg]

/-- **So is a product**: even `0 * inf` is not. -/
theorem finite_mul {a b : ExtRat} : IsFinite (a * b) ↔ IsFinite a ∧ IsFinite b := by
  rcases a with a | n | _ <;> rcases b with b | n' | _
  · exact iff_of_true trivial ⟨trivial, trivial⟩
  · exact iff_of_false (scaleInf_not_finite a n') fun h => h.2
  · exact iff_of_false not_false fun h => h.2
  · exact iff_of_false (scaleInf_not_finite b n) fun h => h.1
  all_goals exact iff_of_false not_false fun h => h.1

theorem finite_div {a b : ExtRat} (ha : IsFinite a) (hb : IsFinite b) (hpos : 0 < b) :
    IsFinite (a / b) := by
  obtain ⟨p, rfl⟩ := isFinite_iff.mp ha
  obtain ⟨q, rfl⟩ := isFinite_iff.mp hb
  have hq : q ≠ 0 := (finite_lt.mp hpos).ne'
  show IsFinite (if q = 0 then scaleInf p false else .finite (p / q))
  rw [if_neg hq]
  trivial

/-! ## 4. Saturation -/

open Rounding

/-- Numbers are saturated as numbers. -/
theorem saturate_finite (lo hi q : ℚ) :
    saturate (finite lo) (finite hi) (finite q) = finite (saturate lo hi q) := by
  unfold saturate
  simp only [finite_lt]
  split_ifs <;> rfl

/-- **Infinities go to the ends of the range.** -/
theorem saturate_inf (lo hi : ℚ) (negative : Bool) :
    saturate (finite lo) (finite hi) (inf negative) =
      if negative then finite lo else finite hi := by
  cases negative <;> rfl

/-- **NaN goes through.** -/
theorem saturate_nan (lo hi : ExtRat) : saturate lo hi nan = nan := by
  rw [saturate, if_neg (not_lt_nan hi), if_neg (not_nan_lt lo)]

/-- **What saturation gives is a number in the range, unless it is given NaN.** -/
theorem saturate_mem_iff {lo hi : ℚ} (h : lo ≤ hi) (x : ExtRat) :
    (∃ q, saturate (finite lo) (finite hi) x = finite q ∧ lo ≤ q ∧ q ≤ hi) ↔ x ≠ nan := by
  cases x with
  | finite q =>
    have hmem := saturate_mem h q
    exact iff_of_true ⟨_, saturate_finite lo hi q, hmem.1, hmem.2⟩ nofun
  | inf negative =>
    refine iff_of_true ?_ nofun
    rw [saturate_inf]
    cases negative with
    | false => exact ⟨hi, rfl, h, le_refl hi⟩
    | true => exact ⟨lo, rfl, le_refl lo, h⟩
  | nan =>
    refine iff_of_false ?_ fun hne => hne rfl
    intro hgiven
    obtain ⟨q, hq, _⟩ := hgiven
    rw [saturate_nan] at hq
    cases hq

end ExtRat
