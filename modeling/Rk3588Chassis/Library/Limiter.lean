/-
  File:      Rk3588Chassis/Library/Limiter.lean
  Subject:   Bringing a vector of demands down to a limit by one common factor.

  Saturating the entries one by one bends a vector; scaling all of them by `limit / peak` keeps
  its direction. The factor is 1 while the peak is within the limit.

  * `IsPeak` -- the largest magnitude among the entries;
  * `factor_pos`, `factor_nonneg`, `factor_le_one`, `factor_eq_one_iff`, `peak_mul_factor_le` --
    the range of the factor and what it does to the peak;
  * `mul_factor_le` -- a smaller demand in the same direction is never answered by more.

  A negative limit makes the factor negative: every lemma here that bounds it asks for a sign.
-/
import Mathlib.Algebra.Order.Field.Basic

namespace Limiter

variable {α : Type*} [Field α] [LinearOrder α] [IsStrictOrderedRing α]

/-! ## 1. The peak -/

/-- `peak` is the largest magnitude among the entries of `v`. -/
structure IsPeak {ι : Type*} (v : ι → α) (peak : α) : Prop where
  le : ∀ i, |v i| ≤ peak
  attained : ∃ i, |v i| = peak

theorem IsPeak.nonneg {ι : Type*} {v : ι → α} {peak : α} (h : IsPeak v peak) : 0 ≤ peak := by
  obtain ⟨i, hi⟩ := h.attained
  exact hi ▸ abs_nonneg (v i)

omit [IsStrictOrderedRing α] in
theorem IsPeak.unique {ι : Type*} {v : ι → α} {p q : α} (hp : IsPeak v p) (hq : IsPeak v q) :
    p = q := by
  obtain ⟨i, hi⟩ := hp.attained
  obtain ⟨j, hj⟩ := hq.attained
  exact le_antisymm (hi ▸ hq.le i) (hj ▸ hp.le j)

/-- Scaling the entries by a factor that is not negative scales the peak. -/
theorem IsPeak.scale {ι : Type*} {v : ι → α} {peak : α} (h : IsPeak v peak) {l : α} (hl : 0 ≤ l) :
    IsPeak (fun i => l * v i) (l * peak) := by
  refine ⟨fun i => ?_, ?_⟩
  · rw [abs_mul, abs_of_nonneg hl]
    exact mul_le_mul_of_nonneg_left (h.le i) hl
  · obtain ⟨i, hi⟩ := h.attained
    exact ⟨i, by rw [abs_mul, abs_of_nonneg hl, hi]⟩

/-! ## 2. The factor -/

/-- What brings `peak` down to `limit`: 1 if there is nothing to do. -/
def factor (limit peak : α) : α := if limit < peak ∧ 0 < peak then limit / peak else 1

omit [IsStrictOrderedRing α] in
theorem factor_of_le {limit peak : α} (h : peak ≤ limit) : factor limit peak = 1 :=
  if_neg fun hc => absurd hc.1 (not_lt.mpr h)

omit [IsStrictOrderedRing α] in
theorem factor_of_lt {limit peak : α} (hp : 0 < peak) (h : limit < peak) :
    factor limit peak = limit / peak := if_pos ⟨h, hp⟩

theorem factor_nonneg {limit peak : α} (hl : 0 ≤ limit) : 0 ≤ factor limit peak := by
  unfold factor
  split
  · rename_i h
    exact div_nonneg hl h.2.le
  · exact zero_le_one

theorem factor_pos {limit peak : α} (hl : 0 < limit) : 0 < factor limit peak := by
  unfold factor
  split
  · rename_i h
    exact div_pos hl h.2
  · exact zero_lt_one

theorem factor_le_one (limit peak : α) : factor limit peak ≤ 1 := by
  unfold factor
  split
  · rename_i h
    exact (div_le_one h.2).mpr h.1.le
  · exact le_refl _

omit [IsStrictOrderedRing α] in
/-- A positive limit leaves the entries alone exactly if the peak is within it. -/
theorem factor_eq_one_iff {limit peak : α} (hl : 0 < limit) :
    factor limit peak = 1 ↔ peak ≤ limit := by
  refine ⟨fun h => le_of_not_gt fun hlt => ?_, factor_of_le⟩
  rw [factor_of_lt (hl.trans hlt) hlt, div_eq_one_iff_eq (hl.trans hlt).ne'] at h
  exact hlt.ne h

omit [IsStrictOrderedRing α] in
/-- **Beyond the limit the peak is brought down to it exactly.** -/
theorem peak_mul_factor {limit peak : α} (hp : 0 < peak) (h : limit < peak) :
    peak * factor limit peak = limit := by
  rw [factor_of_lt hp h, mul_div_cancel₀ _ hp.ne']

omit [IsStrictOrderedRing α] in
/-- **The limited peak is within the limit.** -/
theorem peak_mul_factor_le {limit peak : α} (hl : 0 ≤ limit) : peak * factor limit peak ≤ limit := by
  rcases le_or_gt peak limit with h | h
  · rw [factor_of_le h, mul_one]
    exact h
  · exact (peak_mul_factor (hl.trans_lt h) h).le

/-- **A smaller demand in the same direction is never answered by more.** -/
theorem mul_factor_le {limit peak l : α} (hlim : 0 ≤ limit) (hp : 0 ≤ peak) (h0 : 0 ≤ l)
    (h1 : l ≤ 1) : l * factor limit (l * peak) ≤ factor limit peak := by
  rcases le_or_gt peak limit with h | h
  · rw [factor_of_le h, factor_of_le ((mul_le_of_le_one_left hp h1).trans h), mul_one]
    exact h1
  · have hpos : 0 < peak := hlim.trans_lt h
    rw [factor_of_lt hpos h]
    rcases le_or_gt (l * peak) limit with hsmall | hbig
    · rw [factor_of_le hsmall, mul_one]
      exact (le_div_iff₀ hpos).mpr hsmall
    · have hlpos : 0 < l := lt_of_le_of_ne h0 fun e => by
        rw [← e, zero_mul] at hbig
        exact absurd hlim (not_le.mpr hbig)
      rw [factor_of_lt (mul_pos hlpos hpos) hbig, ← mul_div_assoc, mul_div_mul_left _ _ hlpos.ne']

end Limiter
