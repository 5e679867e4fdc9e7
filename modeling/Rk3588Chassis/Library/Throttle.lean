/-
  File:      Rk3588Chassis/Library/Throttle.lean
  Subject:   Throttles: an action that a clock lets through once a period.

  A run is the history of its turns, newest first. A throttle reads the clock (`now`) in a turn,
  compares it with the MARK, the reading it stored (`stamp`) when it last fired, and fires at most
  if a period has passed. `firings` are the times it fired.

  * `spaced_firings` -- under a forward clock two firings are a period apart;
  * `Spaced.window` -- so a window of `w` holds at most `w / period + 1` of them.
-/
import Mathlib.Data.List.Infix
import Mathlib.Data.Nat.Basic

namespace Throttle

/-! ## 1. Spaced times -/

/-- Times, newest first, each at least a period after the one before. -/
def Spaced (period : Nat) (times : List Nat) : Prop :=
  times.Pairwise fun later earlier => earlier + period ≤ later

theorem Spaced.sublist {period : Nat} {times times' : List Nat} (h : Spaced period times)
    (hs : times'.Sublist times) : Spaced period times' := List.Pairwise.sublist hs h

/-- Spaced times between `a` and `b` leave a period for each but one. -/
theorem Spaced.length_mul_le {period a b : Nat} :
    ∀ {times : List Nat}, Spaced period times → (∀ t ∈ times, a ≤ t ∧ t ≤ b) → a ≤ b →
      times.length * period ≤ b - a + period
  | [], _, _, _ => by
    rw [List.length_nil, Nat.zero_mul]
    exact Nat.zero_le _
  | [t], _, _, _ => by
    rw [List.length_singleton, Nat.one_mul]
    exact Nat.le_add_left _ _
  | t :: t' :: times, h, hin, hab => by
    obtain ⟨hnew, htail⟩ := List.pairwise_cons.mp h
    have htt' := hnew t' (List.mem_cons_self ..)
    have ht := hin t (List.mem_cons_self ..)
    have ht' := hin t' (List.mem_cons_of_mem _ (List.mem_cons_self ..))
    -- the older times all lie before `t - period`
    have hold : ∀ u ∈ t' :: times, a ≤ u ∧ u ≤ t - period := fun u hu =>
      ⟨(hin u (List.mem_cons_of_mem _ hu)).1, Nat.le_sub_of_add_le (hnew u hu)⟩
    have ih := Spaced.length_mul_le htail hold (by omega)
    rw [List.length_cons, Nat.add_mul, Nat.one_mul]
    omega

/-- **A window of `w` holds at most `w / period + 1` spaced times.** -/
theorem Spaced.window {period : Nat} (hp : 0 < period) {times : List Nat}
    (h : Spaced period times) (a w : Nat) :
    (times.filter fun t => decide (a ≤ t ∧ t ≤ a + w)).length ≤ w / period + 1 := by
  have hin : ∀ t ∈ times.filter fun t => decide (a ≤ t ∧ t ≤ a + w), a ≤ t ∧ t ≤ a + w :=
    fun t ht => of_decide_eq_true (List.mem_filter.mp ht).2
  have hlen := (h.sublist List.filter_sublist).length_mul_le hin (Nat.le_add_right a w)
  have hroom : a + w - a + period = w + period := by omega
  rw [hroom] at hlen
  have hdiv := (Nat.le_div_iff_mul_le hp).mpr hlen
  rwa [Nat.add_div_right w hp] at hdiv

/-! ## 2. Throttles -/

section Run

variable {ι : Type*} (now stamp : ι → Nat) (fires : List ι → ι → Bool)

/-- The reading stored when the throttle last fired; 0 before. -/
def mark : List ι → Nat
  | [] => 0
  | i :: h => if fires h i then stamp i else mark h

/-- The times it fired. -/
def firings : List ι → List Nat
  | [] => []
  | i :: h => if fires h i then now i :: firings h else firings h

/-- A clock that does not run backwards, within a turn or from turn to turn. -/
structure Forward (h : List ι) : Prop where
  turns : h.Pairwise fun later earlier => stamp earlier ≤ now later
  turn : ∀ i ∈ h, now i ≤ stamp i

variable {now stamp fires}

theorem Forward.tail {i : ι} {h : List ι} (hf : Forward now stamp (i :: h)) :
    Forward now stamp h :=
  ⟨(List.pairwise_cons.mp hf.turns).2, fun j hj => hf.turn j (List.mem_cons_of_mem i hj)⟩

/-- The mark is the stamp of an older turn. -/
theorem mark_eq (h : List ι) : mark stamp fires h = 0 ∨ ∃ j ∈ h, mark stamp fires h = stamp j := by
  induction h with
  | nil => exact Or.inl rfl
  | cons i h ih =>
    rw [mark]
    split
    · exact Or.inr ⟨i, List.mem_cons_self .., rfl⟩
    · rcases ih with h0 | ⟨j, hj, heq⟩
      · exact Or.inl h0
      · exact Or.inr ⟨j, List.mem_cons_of_mem i hj, heq⟩

/-- So it is not later than the reading it is compared with. -/
theorem Forward.mark_le {i : ι} {h : List ι} (hf : Forward now stamp (i :: h)) :
    mark stamp fires h ≤ now i := by
  rcases @mark_eq ι stamp fires h with h0 | ⟨j, hj, heq⟩
  · rw [h0]
    exact Nat.zero_le _
  · rw [heq]
    exact (List.pairwise_cons.mp hf.turns).1 j hj

/-- And not earlier than any firing. -/
theorem firing_le_mark {h : List ι} (hf : Forward now stamp h) :
    ∀ t ∈ firings now fires h, t ≤ mark stamp fires h := by
  induction h with
  | nil => exact fun t ht => absurd ht List.not_mem_nil
  | cons i h ih =>
    have hturn := hf.turn i (List.mem_cons_self ..)
    have hmark : mark stamp fires h ≤ now i := hf.mark_le
    intro t ht
    rw [firings] at ht
    rw [mark]
    split at ht
    · rename_i hfire
      rw [if_pos hfire]
      rcases List.mem_cons.mp ht with rfl | ht
      · exact hturn
      · exact (ih hf.tail t ht).trans (hmark.trans hturn)
    · rename_i hfire
      rw [if_neg hfire]
      exact ih hf.tail t ht

/-- **Two firings are a period apart**, if the throttle holds the period against its mark. -/
theorem spaced_firings {period : Nat} {h : List ι} (hf : Forward now stamp h)
    (hgate : ∀ i g, i :: g <:+ h → fires g i = true → mark stamp fires g ≤ now i →
      mark stamp fires g + period ≤ now i) : Spaced period (firings now fires h) := by
  induction h with
  | nil => exact List.Pairwise.nil
  | cons i h ih =>
    have ih' := ih hf.tail fun j g hs => hgate j g (hs.trans (List.suffix_cons i h))
    rw [firings]
    split
    · rename_i hfire
      have hopen := hgate i h (List.suffix_refl _) hfire hf.mark_le
      refine List.pairwise_cons.mpr ⟨fun t ht => ?_, ih'⟩
      exact (Nat.add_le_add_right (firing_le_mark hf.tail t ht) period).trans hopen
    · exact ih'

/-- The firings of a throttle that fires less often. -/
theorem firings_sublist {fires' : List ι → ι → Bool} {h : List ι}
    (hle : ∀ i g, i :: g <:+ h → fires' g i = true → fires g i = true) :
    (firings now fires' h).Sublist (firings now fires h) := by
  induction h with
  | nil => exact List.Sublist.refl _
  | cons i h ih =>
    have ih' := ih fun j g hs => hle j g (hs.trans (List.suffix_cons i h))
    rw [firings, firings]
    by_cases hfire' : fires' h i = true
    · rw [if_pos hfire', if_pos (hle i h (List.suffix_refl _) hfire')]
      exact ih'.cons_cons _
    · rw [if_neg hfire']
      split
      · exact ih'.cons _
      · exact ih'

end Run

end Throttle
