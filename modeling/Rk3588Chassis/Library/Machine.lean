/-
  File:      Rk3588Chassis/Library/Machine.lean
  Subject:   Deterministic machines with outputs: runs, invariants, two-run relations.

  A machine takes one input at a time and answers one output. A run is kept as its HISTORY,
  the list of the inputs with the newest first, so that "the latest input such that ..." is
  the first hit of a search and an invariant over runs is an induction over the list.

  * `Machine.after_invariant`, `Machine.after_admissible` -- what every step preserves holds
    after every (admissible) history; the second may speak about the history itself;
  * `Machine.after_related` -- a relation between two machines that every pair of related
    inputs preserves holds after every pair of related histories;
  * `forall_turn_cons`, `forall_turn_nil` -- what holds of every turn of a run, turn by turn;
  * `ObsEq`, `obsEq_of_bisim` -- two states no future input sequence tells apart.
-/
import Mathlib.Data.List.Forall2
import Mathlib.Data.List.Infix

namespace Reactive

/-- A deterministic machine with outputs: where it starts and what one input does. -/
structure Machine (σ ι ο : Type*) where
  start : σ
  step : σ → ι → σ × ο

variable {σ τ ι κ ο π : Type*}

namespace Machine

/-! ## 1. Runs -/

/-- The state after a history (newest input first). -/
def after (M : Machine σ ι ο) : List ι → σ
  | [] => M.start
  | i :: h => (M.step (M.after h) i).1

/-- The output the machine gives to `i` after the history `h`. -/
def answer (M : Machine σ ι ο) (h : List ι) (i : ι) : ο := (M.step (M.after h) i).2

@[simp] theorem after_nil (M : Machine σ ι ο) : M.after [] = M.start := rfl

@[simp] theorem after_cons (M : Machine σ ι ο) (i : ι) (h : List ι) :
    M.after (i :: h) = (M.step (M.after h) i).1 := rfl

end Machine

/-- A property of every turn of a run and of what came before it: the newest turn first. -/
theorem forall_turn_cons {P : ι → List ι → Prop} {i : ι} {run : List ι} :
    (∀ j hist, (j :: hist) <:+ (i :: run) → P j hist) ↔
      P i run ∧ ∀ j hist, (j :: hist) <:+ run → P j hist := by
  constructor
  · intro h
    exact ⟨h i run (List.suffix_refl _), fun j hist hs => h j hist (hs.trans (List.suffix_cons i run))⟩
  · rintro ⟨hi, hrun⟩ j hist hs
    rcases List.suffix_cons_iff.mp hs with heq | hs
    · obtain ⟨rfl, rfl⟩ := List.cons.inj heq
      exact hi
    · exact hrun j hist hs

theorem forall_turn_nil {P : ι → List ι → Prop} : ∀ j hist, (j :: hist) <:+ [] → P j hist :=
  fun _ _ hs => nomatch List.suffix_nil.mp hs

namespace Machine

/-! ## 2. Invariants -/

/-- **What holds at the start and is preserved by every step holds after every history.** -/
theorem after_invariant (M : Machine σ ι ο) {P : σ → Prop} (h0 : P M.start)
    (hs : ∀ s i, P s → P (M.step s i).1) : ∀ h, P (M.after h)
  | [] => h0
  | i :: h => hs _ i (after_invariant M h0 hs h)

/-- The invariant may speak about the history, and a step may use that the history is
    admissible, as long as every older part of an admissible history is admissible. -/
theorem after_admissible (M : Machine σ ι ο) {A : List ι → Prop} {P : List ι → σ → Prop}
    (hA : ∀ i h, A (i :: h) → A h) (h0 : P [] M.start)
    (hs : ∀ i h s, A (i :: h) → P h s → P (i :: h) (M.step s i).1) :
    ∀ h, A h → P h (M.after h)
  | [], _ => h0
  | i :: h, ha => hs i h _ ha (after_admissible M hA h0 hs h (hA i h ha))

/-! ## 3. Two runs -/

/-- **A relation kept by every pair of related inputs holds after related histories.** -/
theorem after_related (M : Machine σ ι ο) (N : Machine τ κ π) {R : σ → τ → Prop}
    {Q : ι → κ → Prop} (h0 : R M.start N.start)
    (hs : ∀ s t i j, R s t → Q i j → R (M.step s i).1 (N.step t j).1)
    {h : List ι} {k : List κ} (hk : List.Forall₂ Q h k) : R (M.after h) (N.after k) := by
  induction hk with
  | nil => exact h0
  | cons hq _ ih => exact hs _ _ _ _ ih hq

end Machine

/-! ## 4. Observational equality -/

/-- The outputs along a future input sequence, oldest first. -/
def outputs (step : σ → ι → σ × ο) : σ → List ι → List ο
  | _, [] => []
  | s, i :: is => (step s i).2 :: outputs step (step s i).1 is

/-- Two states no future input sequence tells apart. -/
def ObsEq (step : σ → ι → σ × ο) (s t : σ) : Prop :=
  ∀ is, outputs step s is = outputs step t is

/-- **Bisimilar states are observationally equal.** -/
theorem obsEq_of_bisim {step : σ → ι → σ × ο} {R : σ → σ → Prop}
    (hs : ∀ s t i, R s t → R (step s i).1 (step t i).1 ∧ (step s i).2 = (step t i).2)
    {s t : σ} (h : R s t) : ObsEq step s t := by
  intro is
  induction is generalizing s t with
  | nil => rfl
  | cons i is ih =>
    obtain ⟨hR, ho⟩ := hs s t i h
    simp only [outputs, ho, ih hR]

end Reactive
