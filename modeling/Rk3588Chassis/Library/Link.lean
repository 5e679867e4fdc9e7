/-
  File:      Rk3588Chassis/Library/Link.lean
  Subject:   Two machines that talk over a network which keeps nothing of what it promises.

  A LINK is a pair of machines and a reading of their inputs and outputs as messages. A joint run
  is kept as its history, the turns of both parties in the order they took place, the newest
  first. The network is the pool of everything said so far: `Carried` asks of a delivered message
  only that the other side has said it before. Loss, delay, repetition and reordering are all in
  it, and the two parties may be interleaved in any way.

  * `Machine.said`, `Machine.heard` -- what a machine says and hears along a run of its own;
  * `Link.Carried.left_heard`, `Link.Carried.right_heard` -- what one party has heard, the other
    has said;
  * `Link.carried_inl_iff` -- one more turn of the left party in a carried run.
-/
import Rk3588Chassis.Library.Machine

namespace Reactive

variable {σ τ ι κ ο π α β : Type*}

namespace Machine

/-! ## 1. One party -/

/-- Everything a machine says along a run, newest turn first. -/
def said (M : Machine σ ι ο) (say : ο → List α) : List ι → List α
  | [] => []
  | i :: h => say (M.answer h i) ++ M.said say h

/-- Everything it hears, newest first; what a turn hears may depend on the state it meets. -/
def heard (M : Machine σ ι ο) (hear : σ → ι → List β) : List ι → List β
  | [] => []
  | i :: h => (hear (M.after h) i).reverse ++ M.heard hear h

/-- **A message was said in a turn of the run**, by the machine as the turns before have left
    it. -/
theorem mem_said {M : Machine σ ι ο} {say : ο → List α} {m : α} {h : List ι} :
    m ∈ M.said say h ↔ ∃ i g, i :: g <:+ h ∧ m ∈ say (M.answer g i) := by
  induction h with
  | nil =>
    refine ⟨fun hm => absurd hm List.not_mem_nil, fun hm => ?_⟩
    obtain ⟨i, g, hs, _⟩ := hm
    exact nomatch List.suffix_nil.mp hs
  | cons j h ih =>
    rw [said, List.mem_append, ih]
    refine ⟨fun hm => ?_, fun hm => ?_⟩
    · rcases hm with hm | ⟨i, g, hs, hm⟩
      · exact ⟨j, h, List.suffix_refl _, hm⟩
      · exact ⟨i, g, hs.trans (List.suffix_cons j h), hm⟩
    · obtain ⟨i, g, hs, hm⟩ := hm
      rcases List.suffix_cons_iff.mp hs with heq | hs
      · cases heq
        exact Or.inl hm
      · exact Or.inr ⟨i, g, hs, hm⟩

theorem said_map (M : Machine σ ι ο) (say : ο → List α) (f : α → β) (h : List ι) :
    M.said (fun o => (say o).map f) h = (M.said say h).map f := by
  induction h with
  | nil => rfl
  | cons i h ih => rw [said, said, ih, List.map_append]

/-- What a property rules out of every turn, it rules out of the run. -/
theorem said_forall {M : Machine σ ι ο} {say : ο → List α} {I : σ → Prop} {P : α → Prop}
    (h0 : I M.start) (hs : ∀ s i, I s → I (M.step s i).1 ∧ ∀ m ∈ say (M.step s i).2, P m)
    (h : List ι) : ∀ m ∈ M.said say h, P m := by
  have hinv : ∀ g, I (M.after g) := M.after_invariant h0 fun s i hi => (hs s i hi).1
  intro m hm
  obtain ⟨i, g, _, hm⟩ := mem_said.mp hm
  exact (hs _ i (hinv g)).2 m hm

end Machine

/-! ## 2. Two parties -/

/-- Two machines, and what they hear and say: the left one says `α`, the right one `β`. -/
structure Link (σ τ ι κ ο π α β : Type*) where
  left : Machine σ ι ο
  right : Machine τ κ π
  heardLeft : σ → ι → List β
  saidLeft : ο → List α
  heardRight : τ → κ → List α
  saidRight : π → List β

namespace Link

/-- The turns of the left party. -/
def lefts : List (ι ⊕ κ) → List ι
  | [] => []
  | .inl i :: h => i :: lefts h
  | .inr _ :: h => lefts h

/-- The turns of the right party. -/
def rights : List (ι ⊕ κ) → List κ
  | [] => []
  | .inl _ :: h => rights h
  | .inr k :: h => k :: rights h

variable (L : Link σ τ ι κ ο π α β)

/-- Everything the left party has said. -/
def toRight (h : List (ι ⊕ κ)) : List α := L.left.said L.saidLeft (lefts h)

/-- Everything the right party has said. -/
def toLeft (h : List (ι ⊕ κ)) : List β := L.right.said L.saidRight (rights h)

/-- **The network delivers only what was said**: as often, as late and in whatever order it
    likes. -/
def Carried : List (ι ⊕ κ) → Prop
  | [] => True
  | .inl i :: h => (∀ m ∈ L.heardLeft (L.left.after (lefts h)) i, m ∈ L.toLeft h) ∧ Carried h
  | .inr k :: h => (∀ m ∈ L.heardRight (L.right.after (rights h)) k, m ∈ L.toRight h) ∧ Carried h

variable {L}

theorem carried_inl_iff {i : ι} {h : List (ι ⊕ κ)} : L.Carried (.inl i :: h) ↔
    (∀ m ∈ L.heardLeft (L.left.after (lefts h)) i, m ∈ L.toLeft h) ∧ L.Carried h := Iff.rfl

/-- **What the left party has heard, the right one has said.** -/
theorem Carried.left_heard {h : List (ι ⊕ κ)} (hc : L.Carried h) :
    ∀ m ∈ L.left.heard L.heardLeft (lefts h), m ∈ L.toLeft h := by
  induction h with
  | nil => exact fun m hm => absurd hm List.not_mem_nil
  | cons t h ih =>
    cases t with
    | inl i =>
      intro m hm
      rcases List.mem_append.mp hm with hm | hm
      · exact hc.1 m (List.mem_reverse.mp hm)
      · exact ih hc.2 m hm
    | inr k => exact fun m hm => List.mem_append_right _ (ih hc.2 m hm)

/-- **What the right party has heard, the left one has said.** -/
theorem Carried.right_heard {h : List (ι ⊕ κ)} (hc : L.Carried h) :
    ∀ m ∈ L.right.heard L.heardRight (rights h), m ∈ L.toRight h := by
  induction h with
  | nil => exact fun m hm => absurd hm List.not_mem_nil
  | cons t h ih =>
    cases t with
    | inl i => exact fun m hm => List.mem_append_right _ (ih hc.2 m hm)
    | inr k =>
      intro m hm
      rcases List.mem_append.mp hm with hm | hm
      · exact hc.1 m (List.mem_reverse.mp hm)
      · exact ih hc.2 m hm

end Link

end Reactive
