/-
  File:      Rk3588Chassis/Library/Deadline.lean
  Subject:   Loops that a test on the clock is meant to end.

  Each turn takes one input. A loop ends when its test fires on the input, at a stop request, or
  when what a turn sends is not delivered; the test comes before the work of the turn.

  A test that never fires early is safe but may fire late, or not at all. Whether it does is
  decided by one input of the run, the first late one that the run gets to (`FirstLate`):

  * `Loop.run_eq_of_fires` -- a test that fires there runs as the exact test does;
  * `Loop.sends_late` -- a test that does not has sent something late;
  * `Loop.on_time_iff` -- so nothing late is sent exactly if it fires there.

  The turns alone are a machine (`Loop.machine`), and a run sends what it answers
  (`Loop.run_sent_answer`).
-/
import Mathlib.Data.List.Basic
import Rk3588Chassis.Library.Machine

namespace Deadline

/-- What a turn does, and whether what it sends is delivered. -/
structure Loop (S I O : Type*) where
  step : S → I → S × O
  delivered : I → Bool

/-- How a run ended. -/
inductive Ending (I : Type*) where
  /-- it has not: the inputs are used up -/
  | running
  | stopped
  | expired (input : I)
  | failed (input : I)

/-- A run: what was sent, with the input of the turn that sent it, and how it ended. -/
structure Run (I O : Type*) where
  sent : List (I × O)
  ending : Ending I

/-- The first late input that a run gets to, past turns that were neither late nor failed. -/
inductive FirstLate {I : Type*} (delivered late : I → Bool) : List (Option I) → I → Prop
  | here {i : I} {turns : List (Option I)} (h : late i = true) :
      FirstLate delivered late (some i :: turns) i
  | later {i j : I} {turns : List (Option I)} (hi : late i = false) (hd : delivered i = true)
      (h : FirstLate delivered late turns j) : FirstLate delivered late (some i :: turns) j

variable {S I O : Type*}

/-- A first late input is late. -/
theorem FirstLate.isLate {delivered late : I → Bool} {turns : List (Option I)} {i : I}
    (h : FirstLate delivered late turns i) : late i = true := by
  induction h with
  | here h => exact h
  | later _ _ _ ih => exact ih

/-- It is an input of the run. -/
theorem FirstLate.mem {delivered late : I → Bool} {turns : List (Option I)} {i : I}
    (h : FirstLate delivered late turns i) : some i ∈ turns := by
  induction h with
  | here _ => exact List.mem_cons_self
  | later _ _ _ ih => exact List.mem_cons_of_mem _ ih

/-- A test that fires on late inputs only. -/
def NeverEarly (test late : I → Bool) (turns : List (Option I)) : Prop :=
  ∀ i, some i ∈ turns → test i = true → late i = true

theorem NeverEarly.tail {test late : I → Bool} {turn : Option I} {turns : List (Option I)}
    (h : NeverEarly test late (turn :: turns)) : NeverEarly test late turns :=
  fun i hi => h i (List.mem_cons_of_mem _ hi)

/-- It does not fire on an input in time. -/
theorem NeverEarly.quiet {test late : I → Bool} {i : I} {turns : List (Option I)}
    (h : NeverEarly test late (some i :: turns)) (hi : late i = false) : test i = false := by
  rw [Bool.eq_false_iff]
  intro htest
  have hlate := h i List.mem_cons_self htest
  rw [hi] at hlate
  cases hlate

namespace Loop

variable (loop : Loop S I O)

/-- A run on a script of inputs; `none` is a stop request. -/
def run (test : I → Bool) : S → List (Option I) → Run I O
  | _, [] => ⟨[], .running⟩
  | _, none :: _ => ⟨[], .stopped⟩
  | s, some i :: turns =>
    if test i then ⟨[], .expired i⟩
    else if loop.delivered i then
      let rest := run test (loop.step s i).1 turns
      ⟨(i, (loop.step s i).2) :: rest.sent, rest.ending⟩
    else ⟨[(i, (loop.step s i).2)], .failed i⟩

variable {loop} {test late : I → Bool}

/-- The turn on which the test fires. -/
theorem run_fires {i : I} (h : test i = true) (s : S) (turns : List (Option I)) :
    loop.run test s (some i :: turns) = ⟨[], .expired i⟩ := by
  rw [run, if_pos h]

/-- A turn on which it does not, and whose output is delivered. -/
theorem run_sends {i : I} (h : test i = false) (hd : loop.delivered i = true) (s : S)
    (turns : List (Option I)) : loop.run test s (some i :: turns) =
      ⟨(i, (loop.step s i).2) :: (loop.run test (loop.step s i).1 turns).sent,
        (loop.run test (loop.step s i).1 turns).ending⟩ := by
  rw [run, if_neg (Bool.eq_false_iff.mp h), if_pos hd]

/-- A turn on which it does not, and whose output is lost. -/
theorem run_fails {i : I} (h : test i = false) (hd : loop.delivered i = false) (s : S)
    (turns : List (Option I)) :
    loop.run test s (some i :: turns) = ⟨[(i, (loop.step s i).2)], .failed i⟩ := by
  rw [run, if_neg (Bool.eq_false_iff.mp h), if_neg (Bool.eq_false_iff.mp hd)]

/-- Either way the turn has sent. -/
theorem run_works {i : I} (h : test i = false) (s : S) (turns : List (Option I)) :
    (i, (loop.step s i).2) ∈ (loop.run test s (some i :: turns)).sent := by
  cases hd : loop.delivered i with
  | true =>
    rw [run_sends h hd]
    exact List.mem_cons_self
  | false =>
    rw [run_fails h hd]
    exact List.mem_singleton_self _

/-- What holds of every turn on which the test is quiet holds of all that is sent. -/
theorem run_sent_forall {Q : I × O → Prop}
    (h : ∀ s i, test i = false → Q (i, (loop.step s i).2)) :
    ∀ (turns : List (Option I)) (s : S) (p : I × O), p ∈ (loop.run test s turns).sent → Q p
  | some i :: turns, s, p, hp => by
    cases htest : test i with
    | true =>
      rw [run_fires htest] at hp
      cases hp
    | false =>
      cases hd : loop.delivered i with
      | true =>
        rw [run_sends htest hd] at hp
        rcases List.mem_cons.mp hp with rfl | hp
        · exact h s i htest
        · exact run_sent_forall h turns _ p hp
      | false =>
        rw [run_fails htest hd] at hp
        obtain rfl := List.mem_singleton.mp hp
        exact h s i htest

/-- What the test fires on is not worked on. -/
theorem run_sent_quiet (turns : List (Option I)) (s : S) (p : I × O)
    (hp : p ∈ (loop.run test s turns).sent) : test p.1 = false :=
  run_sent_forall (Q := fun p => test p.1 = false) (fun _ _ htest => htest) turns s p hp

/-- **Fired on the first late input, the test has run as the exact one.** -/
theorem run_eq_of_fires : ∀ {turns : List (Option I)} (s : S), NeverEarly test late turns →
    (∀ i, FirstLate loop.delivered late turns i → test i = true) →
    loop.run test s turns = loop.run late s turns
  | [], _, _, _ => rfl
  | none :: _, _, _, _ => rfl
  | some i :: turns, s, hearly, hfires => by
    cases hlate : late i with
    | true => rw [run_fires hlate, run_fires (hfires i (.here hlate))]
    | false =>
      have htest := hearly.quiet hlate
      cases hd : loop.delivered i with
      | false => rw [run_fails htest hd, run_fails hlate hd]
      | true =>
        have hrest := run_eq_of_fires (loop.step s i).1 hearly.tail
          fun j hj => hfires j (.later hlate hd hj)
        rw [run_sends htest hd, run_sends hlate hd, hrest]

/-- **Not fired there, it has sent something late.** -/
theorem sends_late {turns : List (Option I)} {i : I} (h : FirstLate loop.delivered late turns i)
    (hearly : NeverEarly test late turns) (hi : test i = false) (s : S) :
    ∃ p ∈ (loop.run test s turns).sent, p.1 = i := by
  induction h generalizing s with
  | here _ => exact ⟨_, run_works hi s _, rfl⟩
  | later hlate hd _ ih =>
    rw [run_sends (hearly.quiet hlate) hd]
    obtain ⟨p, hp, heq⟩ := ih hearly.tail hi _
    exact ⟨p, List.mem_cons_of_mem _ hp, heq⟩

/-- **Nothing late is sent exactly if the test fires on the first late input.** -/
theorem on_time_iff {turns : List (Option I)} (hearly : NeverEarly test late turns) (s : S) :
    (∀ p ∈ (loop.run test s turns).sent, late p.1 = false) ↔
      ∀ i, FirstLate loop.delivered late turns i → test i = true := by
  constructor
  · intro h i hi
    by_contra hquiet
    obtain ⟨p, hp, rfl⟩ := sends_late hi hearly (Bool.eq_false_iff.mpr hquiet) s
    have hlate := hi.isLate
    rw [h p hp] at hlate
    cases hlate
  · intro hfires p hp
    rw [run_eq_of_fires s hearly hfires] at hp
    exact run_sent_quiet turns s p hp

/-- The exact test leaves at the first late input. -/
theorem run_expires {turns : List (Option I)} {i : I} (h : FirstLate loop.delivered late turns i)
    (s : S) : (loop.run late s turns).ending = .expired i := by
  induction h generalizing s with
  | here hlate => rw [run_fires hlate]
  | later hlate hd _ ih =>
    rw [run_sends hlate hd]
    exact ih _

/-- Two tests that agree on every input of a script run alike. -/
theorem run_congr : ∀ {turns : List (Option I)} (s : S),
    (∀ i, some i ∈ turns → test i = late i) → loop.run test s turns = loop.run late s turns
  | [], _, _ => rfl
  | none :: _, _, _ => rfl
  | some i :: turns, s, hagree => by
    have hrest := run_congr (loop.step s i).1 fun j hj => hagree j (List.mem_cons_of_mem _ hj)
    rw [run, run, hagree i List.mem_cons_self, hrest]

/-! ## The machine in a loop -/

/-- The turns of a loop, as a machine. -/
def machine (loop : Loop S I O) (s : S) : Reactive.Machine S I O where
  start := s
  step := loop.step

/-- A run that starts one turn later. -/
theorem machine_after_concat (s : S) (i : I) (hist : List I) :
    (loop.machine s).after (hist ++ [i]) = (loop.machine (loop.step s i).1).after hist := by
  induction hist with
  | nil => rfl
  | cons j hist ih => exact congrArg (fun s => (loop.step s j).1) ih

/-- **A run sends what the machine answers** to the inputs of the turns that send. -/
theorem run_sent_answer : ∀ {turns : List (Option I)} {s : S} {before after : List (I × O)}
    {p : I × O}, (loop.run test s turns).sent = before ++ p :: after →
    p.2 = (loop.machine s).answer (before.map Prod.fst).reverse p.1
  | [], _, before, after, p, h => absurd h.symm (List.append_ne_nil_of_right_ne_nil _ nofun)
  | none :: _, _, before, after, p, h => absurd h.symm (List.append_ne_nil_of_right_ne_nil _ nofun)
  | some i :: turns, s, before, after, p, h => by
    have hsent : (loop.run test s (some i :: turns)).sent = [] ∨
        ∃ rest, (loop.run test s (some i :: turns)).sent = (i, (loop.step s i).2) :: rest ∧
          (rest = [] ∨ rest = (loop.run test (loop.step s i).1 turns).sent) := by
      cases htest : test i with
      | true => exact Or.inl (by rw [run_fires htest])
      | false =>
        cases hd : loop.delivered i with
        | true => exact Or.inr ⟨_, by rw [run_sends htest hd], Or.inr rfl⟩
        | false => exact Or.inr ⟨[], by rw [run_fails htest hd], Or.inl rfl⟩
    rcases hsent with hnil | ⟨rest, hcons, hrest⟩
    · rw [hnil] at h
      exact absurd h.symm (List.append_ne_nil_of_right_ne_nil _ nofun)
    · rw [hcons] at h
      cases before with
      | nil =>
        cases h
        rfl
      | cons q before =>
        obtain ⟨rfl, htail⟩ := List.cons.inj h
        rcases hrest with rfl | rfl
        · exact absurd htail.symm (List.append_ne_nil_of_right_ne_nil _ nofun)
        · rw [run_sent_answer htail, List.map_cons, List.reverse_cons]
          unfold Reactive.Machine.answer
          rw [machine_after_concat]
          rfl

end Loop

end Deadline
