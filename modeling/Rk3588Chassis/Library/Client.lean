/-
  File:      Rk3588Chassis/Library/Client.lean
  Subject:   Machines that keep a part of their state by operating another machine.

  A `Client` of a machine `N` shows a state of `N` (`view`), and says for each of its own turns
  which inputs it gives to `N` (`calls`). What is true of `N` after every history is then true of
  what the client shows, and the history is known: `Client.view_after`.

  * `Machine.perform`, `perform_append`, `perform_after` -- several inputs in a row;
  * `Client.history` -- the inputs that a run of the client comes to;
  * `Client.view_after`, `Client.view_midTurn` -- the client shows `N` after them, also in the middle of
    a turn.
-/
import Rk3588Chassis.Library.Machine

namespace Reactive

variable {σ τ ι κ ο π : Type*}

namespace Machine

/-- The state after several inputs, the first one first. -/
def perform (N : Machine τ κ π) (t : τ) (ks : List κ) : τ := ks.foldl (fun t k => (N.step t k).1) t

@[simp] theorem perform_nil (N : Machine τ κ π) (t : τ) : N.perform t [] = t := rfl

@[simp] theorem perform_cons (N : Machine τ κ π) (t : τ) (k : κ) (ks : List κ) :
    N.perform t (k :: ks) = N.perform (N.step t k).1 ks := rfl

theorem perform_append (N : Machine τ κ π) (t : τ) (ks ks' : List κ) :
    N.perform t (ks ++ ks') = N.perform (N.perform t ks) ks' := List.foldl_append ..

/-- **Inputs in a row prolong the history.** -/
theorem perform_after (N : Machine τ κ π) (h : List κ) (ks : List κ) :
    N.perform (N.after h) ks = N.after (ks.reverse ++ h) := by
  induction ks generalizing h with
  | nil => rfl
  | cons k ks ih =>
    rw [perform_cons, List.reverse_cons, List.append_assoc]
    exact ih (k :: h)

end Machine

/-- `M` operates `N`: it shows a state of `N`, and in each turn gives it some inputs. -/
structure Client (M : Machine σ ι ο) (N : Machine τ κ π) where
  view : σ → τ
  calls : σ → ι → List κ
  before : List κ
  start : view M.start = N.after before
  step : ∀ s i, view (M.step s i).1 = N.perform (view s) (calls s i)

namespace Client

variable {M : Machine σ ι ο} {N : Machine τ κ π} (C : Client M N)

/-- The inputs that a run of the client comes to, newest first. -/
def history : List ι → List κ
  | [] => C.before
  | i :: h => (C.calls (M.after h) i).reverse ++ history h

/-- **The client shows the machine after those inputs.** -/
theorem view_after (h : List ι) : C.view (M.after h) = N.after (C.history h) := by
  induction h with
  | nil => exact C.start
  | cons i h ih =>
    rw [Machine.after_cons, C.step, ih, history]
    exact N.perform_after ..

/-- In the middle of a turn, when the client has made the first calls of it. -/
theorem view_midTurn (h : List ι) (ks : List κ) :
    N.perform (C.view (M.after h)) ks = N.after (ks.reverse ++ C.history h) := by
  rw [C.view_after]
  exact N.perform_after ..

end Client

end Reactive
