/-
  File:      Rk3588Chassis/Library/Lease.lean
  Subject:   Timed authority: the last grant counts, until its deadline or a revocation.

  A lease is a value with a deadline. Three kinds of event move it: a grant replaces
  whatever was held, a revocation drops it, and a tick drops it once its deadline has
  passed. This is the abstract content of a command with a timeout and a stop.

  * `held` -- what a run of the three events leaves in hand, one event at a time;
  * `latestLease` -- the history reading: the newest grant with no revocation after it;
  * `lastGrant` -- the newest grant, whatever came after it;
  * `latestLease_of_held` -- what is in hand is the newest grant: memory never keeps an older one;
  * `held_of_latestLease` -- under a clock that does not run backwards a live newest grant is still
    in hand, so that one cell of memory carries all the history there is to know.
-/
import Mathlib.Order.Lattice

namespace Reactive

/-- A value that may be used up to (and including) a deadline. -/
structure Lease (V τ : Type*) where
  value : V
  deadline : τ
  deriving DecidableEq

/-- What moves a lease. -/
inductive LeaseEvent (V τ : Type*) where
  | grant (l : Lease V τ)
  | revoke
  | tick (now : τ)

section Held

variable {V τ : Type*} [LE τ] [DecidableLE τ]

/-- One event on the lease in hand. -/
def leaseNext (h : Option (Lease V τ)) : LeaseEvent V τ → Option (Lease V τ)
  | .grant l => some l
  | .revoke => none
  | .tick now => h.filter fun l => decide (now ≤ l.deadline)

/-- The lease in hand after a history of events (newest first). -/
def held : List (LeaseEvent V τ) → Option (Lease V τ)
  | [] => none
  | e :: es => leaseNext (held es) e

end Held

/-- The newest grant, if no revocation came after it. -/
def latestLease {V τ : Type*} : List (LeaseEvent V τ) → Option (Lease V τ)
  | [] => none
  | .grant l :: _ => some l
  | .revoke :: _ => none
  | .tick _ :: es => latestLease es

/-- The newest grant, revoked or not. -/
def lastGrant {V τ : Type*} : List (LeaseEvent V τ) → Option (Lease V τ)
  | [] => none
  | .grant l :: _ => some l
  | .revoke :: es => lastGrant es
  | .tick _ :: es => lastGrant es

/-- The clock readings of a history. -/
def ticks {V τ : Type*} (es : List (LeaseEvent V τ)) : List τ :=
  es.filterMap fun
    | .tick now => some now
    | _ => none

variable {V τ : Type*}

theorem held_tick_iff [LE τ] [DecidableLE τ] {now : τ} {es : List (LeaseEvent V τ)}
    {l : Lease V τ} : held (.tick now :: es) = some l ↔ held es = some l ∧ now ≤ l.deadline := by
  simp only [held, leaseNext, Option.filter_eq_some_iff, decide_eq_true_eq]

/-- **What is in hand is the newest grant**: memory never keeps an older one. -/
theorem latestLease_of_held [LE τ] [DecidableLE τ] {l : Lease V τ} :
    ∀ {es : List (LeaseEvent V τ)}, held es = some l → latestLease es = some l
  | .grant _ :: _, h => h
  | .tick _ :: es, h => by
    have ih : latestLease es = some l := latestLease_of_held (held_tick_iff.mp h).1
    exact ih

/-- A lease that still counts was granted last. -/
theorem lastGrant_of_latestLease {l : Lease V τ} :
    ∀ {es : List (LeaseEvent V τ)}, latestLease es = some l → lastGrant es = some l
  | .grant _ :: _, h => h
  | .tick _ :: es, h => by
    have ih : lastGrant es = some l := lastGrant_of_latestLease h
    exact ih

/-- **A live newest grant is still in hand** if no earlier tick was later than now. -/
theorem held_of_latestLease [LinearOrder τ] {now : τ} {l : Lease V τ} (hl : now ≤ l.deadline) :
    ∀ {es : List (LeaseEvent V τ)}, (∀ t ∈ ticks es, t ≤ now) → latestLease es = some l →
      held es = some l
  | .grant _ :: _, _, h => h
  | .tick t :: es, ht, h => by
    have htn : t ≤ now := ht t (List.mem_cons_self ..)
    have hes : ∀ u ∈ ticks es, u ≤ now := fun u hu => ht u (List.mem_cons_of_mem _ hu)
    exact held_tick_iff.mpr ⟨held_of_latestLease hl hes h, le_trans htn hl⟩

end Reactive
