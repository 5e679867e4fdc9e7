/-
  File:      Rk3588Chassis/Library/Store.lean
  Subject:   Keyed stores: a table that a stream of events writes to, one entry at a time.

  `write e` says under which key the event `e` writes, and what; an event may write nothing.

  * `putAll_apply` -- the last write under a key is what the table holds there;
  * `putAll_congr` -- so only the order of the writes under each single key matters: streams
    that agree key by key leave the same table.
-/
import Mathlib.Data.List.Basic
import Mathlib.Logic.Function.Basic

namespace Store

variable {κ ε α β : Type*} [DecidableEq κ]

/-- One event on the table. -/
def put (write : ε → Option (κ × α)) (table : κ → α) (e : ε) : κ → α :=
  match write e with
  | none => table
  | some w => Function.update table w.1 w.2

/-- A stream of events, the first one first. -/
def putAll (write : ε → Option (κ × α)) (table : κ → α) (es : List ε) : κ → α :=
  es.foldl (put write) table

/-- What an event writes under the key `k`. -/
def writeAt (write : ε → Option (κ × α)) (k : κ) (e : ε) : Option α :=
  (write e).bind fun w => if w.1 = k then some w.2 else none

/-- What a stream writes under the key `k`, in order. -/
def writesAt (write : ε → Option (κ × α)) (k : κ) (es : List ε) : List α :=
  es.filterMap (writeAt write k)

theorem put_apply (write : ε → Option (κ × α)) (table : κ → α) (e : ε) (k : κ) :
    put write table e k = (writeAt write k e).getD (table k) := by
  unfold put writeAt
  cases write e with
  | none => rfl
  | some w =>
    simp only [Option.bind_some]
    by_cases h : w.1 = k
    · subst h
      rw [Function.update_self, if_pos rfl, Option.getD_some]
    · rw [Function.update_of_ne (Ne.symm h), if_neg h, Option.getD_none]

theorem writesAt_cons (write : ε → Option (κ × α)) (k : κ) (e : ε) (es : List ε) :
    writesAt write k (e :: es) = (writeAt write k e).toList ++ writesAt write k es := by
  unfold writesAt
  rw [List.filterMap_cons]
  cases writeAt write k e <;> rfl

/-- **The last write under a key is what the table holds there.** -/
theorem putAll_apply (write : ε → Option (κ × α)) (table : κ → α) (es : List ε) (k : κ) :
    putAll write table es k = (writesAt write k es).getLast?.getD (table k) := by
  induction es generalizing table with
  | nil => rfl
  | cons e es ih =>
    have hcons : putAll write table (e :: es) = putAll write (put write table e) es := rfl
    rw [hcons, ih, put_apply, writesAt_cons]
    cases writeAt write k e with
    | none => rfl
    | some v =>
      cases h : writesAt write k es with
      | nil => rfl
      | cons w ws =>
        simp only [Option.toList_some, List.singleton_append, List.getLast?_cons, Option.getD_some]

/-- **Streams that agree key by key leave the same table.** -/
theorem putAll_congr {write : ε → Option (κ × α)} {es es' : List ε}
    (h : ∀ k, writesAt write k es = writesAt write k es') (table : κ → α) :
    putAll write table es = putAll write table es' := by
  funext k
  rw [putAll_apply, putAll_apply, h k]

/-- Events that write a function of what others write. -/
theorem writesAt_map (write : ε → Option (κ × α)) (g : α → β) (k : κ) (es : List ε) :
    writesAt (fun e => (write e).map fun w => (w.1, g w.2)) k es = (writesAt write k es).map g := by
  unfold writesAt
  rw [List.map_filterMap]
  refine List.filterMap_congr fun e _ => ?_
  unfold writeAt
  cases h : write e with
  | none => simp only [h, Option.map_none, Option.bind_none]
  | some w =>
    simp only [h, Option.map_some, Option.bind_some]
    split <;> rfl

end Store
