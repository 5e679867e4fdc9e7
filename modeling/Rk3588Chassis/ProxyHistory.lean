/-
  File:      Rk3588Chassis/ProxyHistory.lean
  Subject:   What the proxy remembers of the packets it was sent.

  The abstract reading of the command cell is a LEASE (Library/Lease.lean): an accepted current
  command grants it until its own timeout is over, an emergency stop (and every current command
  without `--allow-current`) revokes it, and the end of each loop turn is a tick.

  * `orders`, `newestCommand` -- the history reading: all orders processed, newest first;
  * `leaseLog` -- the same history as lease events, with the ticks;
  * `remembers_after` -- the refinement, after every history: a non-zero current in memory is the
    lease in hand, and the two clock fields are those of the newest grant;
  * `recalls_after` -- the converse under a forward clock: a lease in hand is in memory.
-/
import Rk3588Chassis.Library.Lease
import Rk3588Chassis.Proxy

namespace Rk3588Chassis.Proxy

open Reactive

/-! ## 1. Orders -/

/-- The orders in datagrams drained at `nowMs`, newest first. -/
def batchOrders (nowMs : UInt64) (datagrams : List Datagram) : List (Order × UInt64) :=
  ((datagrams.filterMap readOrder).map fun order => (order, nowMs)).reverse

/-- All orders processed, newest first, each with the loop time it was processed at. -/
def orders : List LoopInput → List (Order × UInt64)
  | [] => []
  | i :: hist => batchOrders i.nowMs i.datagrams ++ orders hist

/-- A current command and the loop time it was processed at. -/
structure Accepted where
  payload : CurrentCommand
  atMs : UInt64

/-- How long it may be used, in ms. -/
def Accepted.timeout (a : Accepted) : Nat := (effectiveTimeout a.payload.timeoutMs).toNat

/-- The newest current command among some orders, emergency stops passed over. -/
def newestCommand : List (Order × UInt64) → Option Accepted
  | [] => none
  | (.command payload, atMs) :: _ => some ⟨payload, atMs⟩
  | (.estop, _) :: os => newestCommand os

theorem batchOrders_cons (nowMs : UInt64) (d : Datagram) (ds : List Datagram) :
    batchOrders nowMs (d :: ds) =
      batchOrders nowMs ds ++ ((readOrder d).map fun order => (order, nowMs)).toList := by
  unfold batchOrders
  cases h : readOrder d with
  | none => simp [h]
  | some order => simp [h]

/-! ## 2. Orders as lease events -/

/-- The lease an accepted command grants. -/
def Accepted.lease (a : Accepted) : Lease Accepted Nat := ⟨a, a.atMs.toNat + a.timeout⟩

/-- What an order does to the lease. -/
def orderEvent (config : ProxyConfig) : Order × UInt64 → LeaseEvent Accepted Nat
  | (.estop, _) => .revoke
  | (.command payload, atMs) =>
    if config.allowCurrent then .grant (Accepted.lease ⟨payload, atMs⟩) else .revoke

/-- The lease history of a loop history. -/
def leaseLog (config : ProxyConfig) : List LoopInput → List (LeaseEvent Accepted Nat)
  | [] => []
  | i :: hist => .tick i.nowMs.toNat ::
      ((batchOrders i.nowMs i.datagrams).map (orderEvent config) ++ leaseLog config hist)

/-- The lease history when a turn at `nowMs` has processed the datagrams `ds` so far. -/
def leaseLogAt (config : ProxyConfig) (hist : List LoopInput) (nowMs : UInt64)
    (ds : List Datagram) : List (LeaseEvent Accepted Nat) :=
  (batchOrders nowMs ds).map (orderEvent config) ++ leaseLog config hist

/-- **The newest grant is the newest current command.** -/
theorem lastGrant_orders {config : ProxyConfig} (h : config.allowCurrent = true)
    {es : List (LeaseEvent Accepted Nat)} {os' : List (Order × UInt64)}
    (hes : lastGrant es = (newestCommand os').map Accepted.lease) (os : List (Order × UInt64)) :
    lastGrant (os.map (orderEvent config) ++ es) =
      (newestCommand (os ++ os')).map Accepted.lease := by
  induction os with
  | nil => exact hes
  | cons o os ih =>
    obtain ⟨order, t⟩ := o
    cases order with
    | estop => exact ih
    | command p =>
      simp only [List.map_cons, List.cons_append, orderEvent, h, if_true]
      rfl

theorem lastGrant_leaseLog {config : ProxyConfig} (h : config.allowCurrent = true) :
    ∀ hist, lastGrant (leaseLog config hist) = (newestCommand (orders hist)).map Accepted.lease
  | [] => rfl
  | _ :: hist => lastGrant_orders h (lastGrant_leaseLog h hist) _

/-- The lease an order leaves behind, if it counts. -/
def orderLease (config : ProxyConfig) : Order × UInt64 → Option (Lease Accepted Nat)
  | (.estop, _) => none
  | (.command payload, atMs) =>
    if config.allowCurrent then some (Accepted.lease ⟨payload, atMs⟩) else none

/-- **The newest order decides about the lease.** -/
theorem latestLease_orders {config : ProxyConfig} {es : List (LeaseEvent Accepted Nat)}
    {os' : List (Order × UInt64)} (hes : latestLease es = os'.head?.bind (orderLease config)) :
    ∀ os : List (Order × UInt64), latestLease (os.map (orderEvent config) ++ es) =
      (os ++ os').head?.bind (orderLease config)
  | [] => hes
  | (.estop, _) :: _ => rfl
  | (.command p, t) :: os => by
    simp only [List.map_cons, List.cons_append, orderEvent, List.head?_cons, Option.bind_some,
      orderLease]
    cases config.allowCurrent <;> rfl

theorem latestLease_leaseLog (config : ProxyConfig) :
    ∀ hist, latestLease (leaseLog config hist) = (orders hist).head?.bind (orderLease config)
  | [] => rfl
  | _ :: hist => latestLease_orders (latestLease_leaseLog config hist) _

/-! ## 3. Memory refines the lease -/

/-- The clock fields of the cell are those of the granted lease. -/
structure GrantedBy (config : ProxyConfig) (cell : CommandCell) (l : Lease Accepted Nat) : Prop where
  allowed : config.allowCurrent = true
  at_eq : cell.lastCurrentCommandMs = l.value.atMs
  timeout : cell.currentTimeoutMs = effectiveTimeout l.value.payload.timeoutMs
  lease : l = l.value.lease

/-- The currents a command puts into memory. -/
def commandCurrents (config : ProxyConfig) (payload : CurrentCommand) (k : Fin 4) : Int16 :=
  clampCurrent (payload.currentCommand k).toInt config.maxCurrent

/-- The cell refines the lease: a non-zero current is the lease in hand, and the clock fields
    are those of the newest grant. -/
structure Remembers (config : ProxyConfig) (es : List (LeaseEvent Accepted Nat))
    (cell : CommandCell) : Prop where
  entryZero : cell.currentCommand 0 = 0
  moving : (∃ i, cell.currentCommand i ≠ 0) → ∃ l, held es = some l ∧
    ∀ k : Fin 4, cell.currentCommand k.succ = commandCurrents config l.value.payload k
  fresh : lastGrant es = none → cell.lastCurrentCommandMs = 0
  granted : ∀ l, lastGrant es = some l → GrantedBy config cell l

/-- The start of `main`. -/
theorem remembers_initial (config : ProxyConfig) :
    Remembers config [] ProxyState.initial.cell where
  entryZero := rfl
  moving := fun ⟨_, h⟩ => absurd rfl h
  fresh _ := rfl
  granted l h := by cases h

theorem cleared_not_moving (cell : CommandCell) : ¬ ∃ i, cell.clear.currentCommand i ≠ 0 :=
  fun ⟨_, h⟩ => h rfl

/-- A cleared cell still refines the lease, whatever event took place that granted nothing. -/
theorem Remembers.clear {config : ProxyConfig} {es es' : List (LeaseEvent Accepted Nat)}
    {cell : CommandCell} (h : Remembers config es cell) (he : lastGrant es' = lastGrant es) :
    Remembers config es' cell.clear where
  entryZero := rfl
  moving hm := absurd hm (cleared_not_moving cell)
  fresh hn := h.fresh (he.symm.trans hn)
  granted l hl :=
    let g := h.granted l (he.symm.trans hl)
    ⟨g.allowed, g.at_eq, g.timeout, g.lease⟩

/-- **One order keeps the refinement.** -/
theorem Remembers.obey {config : ProxyConfig} {es : List (LeaseEvent Accepted Nat)}
    {cell : CommandCell} (h : Remembers config es cell) (nowMs : UInt64) (order : Order) :
    Remembers config (orderEvent config (order, nowMs) :: es)
      (cell.obey config nowMs (some order)) := by
  cases order with
  | estop => exact h.clear rfl
  | command p =>
    cases hallow : config.allowCurrent with
    | false =>
      simp only [CommandCell.obey, orderEvent, hallow, Bool.false_eq_true, if_false]
      exact h.clear rfl
    | true =>
      simp only [CommandCell.obey, orderEvent, hallow, if_true]
      refine ⟨h.entryZero, fun _ => ⟨_, rfl, fun k => rfl⟩, fun hn => ?_, fun l hl => ?_⟩
      · cases hn
      cases hl
      exact ⟨hallow, rfl, rfl, rfl⟩

/-- **What every order preserves, a batch of datagrams preserves.** -/
theorem receiveUdp_invariant {config : ProxyConfig} {nowMs : UInt64}
    {P : List (LeaseEvent Accepted Nat) → CommandCell → Prop}
    (hstep : ∀ es cell order, P es cell →
      P (orderEvent config (order, nowMs) :: es) (cell.obey config nowMs (some order)))
    (ds : List Datagram) : ∀ {es : List (LeaseEvent Accepted Nat)} {state : ProxyState},
      P es state.cell → P ((batchOrders nowMs ds).map (orderEvent config) ++ es)
        (receiveUdp config nowMs state ds).cell := by
  induction ds with
  | nil => exact fun h => h
  | cons d ds ih =>
    intro es state h
    rw [batchOrders_cons, List.map_append, List.append_assoc]
    refine ih ?_
    rw [receiveDatagram_cell config nowMs state d]
    cases readOrder d with
    | none => exact h
    | some order => exact hstep es state.cell order h

/-- A live command is before its deadline; the subtraction of the code may wrap. -/
theorem le_deadline_of_live {config : ProxyConfig} {cell : CommandCell} {nowMs : UInt64}
    (h : cell.live config nowMs = true) :
    nowMs.toNat ≤ cell.lastCurrentCommandMs.toNat + cell.currentTimeoutMs.toNat := by
  rw [CommandCell.live, Bool.and_eq_true, decide_eq_true_eq, UInt64.le_iff_toNat_le,
    UInt16.toNat_toUInt64] at h
  by_cases hle : cell.lastCurrentCommandMs ≤ nowMs
  · have hsub := UInt64.toNat_sub_of_le _ _ hle
    omega
  · have hlt := UInt64.lt_iff_toNat_lt.mp (UInt64.not_le.mp hle)
    omega

/-- **The end of a turn keeps the refinement**: what the expire branch leaves is still held. -/
theorem Remembers.expire {config : ProxyConfig} {es : List (LeaseEvent Accepted Nat)}
    {cell : CommandCell} (h : Remembers config es cell) (nowMs : UInt64) :
    Remembers config (.tick nowMs.toNat :: es)
      (if cell.live config nowMs then cell else cell.clear) := by
  cases hlive : cell.live config nowMs with
  | false => exact h.clear rfl
  | true =>
    refine ⟨h.entryZero, fun hm => ?_, h.fresh, h.granted⟩
    obtain ⟨l, hl, hwords⟩ := h.moving hm
    have hg := h.granted l (lastGrant_of_latestLease (latestLease_of_held hl))
    have hdead := le_deadline_of_live hlive
    rw [hg.at_eq, hg.timeout] at hdead
    refine ⟨l, held_tick_iff.mpr ⟨hl, ?_⟩, hwords⟩
    rw [hg.lease]
    exact hdead

/-! ## 4. Runs -/

/-- The proxy after a history, in the middle of the next turn: feedback drained, the datagrams
    `ds` processed. -/
def midTurn (config : ProxyConfig) (hist : List LoopInput) (nowMs : UInt64)
    (frames : List (CanFrame × UInt64)) (ds : List Datagram) : ProxyState :=
  receiveUdp config nowMs (drainFeedback ((canProxy config).after hist).proxy frames) ds

/-- A turn leaves the cell of its middle, expired if it is not live. -/
theorem after_cell (config : ProxyConfig) (hist : List LoopInput) (i : LoopInput) :
    ((canProxy config).after (i :: hist)).proxy.cell =
      let cell := (midTurn config hist i.nowMs i.frames i.datagrams).cell
      if cell.live config i.nowMs then cell else cell.clear :=
  (reportState_cell _ _ _).trans (sendOrExpire_cell config _ i.nowMs)

theorem remembers_midTurn_of {config : ProxyConfig} {hist : List LoopInput}
    (h : Remembers config (leaseLog config hist) ((canProxy config).after hist).proxy.cell)
    (nowMs : UInt64) (frames : List (CanFrame × UInt64)) (ds : List Datagram) :
    Remembers config (leaseLogAt config hist nowMs ds) (midTurn config hist nowMs frames ds).cell := by
  refine receiveUdp_invariant (fun es cell order hc => hc.obey nowMs order) ds ?_
  rw [drainFeedback_cell]
  exact h

/-- **Memory refines the lease after every history.** -/
theorem remembers_after (config : ProxyConfig) : ∀ hist,
    Remembers config (leaseLog config hist) ((canProxy config).after hist).proxy.cell
  | [] => remembers_initial config
  | i :: hist => by
    rw [after_cell]
    exact (remembers_midTurn_of (remembers_after config hist) i.nowMs i.frames i.datagrams).expire
      i.nowMs

/-- **And in the middle of every turn.** -/
theorem remembers_midTurn (config : ProxyConfig) (hist : List LoopInput) (nowMs : UInt64)
    (frames : List (CanFrame × UInt64)) (ds : List Datagram) :
    Remembers config (leaseLogAt config hist nowMs ds) (midTurn config hist nowMs frames ds).cell :=
  remembers_midTurn_of (remembers_after config hist) nowMs frames ds

/-- The orders processed in the middle of a turn. -/
theorem latestLease_leaseLogAt (config : ProxyConfig) (hist : List LoopInput) (nowMs : UInt64)
    (ds : List Datagram) : latestLease (leaseLogAt config hist nowMs ds) =
      (batchOrders nowMs ds ++ orders hist).head?.bind (orderLease config) :=
  latestLease_orders (latestLease_leaseLog config hist) _

theorem lastGrant_leaseLogAt {config : ProxyConfig} (h : config.allowCurrent = true)
    (hist : List LoopInput) (nowMs : UInt64) (ds : List Datagram) :
    lastGrant (leaseLogAt config hist nowMs ds) =
      (newestCommand (batchOrders nowMs ds ++ orders hist)).map Accepted.lease :=
  lastGrant_orders h (lastGrant_leaseLog h hist) _

/-! ## 5. The converse, under a forward clock -/

/-- The loop's clock readings are positive and do not run backwards. -/
def LoopClock (hist : List LoopInput) : Prop :=
  hist.Pairwise (fun later earlier => earlier.nowMs ≤ later.nowMs) ∧ ∀ i ∈ hist, i.nowMs ≠ 0

theorem LoopClock.tail {i : LoopInput} {hist : List LoopInput} (h : LoopClock (i :: hist)) :
    LoopClock hist :=
  ⟨(List.pairwise_cons.mp h.1).2, fun j hj => h.2 j (List.mem_cons_of_mem i hj)⟩

theorem LoopClock.le {i : LoopInput} {hist : List LoopInput} (h : LoopClock (i :: hist))
    {j : LoopInput} (hj : j ∈ hist) : j.nowMs ≤ i.nowMs := (List.pairwise_cons.mp h.1).1 j hj

theorem LoopClock.pos {i : LoopInput} {hist : List LoopInput} (h : LoopClock (i :: hist)) :
    i.nowMs ≠ 0 := h.2 i (List.mem_cons_self ..)

/-- Every grant in a log was made at a positive time not after `nowMs`. -/
def GrantsBy (nowMs : UInt64) (es : List (LeaseEvent Accepted Nat)) : Prop :=
  ∀ l, lastGrant es = some l → l.value.atMs ≤ nowMs ∧ l.value.atMs ≠ 0

theorem grantsBy_orders {config : ProxyConfig} {nowMs t : UInt64}
    {es : List (LeaseEvent Accepted Nat)} (h : GrantsBy nowMs es) (ht : t ≤ nowMs) (hpos : t ≠ 0)
    (ds : List Datagram) : GrantsBy nowMs ((batchOrders t ds).map (orderEvent config) ++ es) := by
  have hall : ∀ o ∈ batchOrders t ds, o.2 = t := by
    intro o ho
    rw [batchOrders, List.mem_reverse, List.mem_map] at ho
    obtain ⟨_, _, rfl⟩ := ho
    rfl
  generalize batchOrders t ds = os at hall
  induction os with
  | nil => exact h
  | cons o os ih =>
    have ih' := ih fun o ho => hall o (List.mem_cons_of_mem _ ho)
    obtain ⟨order, t'⟩ := o
    have ht' : t' = t := hall (order, t') (List.mem_cons_self ..)
    cases order with
    | estop => exact ih'
    | command p =>
      cases hallow : config.allowCurrent with
      | false =>
        simp only [List.map_cons, List.cons_append, orderEvent, hallow, Bool.false_eq_true, if_false]
        exact ih'
      | true =>
        simp only [List.map_cons, List.cons_append, orderEvent, hallow, if_true]
        intro l hl
        cases hl
        rw [ht']
        exact ⟨ht, hpos⟩

/-- The times of a log under a forward clock. -/
theorem grantsBy_leaseLog {config : ProxyConfig} {nowMs : UInt64} :
    ∀ {hist : List LoopInput}, (∀ j ∈ hist, j.nowMs ≤ nowMs ∧ j.nowMs ≠ 0) →
      GrantsBy nowMs (leaseLog config hist)
  | [], _ => fun l hl => by cases hl
  | i :: hist, h => by
    have hi := h i (List.mem_cons_self ..)
    have ih : GrantsBy nowMs (leaseLog config hist) :=
      grantsBy_leaseLog fun j hj => h j (List.mem_cons_of_mem i hj)
    exact grantsBy_orders ih hi.1 hi.2 i.datagrams

theorem ticks_orders (config : ProxyConfig) (es : List (LeaseEvent Accepted Nat))
    (os : List (Order × UInt64)) : ticks (os.map (orderEvent config) ++ es) = ticks es := by
  induction os with
  | nil => rfl
  | cons o os ih =>
    obtain ⟨order, t⟩ := o
    cases order with
    | estop => exact ih
    | command p =>
      refine Eq.trans ?_ ih
      simp only [List.map_cons, List.cons_append, orderEvent]
      split <;> rfl

/-- The ticks of a log are the loop times. -/
theorem ticks_leaseLog (config : ProxyConfig) :
    ∀ hist : List LoopInput, ticks (leaseLog config hist) = hist.map fun i => i.nowMs.toNat
  | [] => rfl
  | i :: hist => by
    have ih := (ticks_orders config _ (batchOrders i.nowMs i.datagrams)).trans
      (ticks_leaseLog config hist)
    rw [List.map_cons, ← ih]
    rfl

/-- The converse of `Remembers`: a lease in hand is in memory. -/
def Recalls (config : ProxyConfig) (es : List (LeaseEvent Accepted Nat)) (cell : CommandCell) :
    Prop :=
  ∀ l, held es = some l →
    ∀ k : Fin 4, cell.currentCommand k.succ = commandCurrents config l.value.payload k

theorem Recalls.obey {config : ProxyConfig} (nowMs : UInt64) (es : List (LeaseEvent Accepted Nat))
    (cell : CommandCell) (order : Order) :
    Recalls config (orderEvent config (order, nowMs) :: es)
      (cell.obey config nowMs (some order)) := by
  intro l hl
  cases order with
  | estop => cases hl
  | command p =>
    cases hallow : config.allowCurrent with
    | false =>
      simp only [orderEvent, hallow, Bool.false_eq_true, if_false] at hl
      cases hl
    | true =>
      simp only [orderEvent, hallow, if_true] at hl
      cases hl
      simp only [CommandCell.obey, hallow, if_true]
      exact fun _ => rfl

/-- The test of the send branch, read off the granted lease: with times that do not run
    backwards the subtraction does not wrap. -/
theorem live_iff {config : ProxyConfig} {cell : CommandCell} {l : Lease Accepted Nat}
    {nowMs : UInt64} (hg : GrantedBy config cell l) (hle : l.value.atMs ≤ nowMs)
    (hpos : l.value.atMs ≠ 0) : cell.live config nowMs = true ↔ nowMs.toNat ≤ l.deadline := by
  have hsub := UInt64.toNat_sub_of_le _ _ hle
  have hle' := UInt64.le_iff_toNat_le.mp hle
  have hdead : l.deadline = l.value.atMs.toNat + l.value.timeout := congrArg Lease.deadline hg.lease
  have htime : (nowMs - l.value.atMs ≤ cell.currentTimeoutMs.toUInt64) ↔
      nowMs.toNat ≤ l.deadline := by
    rw [UInt64.le_iff_toNat_le, UInt16.toNat_toUInt64, hg.timeout, hdead, Accepted.timeout]
    omega
  rw [CommandCell.live, hg.at_eq, hg.allowed, bne_iff_ne.mpr hpos, Bool.true_and, Bool.true_and,
    decide_eq_true_eq, htime]

/-- **The end of a turn keeps the converse**: a lease that is still held has not been cleared. -/
theorem Recalls.expire {config : ProxyConfig} {es : List (LeaseEvent Accepted Nat)}
    {cell : CommandCell} {nowMs : UInt64} (h : Recalls config es cell)
    (hr : Remembers config es cell) (ht : GrantsBy nowMs es) :
    Recalls config (.tick nowMs.toNat :: es)
      (if cell.live config nowMs then cell else cell.clear) := by
  intro l hl
  obtain ⟨hheld, hdead⟩ := held_tick_iff.mp hl
  have hlast := lastGrant_of_latestLease (latestLease_of_held hheld)
  have hlive : cell.live config nowMs = true :=
    (live_iff (hr.granted l hlast) (ht l hlast).1 (ht l hlast).2).mpr hdead
  rw [if_pos hlive]
  exact h l hheld

/-- The grants of a log, up to the middle of a turn. -/
theorem LoopClock.grantsBy {config : ProxyConfig} {i : LoopInput} {hist : List LoopInput}
    (h : LoopClock (i :: hist)) (ds : List Datagram) :
    GrantsBy i.nowMs (leaseLogAt config hist i.nowMs ds) :=
  grantsBy_orders (grantsBy_leaseLog fun j hj => ⟨h.le hj, h.2 j (List.mem_cons_of_mem i hj)⟩)
    UInt64.le_rfl h.pos ds

/-- And its ticks. -/
theorem LoopClock.ticks_le {config : ProxyConfig} {i : LoopInput} {hist : List LoopInput}
    (h : LoopClock (i :: hist)) (ds : List Datagram) :
    ∀ u ∈ ticks (leaseLogAt config hist i.nowMs ds), u ≤ i.nowMs.toNat := by
  intro u hu
  rw [leaseLogAt, ticks_orders, ticks_leaseLog, List.mem_map] at hu
  obtain ⟨j, hj, rfl⟩ := hu
  exact UInt64.le_iff_toNat_le.mp (h.le hj)

theorem recalls_midTurn_of {config : ProxyConfig} {hist : List LoopInput}
    (h : Recalls config (leaseLog config hist) ((canProxy config).after hist).proxy.cell)
    (nowMs : UInt64) (frames : List (CanFrame × UInt64)) (ds : List Datagram) :
    Recalls config (leaseLogAt config hist nowMs ds) (midTurn config hist nowMs frames ds).cell := by
  refine receiveUdp_invariant (fun es cell order _ => Recalls.obey nowMs es cell order) ds ?_
  rw [drainFeedback_cell]
  exact h

/-- **A lease in hand is in memory, after every history under a forward clock.** -/
theorem recalls_after (config : ProxyConfig) : ∀ hist, LoopClock hist →
    Recalls config (leaseLog config hist) ((canProxy config).after hist).proxy.cell
  | [], _ => fun l hl => by cases hl
  | i :: hist, h => by
    rw [after_cell]
    exact (recalls_midTurn_of (recalls_after config hist h.tail) i.nowMs i.frames i.datagrams).expire
      (remembers_midTurn config hist i.nowMs i.frames i.datagrams) (h.grantsBy i.datagrams)

end Rk3588Chassis.Proxy
