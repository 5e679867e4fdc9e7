/-
  File:      Rk3588Chassis/ProxySafety.lean
  Subject:   Which packets can put a current on the bus, and what an emergency stop undoes.

  * `nonzero_frame_is_ordered` -- a frame with a non-zero current is the newest order of the
    peer, clamped, and not older than the order's own timeout;
  * `estop_overrides_delivered` -- an emergency stop overrides everything DELIVERED before it,
    until a current command is delivered after it. The sequence numbers play no part:
    `late_command_revives` is the run in which an older command, delivered late, is obeyed.

  Both read the lease of ProxyHistory.lean, so neither needs anything of the clock.
-/
import Mathlib.Order.Lattice
import Rk3588Chassis.ProxyHistory

namespace Rk3588Chassis.Proxy

open Bytes Reactive

/-! ## 1. The frame of a turn -/

/-- **What a turn tries to write**: the currents in memory, if they are live and the last frame
    is old enough. -/
theorem attempted_eq (config : ProxyConfig) (hist : List LoopInput) (i : LoopInput) :
    ((canProxy config).answer hist i).attempted =
      if (midTurn config hist i.nowMs i.frames i.datagrams).cell.live config i.nowMs = true ∧
        currentPeriodMs ≤ i.nowMs - ((canProxy config).after hist).lastCurrentMs
      then some (currentFrame (midTurn config hist i.nowMs i.frames i.datagrams).currentCommand)
      else none :=
  (sendOrExpire_frame config { (canProxy config).after hist with
    proxy := midTurn config hist i.nowMs i.frames i.datagrams } i.nowMs).1

/-- Within `[-N, N]` the casts of `clamp_current` lose nothing. -/
theorem clampCurrent_toInt (value : Int16) {maxCurrent : Int} (h : 0 ≤ maxCurrent) :
    (clampCurrent value.toInt maxCurrent).toInt = max (-maxCurrent) (min maxCurrent value.toInt) := by
  have hlo := Int16.le_toInt value
  have hhi := Int16.toInt_lt value
  unfold clampCurrent
  split
  · rename_i hgt
    rw [Int16.toInt_ofInt_of_le (by omega) (by omega)]
    omega
  · split
    · rw [Int16.toInt_ofInt_of_le (by omega) (by omega)]
      omega
    · rw [Int16.ofInt_toInt]
      omega

/-- The timeout field, 0 standing for 100. -/
theorem effectiveTimeout_toNat (timeoutMs : UInt16) :
    (effectiveTimeout timeoutMs).toNat = if timeoutMs = 0 then 100 else timeoutMs.toNat := by
  unfold effectiveTimeout
  split <;> rfl

/-! ## 2. Every current was ordered -/

/-- A lease in hand comes from the newest order, a current command. -/
theorem command_of_latestLease {config : ProxyConfig} {os : List (Order × UInt64)}
    {l : Lease Accepted Nat} (h : os.head?.bind (orderLease config) = some l) :
    config.allowCurrent = true ∧
      os.head? = some (.command l.value.payload, l.value.atMs) ∧ l = l.value.lease := by
  cases os with
  | nil => cases h
  | cons o os =>
    obtain ⟨order, t⟩ := o
    cases order with
    | estop => cases h
    | command p =>
      simp only [List.head?_cons, Option.bind_some, orderLease] at h
      cases hallow : config.allowCurrent with
      | false =>
        rw [hallow] at h
        cases h
      | true =>
        rw [hallow] at h
        cases h
        exact ⟨rfl, rfl, rfl⟩

/-- A non-zero current in memory, in the middle of any turn, is the newest order. -/
theorem ordered_of_moving {config : ProxyConfig} {hist : List LoopInput} {nowMs : UInt64}
    {frames : List (CanFrame × UInt64)} {ds : List Datagram}
    (h : ∃ i, (midTurn config hist nowMs frames ds).currentCommand i ≠ 0) :
    config.allowCurrent = true ∧ ∃ a : Accepted,
      (batchOrders nowMs ds ++ orders hist).head? = some (.command a.payload, a.atMs) ∧
      held (leaseLogAt config hist nowMs ds) = some a.lease ∧
      ∀ k : Fin 4, (midTurn config hist nowMs frames ds).currentCommand k.succ =
        commandCurrents config a.payload k := by
  obtain ⟨l, hheld, hwords⟩ := (remembers_midTurn config hist nowMs frames ds).moving h
  have hlatest := latestLease_of_held hheld
  rw [latestLease_leaseLogAt] at hlatest
  obtain ⟨hallow, hhead, hlease⟩ := command_of_latestLease hlatest
  exact ⟨hallow, l.value, hhead, hheld.trans (congrArg some hlease), hwords⟩

/-- A frame a turn hands out is its memory, packed, and the command is live. -/
theorem frame_of_attempted {config : ProxyConfig} {hist : List LoopInput} {i : LoopInput}
    {frame : CanFrame} (h : ((canProxy config).answer hist i).attempted = some frame) :
    (midTurn config hist i.nowMs i.frames i.datagrams).cell.live config i.nowMs = true ∧
      ∀ k, frameCurrent frame.data k =
        (midTurn config hist i.nowMs i.frames i.datagrams).currentCommand k.succ := by
  rw [attempted_eq] at h
  split at h
  · rename_i hlive
    cases h
    exact ⟨hlive.1, frameCurrent_pack _⟩
  · cases h

/-- A live command that is in hand is not older than its timeout. -/
theorem age_of_live {config : ProxyConfig} {hist : List LoopInput} {nowMs : UInt64}
    {frames : List (CanFrame × UInt64)} {ds : List Datagram} {a : Accepted}
    (hlive : (midTurn config hist nowMs frames ds).cell.live config nowMs = true)
    (hheld : held (leaseLogAt config hist nowMs ds) = some a.lease) :
    nowMs.toNat ≤ a.atMs.toNat +
      (if a.payload.timeoutMs = 0 then 100 else a.payload.timeoutMs.toNat) := by
  have hdead := le_deadline_of_live hlive
  have hg := (remembers_midTurn config hist nowMs frames ds).granted _
    (lastGrant_of_latestLease (latestLease_of_held hheld))
  rw [hg.at_eq, hg.timeout, effectiveTimeout_toNat] at hdead
  exact hdead

/-- **Every current on the bus was ordered.** For every limit `N ≥ 0`: a frame with a non-zero
    current that a turn hands to the CAN socket needs `--allow-current`, its newest order (among
    emergency stops and ten-byte current commands) is a current command not older than its
    timeout, and its four words are that command's, each clamped to `[-N, N]`. Without
    `--allow-current` no frame is tried at all, and memory is zero at every moment. -/
theorem nonzero_frame_is_ordered (config : ProxyConfig) (hmax : 0 ≤ config.maxCurrent)
    (hist : List LoopInput) (i : LoopInput) :
    (∀ frame, ((canProxy config).answer hist i).attempted = some frame →
      (∃ k, frameCurrent frame.data k ≠ 0) →
      config.allowCurrent = true ∧ ∃ payload t0,
        (orders (i :: hist)).head? = some (.command payload, t0) ∧
        (i.nowMs.toNat : Int) - t0.toNat ≤
          (if payload.timeoutMs = 0 then 100 else payload.timeoutMs.toNat : Nat) ∧
        ∀ k, (frameCurrent frame.data k).toInt =
          max (-config.maxCurrent) (min config.maxCurrent (payload.currentCommand k).toInt)) ∧
    (config.allowCurrent = false → ((canProxy config).answer hist i).attempted = none ∧
      ∀ nowMs frames ds j, (midTurn config hist nowMs frames ds).currentCommand j = 0) := by
  have hquiet : config.allowCurrent = false →
      ∀ nowMs frames ds j, (midTurn config hist nowMs frames ds).currentCommand j = 0 := by
    intro hallow nowMs frames ds
    by_contra hm
    rw [not_forall] at hm
    rw [(ordered_of_moving hm).1] at hallow
    cases hallow
  refine ⟨fun frame hframe hk => ?_, fun hallow => ⟨?_, hquiet hallow⟩⟩
  · obtain ⟨hlive, hwords⟩ := frame_of_attempted hframe
    obtain ⟨k, hk⟩ := hk
    rw [hwords k] at hk
    obtain ⟨hallow, a, hhead, hheld, hcur⟩ := ordered_of_moving ⟨k.succ, hk⟩
    have hage := age_of_live hlive hheld
    refine ⟨hallow, a.payload, a.atMs, hhead, by omega, fun k => ?_⟩
    rw [hwords k, hcur k]
    exact clampCurrent_toInt _ hmax
  · rw [attempted_eq, if_neg]
    rintro ⟨hlive, _⟩
    rw [CommandCell.live, hallow] at hlive
    cases hlive

/-- The frame of a turn at 1000 ms that has just processed a command is the command's. -/
theorem sample_command_is_ordered :
    let i : LoopInput := ⟨1000, [], [sampleCommand], true, 1000⟩
    ∃ frame, ((canProxy ⟨true, 2000⟩).answer [] i).attempted = some frame ∧
      ∃ payload t0, (orders [i]).head? = some (.command payload, t0) ∧
        ∀ k, (frameCurrent frame.data k).toInt =
          max (-2000) (min 2000 (payload.currentCommand k).toInt) := by
  intro i
  have hword : ((canProxy ⟨true, 2000⟩).answer [] i).attempted.map
      (fun frame => frameCurrent frame.data 0) = some 500 := by decide
  rw [Option.map_eq_some_iff] at hword
  obtain ⟨frame, hframe, hword⟩ := hword
  have hmoves : ∃ k, frameCurrent frame.data k ≠ 0 := ⟨0, by rw [hword]; decide⟩
  obtain ⟨_, payload, t0, hhead, _, hclamped⟩ :=
    (nonzero_frame_is_ordered ⟨true, 2000⟩ (by decide) [] i).1 frame hframe hmoves
  exact ⟨frame, hframe, payload, t0, hhead, hclamped⟩

/-! ## 3. Emergency stop -/

/-- The datagrams delivered in a history, newest first. -/
def delivered (hist : List LoopInput) : List Datagram :=
  hist.flatMap fun i => i.datagrams.reverse

/-- The sequence number in a datagram's header, if the header is valid. -/
def sequence (datagram : Datagram) : Option UInt32 :=
  (parseHeader (recvfrom datagram).1 (recvfrom datagram).2).map BridgeHeaderDecoded.sequence

theorem batchOrders_order (nowMs : UInt64) (ds : List Datagram) :
    (batchOrders nowMs ds).map Prod.fst = ds.reverse.filterMap readOrder := by
  unfold batchOrders
  rw [List.map_reverse, List.map_map, List.filterMap_reverse]
  exact congrArg List.reverse (List.map_id _)

theorem orders_delivered (hist : List LoopInput) :
    (orders hist).map Prod.fst = (delivered hist).filterMap readOrder := by
  induction hist with
  | nil => rfl
  | cons i hist ih =>
    rw [orders, List.map_append, ih, batchOrders_order, ← List.filterMap_append]
    rfl

/-- The datagram is a valid current command with a ten-byte payload. -/
def IsCommand (datagram : Datagram) : Prop := ∃ payload, readOrder datagram = some (.command payload)

/-- A valid packet has a sequence number. -/
theorem IsCommand.sequence {d : Datagram} (h : IsCommand d) : ∃ t, sequence d = some t := by
  obtain ⟨p, hp⟩ := h
  unfold readOrder at hp
  unfold Proxy.sequence
  simp only at hp
  cases hh : parseHeader (recvfrom d).1 (recvfrom d).2 with
  | none =>
    rw [hh] at hp
    cases hp
  | some header => exact ⟨header.sequence, rfl⟩

/-- With no current command after an emergency stop, the newest order is an emergency stop. -/
theorem newest_is_estop {later earlier : List Datagram} {estop : Datagram}
    (hestop : readOrder estop = some .estop) (hlater : ∀ d ∈ later, ¬ IsCommand d) :
    ((later ++ estop :: earlier).filterMap readOrder).head? = some .estop := by
  induction later with
  | nil => simp only [List.nil_append, List.filterMap_cons, hestop, List.head?_cons]
  | cons d later ih =>
    have ih' := ih fun d hd => hlater d (List.mem_cons_of_mem _ hd)
    have hd := hlater d (List.mem_cons_self ..)
    rw [List.cons_append, List.filterMap_cons]
    cases h : readOrder d with
    | none => exact ih'
    | some order =>
      cases order with
      | estop => rfl
      | command p => exact absurd ⟨p, h⟩ hd

/-- **An emergency stop holds until a current command is delivered after it.** -/
theorem still_after_estop {config : ProxyConfig} {hist : List LoopInput} {nowMs : UInt64}
    {frames : List (CanFrame × UInt64)} {ds later earlier : List Datagram} {estop : Datagram}
    (hdel : ds.reverse ++ delivered hist = later ++ estop :: earlier)
    (hestop : readOrder estop = some .estop) (hlater : ∀ d ∈ later, ¬ IsCommand d) :
    ∀ i, (midTurn config hist nowMs frames ds).currentCommand i = 0 := by
  by_contra hm
  rw [not_forall] at hm
  obtain ⟨_, a, hhead, _⟩ := ordered_of_moving hm
  have horders : (batchOrders nowMs ds ++ orders hist).map Prod.fst =
      (later ++ estop :: earlier).filterMap readOrder := by
    rw [List.map_append, batchOrders_order, orders_delivered, ← List.filterMap_append, hdel]
  have hnewest : ((later ++ estop :: earlier).filterMap readOrder).head? = some .estop :=
    newest_is_estop hestop hlater
  rw [← horders, List.head?_map, hhead] at hnewest
  cases hnewest

/-- The rule of the sequence numbers: once an emergency stop with number `s` is processed, and
    as long as the current commands delivered after it all have numbers up to `s`, memory is
    zero -- in the middle of every turn, whatever order the packets are delivered in. -/
def EstopRulesBySequence (config : ProxyConfig) : Prop :=
  ∀ (hist : List LoopInput) (nowMs : UInt64) (frames : List (CanFrame × UInt64))
    (ds later earlier : List Datagram) (estop : Datagram) (s : UInt32),
    ds.reverse ++ delivered hist = later ++ estop :: earlier →
    readOrder estop = some .estop → sequence estop = some s →
    (∀ d ∈ later, IsCommand d → ∃ t, sequence d = some t ∧ t ≤ s) →
    ∀ i, (midTurn config hist nowMs frames ds).currentCommand i = 0

/-- **No sequence number is compared**: with the emergency stop delivered first, one call of
    `receive_udp` obeys the older command after it. -/
theorem late_command_revives : ¬ EstopRulesBySequence ⟨true, 2000⟩ := by
  intro h
  have hseq : ∀ d ∈ [sampleCommand], IsCommand d → ∃ t, sequence d = some t ∧ t ≤ 2 := by
    intro d hd _
    rw [List.mem_singleton.mp hd]
    exact ⟨1, by decide, by decide⟩
  have hestop : readOrder sampleEstop = some .estop := rfl
  have hzero := h [] 1000 [] [sampleEstop, sampleCommand] [sampleCommand] [] sampleEstop 2 rfl hestop
    (by decide) hseq 1
  revert hzero
  decide

/-- **An emergency stop overrides everything delivered before it**, in every run and in the
    middle of every turn (with no frames and no datagrams yet, the middle of a turn is the end
    of the last one). Memory is zero until a current command is delivered after the stop: a
    non-zero entry points to one. Such a command is obeyed whatever its number; where packets
    are delivered in the order of their numbers, its number is greater than the stop's. -/
theorem estop_overrides_delivered (config : ProxyConfig) (hist : List LoopInput) (nowMs : UInt64)
    (frames : List (CanFrame × UInt64)) (ds later earlier : List Datagram) (estop : Datagram)
    (hdel : ds.reverse ++ delivered hist = later ++ estop :: earlier)
    (hestop : readOrder estop = some .estop) :
    ((∀ d ∈ later, ¬ IsCommand d) →
      ∀ i, (midTurn config hist nowMs frames ds).currentCommand i = 0) ∧
    ((∃ i, (midTurn config hist nowMs frames ds).currentCommand i ≠ 0) →
      ∃ d ∈ later, IsCommand d ∧ ∀ s, sequence estop = some s →
        (∀ e ∈ later, ∀ t, sequence e = some t → s < t) → ∃ t, sequence d = some t ∧ s < t) ∧
    (∀ front d payload, ds = front ++ [d] → readOrder d = some (.command payload) →
      config.allowCurrent = true → ∀ k : Fin 4,
        (midTurn config hist nowMs frames ds).currentCommand k.succ =
          commandCurrents config payload k) := by
  have hstill : (∀ d ∈ later, ¬ IsCommand d) →
      ∀ i, (midTurn config hist nowMs frames ds).currentCommand i = 0 :=
    fun hlater => still_after_estop hdel hestop hlater
  refine ⟨hstill, fun hm => ?_, fun front d payload hds hd hallow k => ?_⟩
  · by_contra hno
    have hlater : ∀ d ∈ later, ¬ IsCommand d := by
      intro d hd hc
      refine hno ⟨d, hd, hc, fun s _ hnumbers => ?_⟩
      obtain ⟨t, ht⟩ := hc.sequence
      exact ⟨t, ht, hnumbers d hd t ht⟩
    obtain ⟨i, hi⟩ := hm
    exact hi (hstill hlater i)
  · subst hds
    have hlast : midTurn config hist nowMs frames (front ++ [d]) =
        receiveDatagram config nowMs (midTurn config hist nowMs frames front) d :=
      List.foldl_concat ..
    have hcell := receiveDatagram_cell config nowMs (midTurn config hist nowMs frames front) d
    rw [hd, CommandCell.obey, if_pos hallow] at hcell
    rw [hlast]
    exact congrArg (fun cell => cell.currentCommand k.succ) hcell

/-- Delivered in the order they were sent, the command is overridden by the stop. -/
theorem sample_estop_overrides :
    (midTurn ⟨true, 2000⟩ [] 1000 [] [sampleCommand, sampleEstop]).currentCommand = fun _ => 0 := by
  have h := estop_overrides_delivered ⟨true, 2000⟩ [] 1000 [] [sampleCommand, sampleEstop] []
    [sampleCommand] sampleEstop rfl rfl
  exact funext (h.1 fun d hd => absurd hd List.not_mem_nil)

end Rk3588Chassis.Proxy
