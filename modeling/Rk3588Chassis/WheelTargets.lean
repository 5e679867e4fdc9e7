/-
  File:      Rk3588Chassis/WheelTargets.lean
  Subject:   From a command to the four wheel targets, over exact rationals: direction kept,
             magnitude limited, and which limits of the command line see to it.

  `normalize_wheel_targets` multiplies all four targets by one factor (Library/Limiter.lean;
  `normalizeWheelTargets_scale`), and the mixing formulas are linear in the command
  (`mixCommand_scale`) and can be solved for it (`targets_unmixed`).

  * `targets_keep_direction` -- for a positive translation limit saturation slows the motion and
    never bends it;
  * `limits_honoured_iff` -- the arguments may be any value `strtof` returns; a negative
    translation limit is accepted, and turns targets round and up: `negative_limit_reverses`.
-/
import Mathlib.Tactic.FieldSimp
import Mathlib.Tactic.NormNum
import Rk3588Chassis.ControlErasure
import Rk3588Chassis.DaemonArgs
import Rk3588Chassis.Library.Limiter

namespace Rk3588Chassis

open CFloat Limiter Rounding

/-! ## 1. One factor for four wheels -/

/-- The four wheels' entries of an array. -/
def wheels {α : Type} (a : Slot → α) (k : Fin 4) : α := a k.succ

/-- **The peak search finds the peak.** -/
theorem wheelPeak_isPeak (target : Slot → ℚ) : IsPeak (wheels target) (wheelPeak target) := by
  refine ⟨fun k => wheelPeak_ge target k.succ (Fin.succ_ne_zero k), ?_⟩
  rw [wheelPeak_rat]
  rcases max_choice (max (max |target 1| |target 2|) |target 3|) |target 4| with h | h
  · rcases max_choice (max |target 1| |target 2|) |target 3| with h' | h'
    · rcases max_choice |target 1| |target 2| with h'' | h''
      · exact ⟨0, (h.trans (h'.trans h'')).symm⟩
      · exact ⟨1, (h.trans (h'.trans h'')).symm⟩
    · exact ⟨2, (h.trans h').symm⟩
  · exact ⟨3, h.symm⟩

/-- **Normalisation is one factor for all four wheels.** -/
theorem normalizeWheelTargets_scale (target : Slot → ℚ) (maxAbsRpm : ℚ) {i : Slot} (hi : i ≠ 0) :
    normalizeWheelTargets target maxAbsRpm i = target i * factor maxAbsRpm (wheelPeak target) := by
  unfold normalizeWheelTargets factor
  split
  · exact forMotors_motor _ _ hi
  · rw [mul_one]

/-- Targets within the limit are left alone. -/
theorem normalizeWheelTargets_of_le {target : Slot → ℚ} {maxAbsRpm : ℚ}
    (h : wheelPeak target ≤ maxAbsRpm) : normalizeWheelTargets target maxAbsRpm = target :=
  if_neg fun hc => absurd hc.1 (not_lt.mpr h)

/-! ## 2. The mixing formulas -/

/-- The mixed targets of the four wheels, for a command that is not clamped. -/
theorem mixCommand_unit (config : ChassisConfig ℚ) (command : ChassisCommand ℚ)
    (hf : |command.forward| ≤ 1) (hs : |command.strafe| ≤ 1) (hr : |command.rotate| ≤ 1)
    (old : Slot → ℚ) :
    let F := command.forward * config.maxTranslateRpm
    let S := command.strafe * config.maxTranslateRpm
    let R := command.rotate * config.maxRotateRpm
    mixCommand config command old 1 = F - S - R ∧ mixCommand config command old 2 = F + S - R ∧
      mixCommand config command old 3 = -F - S - R ∧ mixCommand config command old 4 = -F + S - R := by
  intro F S R
  have hf' := clampFloat_of_unit hf
  have hs' := clampFloat_of_unit hs
  have hr' := clampFloat_of_unit hr
  refine ⟨?_, ?_, ?_, ?_⟩ <;> simp only [mixCommand, ofRat_rat, hf', hs', hr', F, S, R] <;> ring

/-- A command scaled down as a whole. -/
def ChassisCommand.scale (l : ℚ) (command : ChassisCommand ℚ) : ChassisCommand ℚ :=
  ⟨l * command.forward, l * command.strafe, l * command.rotate⟩

theorem abs_scale_le {l x : ℚ} (h0 : 0 ≤ l) (h1 : l ≤ 1) (hx : |x| ≤ 1) : |l * x| ≤ 1 := by
  rw [abs_mul, abs_of_nonneg h0]
  exact mul_le_one₀ h1 (abs_nonneg x) hx

/-- **Mixing is linear**: a command scaled by `l` mixes to targets scaled by `l`. -/
theorem mixCommand_scale {config : ChassisConfig ℚ} {command : ChassisCommand ℚ}
    (hf : |command.forward| ≤ 1) (hs : |command.strafe| ≤ 1) (hr : |command.rotate| ≤ 1)
    {l : ℚ} (h0 : 0 ≤ l) (h1 : l ≤ 1) (old : Slot → ℚ) (k : Fin 4) :
    wheels (mixCommand config (command.scale l) old) k = l * wheels (mixCommand config command old) k := by
  obtain ⟨a1, a2, a3, a4⟩ := mixCommand_unit config command hf hs hr old
  obtain ⟨b1, b2, b3, b4⟩ := mixCommand_unit config (command.scale l)
    (abs_scale_le h0 h1 hf) (abs_scale_le h0 h1 hs) (abs_scale_le h0 h1 hr) old
  have hk : ∀ k : Fin 4, k = 0 ∨ k = 1 ∨ k = 2 ∨ k = 3 := by decide
  rcases hk k with rfl | rfl | rfl | rfl
  · show mixCommand config (command.scale l) old 1 = l * mixCommand config command old 1
    rw [b1, a1, ChassisCommand.scale]
    ring
  · show mixCommand config (command.scale l) old 2 = l * mixCommand config command old 2
    rw [b2, a2, ChassisCommand.scale]
    ring
  · show mixCommand config (command.scale l) old 3 = l * mixCommand config command old 3
    rw [b3, a3, ChassisCommand.scale]
    ring
  · show mixCommand config (command.scale l) old 4 = l * mixCommand config command old 4
    rw [b4, a4, ChassisCommand.scale]
    ring

/-! ## 3. Direction -/

/-- The largest wheel speed of an array of targets. -/
def largestSpeed (target : Slot → ℚ) : ℚ :=
  max (max |target 1| |target 2|) (max |target 3| |target 4|)

theorem wheelPeak_eq_largest (target : Slot → ℚ) : wheelPeak target = largestSpeed target := by
  rw [wheelPeak_rat, largestSpeed, max_assoc]

/-- The factor by which a controller's targets are normalised. -/
def targetFactor (c : ChassisController ℚ) : ℚ :=
  factor c.config.maxTranslateRpm (wheelPeak (mixCommand c.config c.command c.targetRpm))

/-- The targets are the mixing formulas, up to that factor. -/
theorem targets_scaled (c : ChassisController ℚ) {i : Slot} (hi : i ≠ 0) :
    (updateTargetsFromCommand c).targetRpm i =
      mixCommand c.config c.command c.targetRpm i * targetFactor c :=
  normalizeWheelTargets_scale _ _ hi

/-- So the mixing can be undone, axis by axis. -/
theorem targets_unmixed {c : ChassisController ℚ} (hf : |c.command.forward| ≤ 1)
    (hs : |c.command.strafe| ≤ 1) (hr : |c.command.rotate| ≤ 1) :
    let k := targetFactor c
    let t := (updateTargetsFromCommand c).targetRpm
    (t 1 + t 2 - t 3 - t 4) / 4 = k * c.command.forward * c.config.maxTranslateRpm ∧
      (t 2 + t 4 - t 1 - t 3) / 4 = k * c.command.strafe * c.config.maxTranslateRpm ∧
      -(t 1 + t 2 + t 3 + t 4) / 4 = k * c.command.rotate * c.config.maxRotateRpm ∧
      t 1 + t 4 = t 2 + t 3 := by
  intro k t
  obtain ⟨u1, u2, u3, u4⟩ := mixCommand_unit c.config c.command hf hs hr c.targetRpm
  have t1 : t 1 = _ := (targets_scaled c (by decide)).trans (congrArg (· * k) u1)
  have t2 : t 2 = _ := (targets_scaled c (by decide)).trans (congrArg (· * k) u2)
  have t3 : t 3 = _ := (targets_scaled c (by decide)).trans (congrArg (· * k) u3)
  have t4 : t 4 = _ := (targets_scaled c (by decide)).trans (congrArg (· * k) u4)
  rw [t1, t2, t3, t4]
  refine ⟨?_, ?_, ?_, ?_⟩ <;> ring

/-- The fastest wheel, after normalisation. -/
theorem largestSpeed_targets {c : ChassisController ℚ} (hk : 0 ≤ targetFactor c) :
    largestSpeed (updateTargetsFromCommand c).targetRpm =
      wheelPeak (mixCommand c.config c.command c.targetRpm) * targetFactor c := by
  have hscaled := (wheelPeak_isPeak (mixCommand c.config c.command c.targetRpm)).scale hk
  have hwheels : wheels (updateTargetsFromCommand c).targetRpm =
      fun i => targetFactor c * wheels (mixCommand c.config c.command c.targetRpm) i :=
    funext fun i => (targets_scaled c (Fin.succ_ne_zero i)).trans (mul_comm _ _)
  rw [← hwheels] at hscaled
  rw [← wheelPeak_eq_largest, (wheelPeak_isPeak _).unique hscaled, mul_comm]

/-- If all four targets are zero, the three sums say that the command is. -/
theorem some_wheel_moves {c : ChassisController ℚ} (hf : |c.command.forward| ≤ 1)
    (hs : |c.command.strafe| ≤ 1) (hr : |c.command.rotate| ≤ 1) (hk : targetFactor c ≠ 0)
    (hM : c.config.maxTranslateRpm ≠ 0) (hW : c.config.maxRotateRpm ≠ 0)
    (hcommand : c.command ≠ zeroCommand) :
    ∃ i, i ≠ 0 ∧ (updateTargetsFromCommand c).targetRpm i ≠ 0 := by
  by_contra hno
  have hzero : ∀ i : Slot, i ≠ 0 → (updateTargetsFromCommand c).targetRpm i = 0 :=
    fun i hi => by_contra fun h => hno ⟨i, hi, h⟩
  obtain ⟨hforward, hstrafe, hrotate, _⟩ := targets_unmixed hf hs hr
  simp only [hzero 1 (by decide), hzero 2 (by decide), hzero 3 (by decide),
    hzero 4 (by decide)] at hforward hstrafe hrotate
  have hf0 : c.command.forward = 0 := by simpa [hk, hM] using hforward.symm
  have hs0 : c.command.strafe = 0 := by simpa [hk, hM] using hstrafe.symm
  have hr0 : c.command.rotate = 0 := by simpa [hk, hW] using hrotate.symm
  refine hcommand ?_
  calc c.command = ⟨c.command.forward, c.command.strafe, c.command.rotate⟩ := rfl
    _ = zeroCommand := by rw [hf0, hs0, hr0, zeroCommand]

/-- **Direction.** For every positive translation limit `M` and every command in `[-1, 1]^3`:
    the four targets solve the mixing formulas for the command, up to one common factor `k` in
    `(0, 1]`; `k` is 1 exactly if no unnormalised wheel speed exceeds `M`, and otherwise the
    fastest wheel turns at `M`. Normalising again changes nothing, and unless `W` is 0 a command
    that is not zero moves some wheel. -/
theorem targets_keep_direction (c : ChassisController ℚ) (hM : 0 < c.config.maxTranslateRpm)
    (hf : |c.command.forward| ≤ 1) (hs : |c.command.strafe| ≤ 1) (hr : |c.command.rotate| ≤ 1) :
    let M := c.config.maxTranslateRpm
    let W := c.config.maxRotateRpm
    let unnormalised := mixCommand c.config c.command c.targetRpm
    let t := (updateTargetsFromCommand c).targetRpm
    (∃ k, 0 < k ∧ k ≤ 1 ∧
      (t 1 + t 2 - t 3 - t 4) / 4 = k * c.command.forward * M ∧
      (t 2 + t 4 - t 1 - t 3) / 4 = k * c.command.strafe * M ∧
      -(t 1 + t 2 + t 3 + t 4) / 4 = k * c.command.rotate * W ∧
      t 1 + t 4 = t 2 + t 3 ∧
      (k = 1 ↔ largestSpeed unnormalised ≤ M) ∧
      (k ≠ 1 → largestSpeed t = M)) ∧
    normalizeWheelTargets t M = t ∧
    (W ≠ 0 → c.command ≠ zeroCommand → ∃ i, i ≠ 0 ∧ t i ≠ 0) := by
  intro M W unnormalised t
  have hpos : 0 < targetFactor c := factor_pos hM
  have hlargest := largestSpeed_targets hpos.le
  obtain ⟨hforward, hstrafe, hrotate, hcross⟩ := targets_unmixed hf hs hr
  have hone : targetFactor c = 1 ↔ largestSpeed unnormalised ≤ M := by
    rw [← wheelPeak_eq_largest]
    exact factor_eq_one_iff hM
  refine ⟨⟨targetFactor c, hpos, factor_le_one _ _, hforward, hstrafe, hrotate, hcross, hone,
    fun hne => ?_⟩, ?_, fun hW hcommand =>
      some_wheel_moves hf hs hr hpos.ne' hM.ne' hW hcommand⟩
  · have hlt : M < wheelPeak unnormalised := by
      rw [wheelPeak_eq_largest]
      exact not_le.mp fun h => hne (hone.mpr h)
    exact hlargest.trans (peak_mul_factor (hM.trans hlt) hlt)
  · refine normalizeWheelTargets_of_le ?_
    rw [wheelPeak_eq_largest, hlargest]
    exact peak_mul_factor_le hM.le

/-- A controller with the default limits, told to go full speed ahead and to the right. -/
def diagonalController : ChassisController ℚ :=
  { blankMemory with config := chassisDefaultConfig, command := ⟨1, 1, 0⟩ }

/-- Two of its wheels would have to turn at 1000 rpm; it goes ahead as fast as to the right,
    with a wheel at the limit. -/
theorem diagonal_keeps_direction :
    let t := (updateTargetsFromCommand diagonalController).targetRpm
    t 1 + t 2 - t 3 - t 4 = t 2 + t 4 - t 1 - t 3 ∧ largestSpeed t = 500 := by
  intro t
  have hone : |(1 : ℚ)| ≤ 1 := by norm_num
  have hzero : |(0 : ℚ)| ≤ 1 := by norm_num
  obtain ⟨⟨k, _, _, hforward, hstrafe, _, _, hone, hlimit⟩, _⟩ :=
    targets_keep_direction diagonalController (by decide +kernel) hone hone hzero
  refine ⟨?_, hlimit fun h => ?_⟩
  · have heq : (t 1 + t 2 - t 3 - t 4) / 4 = (t 2 + t 4 - t 1 - t 3) / 4 :=
      hforward.trans hstrafe.symm
    linarith
  · exact absurd (hone.mp h) (by decide +kernel)

/-! ## 4. Limits -/

/-- The limits of a configuration are honoured: a command scaled down never asks a wheel for
    more than the command itself, and normalisation neither speeds up nor reverses a wheel,
    whatever targets it is given. -/
def HonoursLimits (config : ChassisConfig ℚ) : Prop :=
  (∀ c : ChassisController ℚ, c.config = config → |c.command.forward| ≤ 1 →
    |c.command.strafe| ≤ 1 → |c.command.rotate| ≤ 1 → ∀ l, 0 ≤ l → l ≤ 1 → ∀ i : Slot, i ≠ 0 →
      |(updateTargetsFromCommand { c with command := c.command.scale l }).targetRpm i| ≤
        |(updateTargetsFromCommand c).targetRpm i|) ∧
  ∀ (target : Slot → ℚ) (i : Slot), i ≠ 0 →
    |normalizeWheelTargets target config.maxTranslateRpm i| ≤ |target i| ∧
      0 ≤ normalizeWheelTargets target config.maxTranslateRpm i * target i

/-- Under a limit that is not negative, less command is never more speed. -/
theorem scaled_targets_le {c : ChassisController ℚ} (hM : 0 ≤ c.config.maxTranslateRpm)
    (hf : |c.command.forward| ≤ 1) (hs : |c.command.strafe| ≤ 1) (hr : |c.command.rotate| ≤ 1)
    {l : ℚ} (h0 : 0 ≤ l) (h1 : l ≤ 1) (k : Fin 4) :
    |(updateTargetsFromCommand { c with command := c.command.scale l }).targetRpm k.succ| ≤
      |(updateTargetsFromCommand c).targetRpm k.succ| := by
  have hk : k.succ ≠ 0 := Fin.succ_ne_zero k
  have hpeak := wheelPeak_isPeak (mixCommand c.config c.command c.targetRpm)
  set u := mixCommand c.config c.command c.targetRpm with hu
  set u' := mixCommand c.config (c.command.scale l) c.targetRpm with hu'
  have hmix : wheels u' = fun k => l * wheels u k :=
    funext fun k => mixCommand_scale hf hs hr h0 h1 c.targetRpm k
  have hpeak' : wheelPeak u' = l * wheelPeak u :=
    (wheelPeak_isPeak u').unique (hmix ▸ hpeak.scale h0)
  have hleft : (updateTargetsFromCommand { c with command := c.command.scale l }).targetRpm k.succ =
      l * u k.succ * factor c.config.maxTranslateRpm (l * wheelPeak u) := by
    rw [← hpeak']
    exact (normalizeWheelTargets_scale u' _ hk).trans (congrArg (· * _) (congrFun hmix k))
  have hright : (updateTargetsFromCommand c).targetRpm k.succ =
      u k.succ * factor c.config.maxTranslateRpm (wheelPeak u) :=
    normalizeWheelTargets_scale u _ hk
  have hfactor := mul_factor_le hM hpeak.nonneg h0 h1
  calc |(updateTargetsFromCommand { c with command := c.command.scale l }).targetRpm k.succ|
      = |u k.succ| * (l * factor c.config.maxTranslateRpm (l * wheelPeak u)) := by
        rw [hleft, abs_mul, abs_mul, abs_of_nonneg h0, abs_of_nonneg (factor_nonneg hM)]
        ring
    _ ≤ |u k.succ| * factor c.config.maxTranslateRpm (wheelPeak u) :=
        mul_le_mul_of_nonneg_left hfactor (abs_nonneg _)
    _ = |(updateTargetsFromCommand c).targetRpm k.succ| := by
        rw [hright, abs_mul, abs_of_nonneg (factor_nonneg hM)]

/-- Nor does normalisation speed a wheel up or turn it round. -/
theorem normalized_not_faster {maxAbsRpm : ℚ} (hM : 0 ≤ maxAbsRpm) (target : Slot → ℚ) {i : Slot}
    (hi : i ≠ 0) : |normalizeWheelTargets target maxAbsRpm i| ≤ |target i| ∧
      0 ≤ normalizeWheelTargets target maxAbsRpm i * target i := by
  have hk0 : 0 ≤ factor maxAbsRpm (wheelPeak target) := factor_nonneg hM
  rw [normalizeWheelTargets_scale target maxAbsRpm hi]
  constructor
  · rw [abs_mul, abs_of_nonneg hk0]
    exact mul_le_of_le_one_right (abs_nonneg _) (factor_le_one _ _)
  · have hsq : target i * factor maxAbsRpm (wheelPeak target) * target i =
        target i * target i * factor maxAbsRpm (wheelPeak target) := by ring
    rw [hsq]
    exact mul_nonneg (mul_self_nonneg _) hk0

/-- A negative limit turns round wheels that are all asked for 1 rpm. -/
theorem negative_limit_reverses {maxAbsRpm : ℚ} (h : maxAbsRpm < 0) :
    normalizeWheelTargets (fun _ => 1) maxAbsRpm 1 = maxAbsRpm := by
  have hpeak : wheelPeak (fun _ => (1 : ℚ)) = 1 := by
    rw [wheelPeak_rat]
    norm_num
  rw [normalizeWheelTargets_scale _ _ (by decide), hpeak,
    factor_of_lt one_pos (h.trans one_pos), div_one, one_mul]

/-- **Which limits are honoured.** Exactly those with a translation limit that is not
    negative; the rotation limit may be anything. -/
theorem limits_honoured_iff (config : ChassisConfig ℚ) :
    HonoursLimits config ↔ 0 ≤ config.maxTranslateRpm := by
  constructor
  · intro h
    by_contra hneg
    have hbad := (h.2 (fun _ => 1) 1 (by decide)).2
    rw [negative_limit_reverses (not_le.mp hneg), mul_one] at hbad
    exact hneg hbad
  · intro hM
    refine ⟨fun c hc hf hs hr l h0 h1 i hi => ?_, fun target i hi => normalized_not_faster hM target hi⟩
    obtain ⟨k, rfl⟩ := Fin.eq_succ_of_ne_zero hi
    exact scaled_targets_le (hc ▸ hM) hf hs hr h0 h1 k

/-! ## 5. What the command line accepts -/

/-- The digits at the start of a text, as a number, and how many there are. -/
def decimalDigits : CString → Nat → Nat × Nat
  | [], n => (n, 0)
  | b :: text, n =>
    if 48 ≤ b ∧ b ≤ 57 then
      ((decimalDigits text (10 * n + (b.toNat - 48))).1,
        (decimalDigits text (10 * n + (b.toNat - 48))).2 + 1)
    else (n, 0)

/-- `strtof` on texts that are an optional minus sign and decimal digits. -/
def strtofDecimal : CString → ℚ × Nat
  | [] => (0, 0)
  | b :: text =>
    if b = 45 then
      if (decimalDigits text 0).2 = 0 then (0, 0)
      else (-(decimalDigits text 0).1, (decimalDigits text 0).2 + 1)
    else ((decimalDigits (b :: text) 0).1, (decimalDigits (b :: text) 0).2)

/-- `strtol` on such texts. -/
def strtolDecimal (text : CString) : Int64 × Nat :=
  ((Int64.ofInt (strtofDecimal text).1.num), (strtofDecimal text).2)

/-- `chassis_daemon can0 0 20001 -500 400`. -/
def negativeLimitArgs : List CString :=
  [[], [99, 97, 110, 48], [48], [50, 48, 48, 48, 49], [45, 53, 48, 48], [52, 48, 48]]

/-- **The sign is not looked at**: the arguments `-500 400` are accepted, and their limits are
    not honoured. -/
theorem negative_limit_accepted :
    parseOptions strtofDecimal strtolDecimal negativeLimitArgs =
        some ⟨daemonConfig (-500) 400, 20001, false⟩ ∧
      ¬ HonoursLimits (daemonConfig (-500) 400) := by
  refine ⟨rfl, fun h => ?_⟩
  have hbad := (h.2 (fun _ => 1) 1 (by decide)).2
  revert hbad
  decide +kernel

end Rk3588Chassis
