/-
  File:      Rk3588Chassis/Senders.lean
  Subject:   The two Python senders (`tools/send_velocity.py`, `tools/characterize_startup.py`)
             against the daemon that reads their lines.

  Both print three fields with four decimals. A field is a decimal number again, and its value is
  the command rounded to a multiple of 0.0001: an encoder in Python and a decoder in C that agree
  on every command between -1 and 1. The dead band of `command_is_zero` is one unit of the last
  printed digit, and strict, so that only printed zeros are a stop.

  * `readDecimal_formatFixed` -- a printed field, read back;
  * `velocityCommand`, `velocity_survives` -- the payload is a documented line that fits the buffer;
  * `sender_daemon_agree` -- so what the daemon stores.
-/
import Rk3588Chassis.CommandLine

namespace Rk3588Chassis

open CText Numeral Rounding

/-! ## 1. Printing with a fixed number of decimals -/

/-- `round(v * 10 ** places)`, ties to even: the digits that `f"{v:.4f}"` prints. -/
def fixedUnits (places : Nat) (v : ℚ) : Int := roundHalfEven (v * 10 ^ places)

/-- `f"{v:.4f}"` with `places` in place of 4. The sign is that of the number, even where all digits
    are zero. -/
def formatFixed (places : Nat) (v : ℚ) : CString :=
  (if v < 0 then [45] else []) ++
    (natText ((fixedUnits places v).natAbs / 10 ^ places) ++
      point :: fixedText places (fixedUnits places v).natAbs)

/-- The number that a field prints. -/
def printed (places : Nat) (v : ℚ) : ℚ := (fixedUnits places v : ℚ) / 10 ^ places

theorem natText_ne_nil (n : Nat) : natText n ≠ [] := by
  intro h
  have hlen := fixedText_length (Nat.log 10 n + 1) n
  have hnil : fixedText (Nat.log 10 n + 1) n = [] := h
  rw [hnil] at hlen
  cases hlen

theorem natText_digits (n : Nat) : (natText n).all isDigit = true := fixedText_digits _ n

/-- The digits of a field count the units of its last place. -/
theorem readNumeral_fixed (places n : Nat) :
    readNumeral decimal (natText (n / 10 ^ places) ++ point :: fixedText places n) =
      some ((n : ℚ) / 10 ^ places) := by
  have hdigits : digitsValue (natText (n / 10 ^ places) ++ fixedText places n) = n := by
    rw [digitsValue_fixed_append, digitsValue_natText]
    exact Nat.div_add_mod n (10 ^ places)
  rw [readNumeral_point (natText_digits _) (natText_ne_nil _) (fixedText_digits _ _), hdigits,
    fixedText_length]

/-- A digit is no sign. -/
theorem splitSign_digits {s : CString} (hs : s.all isDigit = true) (hne : s ≠ []) (t : CString) :
    splitSign (s ++ t) = (false, s ++ t) := by
  obtain ⟨c, rest, rfl⟩ := List.exists_cons_of_ne_nil hne
  have hc := List.all_eq_true.mp hs c List.mem_cons_self
  have hsign : ¬ isSign c = true :=
    byte_cases (P := fun c => isDigit c = true → ¬ isSign c = true) (by decide +kernel) c hc
  exact if_neg hsign

/-- A number and its rounding lie on the same side of zero. -/
theorem fixedUnits_sign (places : Nat) (v : ℚ) :
    (v < 0 → fixedUnits places v ≤ 0) ∧ (0 ≤ v → 0 ≤ fixedUnits places v) := by
  have hpow : (0 : ℚ) < 10 ^ places := by positivity
  constructor
  · intro hv
    have hle : v * 10 ^ places ≤ ((0 : Int) : ℚ) := by
      rw [Int.cast_zero]
      exact mul_nonpos_of_nonpos_of_nonneg hv.le hpow.le
    exact (roundHalfEven_mono_int (a := ⌊v * 10 ^ places⌋) (Int.floor_le _) hle).2
  · intro hv
    have hge : ((0 : Int) : ℚ) ≤ v * 10 ^ places := by
      rw [Int.cast_zero]
      exact mul_nonneg hv hpow.le
    exact (roundHalfEven_mono_int (b := ⌈v * 10 ^ places⌉) hge (Int.le_ceil _)).1

/-- **A printed field is a decimal number**: the value, rounded. -/
theorem readDecimal_formatFixed (places : Nat) (v : ℚ) :
    readDecimal (formatFixed places v) = some (printed places v) := by
  have hdigits := readNumeral_fixed places (fixedUnits places v).natAbs
  unfold formatFixed readDecimal printed
  rcases lt_or_ge v 0 with hv | hv
  · have habs : ((fixedUnits places v).natAbs : ℚ) = -(fixedUnits places v : ℚ) := by
      have hnonpos := (fixedUnits_sign places v).1 hv
      rw [← Int.cast_natCast, Int.ofNat_natAbs_of_nonpos hnonpos, Int.cast_neg]
    rw [if_pos hv]
    have hminus : ∀ t : CString, splitSign ([45] ++ t) = (true, t) := fun _ => rfl
    rw [hminus, hdigits, habs, Option.map_some, if_pos rfl, neg_div, neg_neg]
  · have habs : ((fixedUnits places v).natAbs : ℚ) = (fixedUnits places v : ℚ) := by
      have hnonneg := (fixedUnits_sign places v).2 hv
      rw [← Int.cast_natCast, Int.natAbs_of_nonneg hnonneg]
    rw [if_neg (not_lt.mpr hv), List.nil_append,
      splitSign_digits (natText_digits _) (natText_ne_nil _), hdigits, habs]
    rfl

/-- A command between -1 and 1 is rounded to one. -/
theorem printed_mem (places : Nat) {v : ℚ} (hlo : -1 ≤ v) (hhi : v ≤ 1) :
    -1 ≤ printed places v ∧ printed places v ≤ 1 := by
  have hpow : (0 : ℚ) < 10 ^ places := by positivity
  have hbounds := roundHalfEven_mono_int (x := v * 10 ^ places) (a := -10 ^ places)
    (b := 10 ^ places) (by push_cast; nlinarith) (by push_cast; nlinarith)
  have hlo' : ((-10 ^ places : Int) : ℚ) ≤ fixedUnits places v := Int.cast_le.mpr hbounds.1
  have hhi' : (fixedUnits places v : ℚ) ≤ ((10 ^ places : Int) : ℚ) := Int.cast_le.mpr hbounds.2
  push_cast at hlo' hhi'
  unfold printed
  exact ⟨by rw [le_div_iff₀ hpow]; linarith, by rw [div_le_iff₀ hpow]; linarith⟩

/-! ## 2. The senders -/

/-- The same for all three components of a command. -/
def onEach (f : ℚ → ℚ) (values : ChassisCommand ℚ) : ChassisCommand ℚ :=
  ⟨f values.forward, f values.strafe, f values.rotate⟩

/-- `f"{values[0]:.4f} {values[1]:.4f} {values[2]:.4f}\n"` -/
def velocityLine (values : ChassisCommand ℚ) : CString :=
  formatFixed 4 values.forward ++ ([32] ++ (formatFixed 4 values.strafe ++ ([32] ++
    (formatFixed 4 values.rotate ++ [10]))))

namespace SendVelocity

/-- `max(-1.0, min(1.0, arg))`, for each argument. -/
def command (args : ChassisCommand ℚ) : ChassisCommand ℚ := onEach (fun v => max (-1) (min 1 v)) args

/-- `send_command`. -/
def sendCommand (values : ChassisCommand ℚ) : CString := velocityLine values

end SendVelocity

namespace CharacterizeStartup

/-- The keys of `DIRECTIONS`. -/
inductive Direction where
  | forward
  | back
  | right
  | left
  | rotateLeft
  | rotateRight

/-- `DIRECTIONS`: each is one axis, one way or the other. -/
def Direction.vector : Direction → ChassisCommand ℚ
  | .forward => ⟨1, 0, 0⟩
  | .back => ⟨-1, 0, 0⟩
  | .right => ⟨0, 1, 0⟩
  | .left => ⟨0, -1, 0⟩
  | .rotateLeft => ⟨0, 0, 1⟩
  | .rotateRight => ⟨0, 0, -1⟩

/-- `component * scale` with `scale = max(0.0, min(1.0, raw_scale))`. -/
def command (direction : Direction) (rawScale : ℚ) : ChassisCommand ℚ :=
  onEach (· * max 0 (min 1 rawScale)) direction.vector

/-- `send_command`. -/
def sendCommand (values : ChassisCommand ℚ) : CString := velocityLine values

end CharacterizeStartup

/-- A component between -1 and 1. -/
def InUnit (v : ℚ) : Prop := -1 ≤ v ∧ v ≤ 1

/-- A command between -1 and 1. -/
structure Normalized (values : ChassisCommand ℚ) : Prop where
  forward : InUnit values.forward
  strafe : InUnit values.strafe
  rotate : InUnit values.rotate

/-- What `send_velocity.py` sends is normalized. -/
theorem sendVelocity_normalized (args : ChassisCommand ℚ) :
    Normalized (SendVelocity.command args) := by
  have hclamp : ∀ v : ℚ, InUnit (max (-1) (min 1 v)) := fun v =>
    ⟨le_max_left _ _, max_le (by norm_num) (min_le_left _ _)⟩
  exact ⟨hclamp _, hclamp _, hclamp _⟩

/-- So is what `characterize_startup.py` sends. -/
theorem startup_normalized (direction : CharacterizeStartup.Direction) (rawScale : ℚ) :
    Normalized (CharacterizeStartup.command direction rawScale) := by
  have hlo : 0 ≤ max 0 (min 1 rawScale) := le_max_left _ _
  have hhi : max 0 (min 1 rawScale) ≤ 1 := max_le (by norm_num) (min_le_left _ _)
  have hone : InUnit (1 * max 0 (min 1 rawScale)) := ⟨by linarith, by linarith⟩
  have hminus : InUnit (-1 * max 0 (min 1 rawScale)) := ⟨by linarith, by linarith⟩
  have hzero : InUnit (0 * max 0 (min 1 rawScale)) := ⟨by linarith, by linarith⟩
  cases direction with
  | forward => exact ⟨hone, hzero, hzero⟩
  | back => exact ⟨hminus, hzero, hzero⟩
  | right => exact ⟨hzero, hone, hzero⟩
  | left => exact ⟨hzero, hminus, hzero⟩
  | rotateLeft => exact ⟨hzero, hzero, hone⟩
  | rotateRight => exact ⟨hzero, hzero, hminus⟩

/-! ## 3. Sender and daemon -/

/-- **The payload is a documented line.** -/
def velocityCommand (values : ChassisCommand ℚ) : CommandLine where
  lead := []
  forward := formatFixed 4 values.forward
  sep := [32]
  strafe := formatFixed 4 values.strafe
  sep' := [32]
  rotate := formatFixed 4 values.rotate
  trail := [10]
  values := onEach (printed 4) values
  white_lead := rfl
  white_sep := rfl
  white_sep' := rfl
  white_trail := rfl
  sep_ne := List.cons_ne_nil _ _
  sep'_ne := List.cons_ne_nil _ _
  read_forward := readDecimal_formatFixed 4 values.forward
  read_strafe := readDecimal_formatFixed 4 values.strafe
  read_rotate := readDecimal_formatFixed 4 values.rotate

/-- A field of a normalized command has at most seven bytes. -/
theorem formatFixed_length {v : ℚ} (h : InUnit v) : (formatFixed 4 v).length ≤ 7 := by
  have hunits : (fixedUnits 4 v).natAbs / 10 ^ 4 ≤ 1 := by
    have hbounds := roundHalfEven_mono_int (x := v * 10 ^ 4) (a := -10 ^ 4) (b := 10 ^ 4)
      (by push_cast; linarith [h.1]) (by push_cast; linarith [h.2])
    have hunfold : fixedUnits 4 v = roundHalfEven (v * 10 ^ 4) := rfl
    omega
  have hinteger : (natText ((fixedUnits 4 v).natAbs / 10 ^ 4)).length = 1 := by
    have hlog : Nat.log 10 ((fixedUnits 4 v).natAbs / 10 ^ 4) = 0 := Nat.log_of_lt (by omega)
    rw [natText, fixedText_length, hlog]
  have hsign : (if v < 0 then [45] else ([] : CString)).length ≤ 1 := by
    split <;> decide
  unfold formatFixed
  rw [List.length_append, List.length_append, hinteger, List.length_cons, fixedText_length]
  omega

/-- The third number ends well inside the buffer. -/
theorem velocity_survives {values : ChassisCommand ℚ} (h : Normalized values) :
    (velocityCommand values).Survives finitePart := by
  have hforward := formatFixed_length h.forward
  have hstrafe := formatFixed_length h.strafe
  have hrotate := formatFixed_length h.rotate
  have hfront : (velocityCommand values).front ≤ 16 := by
    show 0 + (formatFixed 4 values.forward).length + (1 + (formatFixed 4 values.strafe).length) + 1
      ≤ 16
    omega
  have hfits : (formatFixed 4 values.rotate).length ≤
      commandBufferSize - 1 - (velocityCommand values).front := by
    unfold commandBufferSize
    omega
  have hwhole : (velocityCommand values).rotate.take
      (commandBufferSize - 1 - (velocityCommand values).front) = formatFixed 4 values.rotate :=
    List.take_of_length_le hfits
  refine ⟨printed 4 values.rotate, ?_, rfl⟩
  rw [hwhole]
  exact readDecimal_formatFixed 4 values.rotate

/-- A printed field that shows zero, with or without a minus. -/
def ShowsZero (field : CString) : Prop :=
  field = [48, 46, 48, 48, 48, 48] ∨ field = [45, 48, 46, 48, 48, 48, 48]

/-- That is a field whose value was rounded to zero. -/
theorem showsZero_iff (v : ℚ) : ShowsZero (formatFixed 4 v) ↔ fixedUnits 4 v = 0 := by
  constructor
  · intro h
    have hread := readDecimal_formatFixed 4 v
    have hzero : readDecimal (formatFixed 4 v) = some 0 := by
      rcases h with h | h <;> rw [h] <;> decide +kernel
    have hprinted : printed 4 v = 0 := Option.some.inj (hread.symm.trans hzero)
    have hpow : (10 : ℚ) ^ 4 ≠ 0 := by norm_num
    exact Int.cast_eq_zero.mp ((div_eq_zero_iff.mp hprinted).resolve_right hpow)
  · intro h
    unfold formatFixed
    rw [h]
    rcases lt_or_ge v 0 with hv | hv
    · rw [if_pos hv]
      exact Or.inr (by decide)
    · rw [if_neg (not_lt.mpr hv)]
      exact Or.inl (by decide)

/-- **The dead band of `command_is_zero` holds no printed value but zero.** -/
theorem dead_band_printed (v : ℚ) :
    absFloat (printed 4 v) < (CFloat.ofRat 0.0001 : ℚ) ↔ fixedUnits 4 v = 0 := by
  have habs : absFloat (printed 4 v) = |printed 4 v| := by
    unfold absFloat
    split
    · rename_i h
      exact (abs_of_nonneg h).symm
    · rename_i h
      exact (abs_of_neg (not_le.mp h)).symm
  have hpow : (0 : ℚ) < 10 ^ 4 := by norm_num
  have hone : (0.0001 : ℚ) * 10 ^ 4 = ((1 : Int) : ℚ) := by norm_num
  rw [habs, ofRat_rat, printed, abs_div, abs_of_pos hpow, div_lt_iff₀ hpow, hone, ← Int.cast_abs,
    Int.cast_lt, Int.abs_lt_one_iff]

/-- **Sender and daemon agree on every command.** What either sender prints for a normalized command
    is accepted; the command stored is each value rounded to four decimals; and the next control
    step treats it as a stop exactly when all three fields show zero. -/
theorem sender_daemon_agree {values : ChassisCommand ℚ} (h : Normalized values) (nowMs : UInt64)
    (s : ChassisController ℚ × DaemonStats) :
    SendVelocity.sendCommand values = CharacterizeStartup.sendCommand values ∧
    let after := receiveCommand (sscanfCommand finitePart) nowMs s (SendVelocity.sendCommand values)
    after.2 = { s.2 with udpCommandCount := s.2.udpCommandCount + 1 } ∧
      after.1.command = onEach (fun v => roundHalfEven (v * 10 ^ 4) / 10 ^ 4) values ∧
      (commandIsZero after.1.command = true ↔ ShowsZero (formatFixed 4 values.forward) ∧
        ShowsZero (formatFixed 4 values.strafe) ∧ ShowsZero (formatFixed 4 values.rotate)) := by
  refine ⟨rfl, ?_⟩
  intro after
  have hafter : after = _ := (line_obeyed_iff finitePart nowMs s (velocityCommand values)).mpr
    (velocity_survives h)
  have hclamp : ∀ v, InUnit v →
      clampFloat (printed 4 v) (-CFloat.ofRat 1) (CFloat.ofRat 1) = printed 4 v := fun v hv =>
    saturate_eq_self (printed_mem 4 hv.1 hv.2).1 (printed_mem 4 hv.1 hv.2).2
  have hcommand : after.1.command = onEach (printed 4) values := by
    rw [hafter]
    exact congr (congrArg₂ ChassisCommand.mk (hclamp _ h.forward) (hclamp _ h.strafe))
      (hclamp _ h.rotate)
  refine ⟨by rw [hafter], hcommand, ?_⟩
  rw [hcommand, commandIsZero, Bool.and_eq_true, Bool.and_eq_true, decide_eq_true_iff,
    decide_eq_true_iff, decide_eq_true_iff, and_assoc]
  simp only [onEach, dead_band_printed, showsZero_iff]

/-- Half speed, a tie in the last place, and less than half of it: stored as 0.5, 0.0312 and 0. -/
theorem half_speed_agrees :
    (receiveCommand (sscanfCommand finitePart) 1000 helloState
      (SendVelocity.sendCommand ⟨1 / 2, 1 / 32, -1 / 50000⟩)).1.command =
        onEach (fun v => roundHalfEven (v * 10 ^ 4) / 10 ^ 4) ⟨1 / 2, 1 / 32, -1 / 50000⟩ := by
  have hnormalized : Normalized ⟨1 / 2, 1 / 32, -1 / 50000⟩ :=
    ⟨⟨by norm_num, by norm_num⟩, ⟨by norm_num, by norm_num⟩, ⟨by norm_num, by norm_num⟩⟩
  exact (sender_daemon_agree hnormalized 1000 helloState).2.2.1

end Rk3588Chassis
