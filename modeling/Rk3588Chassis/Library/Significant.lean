/-
  File:      Rk3588Chassis/Library/Significant.lean
  Subject:   Numbers written with a given number of significant digits: `%g`.

  Digits behind the first are counted: `q` of them make a precision of `q + 1`. The rounded digits
  and the place of the first one decide between a plain numeral and one with an exponent; zeros at
  the end are dropped in both.

  * `readDecimal_formatGeneral` -- a number written so is read back as the rounded one;
  * `significant_near` -- which is off by at most half a unit of the last digit;
  * `significant_eq_self` -- and by nothing where the number has no more digits than that.
-/
import Rk3588Chassis.Library.CText
import Mathlib.Data.Int.Log
import Mathlib.Data.Rat.Floor

namespace Numeral

open Rounding

/-! ## 1. The format -/

/-- `0` -/
def zeroByte : UInt8 := 48

/-- Without the zeros at the end. -/
def stripZeros (s : Text) : Text := s.rdropWhile (· == zeroByte)

/-- A numeral of two runs of digits. Zeros at the end of the second are dropped, and the point if
    none is left. -/
def pointed (i f : Text) : Text :=
  if stripZeros f = [] then i else i ++ point :: stripZeros f

/-- The power of ten of the first digit, before rounding. -/
def magnitude (v : ℚ) : Int := Int.log 10 |v|

/-- The digits, as a number, rounded with ties to even. -/
def roundedDigits (q : Nat) (v : ℚ) : Nat :=
  (roundHalfEven (|v| * 10 ^ ((q : Int) - magnitude v))).natAbs

/-- The digits and the power of ten of the first of them: where rounding makes a digit more, it is
    cut off again. -/
def significand (q : Nat) (v : ℚ) : Nat × Int :=
  if roundedDigits q v = 10 ^ (q + 1) then (10 ^ q, magnitude v + 1)
  else (roundedDigits q v, magnitude v)

/-- An exponent: a sign and at least two digits. -/
def exponentText (e : Int) : Text :=
  (if e < 0 then 45 else 43) ::
    (if e.natAbs < 10 then fixedText 2 e.natAbs else natText e.natAbs)

/-- The digits of a number without its sign. -/
def generalDigits (q m : Nat) (e : Int) : Text :=
  if -4 ≤ e ∧ e ≤ q then
    pointed (natText (m / 10 ^ (q - e).toNat)) (fixedText (q - e).toNat m)
  else pointed (natText (m / 10 ^ q)) (fixedText q m) ++ 101 :: exponentText e

/-- `%.{q + 1}g`. -/
def formatGeneral (q : Nat) (v : ℚ) : Text :=
  (if v < 0 then [45] else []) ++ generalDigits q (significand q v).1 (significand q v).2

/-- The number, rounded to `q + 1` digits. -/
def significant (q : Nat) (v : ℚ) : ℚ :=
  (if v < 0 then -1 else 1) * (roundedDigits q v * 10 ^ (magnitude v - q))

/-! ## 2. Digits at the end -/

/-- Zeros at the end multiply by ten. -/
theorem digitsValue_zeros (s : Text) : ∀ n : Nat,
    digitsValue (s ++ List.replicate n zeroByte) = 10 ^ n * digitsValue s
  | 0 => by
    rw [List.replicate_zero, List.append_nil, pow_zero, Nat.one_mul]
  | n + 1 => by
    have hzero : digitValue zeroByte = 0 := rfl
    rw [List.replicate_succ', ← List.append_assoc, digitsValue_append, digitsValue_zeros s n,
      List.foldl_cons, List.foldl_nil, hzero, Nat.add_zero, pow_succ', Nat.mul_assoc]

/-- What is dropped is zeros. -/
theorem stripZeros_split (s : Text) : ∃ n, s = stripZeros s ++ List.replicate n zeroByte := by
  refine ⟨(s.rtakeWhile (· == zeroByte)).length, ?_⟩
  have hzeros : s.rtakeWhile (· == zeroByte) =
      List.replicate (s.rtakeWhile (· == zeroByte)).length zeroByte :=
    List.eq_replicate_iff.mpr ⟨rfl, fun c hc =>
      beq_iff_eq.mp (List.mem_rtakeWhile_imp (p := (· == zeroByte)) hc)⟩
  rw [← hzeros]
  exact (List.rdropWhile_append_rtakeWhile ..).symm

theorem stripZeros_digits {s : Text} (h : s.all isDigit = true) :
    (stripZeros s).all isDigit = true := by
  rw [List.all_eq_true] at h ⊢
  exact fun c hc => h c ((List.rdropWhile_prefix (p := (· == zeroByte)) s).subset hc)

/-! ## 3. Reading it back -/

/-- A reader behind a number without an exponent. -/
structure Reader.Plain (r : Reader) : Prop where
  phase : r.phase = .integer ∨ r.phase = .fraction
  negative : r.negative = false
  exponent : r.exponent = 0

theorem Reader.Plain.ends {r : Reader} (h : r.Plain) : r.phase.ends = true := by
  rcases h.phase with hphase | hphase
  · rw [hphase]
    rfl
  · rw [hphase]
    rfl

/-- Its value. -/
theorem Reader.Plain.value {r : Reader} (h : r.Plain) :
    r.value decimal = (r.mantissa : ℚ) / 10 ^ r.places := by
  have hbase : (decimal.base : ℚ) = 10 := rfl
  rw [Reader.value, h.negative, h.exponent, pow_zero, hbase, if_neg Bool.false_ne_true, mul_one]

/-- Digits, from the start. -/
theorem run_digits {i : Text} (hi : i.all isDigit = true) (hne : i ≠ []) :
    Reader.empty.run decimal i = some ⟨.integer, digitsValue i, 0, false, 0⟩ := by
  obtain ⟨c, s, rfl⟩ := List.exists_cons_of_ne_nil hne
  obtain ⟨hc, hs⟩ := Bool.and_eq_true_iff.mp (List.all_cons ▸ hi)
  have hvalue : decimal.base * Reader.empty.mantissa + decimal.value c = digitValue c :=
    Nat.zero_add _
  have hfirst : Reader.empty.next decimal c = some ⟨.integer, digitValue c, 0, false, 0⟩ := by
    refine (if_pos hc).trans ?_
    rw [hvalue]
    rfl
  rw [Reader.run, hfirst]
  refine (Reader.run_integer _ hs rfl).trans ?_
  rw [digitsValue, List.foldl_cons, Nat.mul_zero, Nat.zero_add]

/-- **What is read of a numeral without its zeros**: the value of all its digits. -/
theorem run_pointed {i f : Text} (hi : i.all isDigit = true) (hne : i ≠ [])
    (hf : f.all isDigit = true) : ∃ r, Reader.empty.run decimal (pointed i f) = some r ∧ r.Plain ∧
      (r.mantissa : ℚ) / 10 ^ r.places = (digitsValue (i ++ f) : ℚ) / 10 ^ f.length := by
  obtain ⟨n, hsplit⟩ := stripZeros_split f
  have hpow : (10 : ℚ) ^ n ≠ 0 := pow_ne_zero n (by norm_num)
  have hdigits : digitsValue (i ++ f) = 10 ^ n * digitsValue (i ++ stripZeros f) := by
    rw [← digitsValue_zeros, List.append_assoc, ← hsplit]
  have hlen : f.length = n + (stripZeros f).length := by
    have hlen := congrArg List.length hsplit
    rw [List.length_append, List.length_replicate, Nat.add_comm] at hlen
    exact hlen
  have hvalue : (digitsValue (i ++ f) : ℚ) / 10 ^ f.length =
      (digitsValue (i ++ stripZeros f) : ℚ) / 10 ^ (stripZeros f).length := by
    rw [hdigits, hlen, Nat.cast_mul, Nat.cast_pow, Nat.cast_ofNat, pow_add]
    exact mul_div_mul_left _ _ hpow
  rw [hvalue]
  unfold pointed
  split
  · rename_i hnone
    refine ⟨_, run_digits hi hne, ⟨Or.inl rfl, rfl, rfl⟩, ?_⟩
    rw [hnone, List.append_nil]
    rfl
  · have hpoint : (⟨.integer, digitsValue i, 0, false, 0⟩ : Reader).next decimal point =
        some ⟨.fraction, digitsValue i, 0, false, 0⟩ := rfl
    refine ⟨⟨.fraction, digitsValue (i ++ stripZeros f), (stripZeros f).length, false, 0⟩, ?_,
      ⟨Or.inr rfl, rfl, rfl⟩, rfl⟩
    rw [Reader.run_append, run_digits hi hne, Option.bind_some, Reader.run, hpoint]
    refine (Reader.run_fraction _ (stripZeros_digits hf) rfl).trans ?_
    rw [digitsValue_append, Nat.zero_add]

/-- The digits of an exponent. -/
theorem Reader.run_exponent : ∀ {s : Text} (r : Reader), s.all isDigit = true →
    r.phase = .exponent → r.run decimal s =
      some { r with exponent := s.foldl (fun n c => 10 * n + digitValue c) r.exponent }
  | [], _, _, _ => rfl
  | c :: s, r, hs, hphase => by
    obtain ⟨hc, hrest⟩ := Bool.and_eq_true_iff.mp (List.all_cons ▸ hs)
    have hnext : r.next decimal c =
        some { r with exponent := 10 * r.exponent + digitValue c } := by
      unfold Reader.next
      simp only [hphase]
      exact if_pos hc
    rw [Reader.run, hnext]
    exact Reader.run_exponent _ hrest hphase

theorem natText_run (n : Nat) : (natText n).all isDigit = true ∧ natText n ≠ [] := by
  refine ⟨fixedText_digits _ n, fun h => ?_⟩
  have hlen := fixedText_length (Nat.log 10 n + 1) n
  rw [show fixedText (Nat.log 10 n + 1) n = [] from h] at hlen
  cases hlen

/-- The digits of an exponent are digits, at least one, and say how large it is. -/
theorem exponent_digits (n : Nat) :
    ∃ c s, (if n < 10 then fixedText 2 n else natText n) = c :: s ∧ (c :: s).all isDigit = true ∧
      digitsValue (c :: s) = n := by
  split
  · rename_i hsmall
    refine ⟨_, _, rfl, fixedText_digits 2 n, (digitsValue_fixedText 2 n).trans ?_⟩
    exact Nat.mod_eq_of_lt (by omega)
  · obtain ⟨hdigits, hne⟩ := natText_run n
    obtain ⟨c, s, hcons⟩ := List.exists_cons_of_ne_nil hne
    rw [hcons] at hdigits
    exact ⟨c, s, hcons, hdigits, hcons ▸ digitsValue_natText n⟩

/-- **An exponent behind a number** moves its point. -/
theorem run_exponentText {r : Reader} (h : r.Plain) (e : Int) :
    ∃ r', r.run decimal (101 :: exponentText e) = some r' ∧ r'.phase.ends = true ∧
      r'.value decimal = (r.mantissa : ℚ) / 10 ^ r.places * 10 ^ e := by
  obtain ⟨c, s, htext, hdigits, hvalue⟩ := exponent_digits e.natAbs
  obtain ⟨hc, hs⟩ := Bool.and_eq_true_iff.mp (List.all_cons ▸ hdigits)
  have hmark : r.next decimal 101 = some { r with phase := .mark } := by
    unfold Reader.next
    rcases h.phase with hphase | hphase
    · simp only [hphase]
      rfl
    · simp only [hphase]
      rfl
  have hsign : ({ r with phase := .mark } : Reader).next decimal (if e < 0 then 45 else 43) =
      some { r with phase := .sign, negative := decide (e < 0) } := by
    rcases lt_or_ge e 0 with he | he
    · rw [if_pos he, decide_eq_true he]
      rfl
    · rw [if_neg (not_lt.mpr he), decide_eq_false (not_lt.mpr he)]
      rfl
  have hfirst : ({ r with phase := .sign, negative := decide (e < 0) } : Reader).next decimal c =
      some { r with phase := .exponent, negative := decide (e < 0), exponent := digitValue c } := by
    refine (if_pos hc).trans ?_
    rw [h.exponent, Nat.mul_zero, Nat.zero_add]
  refine ⟨{ r with phase := .exponent, negative := decide (e < 0), exponent := e.natAbs }, ?_, rfl,
    ?_⟩
  · rw [exponentText, htext, Reader.run, hmark, Option.bind_some, Reader.run, hsign,
      Option.bind_some, Reader.run, hfirst, Option.bind_some, Reader.run_exponent _ hs rfl]
    rw [digitsValue, List.foldl_cons, Nat.mul_zero, Nat.zero_add] at hvalue
    rw [hvalue]
  · have hbase : (decimal.base : ℚ) = 10 := rfl
    have hscale : decimal.scale = 10 := rfl
    rw [Reader.value]
    simp only [hbase, hscale]
    have hpower : (10 : ℚ) ^ e.natAbs = 10 ^ (e.natAbs : Int) := (zpow_natCast _ _).symm
    rw [hpower]
    rcases lt_or_ge e 0 with he | he
    · rw [decide_eq_true he, if_pos rfl, Int.ofNat_natAbs_of_nonpos he.le, zpow_neg, div_inv_eq_mul]
    · rw [decide_eq_false (not_lt.mpr he), if_neg Bool.false_ne_true, Int.natAbs_of_nonneg he]

/-- The digits of `m`, with the point `k` places from the end. -/
theorem digitsValue_cut (k m : Nat) : digitsValue (natText (m / 10 ^ k) ++ fixedText k m) = m := by
  rw [digitsValue_fixed_append, digitsValue_natText]
  exact Nat.div_add_mod m (10 ^ k)

/-- **The digits of a number are read back**, whichever way they are written. -/
theorem readNumeral_generalDigits (q m : Nat) (e : Int) :
    readNumeral decimal (generalDigits q m e) = some ((m : ℚ) * 10 ^ (e - q)) := by
  have hten : (10 : ℚ) ≠ 0 := by norm_num
  unfold readNumeral generalDigits
  split
  · rename_i hplain
    obtain ⟨hdigits, hne⟩ := natText_run (m / 10 ^ (q - e).toNat)
    obtain ⟨r, hr, hr', hvalue⟩ :=
      run_pointed hdigits hne (fixedText_digits (q - e).toNat m)
    have hexp : e - q = -((q - e).toNat : Int) := by omega
    rw [digitsValue_cut, fixedText_length] at hvalue
    rw [hr, Option.bind_some, if_pos hr'.ends, hr'.value, hvalue, hexp, zpow_neg, zpow_natCast,
      div_eq_mul_inv]
  · obtain ⟨hdigits, hne⟩ := natText_run (m / 10 ^ q)
    obtain ⟨r, hr, hr', hvalue⟩ := run_pointed hdigits hne (fixedText_digits q m)
    obtain ⟨r', hrun, hends, hvalue'⟩ := run_exponentText hr' e
    rw [digitsValue_cut, fixedText_length] at hvalue
    rw [Reader.run_append, hr, Option.bind_some, hrun, Option.bind_some, if_pos hends, hvalue',
      hvalue, zpow_sub₀ hten, zpow_natCast]
    exact congrArg some (by ring)

/-- A numeral has no sign. -/
theorem splitSign_numeral {s : Text} {x : ℚ} (h : readNumeral decimal s = some x) :
    splitSign s = (false, s) := by
  have hsome : (readNumeral decimal s).isSome = true := by
    rw [h]
    rfl
  obtain ⟨c, t, rfl, hc⟩ := readNumeral_head hsome
  have hdigit : ∀ d, decimal.isDigit d = true → ¬ isSign d = true :=
    CText.byte_cases (P := fun d => decimal.isDigit d = true → ¬ isSign d = true)
      (by decide +kernel)
  have hsign : ¬ isSign c = true := by
    rcases hc with hc | rfl
    · exact hdigit c hc
    · decide
  exact if_neg hsign

/-- A digit that rounding makes more is cut off again: the number is the same. -/
theorem significand_value (q : Nat) (v : ℚ) :
    ((significand q v).1 : ℚ) * 10 ^ ((significand q v).2 - q) =
      roundedDigits q v * 10 ^ (magnitude v - q) := by
  have hten : (10 : ℚ) ≠ 0 := by norm_num
  unfold significand
  split
  · rename_i hcarry
    have hexp : magnitude v + 1 - (q : Int) = (magnitude v - q) + 1 := by omega
    rw [hcarry, Nat.cast_pow, Nat.cast_pow, Nat.cast_ofNat, hexp, zpow_add_one₀ hten, pow_succ]
    ring
  · rfl

/-- **A number written with `q + 1` significant digits is read back as it was rounded.** -/
theorem readDecimal_formatGeneral (q : Nat) (v : ℚ) :
    readDecimal (formatGeneral q v) = some (significant q v) := by
  have hdigits := readNumeral_generalDigits q (significand q v).1 (significand q v).2
  unfold readDecimal formatGeneral significant
  rcases lt_or_ge v 0 with hv | hv
  · have hminus : ∀ t : Text, splitSign ([45] ++ t) = (true, t) := fun _ => rfl
    rw [if_pos hv, hminus, hdigits, Option.map_some, if_pos rfl, significand_value, if_pos hv,
      neg_one_mul]
  · rw [if_neg (not_lt.mpr hv), List.nil_append, splitSign_numeral hdigits, hdigits,
      Option.map_some, if_neg Bool.false_ne_true, significand_value, if_neg (not_lt.mpr hv), one_mul]

/-! ## 4. What rounding does -/

/-- A number is its sign times its absolute value. -/
theorem sign_mul_abs (v : ℚ) : (if v < 0 then -1 else 1) * |v| = v := by
  rcases lt_or_ge v 0 with hv | hv
  · rw [if_pos hv, abs_of_neg hv, neg_one_mul, neg_neg]
  · rw [if_neg (not_lt.mpr hv), abs_of_nonneg hv, one_mul]

/-- The rounded digits, as a number. -/
theorem roundedDigits_cast (q : Nat) (v : ℚ) :
    (roundedDigits q v : ℚ) = roundHalfEven (|v| * 10 ^ ((q : Int) - magnitude v)) := by
  have hnonneg : (0 : ℚ) ≤ |v| * 10 ^ ((q : Int) - magnitude v) :=
    mul_nonneg (abs_nonneg v) (zpow_nonneg (by norm_num) _)
  have hround := (roundHalfEven_mono_int (a := 0) (b := ⌈|v| * 10 ^ ((q : Int) - magnitude v)⌉)
    (by rwa [Int.cast_zero]) (Int.le_ceil _)).1
  rw [roundedDigits, ← Int.cast_natCast, Int.natAbs_of_nonneg hround]

/-- What is left of a number behind its digits. -/
theorem significant_sub (q : Nat) (v : ℚ) : significant q v - v =
    (if v < 0 then -1 else 1) * ((roundHalfEven (|v| * 10 ^ ((q : Int) - magnitude v)) -
      |v| * 10 ^ ((q : Int) - magnitude v)) * 10 ^ (magnitude v - q)) := by
  have hten : (10 : ℚ) ≠ 0 := by norm_num
  have hpow : (10 : ℚ) ^ ((q : Int) - magnitude v) * 10 ^ (magnitude v - q) = 1 := by
    rw [← zpow_add₀ hten, sub_add_sub_cancel, sub_self, zpow_zero]
  have hsplit : (roundHalfEven (|v| * 10 ^ ((q : Int) - magnitude v)) -
      |v| * 10 ^ ((q : Int) - magnitude v)) * (10 : ℚ) ^ (magnitude v - q) =
      roundedDigits q v * 10 ^ (magnitude v - q) - |v| := by
    rw [sub_mul, roundedDigits_cast, mul_assoc, hpow, mul_one]
  rw [hsplit, mul_sub, sign_mul_abs]
  rfl

/-- **Rounding moves a number by at most half a unit of its last digit.** -/
theorem significant_near (q : Nat) (v : ℚ) :
    |significant q v - v| ≤ 1 / 2 * 10 ^ (magnitude v - q) := by
  have hsign : |(if v < 0 then -1 else 1 : ℚ)| = 1 := by
    split
    · rw [abs_neg, abs_one]
    · exact abs_one
  have hpow : |(10 : ℚ) ^ (magnitude v - q)| = 10 ^ (magnitude v - q) :=
    abs_of_pos (zpow_pos (by norm_num) _)
  rw [significant_sub, abs_mul, hsign, one_mul, abs_mul, hpow]
  exact mul_le_mul_of_nonneg_right (roundHalfEven_near _) (zpow_nonneg (by norm_num) _)

theorem significant_of_integer {q : Nat} {v : ℚ} {n : Int}
    (h : |v| * 10 ^ ((q : Int) - magnitude v) = n) : significant q v = v := by
  have hround : roundHalfEven (n : ℚ) = n :=
    roundHalfEven_eq_of_sub_lt (by linarith) (by linarith)
  have hsub := significant_sub q v
  rw [h, hround, sub_self, zero_mul, mul_zero] at hsub
  exact sub_eq_zero.mp hsub

/-- **A number with few enough digits is not changed**: no more than `k` decimals, and so small that
    `q + 1` digits reach them. -/
theorem significant_eq_self {q k : Nat} {v : ℚ} {n : Int} (hunits : v * 10 ^ k = n)
    (hsmall : |v| < 10 ^ ((q : Int) + 1 - k)) : significant q v = v := by
  have hten : (10 : ℚ) ≠ 0 := by norm_num
  rcases eq_or_ne v 0 with rfl | hv
  · exact significant_of_integer (n := 0) (by rw [abs_zero, zero_mul, Int.cast_zero])
  have hlog := (Int.lt_zpow_iff_log_lt (R := ℚ) (b := 10) (by decide) (abs_pos.mpr hv)).mp hsmall
  obtain ⟨m, hm⟩ := Int.eq_ofNat_of_zero_le (a := (q : Int) - magnitude v - k) (by
    rw [magnitude]
    omega)
  have hexp : (q : Int) - magnitude v = k + m := by omega
  have hpow : (0 : ℚ) < 10 ^ k := pow_pos (by norm_num) k
  refine significant_of_integer (n := |n| * 10 ^ m) ?_
  rw [hexp, zpow_add₀ hten, zpow_natCast, zpow_natCast, ← mul_assoc, Int.cast_mul, Int.cast_abs,
    ← hunits, abs_mul, abs_of_pos hpow, Int.cast_pow]
  rfl

/-- `2.5`, `-0.125` and `1.23457e+06`. -/
example : formatGeneral 5 (5 / 2) = [50, 46, 53] ∧
    formatGeneral 5 (-1 / 8) = [45, 48, 46, 49, 50, 53] ∧
    formatGeneral 5 1234567 = [49, 46, 50, 51, 52, 53, 55, 101, 43, 48, 54] := by decide +kernel

end Numeral
