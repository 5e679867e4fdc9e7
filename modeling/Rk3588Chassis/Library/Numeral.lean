/-
  File:      Rk3588Chassis/Library/Numeral.lean
  Subject:   Numerals in a byte text: digits, a point, an exponent.

  A numeral is read from left to right by a machine whose phase says what may come next
  (`Reader.next`); a text is a numeral if every byte is taken and the machine stops in a phase
  that may end it. The machine is written once for every base.

  * `readNumeral_append` -- a numeral inside a longer one grows by the next byte, unless that byte
    is an exponent mark: the only place where a prefix may get stuck;
  * `readNumeral_bytes` -- a numeral consists of digits, points, marks and signs;
  * `natText`, `digitsValue_natText` -- a number written in base ten, and read back.
-/
import Mathlib.Algebra.Field.Rat
import Mathlib.Data.Nat.Log
import Mathlib.Tactic.Ring

namespace Numeral

/-- A text, byte by byte. -/
abbrev Text := List UInt8

/-! ## 1. Digits and signs -/

/-- `0` .. `9`. -/
def isDigit (c : UInt8) : Bool := decide (48 ≤ c.toNat) && decide (c.toNat ≤ 57)

/-- What a decimal digit counts. -/
def digitValue (c : UInt8) : Nat := c.toNat - 48

/-- `0` .. `9`, `A` .. `F`, `a` .. `f`. -/
def isHexDigit (c : UInt8) : Bool :=
  isDigit c || (decide (65 ≤ c.toNat) && decide (c.toNat ≤ 70)) ||
    (decide (97 ≤ c.toNat) && decide (c.toNat ≤ 102))

/-- What a hexadecimal digit counts. -/
def hexValue (c : UInt8) : Nat :=
  if isDigit c then digitValue c else if c.toNat ≤ 70 then c.toNat - 55 else c.toNat - 87

/-- `+` or `-`. -/
def isSign (c : UInt8) : Bool := c == 43 || c == 45

/-- `.` -/
def point : UInt8 := 46

/-- A sign in front, if there is one: whether it is a minus, and what follows. -/
def splitSign : Text → Bool × Text
  | [] => (false, [])
  | c :: s => if isSign c then (c == 45, s) else (false, c :: s)

/-- Digits as a number. -/
def digitsValue (s : Text) : Nat := s.foldl (fun n c => 10 * n + digitValue c) 0

/-! ## 2. The reader -/

/-- How numerals of one kind are written. -/
structure Style where
  base : Nat
  isDigit : UInt8 → Bool
  value : UInt8 → Nat
  isMark : UInt8 → Bool
  scale : ℚ

/-- Decimal numerals: `e` and `E` mark a power of ten. -/
def decimal : Style := ⟨10, isDigit, digitValue, fun c => c == 69 || c == 101, 10⟩

/-- Hexadecimal numerals: `p` and `P` mark a power of two. -/
def hexadecimal : Style := ⟨16, isHexDigit, hexValue, fun c => c == 80 || c == 112, 2⟩

/-- Where a reader stands. -/
inductive Phase where
  | start
  | integer
  | bare
  | fraction
  | mark
  | sign
  | exponent
  deriving DecidableEq

/-- A numeral may end after a digit, or after a point that follows a digit. -/
def Phase.ends : Phase → Bool
  | .integer => true
  | .fraction => true
  | .exponent => true
  | _ => false

/-- What has been read: all digits of the mantissa, how many of them stand behind the point, and
    the exponent. -/
structure Reader where
  phase : Phase
  mantissa : Nat
  places : Nat
  negative : Bool
  exponent : Nat

/-- Nothing has been read. -/
def Reader.empty : Reader := ⟨.start, 0, 0, false, 0⟩

/-- One byte further; `none` where no numeral goes on like this. `bare` is a point without a
    digit in front of it. -/
def Reader.next (style : Style) (r : Reader) (c : UInt8) : Option Reader :=
  match r.phase with
  | .start =>
    if style.isDigit c then
      some { r with phase := .integer, mantissa := style.base * r.mantissa + style.value c }
    else if c = point then some { r with phase := .bare }
    else none
  | .integer =>
    if style.isDigit c then some { r with mantissa := style.base * r.mantissa + style.value c }
    else if c = point then some { r with phase := .fraction }
    else if style.isMark c then some { r with phase := .mark }
    else none
  | .bare =>
    if style.isDigit c then
      some { r with
        phase := .fraction
        mantissa := style.base * r.mantissa + style.value c
        places := r.places + 1 }
    else none
  | .fraction =>
    if style.isDigit c then
      some { r with
        mantissa := style.base * r.mantissa + style.value c
        places := r.places + 1 }
    else if style.isMark c then some { r with phase := .mark }
    else none
  | .mark =>
    if isDigit c then some { r with phase := .exponent, exponent := 10 * r.exponent + digitValue c }
    else if isSign c then some { r with phase := .sign, negative := c == 45 }
    else none
  | .sign =>
    if isDigit c then some { r with phase := .exponent, exponent := 10 * r.exponent + digitValue c }
    else none
  | .exponent =>
    if isDigit c then some { r with exponent := 10 * r.exponent + digitValue c } else none

/-- A whole text. -/
def Reader.run (style : Style) : Reader → Text → Option Reader
  | r, [] => some r
  | r, c :: s => (r.next style c).bind fun r' => Reader.run style r' s

/-- The number a finished reader has read. -/
def Reader.value (style : Style) (r : Reader) : ℚ :=
  let power := style.scale ^ r.exponent
  let mantissa := (r.mantissa : ℚ) / (style.base : ℚ) ^ r.places
  if r.negative then mantissa / power else mantissa * power

/-- The number a text spells, without a sign in front. -/
def readNumeral (style : Style) (s : Text) : Option ℚ :=
  (Reader.empty.run style s).bind fun r => if r.phase.ends then some (r.value style) else none

/-- The number a decimal text spells, with an optional sign in front. -/
def readDecimal (s : Text) : Option ℚ :=
  (readNumeral decimal (splitSign s).2).map fun q => if (splitSign s).1 then -q else q

/-! ## 3. Growing numerals -/

theorem Reader.run_append (style : Style) : ∀ (s t : Text) (r : Reader),
    r.run style (s ++ t) = (r.run style s).bind fun r' => r'.run style t
  | [], _, _ => rfl
  | c :: s, t, r => by
    have ih := fun r' => Reader.run_append style s t r'
    show ((r.next style c).bind fun r' => Reader.run style r' (s ++ t)) = _
    simp only [ih]
    exact (Option.bind_assoc _ _ _).symm

/-- Is the text a numeral? -/
theorem readNumeral_isSome {style : Style} {s : Text} : (readNumeral style s).isSome = true ↔
    ∃ r, Reader.empty.run style s = some r ∧ r.phase.ends = true := by
  unfold readNumeral
  cases Reader.empty.run style s with
  | none => simp
  | some r =>
    simp only [Option.bind_some, Option.some.injEq, exists_eq_left']
    split <;> simp_all

/-- From a phase that may end, a byte that is taken leads to such a phase again, or is a mark. -/
theorem Reader.next_ends {style : Style} {r r' : Reader} {c : UInt8} (hends : r.phase.ends = true)
    (hnext : r.next style c = some r') : r'.phase.ends = true ∨ style.isMark c = true := by
  unfold Reader.next at hnext
  cases hphase : r.phase with
  | integer =>
    simp only [hphase] at hnext
    split_ifs at hnext with hdigit hpoint hmark
    · cases hnext
      exact Or.inl rfl
    · cases hnext
      exact Or.inl rfl
    · exact Or.inr hmark
  | fraction =>
    simp only [hphase] at hnext
    split_ifs at hnext with hdigit hmark
    · cases hnext
      exact Or.inl rfl
    · exact Or.inr hmark
  | exponent =>
    simp only [hphase] at hnext
    split_ifs at hnext with hdigit
    cases hnext
    exact Or.inl rfl
  | start | bare | mark | sign =>
    rw [hphase] at hends
    cases hends

/-- **A numeral inside a longer one grows by the next byte, or that byte is a mark.** -/
theorem readNumeral_append {style : Style} {n s : Text} {c : UInt8}
    (hn : (readNumeral style n).isSome = true)
    (hlong : (readNumeral style (n ++ c :: s)).isSome = true) :
    (readNumeral style (n ++ [c])).isSome = true ∨ style.isMark c = true := by
  obtain ⟨r, hr, hends⟩ := readNumeral_isSome.mp hn
  obtain ⟨r', hr', _⟩ := readNumeral_isSome.mp hlong
  rw [Reader.run_append, hr, Option.bind_some] at hr'
  obtain ⟨next, hnext, _⟩ := Option.bind_eq_some_iff.mp hr'
  rcases Reader.next_ends hends hnext with h | h
  · refine Or.inl (readNumeral_isSome.mpr ⟨next, ?_, h⟩)
    rw [Reader.run_append, hr, Option.bind_some, Reader.run, hnext]
    rfl
  · exact Or.inr h

/-! ## 4. The bytes of a numeral -/

/-- The bytes a numeral of this style may hold. -/
def Style.holds (style : Style) (c : UInt8) : Bool :=
  style.isDigit c || Numeral.isDigit c || style.isMark c || isSign c || c == point

/-- Every byte that is taken is one of them. -/
theorem Reader.next_holds {style : Style} {r r' : Reader} {c : UInt8}
    (hnext : r.next style c = some r') : style.holds c = true := by
  unfold Reader.next at hnext
  unfold Style.holds
  cases hphase : r.phase <;> simp only [hphase] at hnext <;> split_ifs at hnext <;>
    simp_all

theorem Reader.run_holds {style : Style} : ∀ {s : Text} {r r' : Reader},
    r.run style s = some r' → s.all style.holds = true
  | [], _, _, _ => rfl
  | c :: s, r, r', h => by
    obtain ⟨next, hnext, hrun⟩ := Option.bind_eq_some_iff.mp h
    rw [List.all_cons, Reader.next_holds hnext, Reader.run_holds hrun]
    rfl

/-- **A numeral consists of digits, points, marks and signs.** -/
theorem readNumeral_bytes {style : Style} {s : Text} (h : (readNumeral style s).isSome = true) :
    s.all style.holds = true := by
  obtain ⟨r, hr, _⟩ := readNumeral_isSome.mp h
  exact Reader.run_holds hr

/-- A numeral is not empty, and does not start with a mark that is no digit. -/
theorem readNumeral_head {style : Style} {s : Text} (h : (readNumeral style s).isSome = true) :
    ∃ c rest, s = c :: rest ∧ (style.isDigit c = true ∨ c = point) := by
  obtain ⟨r, hr, hends⟩ := readNumeral_isSome.mp h
  cases s with
  | nil =>
    cases hr
    cases hends
  | cons c rest =>
    refine ⟨c, rest, rfl, ?_⟩
    obtain ⟨next, hnext, _⟩ := Option.bind_eq_some_iff.mp hr
    unfold Reader.next Reader.empty at hnext
    simp only at hnext
    split_ifs at hnext with hdigit hpoint
    · exact Or.inl hdigit
    · exact Or.inr hpoint

/-! ## 5. Numbers written in base ten -/

/-- The byte of a decimal digit. -/
def digitByte (d : Nat) : UInt8 := UInt8.ofNat (48 + d)

/-- The last `k` digits of a number. -/
def fixedText : Nat → Nat → Text
  | 0, _ => []
  | k + 1, n => fixedText k (n / 10) ++ [digitByte (n % 10)]

/-- A number in base ten, without leading zeros. -/
def natText (n : Nat) : Text := fixedText (Nat.log 10 n + 1) n

theorem digitByte_toNat {d : Nat} (h : d < 10) : (digitByte d).toNat = 48 + d := by
  rw [digitByte, UInt8.toNat_ofNat']
  omega

theorem isDigit_digitByte {d : Nat} (h : d < 10) : isDigit (digitByte d) = true := by
  rw [isDigit, digitByte_toNat h, Bool.and_eq_true, decide_eq_true_iff, decide_eq_true_iff]
  omega

theorem digitValue_digitByte {d : Nat} (h : d < 10) : digitValue (digitByte d) = d := by
  rw [digitValue, digitByte_toNat h]
  omega

theorem fixedText_length : ∀ k n : Nat, (fixedText k n).length = k
  | 0, _ => rfl
  | k + 1, n => by
    rw [fixedText, List.length_append, fixedText_length k (n / 10)]
    rfl

theorem fixedText_digits : ∀ k n : Nat, (fixedText k n).all isDigit = true
  | 0, _ => rfl
  | k + 1, n => by
    have hlast := isDigit_digitByte (Nat.mod_lt n (by decide : 10 > 0))
    rw [fixedText, List.all_append, fixedText_digits k (n / 10), List.all_cons, hlast]
    rfl

/-- Digits behind digits. -/
theorem digitsValue_append (s t : Text) :
    digitsValue (s ++ t) = t.foldl (fun n c => 10 * n + digitValue c) (digitsValue s) :=
  List.foldl_append ..

/-- **The last `k` digits are the number modulo `10 ^ k`.** -/
theorem digitsValue_fixedText : ∀ k n : Nat, digitsValue (fixedText k n) = n % 10 ^ k
  | 0, n => (Nat.mod_one n).symm
  | k + 1, n => by
    have hlast := digitValue_digitByte (Nat.mod_lt n (by decide : 10 > 0))
    rw [fixedText, digitsValue_append, digitsValue_fixedText k (n / 10), List.foldl_cons,
      List.foldl_nil, hlast, pow_succ', Nat.mod_mul]
    ring

/-- **A number is read back.** -/
theorem digitsValue_natText (n : Nat) : digitsValue (natText n) = n := by
  rw [natText, digitsValue_fixedText]
  exact Nat.mod_eq_of_lt (Nat.lt_pow_succ_log_self (by decide) n)

/-- The digits of a number, followed by `k` more. -/
theorem digitsValue_fixed_append (s : Text) : ∀ k n : Nat,
    digitsValue (s ++ fixedText k n) = 10 ^ k * digitsValue s + n % 10 ^ k
  | 0, n => by
    rw [fixedText, List.append_nil, pow_zero, Nat.mod_one]
    ring
  | k + 1, n => by
    have hlast := digitValue_digitByte (Nat.mod_lt n (by decide : 10 > 0))
    rw [fixedText, ← List.append_assoc, digitsValue_append, digitsValue_fixed_append s k (n / 10),
      List.foldl_cons, List.foldl_nil, hlast, pow_succ', Nat.mod_mul]
    ring

/-- Digits in front of the point. -/
theorem Reader.run_integer : ∀ {s : Text} (r : Reader), s.all isDigit = true →
    r.phase = .integer → r.run decimal s =
      some { r with mantissa := s.foldl (fun n c => 10 * n + digitValue c) r.mantissa }
  | [], _, _, _ => rfl
  | c :: s, r, hs, hphase => by
    obtain ⟨hc, hrest⟩ := Bool.and_eq_true_iff.mp (List.all_cons ▸ hs)
    have hnext : r.next decimal c =
        some { r with mantissa := 10 * r.mantissa + digitValue c } := by
      unfold Reader.next
      simp only [hphase]
      exact if_pos hc
    rw [Reader.run, hnext]
    exact Reader.run_integer _ hrest hphase

/-- Digits behind the point. -/
theorem Reader.run_fraction : ∀ {s : Text} (r : Reader), s.all isDigit = true →
    r.phase = .fraction → r.run decimal s =
      some { r with
        mantissa := s.foldl (fun n c => 10 * n + digitValue c) r.mantissa
        places := r.places + s.length }
  | [], _, _, _ => rfl
  | c :: s, r, hs, hphase => by
    obtain ⟨hc, hrest⟩ := Bool.and_eq_true_iff.mp (List.all_cons ▸ hs)
    have hnext : r.next decimal c = some { r with
        mantissa := 10 * r.mantissa + digitValue c
        places := r.places + 1 } := by
      unfold Reader.next
      simp only [hphase]
      exact if_pos hc
    have hplaces : r.places + 1 + s.length = r.places + (c :: s).length := by
      rw [List.length_cons]
      omega
    have ih := Reader.run_fraction
      { r with mantissa := 10 * r.mantissa + digitValue c, places := r.places + 1 } hrest hphase
    rw [Reader.run, hnext, Option.bind_some, ih, ← hplaces]
    rfl

/-- **A numeral with a point**: all its digits, over a power of ten. -/
theorem readNumeral_point {i f : Text} (hi : i.all isDigit = true) (hne : i ≠ [])
    (hf : f.all isDigit = true) : readNumeral decimal (i ++ point :: f) =
      some ((digitsValue (i ++ f) : ℚ) / 10 ^ f.length) := by
  obtain ⟨c, s, rfl⟩ := List.exists_cons_of_ne_nil hne
  obtain ⟨hc, hs⟩ := Bool.and_eq_true_iff.mp (List.all_cons ▸ hi)
  have hfirst : Reader.empty.next decimal c = some ⟨.integer, digitValue c, 0, false, 0⟩ := by
    refine (if_pos hc).trans ?_
    rw [show decimal.base * Reader.empty.mantissa + decimal.value c = digitValue c from
      Nat.zero_add _]
    rfl
  have hinteger : Reader.empty.run decimal (c :: s) =
      some ⟨.integer, digitsValue (c :: s), 0, false, 0⟩ := by
    rw [Reader.run, hfirst]
    refine (Reader.run_integer _ hs rfl).trans ?_
    rw [digitsValue, List.foldl_cons, Nat.mul_zero, Nat.zero_add]
  have hpoint : (⟨.integer, digitsValue (c :: s), 0, false, 0⟩ : Reader).next decimal point =
      some ⟨.fraction, digitsValue (c :: s), 0, false, 0⟩ := rfl
  have hrun : Reader.empty.run decimal (c :: s ++ point :: f) =
      some ⟨.fraction, digitsValue (c :: s ++ f), f.length, false, 0⟩ := by
    rw [Reader.run_append, hinteger, Option.bind_some, Reader.run, hpoint]
    refine (Reader.run_fraction _ hf rfl).trans ?_
    rw [digitsValue_append, Nat.zero_add]
  rw [readNumeral, hrun]
  show some (_ / _ * _ ^ 0 : ℚ) = _
  rw [pow_zero, mul_one]
  rfl

end Numeral
