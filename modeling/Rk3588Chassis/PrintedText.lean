/-
  File:      Rk3588Chassis/PrintedText.lean
  Subject:   Numbers as the tools print them, and as the patterns of the scripts read them back.

  A number is printed in base ten, behind a minus if it is negative, with or without a point, and
  in C to a width that is filled up with blanks. A pattern of the scripts takes the digits of all
  scripts; among the characters of ASCII there are ten (`AsciiDecimal`).

  * `reads_integer`, `reads_fixed` -- a printed number is read up to its last digit;
  * `int_integer`, `float_fixed` -- and what is read has its value.
-/
import Mathlib.Tactic.IntervalCases
import Rk3588Chassis.BatchAutotune
import Rk3588Chassis.Library.PatternReads
import Rk3588Chassis.Senders

namespace Rk3588Chassis

open Pattern

namespace PrintedText

/-! ## 1. Printing -/

/-- Bytes of ASCII as characters. -/
def chars (text : CString) : List Char := text.map fun b => Char.ofNat b.toNat

/-- `f"{v:.1f}"` with `places` in place of 1. -/
def fixed (places : Nat) (v : ℚ) : List Char := chars (formatFixed places v)

/-- `f"{n}"`. -/
def digits (n : Nat) : List Char := chars (Numeral.natText n)

/-- `f"{i}"`, or `%d`. -/
def integer (i : Int) : List Char := (if i < 0 then ['-'] else []) ++ digits i.natAbs

/-- A field width, as in `%6d`. -/
def padded (width : Nat) (text : List Char) : List Char :=
  List.replicate (width - text.length) ' ' ++ text

theorem digits_cast (n : Nat) : integer (n : Int) = digits n := by
  unfold integer
  rw [if_neg (by omega), Int.natAbs_natCast]
  rfl

/-! ## 2. Digits -/

/-- Among the characters of ASCII the decimal digits are ten. -/
structure AsciiDecimal (decimal : Char → Option Nat) : Prop where
  digit : ∀ c : Char, c.isDigit = true → decimal c = some (c.toNat - '0'.toNat)
  other : ∀ c : Char, c.toNat < 128 → c.isDigit = false → decimal c = none

theorem asciiDecimal_ascii : AsciiDecimal BatchAutotune.asciiDecimal where
  digit c hc := by rw [BatchAutotune.asciiDecimal, if_pos hc]
  other c _ hc := by rw [BatchAutotune.asciiDecimal, if_neg (Bool.eq_false_iff.mp hc)]

/-- A digit of a printed number. -/
theorem mem_chars_digit {text : CString} (h : text.all Numeral.isDigit = true) {c : Char}
    (hc : c ∈ chars text) : c.isDigit = true := by
  obtain ⟨b, hb, rfl⟩ := List.mem_map.mp hc
  have hbyte : ∀ b : UInt8, Numeral.isDigit b = true → (Char.ofNat b.toNat).isDigit = true :=
    CText.byte_cases (P := fun b => Numeral.isDigit b = true → (Char.ofNat b.toNat).isDigit = true)
      (by decide +kernel)
  exact hbyte b (List.all_eq_true.mp h b hb)

theorem digits_isDigit {n : Nat} {c : Char} (hc : c ∈ digits n) : c.isDigit = true :=
  mem_chars_digit (natText_digits n) hc

theorem digits_ne_nil (n : Nat) : digits n ≠ [] := fun h =>
  natText_ne_nil n (List.map_eq_nil_iff.mp h)

/-- A number with a point: its sign, the digits before and those behind. -/
theorem fixed_eq (places : Nat) (v : ℚ) :
    fixed places v = (if v < 0 then ['-'] else []) ++
      (digits ((fixedUnits places v).natAbs / 10 ^ places) ++
        '.' :: chars (Numeral.fixedText places (fixedUnits places v).natAbs)) := by
  have hpoint : Char.ofNat Numeral.point.toNat = '.' := by decide
  unfold fixed digits chars formatFixed
  rw [List.map_append, List.map_append, List.map_cons, hpoint]
  split <;> rfl

theorem fixed_parts (places : Nat) (v : ℚ) : ∃ front back : List Char,
    fixed places v = (if v < 0 then ['-'] else []) ++ (front ++ '.' :: back) ∧ front ≠ [] ∧
      back.length = places ∧ (∀ c ∈ front, c.isDigit = true) ∧ ∀ c ∈ back, c.isDigit = true := by
  refine ⟨_, _, fixed_eq places v, digits_ne_nil _, ?_, fun c hc => digits_isDigit hc,
    fun c hc => mem_chars_digit (Numeral.fixedText_digits _ _) hc⟩
  rw [chars, List.length_map, Numeral.fixedText_length]

/-- What holds of every character of a fixed text is checked by evaluation. -/
theorem all_chars {p : Char → Prop} [DecidablePred p] {t : List Char}
    (h : (t.all fun c => decide (p c)) = true) : ∀ c ∈ t, p c := fun c hc =>
  of_decide_eq_true (List.all_eq_true.mp h c hc)

/-- The characters of a printed number. -/
inductive Numeric : Char → Prop
  | digit {c : Char} (h : c.isDigit = true) : Numeric c
  | minus : Numeric '-'
  | point : Numeric '.'

theorem integer_numeric (i : Int) : ∀ c ∈ integer i, Numeric c := by
  intro c hc
  rcases List.mem_append.mp hc with hc | hc
  · split at hc
    · rw [List.mem_singleton.mp hc]
      exact .minus
    · cases hc
  · exact .digit (digits_isDigit hc)

theorem fixed_numeric (places : Nat) (v : ℚ) : ∀ c ∈ fixed places v, Numeric c := by
  obtain ⟨front, back, hparts, _, _, hfront, hback⟩ := fixed_parts places v
  rw [hparts]
  intro c hc
  rcases List.mem_append.mp hc with hc | hc
  · split at hc
    · rw [List.mem_singleton.mp hc]
      exact .minus
    · cases hc
  rcases List.mem_append.mp hc with hc | hc
  · exact .digit (hfront c hc)
  rcases List.mem_cons.mp hc with rfl | hc
  · exact .point
  · exact .digit (hback c hc)

/-- What holds of the ten digits, the minus and the point. -/
theorem Numeric.cases {p : Char → Prop} [DecidablePred p] {c : Char} (h : Numeric c)
    (hall : ("0123456789-.".toList.all fun c => decide (p c)) = true) : p c := by
  have hmem := all_chars hall
  cases h with
  | digit h =>
    have hrange : 48 ≤ c.toNat ∧ c.toNat ≤ 57 := by
      rw [Char.isDigit, Bool.and_eq_true, decide_eq_true_iff, decide_eq_true_iff] at h
      exact ⟨UInt32.le_iff_toNat_le.mp h.1, UInt32.le_iff_toNat_le.mp h.2⟩
    have hdigit : ∀ n, 48 ≤ n ∧ n ≤ 57 → Char.ofNat n ∈ "0123456789-.".toList := by
      rintro n ⟨hlo, hhi⟩
      interval_cases n <;> decide
    have hc := hmem _ (hdigit _ hrange)
    rwa [Char.ofNat_toNat] at hc
  | minus => exact hmem '-' (by decide)
  | point => exact hmem '.' (by decide)

/-! ## 3. Patterns -/

section Read

variable {G : Type} {decimal : Char → Option Nat}

variable (G decimal) in
/-- `-?\d+`. -/
def integerRe : Pattern G :=
  .seq (.maybe (.text ['-'])) (.many (BatchAutotune.isDecimal decimal))

variable (G decimal) in
/-- `-?\d+(?:\.\d+)?`. -/
def numberRe : Pattern G :=
  .all [.maybe (.text ['-']), .many (BatchAutotune.isDecimal decimal),
    .maybe (.all [.text ['.'], .many (BatchAutotune.isDecimal decimal)])]

/-- `\s+` reads a blank, and leaves what is no white space. -/
theorem reads_blank {text : List Char} {c : Char} (hhead : text.head? = some c)
    (hc : BatchAutotune.isSpace c = false) :
    Reads (G := G) (.many BatchAutotune.isSpace) (' ' :: text) [] text := by
  have hblank : ∀ d ∈ [' '], BatchAutotune.isSpace d = true := fun d hd => by
    rw [List.mem_singleton.mp hd]
    decide
  refine reads_many hblank (List.cons_ne_nil _ _) fun d hd => ?_
  rw [hhead] at hd
  obtain rfl := Option.some.inj hd
  exact hc

/-- `\s*` reads the blanks of a field width. -/
theorem reads_padding {text : List Char} {c : Char} (hhead : text.head? = some c)
    (hc : BatchAutotune.isSpace c = false) (n : Nat) :
    Reads (G := G) (.maybe (.many BatchAutotune.isSpace)) (List.replicate n ' ' ++ text) [] text := by
  have hstop : ∀ d ∈ text.head?, BatchAutotune.isSpace d = false := fun d hd => by
    rw [hhead] at hd
    obtain rfl := Option.some.inj hd
    exact hc
  cases n with
  | zero => exact reads_maybe_none (ways_many_nil hstop)
  | succ n =>
    refine reads_maybe (reads_many (fun d hd => ?_) (List.cons_ne_nil _ _) hstop)
    rw [List.eq_of_mem_replicate hd]
    decide

variable (hd : AsciiDecimal decimal)

include hd

theorem isDecimal_digit {c : Char} (h : c.isDigit = true) :
    BatchAutotune.isDecimal decimal c = true := by
  unfold BatchAutotune.isDecimal
  rw [hd.digit c h]
  rfl

theorem isDecimal_other {c : Char} (h : c.toNat < 128) (hc : c.isDigit = false) :
    BatchAutotune.isDecimal decimal c = false := by
  unfold BatchAutotune.isDecimal
  rw [hd.other c h hc]
  rfl

/-- A run of digits. -/
theorem reads_digits {run rest : List Char} (hrun : ∀ c ∈ run, c.isDigit = true) (hne : run ≠ [])
    (hstop : ∀ c ∈ rest.head?, BatchAutotune.isDecimal decimal c = false) :
    Reads (G := G) (.many (BatchAutotune.isDecimal decimal)) (run ++ rest) [] rest :=
  reads_many (fun c hc => isDecimal_digit hd (hrun c hc)) hne hstop

omit hd in
/-- A sign that may be there, in front of digits. -/
theorem reads_sign {p : Prop} [Decidable p] {run : List Char} (hrun : ∀ c ∈ run, c.isDigit = true)
    (hne : run ≠ []) (rest : List Char) :
    Reads (G := G) (.maybe (.text ['-'])) ((if p then ['-'] else []) ++ (run ++ rest)) []
      (run ++ rest) := by
  by_cases hp : p
  · rw [if_pos hp]
    exact reads_maybe (reads_text ['-'] _)
  · rw [if_neg hp]
    obtain ⟨c, run, rfl⟩ := List.exists_cons_of_ne_nil hne
    refine reads_maybe_none (ways_text_head rfl rfl fun hminus => ?_)
    have hdigit := hrun c List.mem_cons_self
    rw [← hminus] at hdigit
    exact absurd hdigit (by decide)

/-- **A printed integer is read up to its last digit.** -/
theorem reads_integer (i : Int) {rest : List Char}
    (hstop : ∀ c ∈ rest.head?, BatchAutotune.isDecimal decimal c = false) :
    Reads (integerRe G decimal) (integer i ++ rest) [] rest := by
  have hdigits : ∀ c ∈ digits i.natAbs, c.isDigit = true := fun c hc => digits_isDigit hc
  rw [integer, List.append_assoc]
  exact reads_seq (reads_sign hdigits (digits_ne_nil _) rest)
    (reads_digits hd hdigits (digits_ne_nil _) hstop)

/-- **So is a number with a point.** -/
theorem reads_fixed {places : Nat} (hplaces : 0 < places) (v : ℚ) {rest : List Char}
    (hstop : ∀ c ∈ rest.head?, BatchAutotune.isDecimal decimal c = false) :
    Reads (numberRe G decimal) (fixed places v ++ rest) [] rest := by
  obtain ⟨front, back, hparts, hfront, hlength, hfrontDigits, hbackDigits⟩ := fixed_parts places v
  have hback : back ≠ [] := fun hnil => by
    rw [hnil] at hlength
    exact absurd hlength.symm hplaces.ne'
  have hpoint : ∀ c ∈ ('.' :: (back ++ rest)).head?, BatchAutotune.isDecimal decimal c = false := by
    intro c hc
    obtain rfl := Option.some.inj hc
    exact isDecimal_other hd (by decide) (by decide)
  have hfraction : Reads (G := G) (.all [.text ['.'], .many (BatchAutotune.isDecimal decimal)])
      ('.' :: (back ++ rest)) [] rest :=
    reads_seq (reads_text ['.'] (back ++ rest))
      (reads_seq (reads_digits hd hbackDigits hback hstop) (reads_nil rest))
  have hunsigned : Reads (G := G) (.all [.many (BatchAutotune.isDecimal decimal),
      .maybe (.all [.text ['.'], .many (BatchAutotune.isDecimal decimal)])])
      (front ++ '.' :: (back ++ rest)) [] rest :=
    reads_seq (reads_digits hd hfrontDigits hfront hpoint)
      (reads_seq (reads_maybe hfraction) (reads_nil rest))
  rw [hparts, List.append_assoc, List.append_assoc, List.cons_append]
  exact reads_seq (reads_sign hfrontDigits hfront _) hunsigned

end Read

/-! ## 4. Values -/

/-- What digits of ASCII count. -/
def digitsValue (run : List Char) : Nat := run.foldl (fun n c => 10 * n + (c.toNat - '0'.toNat)) 0

theorem digitsValue_chars (text : CString) : digitsValue (chars text) = Numeral.digitsValue text := by
  have hbyte : ∀ b : UInt8, (Char.ofNat b.toNat).toNat - '0'.toNat = Numeral.digitValue b :=
    CText.byte_cases
      (P := fun b => (Char.ofNat b.toNat).toNat - '0'.toNat = Numeral.digitValue b)
      (by decide +kernel)
  unfold digitsValue chars Numeral.digitsValue
  rw [List.foldl_map]
  simp only [hbyte]

theorem digitsValue_digits (n : Nat) : digitsValue (digits n) = n := by
  rw [digits, digitsValue_chars, Numeral.digitsValue_natText]

section Value

variable {decimal : Char → Option Nat} (hd : AsciiDecimal decimal)

include hd

/-- The digits of an integer behind the first. -/
theorem intDigits_digits {run : List Char} (hrun : ∀ c ∈ run, c.isDigit = true) (value : Nat) :
    BatchAutotune.intDigits decimal value run =
      some (run.foldl (fun n c => 10 * n + (c.toNat - '0'.toNat)) value) := by
  induction run generalizing value with
  | nil => rfl
  | cons c run ih =>
    have hc := hrun c List.mem_cons_self
    have hne : c ≠ '_' := fun heq => by
      rw [heq] at hc
      exact absurd hc (by decide)
    have htail := ih (fun d hd => hrun d (List.mem_cons_of_mem c hd))
      (10 * value + (c.toNat - '0'.toNat))
    have hstep : BatchAutotune.intDigits decimal value (c :: run) =
        decimal c >>= fun digit => BatchAutotune.intDigits decimal (10 * value + digit) run := by
      cases run with
      | nil =>
        rw [BatchAutotune.intDigits]
        rintro _ _ heq
        exact absurd heq hne
      | cons d run =>
        rw [BatchAutotune.intDigits]
        rintro _ _ heq
        exact absurd heq hne
    rw [hstep, hd.digit c hc]
    exact htail

theorem intValue_digits {run : List Char} (hrun : ∀ c ∈ run, c.isDigit = true) (hne : run ≠ []) :
    BatchAutotune.intValue decimal run = some (digitsValue run) := by
  obtain ⟨c, run, rfl⟩ := List.exists_cons_of_ne_nil hne
  have hc := hrun c List.mem_cons_self
  rw [BatchAutotune.intValue, hd.digit c hc]
  have htail := intDigits_digits hd (fun d hd => hrun d (List.mem_cons_of_mem c hd))
    (c.toNat - '0'.toNat)
  rw [digitsValue, List.foldl_cons, Nat.mul_zero, Nat.zero_add]
  exact htail

omit hd in
/-- A text of other characters than white space is not stripped. -/
theorem strip_solid {text : List Char} (h : ∀ c ∈ text, BatchAutotune.isSpace c = false) :
    BatchAutotune.strip text = text := by
  have hdrop : ∀ s : List Char, (∀ c ∈ s, BatchAutotune.isSpace c = false) →
      s.dropWhile BatchAutotune.isSpace = s := by
    intro s hs
    cases s with
    | nil => rfl
    | cons c s => rw [List.dropWhile_cons_of_neg (Bool.eq_false_iff.mp (hs c List.mem_cons_self))]
  unfold BatchAutotune.strip
  rw [hdrop text h, hdrop _ fun c hc => h c (List.mem_reverse.mp hc), List.reverse_reverse]

omit hd in
theorem Numeric.solid {c : Char} (h : Numeric c) : BatchAutotune.isSpace c = false :=
  h.cases (p := fun c => BatchAutotune.isSpace c = false) (by decide)

/-- **A printed integer has its value.** -/
theorem int_integer (i : Int) : BatchAutotune.int decimal (integer i) = some i := by
  have hdigits : ∀ c ∈ digits i.natAbs, c.isDigit = true := fun c hc => digits_isDigit hc
  have hvalue := intValue_digits hd hdigits (digits_ne_nil _)
  rw [digitsValue_digits] at hvalue
  unfold BatchAutotune.int
  rw [strip_solid fun c hc => (integer_numeric i c hc).solid, integer]
  by_cases hi : i < 0
  · rw [if_pos hi, List.singleton_append]
    simp only [hvalue]
    have habs : -((i.natAbs : Nat) : Int) = i := by omega
    exact congrArg some habs
  · rw [if_neg hi, List.nil_append]
    obtain ⟨c, rest, hrun⟩ := List.exists_cons_of_ne_nil (digits_ne_nil i.natAbs)
    have hc := hdigits c (hrun ▸ List.mem_cons_self)
    have hminus : c ≠ '-' := fun heq => absurd (heq ▸ hc) (by decide)
    have hplus : c ≠ '+' := fun heq => absurd (heq ▸ hc) (by decide)
    rw [hrun] at hvalue ⊢
    split
    · rename_i heq
      exact absurd (List.cons.inj heq).1 hminus
    · rename_i heq
      exact absurd (List.cons.inj heq).1 hplus
    · rw [hvalue, Option.map_some]
      congr 1
      exact Int.natAbs_of_nonneg (not_lt.mp hi)

end Value

end PrintedText

end Rk3588Chassis
