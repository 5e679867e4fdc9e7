/-
  File:      Rk3588Chassis/SampleLines.lean
  Subject:   From the motor to the grid search: what `test_speed_pid.c` prints, and what
             `parse_samples` of `autotune_speed_pid.py` reads in it.

  The C program prints a line for a sample with `printf`, numbers filled up with blanks to a width;
  the script splits the output into lines and runs a pattern over each. The head of the output has a
  line that begins like a sample.

  * `reads_sample` -- a sample line is read from its first label to its last digit;
  * `banner_quiet` -- and the line that begins like one is not;
  * `samples_read_back` -- so the script gets the samples of the run, number for number.

  Only the text on the standard output is given here. Where the program complains on the standard
  error (no feedback, no frame sent), the two texts meet in an order that the buffers decide.
-/
import Rk3588Chassis.PrintedText
import Rk3588Chassis.SpeedTest

namespace Rk3588Chassis

open Pattern PrintedText

namespace SpeedTest

/-! ## 1. What is printed -/

/-- `motor3508_feedback_name`. -/
def motor3508FeedbackName (motorId : UInt8) : List Char :=
  if motorId = 1 then "M1".toList
  else if motorId = 2 then "M2".toList
  else if motorId = 3 then "M3".toList
  else if motorId = 4 then "M4".toList
  else "M?".toList

/-- The name of the motor under test: the cast is `(uint8_t)motor_id`. -/
def Options.name (options : Options ℚ) : List Char :=
  motor3508FeedbackName (UInt8.ofInt options.motorId.toInt)

/-- A sample line, behind the name. -/
def SampleLine.text (line : SampleLine ℚ) : List Char :=
  "target=".toList ++ (padded 6 (integer line.target.toInt) ++ (' ' ::
    ("rpm=".toList ++ (padded 6 (integer line.rpm.toInt) ++ (' ' ::
    ("cmd_current=".toList ++ (padded 6 (integer line.cmdCurrent.toInt) ++ (' ' ::
    ("fb_current=".toList ++ (padded 6 (integer line.fbCurrent.toInt) ++ (' ' ::
    ("temp=".toList ++ (padded 3 (integer line.temperature.toInt) ++ ("C".toList ++ (' ' ::
    ("err=".toList ++ padded 8 (fixed 1 line.err)))))))))))))))))

/-- `"Speed PID test on %s %s: target=%d rpm duration=%dms period=%dms kp=%.3f ki=%.3f kd=%.3f\n"`,
    without the line break. -/
def Options.banner (options : Options ℚ) (ifname : List Char) : List Char :=
  "Speed PID test on ".toList ++ ((ifname ++ [' ']) ++ (options.name ++ (": ".toList ++
    ("target=".toList ++ (integer options.targetRpm.toInt ++ (' ' ::
    ("rpm duration=".toList ++ (integer options.durationMs.toInt ++
    ("ms period=".toList ++ (integer options.periodMs.toInt ++
    ("ms kp=".toList ++ (fixed 3 options.kp ++
    (" ki=".toList ++ (fixed 3 options.ki ++
    (" kd=".toList ++ fixed 3 options.kd)))))))))))))))

/-- The lines that a run of the loop leaves on the standard output. -/
def outputLines (ifname : List Char) (options : Options ℚ) (run : Run ℚ) : List (List Char) :=
  ("Waiting for ".toList ++ (options.name ++ " feedback...".toList)) ::
  options.banner ifname ::
  "Lift the chassis. Press Ctrl+C to stop and send zero current.".toList ::
  (run.samples.map (fun line => options.name ++ (' ' :: line.text)) ++
    ["Sending zero current...".toList, "test_speed_pid stopped.".toList])

/-- The standard output. -/
def output (ifname : List Char) (options : Options ℚ) (run : Run ℚ) : List Char :=
  (outputLines ifname options run).flatMap fun line => line ++ ['\n']

end SpeedTest

namespace Autotune

open SpeedTest (SampleLine Options Run)

/-! ## 2. What the script reads -/

/-- The names of the groups of `SAMPLE_RE`. -/
inductive SampleField where
  | target
  | rpm
  | cmd
  | fb
  | temp
  | err
  deriving DecidableEq

/-- The ends of a line, for `str.splitlines`. -/
def isLineBreak (c : Char) : Bool :=
  [0x0a, 0x0b, 0x0c, 0x0d, 0x1c, 0x1d, 0x1e, 0x85, 0x2028, 0x2029].contains c.toNat

/-- `str.splitlines`. -/
def splitLines : List Char → List (List Char)
  | [] => []
  | '\r' :: '\n' :: s => [] :: splitLines s
  | c :: s =>
    if isLineBreak c then [] :: splitLines s
    else
      match splitLines s with
      | [] => [[c]]
      | line :: lines => (c :: line) :: lines

section Read

variable (decimal : Char → Option Nat)

/-- A label, blanks that may be there, and an integer as a group. -/
def counted (label : String) (field : SampleField) : Pattern SampleField :=
  .seq (.text label.toList) (.seq (.maybe (.many BatchAutotune.isSpace))
    (.group field (integerRe SampleField decimal)))

/-- `SAMPLE_RE`. -/
def sampleRe : Pattern SampleField :=
  .all [.text "target=".toList, .maybe (.many BatchAutotune.isSpace),
    .group .target (integerRe SampleField decimal), .many BatchAutotune.isSpace,
    counted decimal "rpm=" .rpm, .many BatchAutotune.isSpace,
    counted decimal "cmd_current=" .cmd, .many BatchAutotune.isSpace,
    counted decimal "fb_current=" .fb, .many BatchAutotune.isSpace,
    counted decimal "temp=" .temp, .text "C".toList, .many BatchAutotune.isSpace,
    .text "err=".toList, .maybe (.many BatchAutotune.isSpace),
    .group .err (numberRe SampleField decimal)]

/-- `float`, on a text of the form `-?\d+(?:\.\d+)?`. -/
def float (text : List Char) : Option ℚ :=
  let negative := text.head? == some '-'
  let unsigned := if negative then text.tail else text
  let front := unsigned.takeWhile (· != '.')
  let back := (unsigned.dropWhile (· != '.')).tail
  (BatchAutotune.intValue decimal (front ++ back)).map fun n =>
    (if negative then -(n : ℚ) else n) / 10 ^ back.length

/-- The sample of a match; `none` where `int` or `float` raises. -/
def toSample (groups : Groups SampleField) : Option (Sample ℚ) := do
  let rpm ← BatchAutotune.int decimal (groups.get .rpm)
  let cmdCurrent ← BatchAutotune.int decimal (groups.get .cmd)
  let fbCurrent ← BatchAutotune.int decimal (groups.get .fb)
  let err ← float decimal (groups.get .err)
  return ⟨rpm, cmdCurrent, fbCurrent, err⟩

/-- `parse_samples`. -/
def parseSamples (output : List Char) : Option (List (Sample ℚ)) :=
  ((splitLines output).filterMap (sampleRe decimal).search).mapM (toSample decimal)

end Read

/-! ## 3. Lines -/

/-- A line by itself. -/
def Unbroken (line : List Char) : Prop := ∀ c ∈ line, isLineBreak c = false

theorem splitLines_line {line : List Char} (h : Unbroken line) (rest : List Char) :
    splitLines (line ++ '\n' :: rest) = line :: splitLines rest := by
  have hbreak : isLineBreak '\n' = true := by decide
  have hcarriage : isLineBreak '\r' = true := by decide
  induction line with
  | nil =>
    rw [List.nil_append, splitLines, if_pos hbreak]
    rintro _ heq
    exact absurd heq (by decide)
  | cons c line ih =>
    have hc := h c List.mem_cons_self
    have hne : c ≠ '\r' := fun heq => by
      rw [heq, hcarriage] at hc
      cases hc
    rw [List.cons_append, splitLines, if_neg (Bool.eq_false_iff.mp hc),
      ih fun d hd => h d (List.mem_cons_of_mem c hd)]
    rintro _ heq
    exact absurd heq hne

/-- **The lines of an output are found again.** -/
theorem splitLines_lines {lines : List (List Char)} (h : ∀ line ∈ lines, Unbroken line) :
    splitLines (lines.flatMap fun line => line ++ ['\n']) = lines := by
  induction lines with
  | nil => rfl
  | cons line lines ih =>
    rw [List.flatMap_cons, List.append_assoc, List.singleton_append,
      splitLines_line (h line List.mem_cons_self),
      ih fun line' hline' => h line' (List.mem_cons_of_mem line hline')]

theorem Unbroken.append {s t : List Char} (h : Unbroken s) (h' : Unbroken t) : Unbroken (s ++ t) := by
  intro c hc
  rcases List.mem_append.mp hc with hc | hc
  · exact h c hc
  · exact h' c hc

theorem unbroken_numeric {text : List Char} (h : ∀ c ∈ text, Numeric c) : Unbroken text :=
  fun c hc => (h c hc).cases (p := fun c => isLineBreak c = false) (by decide)

theorem unbroken_padded {text : List Char} (h : Unbroken text) (width : Nat) :
    Unbroken (padded width text) := by
  refine Unbroken.append (fun c hc => ?_) h
  rw [List.eq_of_mem_replicate hc]
  decide

/-! ## 4. A sample line is read -/

section Sample

variable {decimal : Char → Option Nat} (hd : AsciiDecimal decimal)

include hd

omit hd in
/-- A number begins with no white space. -/
theorem numeric_head {text : List Char} (h : ∀ c ∈ text, Numeric c) (hne : text ≠ [])
    (rest : List Char) :
    ∃ c, (text ++ rest).head? = some c ∧ BatchAutotune.isSpace c = false := by
  obtain ⟨c, t, rfl⟩ := List.exists_cons_of_ne_nil hne
  exact ⟨c, rfl, (h c List.mem_cons_self).solid⟩

omit hd in
theorem integer_ne_nil (i : Int) : integer i ≠ [] := fun h =>
  digits_ne_nil i.natAbs (List.append_eq_nil_iff.mp h).2

/-- A padded integer, as a group. -/
theorem reads_count (field : SampleField) (width : Nat) (i : Int) {rest : List Char}
    (hstop : ∀ c ∈ rest.head?, BatchAutotune.isDecimal decimal c = false) :
    Reads (.seq (.maybe (.many BatchAutotune.isSpace))
      (.group field (integerRe SampleField decimal))) (padded width (integer i) ++ rest)
      [(field, integer i)] rest := by
  obtain ⟨c, hhead, hc⟩ := numeric_head (integer_numeric i) (integer_ne_nil i) rest
  rw [padded, List.append_assoc]
  exact reads_seq (reads_padding hhead hc _) (reads_group (reads_integer hd i hstop))

/-- A label, a padded integer, and then what the rest of the pattern reads. -/
theorem reads_counted {label : String} (field : SampleField) (width : Nat) (i : Int)
    {more : Pattern SampleField} {rest rest' : List Char} {groups : Groups SampleField}
    (hstop : ∀ c ∈ rest.head?, BatchAutotune.isDecimal decimal c = false)
    (hmore : Reads more rest groups rest') :
    Reads (.seq (counted decimal label field) more)
      (label.toList ++ (padded width (integer i) ++ rest)) ((field, integer i) :: groups) rest' :=
  reads_seq (reads_seq (reads_text label.toList _) (reads_count hd field width i hstop)) hmore

/-- The groups of a sample line. -/
def sampleGroups (line : SampleLine ℚ) : Groups SampleField :=
  [(.target, integer line.target.toInt), (.rpm, integer line.rpm.toInt),
    (.cmd, integer line.cmdCurrent.toInt), (.fb, integer line.fbCurrent.toInt),
    (.temp, integer line.temperature.toInt), (.err, fixed 1 line.err)]

/-- **A sample line is read**, from its first label to its last digit. -/
theorem reads_sample (line : SampleLine ℚ) :
    Reads (sampleRe decimal) line.text (sampleGroups line) [] := by
  have hblank : ∀ text : List Char,
      ∀ c ∈ (' ' :: text).head?, BatchAutotune.isDecimal decimal c = false := by
    intro text c hc
    obtain rfl := Option.some.inj hc
    exact isDecimal_other hd (by decide) (by decide)
  have hletter : ∀ text : List Char,
      ∀ c ∈ ("C".toList ++ text).head?, BatchAutotune.isDecimal decimal c = false := by
    intro text c hc
    obtain rfl := Option.some.inj hc
    exact isDecimal_other hd (by decide) (by decide)
  have herr : Reads (G := SampleField) (.all [.text "err=".toList,
      .maybe (.many BatchAutotune.isSpace), .group .err (numberRe SampleField decimal)])
      ("err=".toList ++ padded 8 (fixed 1 line.err)) [(.err, fixed 1 line.err)] [] := by
    have hne : fixed 1 line.err ≠ [] := by
      obtain ⟨front, back, hparts, hfront, _⟩ := fixed_parts 1 line.err
      rw [hparts]
      exact fun h => hfront (List.append_eq_nil_iff.mp (List.append_eq_nil_iff.mp h).2).1
    obtain ⟨c, hhead, hc⟩ := numeric_head (fixed_numeric 1 line.err) hne []
    have hnumber := @reads_fixed SampleField decimal hd 1 one_pos line.err [] fun _ h => nomatch h
    rw [List.append_nil] at hhead hnumber
    refine reads_seq (reads_text _ _) (reads_seq (reads_padding hhead hc _) ?_)
    have hgroup := @reads_group SampleField _ [] [] SampleField.err (fixed 1 line.err)
      (by rw [List.append_nil]; exact hnumber)
    rw [List.append_nil] at hgroup
    exact reads_seq hgroup (reads_nil [])
  have htemp := @reads_counted decimal hd "temp=" .temp 3 line.temperature.toInt _ _ _ _ (hletter _)
    (reads_seq (reads_text "C".toList _) (reads_seq (reads_blank (c := 'e') rfl (by decide)) herr))
  have hfb := @reads_counted decimal hd "fb_current=" .fb 6 line.fbCurrent.toInt _ _ _ _ (hblank _)
    (reads_seq (reads_blank (c := 't') rfl (by decide)) htemp)
  have hcmd := @reads_counted decimal hd "cmd_current=" .cmd 6 line.cmdCurrent.toInt _ _ _ _ (hblank _)
    (reads_seq (reads_blank (c := 'f') rfl (by decide)) hfb)
  have hrpm := @reads_counted decimal hd "rpm=" .rpm 6 line.rpm.toInt _ _ _ _ (hblank _)
    (reads_seq (reads_blank (c := 'c') rfl (by decide)) hcmd)
  obtain ⟨c, hhead, hc⟩ := numeric_head (integer_numeric line.target.toInt)
    (integer_ne_nil line.target.toInt) (' ' :: _)
  have htarget := reads_seq
    (reads_group (g := SampleField.target) (reads_integer hd line.target.toInt (hblank _)))
    (reads_seq (reads_blank (c := 'r') rfl (by decide)) hrpm)
  have hpadded := reads_seq (reads_padding hhead hc (6 - (integer line.target.toInt).length)) htarget
  have hline := reads_seq (reads_text "target=".toList _) hpadded
  rw [← List.append_assoc (List.replicate _ ' ')] at hline
  exact hline

/-- What `float` makes of digits with a point between them, behind a minus or not. -/
theorem float_parts {front back : List Char} (hfront : ∀ c ∈ front, c.isDigit = true)
    (hne : front ≠ []) (hback : ∀ c ∈ back, c.isDigit = true) (p : Prop) [Decidable p] :
    float decimal ((if p then ['-'] else []) ++ (front ++ '.' :: back)) =
      some ((if p then -(digitsValue (front ++ back) : ℚ) else digitsValue (front ++ back)) /
        10 ^ back.length) := by
  have hpoint : ∀ c ∈ front, (c != '.') = true := fun c hc =>
    bne_iff_ne.mpr fun heq => absurd (heq ▸ hfront c hc) (by decide)
  have htake : (front ++ '.' :: back).takeWhile (· != '.') = front := by
    rw [List.takeWhile_append_of_pos hpoint]
    exact List.append_nil front
  have hdrop : (front ++ '.' :: back).dropWhile (· != '.') = '.' :: back := by
    rw [List.dropWhile_append_of_pos hpoint]
    rfl
  have hall : ∀ c ∈ front ++ back, c.isDigit = true :=
    fun c hc => (List.mem_append.mp hc).elim (hfront c) (hback c)
  have hvalue := intValue_digits hd hall fun h => hne (List.append_eq_nil_iff.mp h).1
  unfold float
  by_cases hp : p
  · have hminus : ('-' :: (front ++ '.' :: back)).head? == some '-' := rfl
    simp only [if_pos hp, List.singleton_append, hminus, if_true, List.tail_cons, htake, hdrop,
      hvalue]
    rfl
  · obtain ⟨c, rest, rfl⟩ := List.exists_cons_of_ne_nil hne
    have hc : c ≠ '-' := fun heq => absurd (heq ▸ hfront c List.mem_cons_self) (by decide)
    have hminus : ((c :: rest ++ '.' :: back).head? == some '-') = false :=
      beq_false_of_ne fun heq => hc (Option.some.inj heq)
    simp only [if_neg hp, List.nil_append, hminus, Bool.false_eq_true, if_false, htake, hdrop,
      List.tail_cons, hvalue]
    rfl

/-- **A printed number with a point has the value of its digits.** -/
theorem float_fixed (places : Nat) (v : ℚ) :
    float decimal (fixed places v) = some (printed places v) := by
  have hunits : digitsValue (digits ((fixedUnits places v).natAbs / 10 ^ places) ++
      chars (Numeral.fixedText places (fixedUnits places v).natAbs)) =
        (fixedUnits places v).natAbs := by
    have hchars : digits ((fixedUnits places v).natAbs / 10 ^ places) ++
        chars (Numeral.fixedText places (fixedUnits places v).natAbs) =
          chars (Numeral.natText ((fixedUnits places v).natAbs / 10 ^ places) ++
            Numeral.fixedText places (fixedUnits places v).natAbs) :=
      List.map_append.symm
    rw [hchars, digitsValue_chars, Numeral.digitsValue_fixed_append, Numeral.digitsValue_natText]
    exact Nat.div_add_mod _ _
  rw [fixed_eq, float_parts hd (fun c hc => digits_isDigit hc) (digits_ne_nil _)
    (fun c hc => mem_chars_digit (Numeral.fixedText_digits _ _) hc), hunits, chars, List.length_map,
    Numeral.fixedText_length, printed]
  by_cases hv : v < 0
  · have habs : -((fixedUnits places v).natAbs : ℚ) = (fixedUnits places v : ℚ) := by
      have hnonpos := (fixedUnits_sign places v).1 hv
      rw [← Int.cast_natCast, Int.ofNat_natAbs_of_nonpos hnonpos, Int.cast_neg, neg_neg]
    rw [if_pos hv, habs]
  · have habs : ((fixedUnits places v).natAbs : ℚ) = (fixedUnits places v : ℚ) := by
      have hnonneg := (fixedUnits_sign places v).2 (not_lt.mp hv)
      rw [← Int.cast_natCast, Int.natAbs_of_nonneg hnonneg]
    rw [if_neg hv, habs]

omit hd in
/-- An integer is printed without loss. -/
theorem printed_integer (i : Int) : printed 1 (i : ℚ) = i := by
  have hunits : fixedUnits 1 (i : ℚ) = i * 10 := by
    have hcast : (i : ℚ) * 10 ^ 1 = ((i * 10 : Int) : ℚ) := by push_cast; ring
    rw [fixedUnits, hcast]
    exact Rounding.roundHalfEven_eq_of_sub_lt (by linarith) (by linarith)
  rw [printed, hunits]
  push_cast
  ring

/-- **The match of a sample line is the sample.** -/
theorem toSample_groups {line : SampleLine ℚ}
    (herr : line.err = (line.target.toInt : ℚ) - line.rpm.toInt) :
    toSample decimal (sampleGroups line) =
      some ⟨line.rpm.toInt, line.cmdCurrent.toInt, line.fbCurrent.toInt, line.err⟩ := by
  have hprinted : printed 1 line.err = line.err := by
    have hcast : line.err = ((line.target.toInt - line.rpm.toInt : Int) : ℚ) := by
      rw [herr]
      push_cast
      rfl
    rw [hcast]
    exact printed_integer _
  have hrpm : (sampleGroups line).get .rpm = integer line.rpm.toInt := rfl
  have hcmd : (sampleGroups line).get .cmd = integer line.cmdCurrent.toInt := rfl
  have hfb : (sampleGroups line).get .fb = integer line.fbCurrent.toInt := rfl
  have hlast : (sampleGroups line).get .err = fixed 1 line.err := rfl
  unfold toSample
  rw [hrpm, hcmd, hfb, hlast, int_integer hd, int_integer hd, int_integer hd, float_fixed hd,
    hprinted]
  rfl

/-! ## 5. The other lines are not -/

omit hd in
/-- A text without the first letter of a sample. -/
theorem clear_plain {t : List Char} (h : ∀ c ∈ t, c ≠ 't') : Clear (sampleRe decimal) t := by
  have hhead : "target=".toList = 't' :: "arget=".toList := by decide
  unfold sampleRe
  rw [all, List.foldr_cons, hhead]
  exact clear_of_not_mem fun hmem => h 't' hmem rfl

omit hd in
theorem clear_fixed_text {t : List Char} (h : blocks "target=".toList t = true) :
    Clear (sampleRe decimal) t := clear_literal h

omit hd in
theorem clear_numeric {t : List Char} (h : ∀ c ∈ t, Numeric c) : Clear (sampleRe decimal) t :=
  clear_plain fun c hc => (h c hc).cases (p := fun c => c ≠ 't') (by decide)

omit hd in
theorem name_cases (options : Options ℚ) : options.name = "M1".toList ∨ options.name = "M2".toList ∨
    options.name = "M3".toList ∨ options.name = "M4".toList ∨ options.name = "M?".toList := by
  unfold SpeedTest.Options.name SpeedTest.motor3508FeedbackName
  split_ifs
  · exact Or.inl rfl
  · exact Or.inr (Or.inl rfl)
  · exact Or.inr (Or.inr (Or.inl rfl))
  · exact Or.inr (Or.inr (Or.inr (Or.inl rfl)))
  · exact Or.inr (Or.inr (Or.inr (Or.inr rfl)))

omit hd in
theorem clear_name (options : Options ℚ) : Clear (sampleRe decimal) options.name := by
  rcases name_cases options with h | h | h | h | h <;> rw [h] <;>
    exact clear_fixed_text (by decide)

omit hd in
theorem unbroken_name (options : Options ℚ) : Unbroken options.name := by
  rcases name_cases options with h | h | h | h | h <;> rw [h] <;> exact all_chars (by decide)

/-- A target that is followed by no sample. -/
theorem target_stuck (i : Int) (rest : List Char) :
    (sampleRe decimal).ways
      ("target=".toList ++ (integer i ++ (' ' :: ("rpm duration=".toList ++ rest)))) = [] := by
  obtain ⟨c, hhead, hc⟩ := numeric_head (integer_numeric i) (integer_ne_nil i)
    (' ' :: ("rpm duration=".toList ++ rest))
  have hnone : (.many BatchAutotune.isSpace : Pattern SampleField).ways
      (integer i ++ (' ' :: ("rpm duration=".toList ++ rest))) = [] := by
    refine ways_many_nil fun d hd => ?_
    rw [hhead] at hd
    obtain rfl := Option.some.inj hd
    exact hc
  have htakes : ¬ (Pattern.group SampleField.target (integerRe SampleField decimal)).Takes ' ' := by
    have hblank := isDecimal_other hd (c := ' ') (by decide) (by decide)
    rintro (h | h)
    · exact absurd (List.mem_singleton.mp h) (by decide)
    · exact Bool.false_ne_true (hblank.symm.trans h)
  have hrpm : ¬ "rpm=".toList <+: "rpm duration=".toList ++ rest :=
    not_prefix_append (by decide) (by decide) rest
  have hmore : ∀ more : Pattern SampleField, (Pattern.seq (counted decimal "rpm=" .rpm) more).ways
      ('r' :: ("pm duration=".toList ++ rest)) = [] :=
    fun more => ways_seq_nil (ways_seq_nil (ways_text_nil hrpm))
  refine ways_seq_stuck (ways_text_one _ _) (ways_seq_stuck (ways_maybe_none hnone) ?_)
  exact ways_run_stuck htakes (by decide) (fun c hc => (integer_numeric i c hc).solid) (by decide)
    (hmore _)

/-- A search passes over it. -/
theorem clear_target (i : Int) {rest : List Char} (hrest : Clear (sampleRe decimal) rest) :
    Clear (sampleRe decimal)
      ("target=".toList ++ (integer i ++ (' ' :: ("rpm duration=".toList ++ rest)))) := by
  have hfirst : "target=".toList = 't' :: "arget=".toList := by decide
  have htail : Clear (sampleRe decimal)
      ("arget=".toList ++ (integer i ++ (' ' :: ("rpm duration=".toList ++ rest)))) :=
    clear_append (clear_fixed_text (by decide)) (clear_append (clear_numeric (integer_numeric i))
      (clear_append (clear_fixed_text (t := ' ' :: "rpm duration=".toList) (by decide)) hrest))
  rw [hfirst, List.cons_append]
  refine clear_cons (fun more => ?_) htail
  have hstuck := target_stuck hd i (rest ++ more)
  rw [hfirst] at hstuck
  simp only [List.cons_append, List.append_assoc] at hstuck ⊢
  exact hstuck

/-- The name of an interface that can stand in the head: no line break, and no sample. -/
structure PlainName (ifname : List Char) : Prop where
  unbroken : Unbroken ifname
  unmarked : ¬ "target=".toList <:+: ifname

/-- **The line that begins like a sample is none.** -/
theorem banner_quiet {ifname : List Char} (hname : PlainName ifname) (options : Options ℚ) :
    (sampleRe decimal).search (options.banner ifname) = none := by
  have hif : Clear (sampleRe decimal) (ifname ++ [' ']) :=
    clear_unmarked hname.unmarked (by decide)
  have hgains : Clear (sampleRe decimal) ("ms kp=".toList ++ (fixed 3 options.kp ++
      (" ki=".toList ++ (fixed 3 options.ki ++ (" kd=".toList ++ fixed 3 options.kd))))) :=
    clear_append (clear_fixed_text (by decide)) (clear_append (clear_numeric (fixed_numeric 3 _))
      (clear_append (clear_fixed_text (by decide)) (clear_append (clear_numeric (fixed_numeric 3 _))
        (clear_append (clear_fixed_text (by decide)) (clear_numeric (fixed_numeric 3 _))))))
  have hduration : Clear (sampleRe decimal) (integer options.durationMs.toInt) :=
    clear_numeric (integer_numeric _)
  have htimes := clear_append hduration (clear_append
    (clear_fixed_text (t := "ms period=".toList) (by decide))
      (clear_append (clear_numeric (integer_numeric options.periodMs.toInt)) hgains))
  have hall : Clear (sampleRe decimal) (options.banner ifname) :=
    clear_append (clear_fixed_text (by decide)) (clear_append hif (clear_append (clear_name options)
      (clear_append (clear_fixed_text (by decide))
        (clear_target hd options.targetRpm.toInt htimes))))
  exact search_clear_end hall (ways_headed_nil (by decide))

omit hd in
/-- The fixed lines are none either. -/
theorem quiet_fixed_text {t : List Char} (h : blocks "target=".toList t = true) :
    (sampleRe decimal).search t = none :=
  search_clear_end (clear_fixed_text h) (ways_headed_nil (by decide))

omit hd in
/-- Nor is the first. -/
theorem waiting_quiet (options : Options ℚ) : (sampleRe decimal).search
    ("Waiting for ".toList ++ (options.name ++ " feedback...".toList)) = none :=
  search_clear_end (clear_append (clear_fixed_text (by decide)) (clear_append (clear_name options)
    (clear_fixed_text (by decide)))) (ways_headed_nil (by decide))

/-- **A sample line is found**, behind the name of the motor. -/
theorem sample_found (options : Options ℚ) (line : SampleLine ℚ) :
    (sampleRe decimal).search (options.name ++ (' ' :: line.text)) = some (sampleGroups line) := by
  have hname : Clear (sampleRe decimal) (options.name ++ [' ']) :=
    clear_append (clear_name options) (clear_fixed_text (by decide))
  have hsearch := search_clear hname line.text
  rw [List.append_assoc, List.singleton_append] at hsearch
  rw [hsearch]
  exact search_reads (reads_sample hd line)

/-! ## 6. The samples of a run, read back -/

omit hd in
theorem unbroken_text {t : List Char} (h : (t.all fun c => decide (isLineBreak c = false)) = true) :
    Unbroken t := all_chars h

omit hd in
theorem unbroken_sample (line : SampleLine ℚ) : Unbroken line.text := by
  have hnumber : ∀ (width : Nat) (i : Int), Unbroken (padded width (integer i)) :=
    fun width i => unbroken_padded (unbroken_numeric (integer_numeric i)) width
  have herr : Unbroken (' ' :: ("err=".toList ++ padded 8 (fixed 1 line.err))) :=
    (unbroken_text (t := ' ' :: "err=".toList) (by decide)).append
      (unbroken_padded (unbroken_numeric (fixed_numeric 1 _)) 8)
  have htemp : Unbroken (' ' :: ("temp=".toList ++ (padded 3 (integer line.temperature.toInt) ++
      ("C".toList ++ (' ' :: ("err=".toList ++ padded 8 (fixed 1 line.err))))))) :=
    (unbroken_text (t := ' ' :: "temp=".toList) (by decide)).append ((hnumber 3 _).append
      ((unbroken_text (by decide)).append herr))
  exact (unbroken_text (by decide)).append ((hnumber 6 _).append
    ((unbroken_text (t := ' ' :: "rpm=".toList) (by decide)).append ((hnumber 6 _).append
    ((unbroken_text (t := ' ' :: "cmd_current=".toList) (by decide)).append ((hnumber 6 _).append
    ((unbroken_text (t := ' ' :: "fb_current=".toList) (by decide)).append ((hnumber 6 _).append
      htemp)))))))

omit hd in
theorem unbroken_banner {ifname : List Char} (hname : PlainName ifname) (options : Options ℚ) :
    Unbroken (options.banner ifname) := by
  have hnumber : ∀ i : Int, Unbroken (integer i) := fun i => unbroken_numeric (integer_numeric i)
  have hgain : ∀ v : ℚ, Unbroken (fixed 3 v) := fun v => unbroken_numeric (fixed_numeric 3 v)
  have hif : Unbroken (ifname ++ [' ']) := hname.unbroken.append (unbroken_text (by decide))
  exact (unbroken_text (by decide)).append (hif.append ((unbroken_name options).append
    ((unbroken_text (by decide)).append ((unbroken_text (by decide)).append ((hnumber _).append
    ((unbroken_text (t := ' ' :: "rpm duration=".toList) (by decide)).append ((hnumber _).append
    ((unbroken_text (by decide)).append ((hnumber _).append ((unbroken_text (by decide)).append
    ((hgain _).append ((unbroken_text (by decide)).append ((hgain _).append
    ((unbroken_text (by decide)).append (hgain _)))))))))))))))

omit hd in
/-- **Every line of an output is one line.** -/
theorem unbroken_output {ifname : List Char} (hname : PlainName ifname) (options : Options ℚ)
    (run : Run ℚ) : ∀ line ∈ SpeedTest.outputLines ifname options run, Unbroken line := by
  intro line hline
  rcases List.mem_cons.mp hline with rfl | hline
  · exact (unbroken_text (by decide)).append ((unbroken_name options).append
      (unbroken_text (by decide)))
  rcases List.mem_cons.mp hline with rfl | hline
  · exact unbroken_banner hname options
  rcases List.mem_cons.mp hline with rfl | hline
  · exact unbroken_text (by decide)
  rcases List.mem_append.mp hline with hline | hline
  · obtain ⟨sample, _, rfl⟩ := List.mem_map.mp hline
    exact (unbroken_name options).append
      ((unbroken_text (t := [' ']) (by decide)).append (unbroken_sample sample))
  · rcases List.mem_pair.mp hline with rfl | rfl
    · exact unbroken_text (by decide)
    · exact unbroken_text (by decide)

/-- **What the pattern finds in the lines of an output** are its samples. -/
theorem output_found {ifname : List Char} (hname : PlainName ifname) (options : Options ℚ)
    (run : Run ℚ) : (SpeedTest.outputLines ifname options run).filterMap (sampleRe decimal).search =
      run.samples.map sampleGroups := by
  have hsamples : (run.samples.map fun line => options.name ++ (' ' :: line.text)).filterMap
      (sampleRe decimal).search = run.samples.map sampleGroups := by
    rw [List.filterMap_map]
    have hfound : ((sampleRe decimal).search ∘ fun line : SampleLine ℚ =>
        options.name ++ (' ' :: line.text)) = some ∘ sampleGroups :=
      funext fun line => sample_found hd options line
    rw [hfound, List.filterMap_eq_map]
  unfold SpeedTest.outputLines
  rw [List.filterMap_cons_none (waiting_quiet options),
    List.filterMap_cons_none (banner_quiet hd hname options),
    List.filterMap_cons_none (quiet_fixed_text (by decide)), List.filterMap_append, hsamples,
    List.filterMap_cons_none (quiet_fixed_text (by decide)),
    List.filterMap_cons_none (quiet_fixed_text (by decide)), List.filterMap_nil, List.append_nil]

/-- What a sample line says, for the script. -/
def sampleOf (line : SampleLine ℚ) : Sample ℚ :=
  ⟨line.rpm.toInt, line.cmdCurrent.toInt, line.fbCurrent.toInt, line.err⟩

/-- Their conversion never raises. -/
theorem mapM_toSample {lines : List (SampleLine ℚ)}
    (h : ∀ line ∈ lines, line.err = (line.target.toInt : ℚ) - line.rpm.toInt) :
    (lines.map sampleGroups).mapM (toSample decimal) = some (lines.map sampleOf) := by
  induction lines with
  | nil => rfl
  | cons line lines ih =>
    rw [List.map_cons, List.mapM_cons, toSample_groups hd (h line List.mem_cons_self),
      ih fun line' hline' => h line' (List.mem_cons_of_mem line hline')]
    rfl

/-- Of an output whose errors are the differences that they show, the script gets the samples. -/
theorem parse_output {ifname : List Char} (hname : PlainName ifname) (options : Options ℚ)
    {run : Run ℚ} (h : ∀ line ∈ run.samples, line.err = (line.target.toInt : ℚ) - line.rpm.toInt) :
    parseSamples decimal (SpeedTest.output ifname options run) =
      some (run.samples.map sampleOf) := by
  unfold parseSamples SpeedTest.output
  rw [splitLines_lines (unbroken_output hname options run), output_found hd hname options run]
  exact mapM_toSample hd h

/-- **The script reads the samples of a run**, number for number. -/
theorem samples_read_back {ifname : List Char} (hname : PlainName ifname)
    {strtof : CString → ℚ × Nat} {strtol : CString → Int64 × Nat} {script : SpeedTest.Script ℚ}
    {options : Options ℚ} {run : Run ℚ}
    (h : SpeedTest.main strtof strtol script = some (.ran options run)) :
    parseSamples decimal (SpeedTest.output ifname options run) =
      some (run.samples.map sampleOf) :=
  parse_output hd hname options fun _ hline => (SpeedTest.sample_error h hline).2

end Sample

/-- The samples of a short test, read back. -/
theorem spinUp_read_back : ∃ options run,
    SpeedTest.main (CText.strtof finitePart) CText.strtol SpeedTest.spinUp =
      some (.ran options run) ∧
    parseSamples BatchAutotune.asciiDecimal (SpeedTest.output "can0".toList options run) =
      some (run.samples.map sampleOf) := by
  obtain ⟨options, run, hmain, _⟩ := SpeedTest.spinUp_ran
  have hname : PlainName "can0".toList := ⟨unbroken_text (by decide), by decide⟩
  exact ⟨options, run, hmain, samples_read_back asciiDecimal_ascii hname hmain⟩

end Autotune

end Rk3588Chassis
