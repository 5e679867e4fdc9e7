/-
  File:      Rk3588Chassis/TuneReport.lean
  Subject:   From the grid search to the batch: what `autotune_speed_pid.py` prints, and what
             `batch_autotune_speed_pid.py` reads in it.

  The search prints a banner, a head and a line for each trial, and its verdict; the batch runs
  three patterns over all of it. A result without samples is printed with `inf`, which no pattern
  reads.

  * `reads_fixed` -- a printed number is read whole;
  * `found_last` -- the last trial that the batch finds is the last of the search, if it has numbers;
  * `batch_row_is_verdict` -- so the row of the batch is the verdict of the search: PASS exactly if
    the search exits with 0, and then with its gains and its four numbers.

  Numbers are exact (`Autotune.exactFloats`), and `--show-output` is not given. How Python prints the
  two lists of gains is left open; what is printed of the arguments is to hold none of the texts with
  which the patterns begin (`Session.Unmarked`).
-/
import Rk3588Chassis.Autotune
import Rk3588Chassis.PrintedText

namespace Rk3588Chassis

open Pattern

namespace TuneReport

open Autotune (ExactReport ExactResult ExactScript TrialResult Verdict)
open PrintedText
open BatchAutotune (Field)

/-! ## 1. What the search prints -/

/-- The same for a number that may be the infinity. -/
def fixedOrInf : WithTop ℚ → List Char
  | ⊤ => "inf".toList
  | (v : ℚ) => fixed 1 v

/-- `f"{b}"`. -/
def boolean (b : Bool) : List Char := if b then "True".toList else "False".toList

/-- The numbers of a result, as a trial line and the line of the best show them. -/
def numbers (r : ExactResult) : List Char :=
  "ok=".toList ++ boolean r.ok ++ " score=".toList ++ fixedOrInf r.score ++
    " mean_abs_err=".toList ++ fixedOrInf r.meanAbsErr ++ " max_abs_err=".toList ++
    fixedOrInf r.maxAbsErr ++ " rpm_std=".toList ++ fixedOrInf r.rpmStd ++
    " max_abs_cmd=".toList ++ integer r.maxAbsCmd

/-- Its gains. -/
def gainsText (r : ExactResult) : List Char :=
  " kp=".toList ++ fixed 3 r.kp ++ " ki=".toList ++ fixed 3 r.ki ++ " kd=".toList ++ fixed 3 r.kd

/-- The line behind a trial. -/
def trialLine : Option ExactResult → List Char
  | none => "  timeout: test process did not exit in time\n".toList
  | some r => "  ".toList ++ numbers r ++ " samples=".toList ++ digits r.sampleCount ++
      " rc=".toList ++ integer r.returnCode ++ "\n".toList

/-- The head in front of it. -/
def trialHead (index total : Nat) (kp ki kd : ℚ) : List Char :=
  "\n[".toList ++ digits index ++ "/".toList ++ digits total ++ "] trial kp=".toList ++ fixed 3 kp ++
    " ki=".toList ++ fixed 3 ki ++ " kd=".toList ++ fixed 3 kd ++ "\n".toList

/-- The trials of a search, up to the one that ends it. -/
def trialsText (total : Nat) (kd : ℚ) : Nat → List (ℚ × ℚ) → List (Option ExactResult) → List Char
  | index, gains :: grid, line :: lines =>
    trialHead index total gains.1 gains.2 kd ++ trialLine line ++
      trialsText total kd (index + 1) grid lines
  | _, _, _ => []

theorem trialsText_nil (total : Nat) (kd : ℚ) (index : Nat) (grid : List (ℚ × ℚ)) :
    trialsText total kd index grid [] = [] := by
  cases grid with
  | nil => rfl
  | cons gains grid => rfl

/-- What is printed of the arguments. -/
structure Session where
  motor : Int
  target : Int
  ifname : List Char
  exe : List Char
  kpValues : List Char
  kiValues : List Char

/-- The first five lines. -/
def Session.banner (session : Session) : List Char :=
  "Auto tune speed PID\n".toList ++
    ("  motor=M".toList ++ integer session.motor ++ " target=".toList ++ integer session.target ++
      "rpm ifname=".toList ++ (session.ifname ++ ['\n'])) ++
    ("  kp=".toList ++ (session.kpValues ++ ['\n'])) ++
    ("  ki=".toList ++ (session.kiValues ++ ['\n'])) ++
    "  Lift the chassis. Each trial will stop by sending zero current through test_speed_pid.\n".toList

/-- The last lines. -/
def verdictText (session : Session) : Verdict ℚ (WithTop ℚ) → List Char
  | .recommended r => "\nPASS\n".toList ++ ("Recommended:".toList ++ gainsText r ++ "\n".toList)
  | .bestTried r =>
    "\nDONE\n".toList ++ ("Best tried:".toList ++ gainsText r ++ " ".toList ++ numbers r ++ "\n".toList)
  | .nothing => "\nDONE\n".toList
  | .noExecutable => "error: executable not found: ".toList ++ (session.exe ++ ['\n'])

/-- Everything that `main` prints, without `--show-output`. -/
def reportText (session : Session) (script : ExactScript) (report : ExactReport) :
    List Char :=
  (if script.exeExists then
    session.banner ++ trialsText script.grid.length script.args.kd 1 script.grid report.lines
  else []) ++ verdictText session report.verdict

/-! ## 2. The lines of numbers are read -/

section Read

variable {decimal : Char → Option Nat} (hd : AsciiDecimal decimal)

include hd

/-- A labelled number behind a blank, and then what the rest of the pattern reads. -/
theorem reads_field {label : String}
    (hlabel : label.toList.head?.map BatchAutotune.isSpace = some false) (field : Field)
    {places : Nat} (hplaces : 0 < places) (v : ℚ) {more : Pattern Field} {rest rest' : List Char}
    {groups : Groups Field}
    (hstop : ∀ c ∈ rest.head?, BatchAutotune.isDecimal decimal c = false)
    (hmore : Reads more rest groups rest') :
    Reads (.seq BatchAutotune.spaces (.seq (BatchAutotune.labelled decimal label field) more))
      (' ' :: (label.toList ++ (fixed places v ++ rest))) ((field, fixed places v) :: groups)
      rest' := by
  have hspace : Reads BatchAutotune.spaces (' ' :: (label.toList ++ (fixed places v ++ rest))) []
      (label.toList ++ (fixed places v ++ rest)) := by
    obtain ⟨c, hhead, hsolid⟩ := Option.map_eq_some_iff.mp hlabel
    exact reads_blank (by rw [List.head?_append, hhead, Option.some_or]) hsolid
  exact reads_seq hspace (reads_seq (reads_seq (reads_text label.toList _)
    (reads_group (reads_fixed hd hplaces v hstop))) hmore)

/-- What a trial has measured. -/
structure Measures where
  score : ℚ
  meanAbsErr : ℚ
  maxAbsErr : ℚ
  rpmStd : ℚ
  maxAbsCmd : Nat

/-- A result with numbers in it. -/
structure Measured (r : ExactResult) (m : Measures) : Prop where
  score : r.score = (m.score : ℚ)
  meanAbsErr : r.meanAbsErr = (m.meanAbsErr : ℚ)
  maxAbsErr : r.maxAbsErr = (m.maxAbsErr : ℚ)
  rpmStd : r.rpmStd = (m.rpmStd : ℚ)
  maxAbsCmd : r.maxAbsCmd = m.maxAbsCmd

/-- The groups of a trial line. -/
def trialGroups (ok : Bool) (m : Measures) : Groups Field :=
  [(.ok, boolean ok), (.score, fixed 1 m.score), (.mean, fixed 1 m.meanAbsErr),
    (.max, fixed 1 m.maxAbsErr), (.std, fixed 1 m.rpmStd), (.cmd, digits m.maxAbsCmd)]

/-- The groups of three gains. -/
def gainGroups (r : ExactResult) : Groups Field :=
  [(.kp, fixed 3 r.kp), (.ki, fixed 3 r.ki), (.kd, fixed 3 r.kd)]

omit hd in
/-- The numbers of such a result, piece by piece. -/
theorem numbers_eq {r : ExactResult} {m : Measures} (hm : Measured r m) (rest : List Char) :
    numbers r ++ rest = "ok=".toList ++ (boolean r.ok ++
      (' ' :: ("score=".toList ++ (fixed 1 m.score ++
      (' ' :: ("mean_abs_err=".toList ++ (fixed 1 m.meanAbsErr ++
      (' ' :: ("max_abs_err=".toList ++ (fixed 1 m.maxAbsErr ++
      (' ' :: ("rpm_std=".toList ++ (fixed 1 m.rpmStd ++
      ([' '] ++ ("max_abs_cmd=".toList ++ (digits m.maxAbsCmd ++ rest)))))))))))))))) := by
  unfold numbers
  rw [hm.score, hm.meanAbsErr, hm.maxAbsErr, hm.rpmStd, hm.maxAbsCmd, digits_cast]
  simp only [List.append_assoc]
  rfl

/-- **The line of a trial is read.** -/
theorem reads_trial {r : ExactResult} {m : Measures} (hm : Measured r m) {rest : List Char}
    (hstop : ∀ c ∈ rest.head?, BatchAutotune.isDecimal decimal c = false) :
    Reads (BatchAutotune.trialRe decimal) (numbers r ++ rest) (trialGroups r.ok m) rest := by
  have hblank : ∀ c ∈ (' ' :: rest).head?, BatchAutotune.isDecimal decimal c = false := by
    intro c hc
    obtain rfl := Option.some.inj hc
    exact isDecimal_other hd (by decide) (by decide)
  have hok : ∀ more : List Char, Reads
      (.group Field.ok (.either (.text "True".toList) (.text "False".toList)))
      (boolean r.ok ++ more) [(.ok, boolean r.ok)] more := by
    intro more
    refine reads_group ?_
    cases r.ok with
    | true => exact reads_left (reads_text _ _)
    | false =>
      have hno : (.text "True".toList : Pattern Field).ways (boolean false ++ more) = [] :=
        ways_text_head (c := 'T') (d := 'F') rfl rfl (by decide)
      exact reads_right hno (reads_text _ _)
  have hcmd : Reads (G := Field) (.all [BatchAutotune.spaces, .text "max_abs_cmd=".toList,
      .group .cmd (.many (BatchAutotune.isDecimal decimal))])
      ([' '] ++ ("max_abs_cmd=".toList ++ (digits m.maxAbsCmd ++ rest)))
      [(.cmd, digits m.maxAbsCmd)] rest := by
    have hspace : Reads BatchAutotune.spaces
        ([' '] ++ ("max_abs_cmd=".toList ++ (digits m.maxAbsCmd ++ rest))) []
        ("max_abs_cmd=".toList ++ (digits m.maxAbsCmd ++ rest)) :=
      reads_blank (c := 'm') rfl (by decide)
    exact reads_seq hspace (reads_seq (reads_text _ _) (reads_seq (reads_group (reads_digits hd
      (fun c hc => digits_isDigit hc) (digits_ne_nil _) hstop)) (reads_nil rest)))
  rw [numbers_eq hm]
  refine reads_seq (reads_text _ _) (reads_seq (hok _) ?_)
  refine reads_field hd (by decide) .score one_pos _ hblank ?_
  refine reads_field hd (by decide) .mean one_pos _ hblank ?_
  refine reads_field hd (by decide) .max one_pos _ hblank ?_
  exact reads_field hd (by decide) .std one_pos _ hblank hcmd

omit hd in
/-- Three gains, piece by piece. -/
theorem gainsText_eq (r : ExactResult) (rest : List Char) :
    gainsText r ++ rest = ' ' :: ("kp=".toList ++ (fixed 3 r.kp ++
      (' ' :: ("ki=".toList ++ (fixed 3 r.ki ++
      (' ' :: ("kd=".toList ++ (fixed 3 r.kd ++ rest)))))))) := by
  unfold gainsText
  simp only [List.append_assoc]
  rfl

/-- Three gains, and then what the rest of the pattern reads. -/
theorem reads_gains (r : ExactResult) {more : Pattern Field} {rest rest' : List Char}
    {groups : Groups Field}
    (hstop : ∀ c ∈ rest.head?, BatchAutotune.isDecimal decimal c = false)
    (hmore : Reads more rest groups rest') :
    Reads (.seq BatchAutotune.spaces (.seq (BatchAutotune.labelled decimal "kp=" .kp)
      (.seq BatchAutotune.spaces (.seq (BatchAutotune.labelled decimal "ki=" .ki)
      (.seq BatchAutotune.spaces (.seq (BatchAutotune.labelled decimal "kd=" .kd) more))))))
      (gainsText r ++ rest) (gainGroups r ++ groups) rest' := by
  have hblank : ∀ c ∈ (' ' :: rest).head?, BatchAutotune.isDecimal decimal c = false := by
    intro c hc
    obtain rfl := Option.some.inj hc
    exact isDecimal_other hd (by decide) (by decide)
  rw [gainsText_eq]
  refine reads_field hd (by decide) .kp (by decide) _ hblank ?_
  refine reads_field hd (by decide) .ki (by decide) _ hblank ?_
  exact reads_field hd (by decide) .kd (by decide) _ hstop hmore

/-- **The recommendation is read.** -/
theorem reads_recommended (r : ExactResult) {rest : List Char}
    (hstop : ∀ c ∈ rest.head?, BatchAutotune.isDecimal decimal c = false) :
    Reads (BatchAutotune.passRe decimal) ("Recommended:".toList ++ (gainsText r ++ rest))
      (gainGroups r) rest :=
  reads_seq (reads_text _ _) (reads_gains hd r hstop (reads_nil rest))

/-- **So is the line of the best**, if it has numbers in it. -/
theorem reads_best {r : ExactResult} {m : Measures} (hm : Measured r m) {rest : List Char}
    (hstop : ∀ c ∈ rest.head?, BatchAutotune.isDecimal decimal c = false) :
    Reads (BatchAutotune.bestRe decimal)
      ("Best tried:".toList ++ (gainsText r ++ ([' '] ++ (numbers r ++ rest))))
      (gainGroups r ++ trialGroups r.ok m) rest := by
  have hspace : Reads BatchAutotune.spaces ([' '] ++ (numbers r ++ rest)) []
      (numbers r ++ rest) := reads_blank (c := 'o') rfl (by decide)
  have hblank : ∀ c ∈ ([' '] ++ (numbers r ++ rest)).head?,
      BatchAutotune.isDecimal decimal c = false := by
    intro c hc
    obtain rfl := Option.some.inj hc
    exact isDecimal_other hd (by decide) (by decide)
  have htrial := reads_seq hspace (reads_seq (reads_trial hd hm hstop) (reads_nil rest))
  have hall := reads_seq (reads_text "Best tried:".toList _) (reads_gains hd r hblank htrial)
  exact hall

end Read

/-! ## 3. What the patterns pass over -/

/-- The fixed texts with which the three patterns begin. -/
def heads : List (List Char) := ["Recommended:".toList, "Best tried:".toList, "ok=".toList]

/-- A pattern with this head begins nowhere in the text. -/
def Silent (lit t : List Char) : Prop := ∀ b : Pattern Field, Clear (.seq (.text lit) b) t

variable {lit t t' : List Char}

theorem Silent.append (h : Silent lit t) (h' : Silent lit t') : Silent lit (t ++ t') :=
  fun b => clear_append (h b) (h' b)

theorem silent_nil : Silent lit [] := fun _ => clear_nil _

theorem silent_literal (h : blocks lit t = true) : Silent lit t := fun _ => clear_literal h

/-- A character with which no head begins. -/
def isPlain (c : Char) : Bool := c != 'R' && c != 'B' && c != 'o'

/-- A text of such characters. -/
theorem silent_plain (hlit : lit ∈ heads) (h : ∀ c ∈ t, isPlain c = true) : Silent lit t := by
  have hhead : ∀ lit ∈ heads, ∃ c rest, lit = c :: rest ∧ isPlain c = false := by
    intro lit hlit
    rcases List.mem_cons.mp hlit with rfl | hlit
    · exact ⟨_, _, rfl, rfl⟩
    rcases List.mem_pair.mp hlit with rfl | rfl
    · exact ⟨_, _, rfl, rfl⟩
    · exact ⟨_, _, rfl, rfl⟩
  obtain ⟨c, rest, rfl, hc⟩ := hhead lit hlit
  refine fun b => clear_of_not_mem fun hmem => ?_
  rw [h c hmem] at hc
  cases hc

/-- A text that has none of the heads in it. -/
def Unmarked (t : List Char) : Prop := ∀ lit ∈ heads, ¬ lit <:+: t

instance (t : List Char) : Decidable (Unmarked t) :=
  inferInstanceAs (Decidable (∀ lit ∈ heads, ¬ lit <:+: t))

/-- Such a text, up to the end of its line. -/
theorem Unmarked.silent (h : Unmarked t) (hlit : lit ∈ heads) : Silent lit (t ++ ['\n']) := by
  have hbreak : ∀ lit ∈ heads, '\n' ∉ lit := by decide
  exact fun b => clear_unmarked (h lit hlit) (hbreak lit hlit)

theorem numeric_plain {c : Char} (h : Numeric c) : isPlain c = true :=
  h.cases (p := fun c => isPlain c = true) (by decide)

theorem silent_digits (hlit : lit ∈ heads) (n : Nat) : Silent lit (digits n) :=
  silent_plain hlit fun _ hc => numeric_plain (.digit (digits_isDigit hc))

theorem silent_integer (hlit : lit ∈ heads) (i : Int) : Silent lit (integer i) :=
  silent_plain hlit fun c hc => numeric_plain (integer_numeric i c hc)

theorem silent_fixed (hlit : lit ∈ heads) (places : Nat) (v : ℚ) : Silent lit (fixed places v) :=
  silent_plain hlit fun c hc => numeric_plain (fixed_numeric places v c hc)

theorem silent_fixedOrInf (hlit : lit ∈ heads) (v : WithTop ℚ) : Silent lit (fixedOrInf v) := by
  cases v with
  | top => exact silent_plain hlit (all_chars (by decide))
  | coe v => exact silent_fixed hlit 1 v

/-- A fixed text, checked for all heads at once. -/
theorem silent_fixed_text (h : ∀ lit ∈ heads, blocks lit t = true) (hlit : lit ∈ heads) :
    Silent lit t := silent_literal (h lit hlit)

/-- What a session prints of its arguments has no head in it. -/
structure Session.Unmarked (session : Session) : Prop where
  ifname : TuneReport.Unmarked session.ifname
  exe : TuneReport.Unmarked session.exe
  kpValues : TuneReport.Unmarked session.kpValues
  kiValues : TuneReport.Unmarked session.kiValues

theorem silent_banner (hlit : lit ∈ heads) {session : Session} (h : session.Unmarked) :
    Silent lit session.banner := by
  have hmotor : Silent lit ("  motor=M".toList ++ integer session.motor ++ " target=".toList ++
      integer session.target ++ "rpm ifname=".toList ++ (session.ifname ++ ['\n'])) :=
    ((((silent_fixed_text (by decide) hlit).append (silent_integer hlit _)).append
      (silent_fixed_text (by decide) hlit)).append (silent_integer hlit _)).append
      (silent_fixed_text (by decide) hlit) |>.append (h.ifname.silent hlit)
  have hkp : Silent lit ("  kp=".toList ++ (session.kpValues ++ ['\n'])) :=
    (silent_fixed_text (by decide) hlit).append (h.kpValues.silent hlit)
  have hki : Silent lit ("  ki=".toList ++ (session.kiValues ++ ['\n'])) :=
    (silent_fixed_text (by decide) hlit).append (h.kiValues.silent hlit)
  exact ((((silent_fixed_text (by decide) hlit).append hmotor).append hkp).append hki).append
    (silent_fixed_text (by decide) hlit)

/-! ## 4. Trial lines -/

/-- The heads of the two lines that a verdict can have. -/
def verdictHeads : List (List Char) := ["Recommended:".toList, "Best tried:".toList]

theorem verdictHeads_sub : ∀ lit ∈ verdictHeads, lit ∈ heads := by decide

theorem silent_trialHead (hlit : lit ∈ heads) (index total : Nat) (kp ki kd : ℚ) :
    Silent lit (trialHead index total kp ki kd) :=
  ((((((((((silent_fixed_text (by decide) hlit).append (silent_digits hlit _)).append
    (silent_fixed_text (by decide) hlit)).append (silent_digits hlit _)).append
    (silent_fixed_text (by decide) hlit)).append (silent_fixed hlit 3 _)).append
    (silent_fixed_text (by decide) hlit)).append (silent_fixed hlit 3 _)).append
    (silent_fixed_text (by decide) hlit)).append (silent_fixed hlit 3 _)).append
    (silent_fixed_text (by decide) hlit)

theorem silent_boolean (hlit : lit ∈ heads) (b : Bool) : Silent lit (boolean b) := by
  cases b with
  | true => exact silent_plain hlit (all_chars (by decide))
  | false => exact silent_plain hlit (all_chars (by decide))

/-- The numbers of a result behind their first letter. -/
def numbersTail (r : ExactResult) : List Char :=
  "k=".toList ++ boolean r.ok ++ " score=".toList ++ fixedOrInf r.score ++
    " mean_abs_err=".toList ++ fixedOrInf r.meanAbsErr ++ " max_abs_err=".toList ++
    fixedOrInf r.maxAbsErr ++ " rpm_std=".toList ++ fixedOrInf r.rpmStd ++
    " max_abs_cmd=".toList ++ integer r.maxAbsCmd

theorem numbers_cons (r : ExactResult) : numbers r = 'o' :: numbersTail r := rfl

theorem silent_numbersTail (hlit : lit ∈ heads) (r : ExactResult) :
    Silent lit (numbersTail r) :=
  (((((((((((silent_fixed_text (by decide) hlit).append (silent_boolean hlit _)).append
    (silent_fixed_text (by decide) hlit)).append (silent_fixedOrInf hlit _)).append
    (silent_fixed_text (by decide) hlit)).append (silent_fixedOrInf hlit _)).append
    (silent_fixed_text (by decide) hlit)).append (silent_fixedOrInf hlit _)).append
    (silent_fixed_text (by decide) hlit)).append (silent_fixedOrInf hlit _)).append
    (silent_fixed_text (by decide) hlit)).append (silent_integer hlit _)

/-- No verdict begins in the numbers of a result. -/
theorem silent_numbers (hlit : lit ∈ verdictHeads) (r : ExactResult) : Silent lit (numbers r) := by
  have hletter : ∀ lit ∈ verdictHeads, blocks lit ['o'] = true := by decide
  exact (silent_literal (hletter lit hlit)).append (silent_numbersTail (verdictHeads_sub lit hlit) r)

/-- What stands behind the numbers in a trial line. -/
def lineTail (r : ExactResult) : List Char :=
  " samples=".toList ++ digits r.sampleCount ++ " rc=".toList ++ integer r.returnCode ++ "\n".toList

theorem trialLine_some (r : ExactResult) :
    trialLine (some r) = "  ".toList ++ (numbers r ++ lineTail r) := by
  unfold trialLine lineTail
  simp only [List.append_assoc]

theorem silent_lineTail (hlit : lit ∈ heads) (r : ExactResult) : Silent lit (lineTail r) :=
  ((((silent_fixed_text (by decide) hlit).append (silent_digits hlit _)).append
    (silent_fixed_text (by decide) hlit)).append (silent_integer hlit _)).append
    (silent_fixed_text (by decide) hlit)

theorem silent_trialLine (hlit : lit ∈ verdictHeads) (line : Option ExactResult) :
    Silent lit (trialLine line) := by
  have hall := verdictHeads_sub lit hlit
  cases line with
  | none => exact silent_fixed_text (by decide) hall
  | some r =>
    rw [trialLine_some]
    exact (silent_fixed_text (by decide) hall).append
      ((silent_numbers hlit r).append (silent_lineTail hall r))

/-- **No verdict begins in the trials.** -/
theorem silent_trials (hlit : lit ∈ verdictHeads) (total : Nat) (kd : ℚ) (index : Nat)
    (grid : List (ℚ × ℚ)) (lines : List (Option ExactResult)) :
    Silent lit (trialsText total kd index grid lines) := by
  induction grid generalizing index lines with
  | nil => exact silent_nil
  | cons gains grid ih =>
    cases lines with
    | nil => exact silent_nil
    | cons line lines =>
      have hhead : Silent lit (trialHead index total gains.1 gains.2 kd) :=
        silent_trialHead (verdictHeads_sub lit hlit) index total gains.1 gains.2 kd
      exact (hhead.append (silent_trialLine hlit line)).append (ih _ _)

/-! ## 5. What the batch finds of the trials -/

/-- A result without samples. -/
structure Endless (r : ExactResult) : Prop where
  fails : r.ok = false
  score : r.score = ⊤

section Find

variable {decimal : Char → Option Nat} (hd : AsciiDecimal decimal)

include hd

/-- The infinity is no number. -/
theorem number_inf (rest : List Char) :
    (BatchAutotune.number decimal).ways ("inf".toList ++ rest) = [] := by
  have hsign : (.maybe (.text ['-']) : Pattern Field).ways ("inf".toList ++ rest) =
      [([], "inf".toList ++ rest)] := by
    have hnone : (.text ['-'] : Pattern Field).ways ("inf".toList ++ rest) = [] :=
      ways_text_head (c := '-') (d := 'i') rfl rfl (by decide)
    rw [ways, hnone]
    rfl
  refine ways_seq_stuck hsign (ways_seq_nil (ways_many_nil fun c hc => ?_))
  obtain rfl := Option.some.inj hc
  exact isDecimal_other hd (by decide) (by decide)

/-- **The line of a result without samples is not read.** -/
theorem trial_inf (ok : Bool) (rest : List Char) : (BatchAutotune.trialRe decimal).ways
    ("ok=".toList ++ (boolean ok ++ (' ' :: ("score=".toList ++ ("inf".toList ++ rest))))) = [] := by
  have hok : ∀ more : List Char,
      (.group Field.ok (.either (.text "True".toList) (.text "False".toList)) : Pattern Field).ways
        (boolean ok ++ more) = [([(Field.ok, boolean ok)], more)] := by
    intro more
    have heither : (.either (.text "True".toList) (.text "False".toList) : Pattern Field).ways
        (boolean ok ++ more) = [([], more)] := by
      cases ok with
      | true =>
        have hno : (.text "False".toList : Pattern Field).ways (boolean true ++ more) = [] :=
          ways_text_head (c := 'F') (d := 'T') rfl rfl (by decide)
        rw [ways, hno, List.append_nil]
        exact ways_text_one "True".toList more
      | false =>
        have hno : (.text "True".toList : Pattern Field).ways (boolean false ++ more) = [] :=
          ways_text_head (c := 'T') (d := 'F') rfl rfl (by decide)
        rw [ways, hno, List.nil_append]
        exact ways_text_one "False".toList more
    rw [ways, heither, List.map_singleton, List.length_append, Nat.add_sub_cancel, List.take_left]
  have hblank : (BatchAutotune.spaces).ways
      (' ' :: ("score=".toList ++ ("inf".toList ++ rest))) =
        [([], "score=".toList ++ ("inf".toList ++ rest))] := by
    refine ways_many_one (by decide) fun d hd => ?_
    obtain rfl := Option.some.inj hd
    decide
  have hscore : (BatchAutotune.labelled decimal "score=" .score).ways
      ("score=".toList ++ ("inf".toList ++ rest)) = [] := by
    refine ways_seq_stuck (ways_text_one _ _) ?_
    rw [ways, number_inf hd]
    rfl
  exact ways_seq_stuck (ways_text_one _ _) (ways_seq_stuck (hok _)
    (ways_seq_stuck hblank (ways_seq_nil hscore)))

omit hd in
theorem numbers_endless {r : ExactResult} (h : Endless r) (rest : List Char) : ∃ more,
    numbers r ++ rest = "ok=".toList ++ (boolean r.ok ++
      (' ' :: ("score=".toList ++ ("inf".toList ++ more)))) := by
  unfold numbers
  rw [h.score]
  simp only [List.append_assoc]
  exact ⟨_, rfl⟩

/-- A search for trial lines passes over it. -/
theorem clear_endless {r : ExactResult} (h : Endless r) :
    Clear (BatchAutotune.trialRe decimal) (trialLine (some r)) := by
  have hmem : "ok=".toList ∈ heads := by decide
  have htail : Clear (BatchAutotune.trialRe decimal) (numbersTail r ++ lineTail r) :=
    ((silent_numbersTail hmem r).append (silent_lineTail hmem r)) _
  have hblank : Clear (BatchAutotune.trialRe decimal) "  ".toList :=
    silent_fixed_text (by decide) hmem _
  rw [trialLine_some, numbers_cons]
  refine clear_append hblank (clear_cons (fun rest => ?_) htail)
  obtain ⟨more, hmore⟩ := numbers_endless h (lineTail r ++ rest)
  have hways := trial_inf hd r.ok more
  rw [← hmore, numbers_cons, ← List.append_assoc] at hways
  exact hways

/-- A line of a run: a timeout, numbers, or no samples. -/
inductive Printable : Option ExactResult → Prop
  | timeout : Printable none
  | measured {r : ExactResult} {m : Measures} (hm : Measured r m) : Printable (some r)
  | endless {r : ExactResult} (h : Endless r) : Printable (some r)

/-- **A line with numbers is found.** -/
theorem found_measured {r : ExactResult} {m : Measures} (hm : Measured r m) (rest : List Char) :
    findFrom (BatchAutotune.trialRe decimal) 0 (trialLine (some r) ++ rest) =
      trialGroups r.ok m :: findFrom (BatchAutotune.trialRe decimal) 0 rest := by
  have hmem : "ok=".toList ∈ heads := by decide
  have hblank : Clear (BatchAutotune.trialRe decimal) "  ".toList :=
    silent_fixed_text (by decide) hmem _
  have htail : Clear (BatchAutotune.trialRe decimal) (lineTail r) := silent_lineTail hmem r _
  have hstop : ∀ c ∈ (lineTail r ++ rest).head?, BatchAutotune.isDecimal decimal c = false := by
    intro c hc
    obtain rfl := Option.some.inj hc
    exact isDecimal_other hd (by decide) (by decide)
  rw [trialLine_some, List.append_assoc, List.append_assoc, findFrom_clear hblank,
    findFrom_reads (reads_trial hd hm hstop) (List.cons_ne_nil _ _), findFrom_clear htail]

/-- Of any line of a run something is found, or nothing. -/
theorem found_line {line : Option ExactResult} (h : Printable line) :
    ∃ found, ∀ rest, findFrom (BatchAutotune.trialRe decimal) 0 (trialLine line ++ rest) =
      found ++ findFrom (BatchAutotune.trialRe decimal) 0 rest := by
  cases h with
  | timeout =>
    exact ⟨[], fun rest => findFrom_clear (silent_fixed_text (by decide) (by decide) _) rest⟩
  | measured hm => exact ⟨[_], fun rest => found_measured hd hm rest⟩
  | endless h => exact ⟨[], fun rest => findFrom_clear (clear_endless hd h) rest⟩

omit hd in
theorem found_head (index total : Nat) (kp ki kd : ℚ) (rest : List Char) :
    findFrom (BatchAutotune.trialRe decimal) 0 (trialHead index total kp ki kd ++ rest) =
      findFrom (BatchAutotune.trialRe decimal) 0 rest :=
  findFrom_clear (silent_trialHead (by decide) index total kp ki kd _) rest

/-- **The last line that is found** is the last of the run, if it has numbers in it. -/
theorem found_last (total : Nat) (kd : ℚ) {r : ExactResult} {m : Measures} (hm : Measured r m) :
    ∀ (index : Nat) (grid : List (ℚ × ℚ)) (before : List (Option ExactResult)),
    (∀ line ∈ before, Printable line) → before.length < grid.length →
    ∃ found, ∀ rest, findFrom (BatchAutotune.trialRe decimal) 0
      (trialsText total kd index grid (before ++ [some r]) ++ rest) =
        found ++ trialGroups r.ok m :: findFrom (BatchAutotune.trialRe decimal) 0 rest
  | _, [], _, _, hlen => absurd hlen (Nat.not_lt_zero _)
  | index, gains :: grid, [], _, _ => by
    refine ⟨[], fun rest => ?_⟩
    rw [List.nil_append, trialsText, trialsText_nil, List.append_nil, List.append_assoc,
      found_head, found_measured hd hm]
    rfl
  | index, gains :: grid, line :: before, h, hlen => by
    obtain ⟨found, hfound⟩ := found_line hd (h line List.mem_cons_self)
    obtain ⟨later, hlater⟩ := found_last total kd hm (index + 1) grid before
      (fun line' hline' => h line' (List.mem_cons_of_mem line hline')) (Nat.lt_of_succ_lt_succ hlen)
    refine ⟨found ++ later, fun rest => ?_⟩
    rw [List.cons_append, trialsText, List.append_assoc, List.append_assoc, found_head, hfound,
      hlater, List.append_assoc]

/-! ## 6. A best result without samples -/

/-- A labelled number does not take a blank. -/
theorem labelled_takes {label : String} (hlabel : ' ' ∉ label.toList) (field : Field) :
    ¬ (BatchAutotune.labelled decimal label field).Takes ' ' := by
  have hblank := isDecimal_other hd (c := ' ') (by decide) (by decide)
  intro h
  rcases h with h | h
  · exact hlabel h
  rcases h with h | h | h | h
  · exact absurd (List.mem_singleton.mp h) (by decide)
  · exact Bool.false_ne_true (hblank.symm.trans h)
  · rcases h with h | h | h
    · exact absurd (List.mem_singleton.mp h) (by decide)
    · exact Bool.false_ne_true (hblank.symm.trans h)
    · cases h
  · cases h

/-- A labelled number is left whole, or the pattern behind it has to begin with white space. -/
theorem labelled_stuck {label : String} (hlabel : ∀ c ∈ label.toList, BatchAutotune.isSpace c = false)
    (field : Field) (v : ℚ) {more : Pattern Field} {d : Char} {rest : List Char}
    (hsolid : BatchAutotune.isSpace d = false) (hmore : more.ways (d :: rest) = []) :
    (Pattern.seq (BatchAutotune.labelled decimal label field)
      (.seq BatchAutotune.spaces more)).ways
      (label.toList ++ (fixed 3 v ++ ' ' :: d :: rest)) = [] := by
  have hblank : ' ' ∉ label.toList := fun h => absurd (hlabel ' ' h) (by decide)
  rw [← List.append_assoc]
  refine ways_run_stuck (labelled_takes hd hblank field) (by decide) (fun c hc => ?_) hsolid hmore
  rcases List.mem_append.mp hc with hc | hc
  · exact hlabel c hc
  · exact (fixed_numeric 3 v c hc).solid

/-- **The line of a best result without samples is not read.** -/
theorem best_inf {r : ExactResult} (h : Endless r) (rest : List Char) :
    (BatchAutotune.bestRe decimal).ways
      ("Best tried:".toList ++ (gainsText r ++ ([' '] ++ (numbers r ++ rest)))) = [] := by
  have htrial : (BatchAutotune.trialRe decimal).ways (numbers r ++ rest) = [] := by
    obtain ⟨more, hmore⟩ := numbers_endless h rest
    rw [hmore]
    exact trial_inf hd r.ok more
  have hone : ∀ {d : Char} (text : List Char), BatchAutotune.isSpace d = false →
      BatchAutotune.spaces.ways (' ' :: d :: text) = [([], d :: text)] := by
    intro d text hsolid
    refine ways_many_one (by decide) fun c hc => ?_
    obtain rfl := Option.some.inj hc
    exact hsolid
  have hkd := @labelled_stuck decimal hd "kd=" (all_chars (by decide)) .kd r.kd _ 'o' (numbersTail r ++ rest)
    (by decide) (ways_seq_nil (b := .text []) htrial)
  have hki := @labelled_stuck decimal hd "ki=" (all_chars (by decide)) .ki r.ki _ 'k' _ (by decide) hkd
  have hkp := @labelled_stuck decimal hd "kp=" (all_chars (by decide)) .kp r.kp _ 'k' _ (by decide) hki
  rw [gainsText_eq]
  exact ways_seq_stuck (ways_text_one _ _) (ways_seq_stuck (hone _ (by decide)) hkp)

end Find

/-! ## 7. What a run of the search prints -/

section Run

variable {sqrt : ℚ → ℚ}

/-- **A result has numbers, or no samples.** -/
theorem evaluateTrial_printable {args : Autotune.Args ℚ (WithTop ℚ)} {kp ki : ℚ}
    {samples : List (Autotune.Sample ℚ)} {returnCode : Int} {r : ExactResult}
    (h : Autotune.evaluateTrial (Autotune.exactFloats sqrt) args kp ki samples returnCode =
      some r) : Printable (some r) := by
  rcases Autotune.evaluateTrial_exact h with rfl | ⟨start, hresult⟩
  · exact .endless ⟨rfl, rfl⟩
  · obtain ⟨q, hmax, _⟩ := hresult.most
    obtain ⟨std, score, hstd, hscore⟩ := hresult.numbers
    exact .measured (m := ⟨score, _, q, std, r.maxAbsCmd.toNat⟩)
      ⟨hscore, hresult.mean, hmax, hstd, (Int.toNat_of_nonneg hresult.command.1).symm⟩

/-- What a report holds: no more lines than trials, each a line of a run; a recommendation is the
    last line, and passes; the best tried is one of the lines, or the one from before. -/
structure Reported (grid : List (ℚ × ℚ)) (best : Option ExactResult)
    (report : ExactReport) : Prop where
  short : report.lines.length ≤ grid.length
  printable : ∀ line ∈ report.lines, Printable line
  recommended : ∀ r, report.verdict = .recommended r →
    r.ok = true ∧ ∃ before, report.lines = before ++ [some r]
  bestTried : ∀ r, report.verdict = .bestTried r → some r ∈ report.lines ∨ best = some r
  ran : report.verdict ≠ .noExecutable

theorem Reported.after {grid : List (ℚ × ℚ)} {gains : ℚ × ℚ} {best best' : Option ExactResult}
    {line : Option ExactResult} {rest : ExactReport} (h : Reported grid best' rest)
    (hline : Printable line) (hbest : ∀ r, best' = some r → line = some r ∨ best = some r) :
    Reported (gains :: grid) best (rest.after line) where
  short := Nat.succ_le_succ h.short
  printable := List.forall_mem_cons.mpr ⟨hline, h.printable⟩
  recommended r hr := by
    obtain ⟨hok, before, hlines⟩ := h.recommended r hr
    exact ⟨hok, line :: before, congrArg (line :: ·) hlines⟩
  bestTried r hr := by
    rcases h.bestTried r hr with hmem | hold
    · exact Or.inl (List.mem_cons_of_mem line hmem)
    · rcases hbest r hold with rfl | hold
      · exact Or.inl List.mem_cons_self
      · exact Or.inr hold
  ran := h.ran

/-- **Every search that returns has reported so.** -/
theorem tune_reported {args : Autotune.Args ℚ (WithTop ℚ)} {outcome : Nat → Autotune.Outcome ℚ} :
    ∀ {grid : List (ℚ × ℚ)} {trial : Nat} {best : Option ExactResult} {report : ExactReport},
    Autotune.tune (Autotune.exactFloats sqrt) args outcome grid trial best = some report →
    Reported grid best report
  | [], trial, best, report, h => by
    obtain rfl := Option.some.inj h
    refine ⟨le_refl _, (fun _ hline => nomatch hline), fun r hr => ?_, fun r hr => ?_, ?_⟩
    · cases best with
      | none => cases hr
      | some b => cases hr
    · cases best with
      | none => cases hr
      | some b =>
        cases hr
        exact Or.inr rfl
    · cases best with
      | none => exact fun hr => nomatch hr
      | some b => exact fun hr => nomatch hr
  | gains :: grid, trial, best, report, h => by
    rcases Autotune.tune_turn h with ⟨_, rest, hrest, rfl⟩ | hturn
    · exact (tune_reported hrest).after .timeout fun r hr => Or.inr hr
    · obtain ⟨samples, returnCode, result, _, hresult, hturn⟩ := hturn
      have hline := evaluateTrial_printable hresult
      rcases hturn with ⟨hstop, rfl⟩ | ⟨_, rest, hrest, rfl⟩
      · refine ⟨Nat.succ_le_succ (Nat.zero_le _), List.forall_mem_singleton.mpr hline,
          fun r hr => ?_, (fun r hr => nomatch hr), fun hr => nomatch hr⟩
        cases hr
        exact ⟨(Bool.and_eq_true_iff.mp hstop).1, [], rfl⟩
      · exact (tune_reported hrest).after hline fun r hr =>
          (Champion.challenge_cases hr).imp_left fun hnew => congrArg some hnew.symm

/-- Where there is no executable, nothing is run. -/
theorem main_ran {script : ExactScript} {report : ExactReport}
    (h : Autotune.main (Autotune.exactFloats sqrt) script = some report) :
    (script.exeExists = true ∧ Reported script.grid none report) ∨
      (script.exeExists = false ∧ report.verdict = .noExecutable) := by
  unfold Autotune.main at h
  cases hexe : script.exeExists with
  | false =>
    rw [hexe] at h
    obtain rfl := Option.some.inj h
    exact Or.inr ⟨rfl, rfl⟩
  | true =>
    rw [hexe] at h
    exact Or.inl ⟨rfl, tune_reported h⟩

end Run

/-! ## 8. The row of the batch -/

section Row

variable {decimal : Char → Option Nat}

/-- A row that shows the gains and the numbers of a result. -/
structure Shows (row : BatchAutotune.DirectionResult) (r : ExactResult) (m : Measures) :
    Prop where
  kp : row.kp = fixed 3 r.kp
  ki : row.ki = fixed 3 r.ki
  kd : row.kd = fixed 3 r.kd
  meanAbsErr : row.meanAbsErr = fixed 1 m.meanAbsErr
  maxAbsErr : row.maxAbsErr = fixed 1 m.maxAbsErr
  rpmStd : row.rpmStd = fixed 1 m.rpmStd
  maxAbsCmd : row.maxAbsCmd = digits m.maxAbsCmd

/-- A recommendation, behind the line of its trial. -/
theorem parseResult_recommended {output : List Char} {r : ExactResult} {m : Measures}
    {found : List (Groups Field)} (motor target returnCode : Int)
    (hpass : (BatchAutotune.passRe decimal).search output = some (gainGroups r))
    (htrials : (BatchAutotune.trialRe decimal).findAll output = found ++ [trialGroups r.ok m]) :
    (BatchAutotune.parseResult decimal motor target returnCode output).status = .pass ∧
      Shows (BatchAutotune.parseResult decimal motor target returnCode output) r m := by
  unfold BatchAutotune.parseResult
  rw [hpass]
  simp only [htrials, List.getLast?_concat]
  exact ⟨trivial, rfl, rfl, rfl, rfl, rfl, rfl, rfl⟩

/-- The line of the best. -/
theorem parseResult_best {output : List Char} {r : ExactResult} {m : Measures}
    (motor target returnCode : Int) (hpass : (BatchAutotune.passRe decimal).search output = none)
    (hbest : (BatchAutotune.bestRe decimal).search output =
      some (gainGroups r ++ trialGroups r.ok m)) :
    (BatchAutotune.parseResult decimal motor target returnCode output).status =
        (if r.ok then .pass else .best) ∧
      Shows (BatchAutotune.parseResult decimal motor target returnCode output) r m := by
  have hok : (gainGroups r ++ trialGroups r.ok m).get .ok = boolean r.ok := rfl
  unfold BatchAutotune.parseResult
  rw [hpass]
  simp only [hbest]
  refine ⟨?_, rfl, rfl, rfl, rfl, rfl, rfl, rfl⟩
  rw [hok]
  cases r.ok with
  | true => rfl
  | false => rfl

/-- Neither. -/
theorem parseResult_failed {output : List Char} (motor target returnCode : Int)
    (hpass : (BatchAutotune.passRe decimal).search output = none)
    (hbest : (BatchAutotune.bestRe decimal).search output = none) :
    (BatchAutotune.parseResult decimal motor target returnCode output).status = .failed := by
  rw [BatchAutotune.parseResult_status]
  exact BatchAutotune.outputStatus_eq_failed.mpr ⟨hpass, hbest⟩

theorem newline_stop (hd : AsciiDecimal decimal) :
    ∀ c ∈ ['\n'].head?, BatchAutotune.isDecimal decimal c = false := by
  intro c hc
  obtain rfl := Option.some.inj hc
  exact isDecimal_other hd (by decide) (by decide)

/-- What is printed in front of the verdict. -/
def bodyText (session : Session) (script : ExactScript) (report : ExactReport) :
    List Char :=
  if script.exeExists then
    session.banner ++ trialsText script.grid.length script.args.kd 1 script.grid report.lines
  else []

theorem reportText_eq (session : Session) (script : ExactScript)
    (report : ExactReport) : reportText session script report =
      bodyText session script report ++ verdictText session report.verdict := rfl

theorem silent_body (hlit : lit ∈ verdictHeads) {session : Session} (h : session.Unmarked)
    (script : ExactScript) (report : ExactReport) :
    Silent lit (bodyText session script report) := by
  unfold bodyText
  split
  · exact (silent_banner (verdictHeads_sub lit hlit) h).append (silent_trials hlit _ _ _ _ _)
  · exact silent_nil

theorem silent_gainsText (hlit : lit ∈ heads) (r : ExactResult) : Silent lit (gainsText r) :=
  (((((silent_fixed_text (by decide) hlit).append (silent_fixed hlit 3 _)).append
    (silent_fixed_text (by decide) hlit)).append (silent_fixed hlit 3 _)).append
    (silent_fixed_text (by decide) hlit)).append (silent_fixed hlit 3 _)

/-- The line of the best behind its first words. -/
def bestTail (r : ExactResult) : List Char := gainsText r ++ ([' '] ++ (numbers r ++ ['\n']))

theorem silent_bestTail (hlit : lit ∈ verdictHeads) (r : ExactResult) :
    Silent lit (bestTail r) := by
  have hall := verdictHeads_sub lit hlit
  exact (silent_gainsText hall r).append ((silent_fixed_text (by decide) hall).append
    ((silent_numbers hlit r).append (silent_fixed_text (by decide) hall)))

theorem verdictText_best (session : Session) (r : ExactResult) :
    verdictText session (.bestTried r) =
      "\nDONE\n".toList ++ ("Best tried:".toList ++ bestTail r) := by
  unfold verdictText bestTail
  simp only [List.append_assoc]
  rfl

theorem verdictText_recommended (session : Session) (r : ExactResult) :
    verdictText session (.recommended r) =
      "\nPASS\n".toList ++ ("Recommended:".toList ++ (gainsText r ++ ['\n'])) := by
  unfold verdictText
  simp only [List.append_assoc]
  rfl

/-- A search that has nothing to find. -/
theorem search_silent {b : Pattern Field} (hlit : lit ∈ verdictHeads) (h : Silent lit t) :
    (Pattern.seq (.text lit) b).search t = none := by
  have hne : ∀ lit ∈ verdictHeads, ¬ lit <+: [] := by decide
  exact search_clear_end (h b) (ways_headed_nil (hne lit hlit))

/-- Of a recommendation the batch finds the gains, and as the last trial the one that has passed. -/
theorem recommended_found (hd : AsciiDecimal decimal) {session : Session} (hsession : session.Unmarked)
    {script : ExactScript} {report : ExactReport} {r : ExactResult} {m : Measures}
    (hexe : script.exeExists = true) (hreported : Reported script.grid none report)
    (hverdict : report.verdict = .recommended r) (hm : Measured r m) :
    (BatchAutotune.passRe decimal).search (reportText session script report) =
        some (gainGroups r) ∧
      ∃ found, (BatchAutotune.trialRe decimal).findAll (reportText session script report) =
        found ++ [trialGroups r.ok m] := by
  have htext := reportText_eq session script report
  rw [hverdict, verdictText_recommended] at htext
  constructor
  · have hbody : Clear (BatchAutotune.passRe decimal) (bodyText session script report) :=
      @silent_body "Recommended:".toList (by decide) _ hsession script report _
    have hpass : Clear (BatchAutotune.passRe decimal) "\nPASS\n".toList :=
      silent_fixed_text (by decide) (by decide) _
    rw [htext, search_clear hbody, search_clear hpass]
    exact search_reads (reads_recommended hd r (newline_stop hd))
  · have hmem : "ok=".toList ∈ heads := by decide
    obtain ⟨_, before, hlines⟩ := hreported.recommended r hverdict
    have hlen : before.length < script.grid.length := by
      have hshort := hreported.short
      rw [hlines, List.length_append, List.length_singleton] at hshort
      exact hshort
    have hbefore : ∀ line ∈ before, Printable line := fun line hmem =>
      hreported.printable line (hlines ▸ List.mem_append_left _ hmem)
    obtain ⟨found, hfound⟩ := found_last hd script.grid.length script.args.kd hm 1 script.grid before
      hbefore hlen
    have hend : Silent "ok=".toList
        ("\nPASS\n".toList ++ ("Recommended:".toList ++ (gainsText r ++ ['\n']))) :=
      (silent_fixed_text (by decide) hmem).append ((silent_literal (by decide)).append
        ((silent_gainsText hmem r).append (silent_fixed_text (by decide) hmem)))
    have hclear : Clear (BatchAutotune.trialRe decimal)
        ("\nPASS\n".toList ++ ("Recommended:".toList ++ (gainsText r ++ ['\n']))) := hend _
    have hnone := findFrom_clear hclear []
    have hbanner : Clear (BatchAutotune.trialRe decimal) session.banner :=
      silent_banner hmem hsession _
    rw [List.append_nil] at hnone
    refine ⟨found, ?_⟩
    rw [htext, bodyText, hexe, if_pos rfl, hlines, findAll, List.append_assoc,
      findFrom_clear hbanner, hfound, hnone]
    rfl

/-- No recommendation is found where none is printed. -/
theorem best_unrecommended {session : Session} (hsession : session.Unmarked)
    {script : ExactScript} {report : ExactReport} {r : ExactResult}
    (hverdict : report.verdict = .bestTried r) :
    (BatchAutotune.passRe decimal).search (reportText session script report) = none := by
  have hlit : "Recommended:".toList ∈ verdictHeads := by decide
  have hbody := silent_body hlit hsession script report
  rw [reportText_eq, hverdict, verdictText_best]
  exact search_silent hlit (hbody.append ((silent_literal (by decide)).append
    ((silent_literal (by decide)).append (silent_bestTail hlit r))))

/-- Of a best result with numbers in it the batch finds the line. -/
theorem best_found (hd : AsciiDecimal decimal) {session : Session} (hsession : session.Unmarked)
    {script : ExactScript} {report : ExactReport} {r : ExactResult} {m : Measures}
    (hverdict : report.verdict = .bestTried r) (hm : Measured r m) :
    (BatchAutotune.bestRe decimal).search (reportText session script report) =
      some (gainGroups r ++ trialGroups r.ok m) := by
  have hbody : Clear (BatchAutotune.bestRe decimal) (bodyText session script report) :=
    @silent_body "Best tried:".toList (by decide) _ hsession script report _
  have hdone : Clear (BatchAutotune.bestRe decimal) "\nDONE\n".toList :=
    silent_fixed_text (by decide) (by decide) _
  rw [reportText_eq, hverdict, verdictText_best, search_clear hbody, search_clear hdone]
  exact search_reads (reads_best hd hm (newline_stop hd))

/-- Of one without samples it does not. -/
theorem best_lost (hd : AsciiDecimal decimal) {session : Session} (hsession : session.Unmarked)
    {script : ExactScript} {report : ExactReport} {r : ExactResult}
    (hverdict : report.verdict = .bestTried r) (hendless : Endless r) :
    (BatchAutotune.bestRe decimal).search (reportText session script report) = none := by
  have hlit : "Best tried:".toList ∈ verdictHeads := by decide
  have hbody : Clear (BatchAutotune.bestRe decimal) (bodyText session script report) :=
    silent_body hlit hsession script report _
  have hdone : Clear (BatchAutotune.bestRe decimal) "\nDONE\n".toList :=
    silent_fixed_text (by decide) (by decide) _
  have hrest : Clear (BatchAutotune.bestRe decimal) ("est tried:".toList ++ bestTail r) :=
    ((silent_literal (by decide)).append (silent_bestTail hlit r)) _
  have hline : Clear (BatchAutotune.bestRe decimal) ("Best tried:".toList ++ bestTail r) := by
    have hfirst : "Best tried:".toList = 'B' :: "est tried:".toList := by decide
    rw [hfirst, List.cons_append]
    refine clear_cons (fun rest => ?_) hrest
    have hinf := best_inf hd hendless (['\n'] ++ rest)
    rw [← List.cons_append, ← hfirst, bestTail, List.append_assoc, List.append_assoc,
      List.append_assoc, List.append_assoc]
    exact hinf
  rw [reportText_eq, hverdict, verdictText_best]
  refine search_clear_end (clear_append hbody (clear_append hdone hline)) ?_
  exact ways_headed_nil (by decide)

/-- Where the search prints neither line, the batch finds neither. -/
theorem nothing_found {session : Session} (hsession : session.Unmarked)
    (script : ExactScript) {report : ExactReport}
    (hverdict : report.verdict = .nothing ∨ report.verdict = .noExecutable)
    (motor target returnCode : Int) :
    (BatchAutotune.parseResult decimal motor target returnCode
      (reportText session script report)).status = .failed := by
  have hsilent : ∀ lit ∈ verdictHeads, Silent lit (reportText session script report) := by
    intro lit hlit
    have hall := verdictHeads_sub lit hlit
    have hend : Silent lit (verdictText session report.verdict) := by
      rcases hverdict with h | h
      · have hdone : Silent lit "\nDONE\n".toList := silent_fixed_text (by decide) hall
        rw [h]
        exact hdone
      · rw [h]
        exact (silent_fixed_text (by decide) hall).append (hsession.exe.silent hall)
    rw [reportText_eq]
    exact (silent_body hlit hsession script report).append hend
  have hpass : "Recommended:".toList ∈ verdictHeads := by decide
  have hbest : "Best tried:".toList ∈ verdictHeads := by decide
  exact parseResult_failed motor target returnCode (search_silent hpass (hsilent _ hpass))
    (search_silent hbest (hsilent _ hbest))

/-- A passing result has numbers in it. -/
theorem Printable.measured_of_ok {r : ExactResult} (h : Printable (some r)) (hok : r.ok = true) :
    ∃ m, Measured r m := by
  cases h with
  | measured hm => exact ⟨_, hm⟩
  | endless hendless =>
    rw [hendless.fails] at hok
    cases hok

/-- A result without samples has no numbers. -/
theorem Endless.unmeasured {r : ExactResult} {m : Measures} (h : Endless r) :
    ¬ Measured r m := by
  intro hm
  exact WithTop.coe_ne_top (hm.score.symm.trans h.score)

/-- What a row says of a verdict. -/
structure Tells (row : BatchAutotune.DirectionResult) (verdict : Verdict ℚ (WithTop ℚ)) : Prop where
  passes : row.status = .pass ↔ verdict.exitCode = 0
  best : row.status = .best ↔ ∃ r m, verdict = .bestTried r ∧ Measured r m ∧ r.ok = false
  shows : row.status ≠ .failed → ∃ r m, verdict.printed = some r ∧ Measured r m ∧ Shows row r m

/-- A failed row tells of no verdict with numbers. -/
theorem Tells.of_failed {row : BatchAutotune.DirectionResult} {verdict : Verdict ℚ (WithTop ℚ)}
    (hrow : row.status = .failed) (hcode : verdict.exitCode ≠ 0)
    (hbest : ∀ r m, verdict = .bestTried r → ¬ Measured r m) : Tells row verdict where
  passes := by
    rw [hrow]
    exact ⟨fun h => (nomatch h), fun h => absurd h hcode⟩
  best := by
    rw [hrow]
    refine ⟨fun h => (nomatch h), fun h => ?_⟩
    obtain ⟨r, m, hverdict, hm, _⟩ := h
    exact absurd hm (hbest r m hverdict)
  shows h := absurd hrow h

/-- **The row of the batch is the verdict of the search**, where nothing that is printed of the
    arguments begins like a result. -/
theorem batch_row_is_verdict {sqrt : ℚ → ℚ} (hd : AsciiDecimal decimal) {session : Session}
    (hsession : session.Unmarked) {script : ExactScript} {report : ExactReport}
    (hrun : Autotune.main (Autotune.exactFloats sqrt) script = some report)
    (motor target returnCode : Int) :
    Tells (BatchAutotune.parseResult decimal motor target returnCode
      (reportText session script report)) report.verdict := by
  have hran := main_ran hrun
  cases hverdict : report.verdict with
  | recommended r =>
    rcases hran with ⟨hexe, hreported⟩ | ⟨_, hnone⟩
    · obtain ⟨hok, before, hlines⟩ := hreported.recommended r hverdict
      have hline := hreported.printable (some r) (hlines ▸ List.mem_append_right _ List.mem_cons_self)
      obtain ⟨m, hm⟩ := hline.measured_of_ok hok
      obtain ⟨hpass, found, htrials⟩ := recommended_found hd hsession hexe hreported hverdict hm
      have hrow := parseResult_recommended motor target returnCode hpass htrials
      refine ⟨?_, ?_, fun _ => ⟨r, m, rfl, hm, hrow.2⟩⟩
      · exact ⟨fun _ => rfl, fun _ => hrow.1⟩
      · rw [hrow.1]
        refine ⟨fun h => absurd h (by decide), fun h => ?_⟩
        obtain ⟨_, _, h, _⟩ := h
        cases h
    · rw [hverdict] at hnone
      cases hnone
  | bestTried r =>
    have hunrecommended : (BatchAutotune.passRe decimal).search (reportText session script report) =
        none := best_unrecommended hsession hverdict
    have hline : Printable (some r) := by
      rcases hran with ⟨_, hreported⟩ | ⟨_, hnone⟩
      · rcases hreported.bestTried r hverdict with hmem | hold
        · exact hreported.printable _ hmem
        · cases hold
      · rw [hverdict] at hnone
        cases hnone
    cases hline with
    | measured hm =>
      have hrow := parseResult_best motor target returnCode hunrecommended
        (best_found hd hsession hverdict hm)
      refine ⟨?_, ?_, fun _ => ⟨r, _, rfl, hm, hrow.2⟩⟩
      · rw [hrow.1, Verdict.exitCode]
        cases r.ok with
        | true => exact ⟨fun _ => rfl, fun _ => rfl⟩
        | false => exact ⟨fun h => absurd h (by decide), fun h => absurd h (by decide)⟩
      · rw [hrow.1]
        cases hok : r.ok with
        | true =>
          refine ⟨fun h => absurd h (by decide), fun h => ?_⟩
          obtain ⟨r', _, heq, _, hfails⟩ := h
          cases heq
          exact absurd (hok.symm.trans hfails) (by decide)
        | false => exact ⟨fun _ => ⟨r, _, rfl, hm, hok⟩, fun _ => rfl⟩
    | endless hendless =>
      have hlost : (BatchAutotune.bestRe decimal).search (reportText session script report) = none :=
        best_lost hd hsession hverdict hendless
      refine .of_failed (parseResult_failed motor target returnCode hunrecommended hlost) ?_ ?_
      · rw [Verdict.exitCode, hendless.fails, if_neg Bool.false_ne_true]
        exact Nat.one_ne_zero
      · rintro _ m ⟨⟩
        exact hendless.unmeasured
  | nothing =>
    have hfailed : (BatchAutotune.parseResult decimal motor target returnCode
        (reportText session script report)).status = .failed :=
      nothing_found hsession script (Or.inl hverdict) motor target returnCode
    exact .of_failed hfailed Nat.one_ne_zero (by rintro r m ⟨⟩)
  | noExecutable =>
    have hfailed : (BatchAutotune.parseResult decimal motor target returnCode
        (reportText session script report)).status = .failed :=
      nothing_found hsession script (Or.inr hverdict) motor target returnCode
    exact .of_failed hfailed (Nat.succ_ne_zero 1) (by rintro r m ⟨⟩)

/-- A session on the second motor. -/
def secondMotor : Session where
  motor := 2
  target := -300
  ifname := "can0".toList
  exe := "/root/test_speed_pid".toList
  kpValues := "[2.0]".toList
  kiValues := "[0.2, 0.3]".toList

/-- The row of two trials, of which the second passes. -/
theorem two_trials_told : ∃ report,
    Autotune.main Autotune.fractionFloats (Autotune.twoTrials Autotune.farOff Autotune.withinLimits) =
      some report ∧ report.verdict.exitCode = 0 ∧
    Tells (BatchAutotune.parseResult BatchAutotune.asciiDecimal 2 (-300) 0 (reportText secondMotor
      (Autotune.twoTrials Autotune.farOff Autotune.withinLimits) report)) report.verdict := by
  have hruns : (Autotune.main Autotune.fractionFloats
      (Autotune.twoTrials Autotune.farOff Autotune.withinLimits)).map
        (fun report => report.verdict.exitCode) = some 0 := by decide +kernel
  have hsession : secondMotor.Unmarked := ⟨by decide, by decide, by decide, by decide⟩
  obtain ⟨report, hreport, hcode⟩ := Option.map_eq_some_iff.mp hruns
  exact ⟨report, hreport, hcode, batch_row_is_verdict asciiDecimal_ascii hsession hreport 2 (-300) 0⟩

end Row

end TuneReport

end Rk3588Chassis
