/-
  File:      Rk3588Chassis/IntegerArgs.lean
  Subject:   Integers on the command line: `parse_int` and `parse_int_arg`, and the tool for which
             they matter most, `tools/test_single_motor.c`.

  `strtol` reads a `long` and saturates; the cast to `int` behind it drops the upper half. An
  argument is read as it is written exactly if its number fits in an `int` (`parsed_means_iff`).

  The range checks of `test_single_motor` come after the cast, and so bound what is sent, but not
  what was written; `integer_args_iff` says when the two are the same.
-/
import Rk3588Chassis.FeedbackPaths
import Rk3588Chassis.TimedMotion

namespace Rk3588Chassis

open CText Deadline Rounding

/-! ## 1. One argument -/

/-- `parse_int` of the bench tools, word for word `parse_int_arg`. -/
def parseInt (strtol : CString → Int64 × Nat) (text : CString) : Option Int32 :=
  (wholeText text (strtol text)).map Int64.toInt32

/-- `parse(text, &value)`: the return value, and `*value` after the call. -/
def storeParsed (parsed : Option Int32) (value : Int32) : Bool × Int32 :=
  match parsed with
  | none => (false, value)
  | some parsed => (true, parsed)

/-- The numbers of an `int`. -/
def FitsInt (v : Int) : Prop := -2 ^ 31 ≤ v ∧ v < 2 ^ 31

/-- A text that spells no number, or one that fits. -/
def NumberFits (text : CString) : Prop := ∀ v, readInteger text = some v → FitsInt v

/-- The text is an integer that fits, and this one. -/
def Spells (text : CString) (v : Int) : Prop := readInteger text = some v ∧ FitsInt v

/-- A call that takes a text as it is written: it accepts the integers that fit, stores their value,
    and leaves the variable alone otherwise. -/
structure MeansText (parsed : Option Int32) (text : CString) : Prop where
  accepts : ∀ value, (storeParsed parsed value).1 = true ↔ ∃ v, Spells text v
  stores : ∀ value v, Spells text v → (storeParsed parsed value).2.toInt = v
  keeps : (¬ ∃ v, Spells text v) → ∀ value, (storeParsed parsed value).2 = value

/-- `(int)strtol(..)`: saturated at 64 bits, cut to 32. -/
def narrowed (v : Int) : Int32 := (Int64.ofInt (saturate longMin longMax v)).toInt32

/-- A number that fits is not changed. -/
theorem narrowed_toInt {v : Int} (h : FitsInt v) : (narrowed v).toInt = v := by
  obtain ⟨hlo, hhi⟩ := h
  have hlong : saturate longMin longMax v = v := by
    unfold longMin longMax
    exact saturate_eq_self (by omega) (by omega)
  have hwide : v.bmod Int64.size = v := by
    have hsize : Int64.size = 2 ^ 64 := rfl
    exact Int.bmod_eq_of_le (by omega) (by omega)
  rw [narrowed, hlong, Int64.toInt_toInt32, Int64.toInt_ofInt, hwide]
  exact Int.bmod_eq_of_le (by omega) (by omega)

/-- What both functions make of a text. -/
theorem parseInt_eq (text : CString) : parseInt strtol text = (readInteger text).map narrowed := by
  have hwhole : wholeText text (strtol text) =
      (readInteger text).map fun v => Int64.ofInt (saturate longMin longMax v) := strtol_whole text
  rw [parseInt, hwhole, Option.map_map]
  rfl

theorem parseIntArg_eq (text : CString) :
    parseIntArg strtol text = (readInteger text).map narrowed := parseInt_eq text

/-- **A text is taken as written exactly if its number fits.** -/
theorem parsed_means_iff (text : CString) :
    MeansText ((readInteger text).map narrowed) text ↔ NumberFits text := by
  constructor
  · intro h v hv
    have hcalled : (storeParsed ((readInteger text).map narrowed) 0).1 = true := by
      rw [hv]
      rfl
    obtain ⟨w, hw, hfits⟩ := (h.accepts 0).mp hcalled
    obtain rfl := Option.some.inj (hv.symm.trans hw)
    exact hfits
  · intro h
    cases hread : readInteger text with
    | none =>
      have hno : ¬ ∃ v, Spells text v := by
        intro hgiven
        obtain ⟨v, hv, _⟩ := hgiven
        rw [hread] at hv
        cases hv
      refine ⟨fun value => ⟨fun hfalse => ?_, fun hspells => absurd hspells hno⟩,
        fun value v hv => absurd ⟨v, hv⟩ hno, fun _ value => rfl⟩
      cases hfalse
    | some v =>
      have hspells : Spells text v := ⟨hread, h v hread⟩
      refine ⟨fun value => ⟨fun _ => ⟨v, hspells⟩, fun _ => rfl⟩, fun value w hw => ?_,
        fun hno => absurd ⟨v, hspells⟩ hno⟩
      obtain rfl := Option.some.inj (hread.symm.trans hw.1)
      exact narrowed_toInt hspells.2

/-! ## 2. `test_single_motor` -/

namespace TestSingleMotor

/-- `DEFAULT_PERIOD_MS`. -/
def defaultPeriodMs : Int32 := 10

/-- `MAX_TEST_CURRENT`. -/
def maxTestCurrent : Int32 := 5000

/-- `ZERO_SEND_REPEAT` of the bench tools. -/
def zeroSendRepeat : Nat := 10

/-- What `main` takes from its arguments. -/
structure Options where
  motorId : Int32
  current : Int32
  durationMs : Int32
  periodMs : Int32
  deriving DecidableEq

/-- The argument checks of `main`: `none` where it prints and returns 2. -/
def parseOptions (strtol : CString → Int64 × Nat) (argv : List CString) : Option Options := do
  guard (argv.length = 5 ∨ argv.length = 6)
  let motorId ← argv[2]? >>= parseInt strtol
  let current ← argv[3]? >>= parseInt strtol
  let durationMs ← argv[4]? >>= parseInt strtol
  let periodMs ← optionalArg (parseInt strtol) defaultPeriodMs argv[5]?
  guard (¬ (motorId < 1 ∨ 4 < motorId))
  guard (¬ (current < -maxTestCurrent ∨ maxTestCurrent < current))
  guard (¬ (durationMs ≤ 0 ∨ periodMs ≤ 0))
  return ⟨motorId, current, durationMs, periodMs⟩

/-- The slot of the motor under test; only used behind the test `1 <= motor_id <= 4`. -/
def Options.motor (options : Options) : Slot := Fin.ofNat 5 options.motorId.toInt.toNat

/-- `currents[motor_id] = (int16_t)current;` in an array of zeros. -/
def Options.currents (options : Options) : Slot → Int16 :=
  Function.update (fun _ => 0) options.motor options.current.toInt16

/-- What the environment decides in one turn of the loop. -/
structure Input where
  nowMs : UInt64
  frames : List CanFrame
  canWriteOk : Bool

/-- `drain_feedback`: every pending frame, with the one clock reading of the turn. -/
def drainFeedback (feedbacks : Slot → Motor3508Feedback) (frames : List CanFrame) (nowMs : UInt64) :
    Slot → Motor3508Feedback :=
  (frames.map fun frame => handOver (frame, nowMs)).foldl benchStore feedbacks

/-- The loop as the clock sees it. -/
def testLoop (options : Options) : Loop (Slot → Motor3508Feedback) Input CanFrame where
  step feedbacks input :=
    (drainFeedback feedbacks input.frames input.nowMs, currentFrame options.currents)
  delivered input := input.canWriteOk

/-- `while (g_running)`. -/
def mainLoop (options : Options) (startMs : UInt64) (feedbacks : Slot → Motor3508Feedback)
    (turns : List (Option Input)) : Run Input CanFrame :=
  (testLoop options).run (fun input => durationOver64 startMs options.durationMs input.nowMs)
    feedbacks turns

/-- What the environment decides in a run. -/
structure Script where
  argv : List CString
  canOpens : Bool
  startMs : UInt64
  turns : List (Option Input)

/-- `send_zero_current`. -/
def sendZeroCurrent : List BusEvent := List.replicate zeroSendRepeat (.attempt zeroFrame)

/-- `main`: the exit code, and what was done on the CAN socket; `none` where the script ends before
    it has returned. -/
def main (strtol : CString → Int64 × Nat) (script : Script) : Option (Nat × List BusEvent) :=
  match parseOptions strtol script.argv with
  | none => some (2, [])
  | some options =>
    if !script.canOpens then some (1, [])
    else
      let run := mainLoop options script.startMs (fun _ => ⟨0, 0, 0, 0, 0, 0, 0⟩) script.turns
      match run.ending with
      | .running => none
      | _ => some (0, run.sent.map (fun p => .attempt p.2) ++ sendZeroCurrent ++ [.closeCan])

/-- What an accepted command line says about the current. -/
theorem parseOptions_current {strtol : CString → Int64 × Nat} {argv : List CString}
    {options : Options} (h : parseOptions strtol argv = some options) :
    ∃ text, argv[3]? = some text ∧ parseInt strtol text = some options.current ∧
      -5000 ≤ options.current.toInt ∧ options.current.toInt ≤ 5000 := by
  simp only [parseOptions, bind, Option.bind_eq_some_iff, Option.guard_eq_some'] at h
  obtain ⟨_, _, _, _, current, ⟨text, htext, hcurrent⟩, _, _, _, _, _, _, _, hrange, _, _, heq⟩ := h
  cases heq
  rw [not_or, Int32.not_lt, Int32.not_lt, Int32.le_iff_toInt_le, Int32.le_iff_toInt_le] at hrange
  exact ⟨text, htext, hcurrent, hrange.1, hrange.2⟩

/-- Behind the range check the cast to `int16_t` changes nothing. -/
theorem current_toInt16 {current : Int32} (hlo : -5000 ≤ current.toInt)
    (hhi : current.toInt ≤ 5000) : current.toInt16.toInt = current.toInt := by
  rw [Int32.toInt_toInt16]
  exact Int.bmod_eq_of_le (by omega) (by omega)

/-- The frame carries the current under the motor that is tested, and zeros. -/
theorem currents_frame {options : Options} (hlo : -5000 ≤ options.current.toInt)
    (hhi : options.current.toInt ≤ 5000) (k : Fin 4) :
    (frameCurrent (currentFrame options.currents).data k).toInt =
      if k.succ = options.motor then options.current.toInt else 0 := by
  have hpack : frameCurrent (currentFrame options.currents).data k = options.currents k.succ :=
    frameCurrent_pack options.currents k
  rw [hpack, Options.currents]
  by_cases hk : k.succ = options.motor
  · rw [if_pos hk, hk, Function.update_self]
    exact current_toInt16 hlo hhi
  · rw [if_neg hk, Function.update_of_ne hk]
    rfl

/-- **A run that has passed the checks** sends the parsed current, then zeros, then closes. -/
theorem main_trace {strtol : CString → Int64 × Nat} {script : Script} {trace : List BusEvent}
    (h : main strtol script = some (0, trace)) :
    ∃ (options : Options) (sent : List CanFrame),
      parseOptions strtol script.argv = some options ∧
      trace = sent.map .attempt ++ sendZeroCurrent ++ [.closeCan] ∧
      ∀ frame ∈ sent, frame = currentFrame options.currents := by
  unfold main at h
  split at h
  · cases h
  · rename_i options hoptions
    split_ifs at h
    · cases h
    · simp only at h
      split at h
      · cases h
      · cases h
        refine ⟨options, _, hoptions, congrArg (· ++ sendZeroCurrent ++ [.closeCan])
          (List.map_map (f := Prod.snd) (g := BusEvent.attempt)).symm, fun frame hframe => ?_⟩
        obtain ⟨p, hp, rfl⟩ := List.mem_map.mp hframe
        exact Loop.run_sent_forall (Q := fun p => p.2 = currentFrame options.currents)
          (fun _ _ _ => rfl) _ _ p hp

end TestSingleMotor

/-! ## 3. What is written and what is sent -/

/-- A run that sends the current as it stands on the command line: a number between -5000 and 5000,
    under the motor that is tested, in every frame but the closing zeros. -/
def SendsAsWritten (argv : List CString) (trace : List BusEvent) : Prop :=
  ∃ (options : TestSingleMotor.Options) (text : CString) (v : Int) (sent : List CanFrame),
    TestSingleMotor.parseOptions strtol argv = some options ∧
    argv[3]? = some text ∧ readInteger text = some v ∧ (-5000 ≤ v ∧ v ≤ 5000) ∧
    trace = sent.map .attempt ++ TestSingleMotor.sendZeroCurrent ++ [.closeCan] ∧
    ∀ frame ∈ sent, frame.canId = 0x200 ∧ ∀ k : Fin 4,
      (frameCurrent frame.data k).toInt = if k.succ = options.motor then v else 0

/-- **When an integer argument means what it says**: exactly if the number fits in an `int`. So for
    both parsers, and for the current of every run that has passed the range checks. -/
theorem integer_args_iff (text : CString) :
    (MeansText (parseInt strtol text) text ↔ NumberFits text) ∧
    (MeansText (parseIntArg strtol text) text ↔ NumberFits text) ∧
    ∀ script trace, TestSingleMotor.main strtol script = some (0, trace) →
      script.argv[3]? = some text → (SendsAsWritten script.argv trace ↔ NumberFits text) := by
  refine ⟨?_, ?_, fun script trace hmain htext => ?_⟩
  · rw [parseInt_eq]
    exact parsed_means_iff text
  · rw [parseIntArg_eq]
    exact parsed_means_iff text
  constructor
  · intro hgiven
    obtain ⟨options, text', v, sent, _, htext', hread, ⟨hlo, hhi⟩, _, _⟩ := hgiven
    obtain rfl := Option.some.inj (htext.symm.trans htext')
    intro w hw
    obtain rfl := Option.some.inj (hread.symm.trans hw)
    exact ⟨by omega, by omega⟩
  · intro hfits
    obtain ⟨options, sent, hoptions, htrace, hsent⟩ := TestSingleMotor.main_trace hmain
    obtain ⟨text', htext', hcurrent, hlo, hhi⟩ := TestSingleMotor.parseOptions_current hoptions
    obtain rfl := Option.some.inj (htext.symm.trans htext')
    rw [parseInt_eq] at hcurrent
    obtain ⟨v, hread, hv⟩ := Option.map_eq_some_iff.mp hcurrent
    have hwritten : options.current.toInt = v := by
      rw [← hv]
      exact narrowed_toInt (hfits v hread)
    refine ⟨options, text, v, sent, hoptions, htext, hread, ?_, htrace, fun frame hframe => ?_⟩
    · rw [← hwritten]
      exact ⟨hlo, hhi⟩
    · rw [hsent frame hframe, ← hwritten]
      exact ⟨rfl, TestSingleMotor.currents_frame hlo hhi⟩

/-- A test of motor 1 for two seconds: one turn, and the one that ends it. -/
def bench (current : String) : TestSingleMotor.Script where
  argv := ["test_single_motor", "can0", "1", current, "2000"].map cstring
  canOpens := true
  startMs := 1000
  turns := [some ⟨1010, [], true⟩, some ⟨3000, [], true⟩]

/-- It runs to its end. -/
theorem bench_runs {current : String}
    (h : (TestSingleMotor.main strtol (bench current)).map (fun r => r.1) = some 0) :
    ∃ trace, TestSingleMotor.main strtol (bench current) = some (0, trace) := by
  obtain ⟨⟨code, trace⟩, hmain, hcode⟩ := Option.map_eq_some_iff.mp h
  obtain rfl : code = 0 := hcode
  exact ⟨trace, hmain⟩

/-- A current of -800 is sent as written. -/
theorem minus_800_as_written : ∃ trace, TestSingleMotor.main strtol (bench "-800") =
    some (0, trace) ∧ SendsAsWritten (bench "-800").argv trace := by
  obtain ⟨trace, hmain⟩ := @bench_runs "-800" (by decide +kernel)
  have hread : readInteger (cstring "-800") = some (-800) := by decide +kernel
  have hfits : NumberFits (cstring "-800") := by
    intro v hv
    obtain rfl := Option.some.inj (hread.symm.trans hv)
    exact ⟨by decide, by decide⟩
  exact ⟨trace, hmain, ((integer_args_iff _).2.2 _ _ hmain rfl).mpr hfits⟩

/-- **A number that does not fit is cut**: `4294967297` is read as 1, and a current of `4294967796`
    passes the range check and is sent as 500. -/
theorem wrapped_current_sent : ¬ MeansText (parseInt strtol (cstring "4294967297"))
      (cstring "4294967297") ∧
    ∃ trace, TestSingleMotor.main strtol (bench "4294967796") = some (0, trace) ∧
      ¬ SendsAsWritten (bench "4294967796").argv trace := by
  have hlow : readInteger (cstring "4294967297") = some 4294967297 := by decide +kernel
  have hcurrent : readInteger (cstring "4294967796") = some 4294967796 := by decide +kernel
  constructor
  · intro h
    rw [parseInt_eq] at h
    have hfits := (parsed_means_iff _).mp h _ hlow
    exact absurd hfits.2 (by decide)
  · obtain ⟨trace, hmain⟩ := @bench_runs "4294967796" (by decide +kernel)
    refine ⟨trace, hmain, ?_⟩
    intro hgiven
    obtain ⟨_, text, v, _, _, htext, hread, ⟨_, hhi⟩, _, _⟩ := hgiven
    obtain rfl : cstring "4294967796" = text := Option.some.inj htext
    obtain rfl := Option.some.inj (hcurrent.symm.trans hread)
    exact absurd hhi (by decide)

end Rk3588Chassis
