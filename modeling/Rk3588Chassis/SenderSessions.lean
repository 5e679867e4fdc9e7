/-
  File:      Rk3588Chassis/SenderSessions.lean
  Subject:   Whole runs of the two Python senders (`tools/send_velocity.py`,
             `tools/characterize_startup.py`), and the daemon that reads what they send.

  A session is a list of blocks: commands, as long as the clock is short of a deadline, and stops
  behind them on every way out of the loop. The network may lose datagrams.

  * `session_drives` -- the daemon drives on a command of the session only, and not for longer than
    its duration, the delay of the network and the timeout of a command together;
  * `stop_ends_motion` -- and where the order is kept, on no command in front of a stop that it has
    read.
-/
import Rk3588Chassis.DriveRuns
import Rk3588Chassis.Senders

namespace Rk3588Chassis

open CFloat CText Numeral Rounding

/-! ## 1. Sessions -/

/-- What the environment decides in one loop: the reading of `time.monotonic()` in front of it, those
    that its test has taken before the loop ended or was interrupted, and how many of the stops
    behind it were sent, all three unless a second interrupt came. -/
structure Course where
  startS : ℚ
  readings : List ℚ
  stops : Fin 4

/-- One loop and its stops. -/
structure Block where
  values : ChassisCommand ℚ
  durationMs : Int
  course : Course

/-- A payload that is sent: its values, and for a command the reading that has been tested. -/
structure Sending where
  values : ChassisCommand ℚ
  testedS : Option ℚ

/-- `send_command`, the same in both. -/
def Sending.payload (sending : Sending) : CString := SendVelocity.sendCommand sending.values

/-- `(0.0, 0.0, 0.0)`. -/
def stopValues : ChassisCommand ℚ := ⟨0, 0, 0⟩

/-- `deadline`. -/
def Block.deadlineS (block : Block) : ℚ := block.course.startS + block.durationMs / 1000

/-- `while time.monotonic() < deadline:`, and the `finally`. -/
def Block.sendings (block : Block) : List Sending :=
  ((block.course.readings.takeWhile (· < block.deadlineS)).map fun c => ⟨block.values, some c⟩) ++
    List.replicate block.course.stops ⟨stopValues, none⟩

/-- All that a session sends, in order. -/
def sent (blocks : List Block) : List Sending := blocks.flatMap Block.sendings

namespace SendVelocity

/-- The arguments that `main` reads. -/
structure Args where
  values : ChassisCommand ℚ
  durationMs : Int
  periodMs : Int

/-- `main`; `none` where it raises `SystemExit`. -/
def main (args : Args) (course : Course) : Option (List Block) :=
  if args.durationMs ≤ 0 then none
  else if args.periodMs ≤ 0 then none
  else some [⟨command args.values, args.durationMs, course⟩]

end SendVelocity

namespace CharacterizeStartup

/-- The arguments that `main` reads. -/
structure Args where
  direction : Direction
  durationMs : Int
  periodMs : Int
  scales : List ℚ

/-- What `ask_result` returns. -/
inductive Answer where
  | yes
  | no
  | quit
  deriving DecidableEq

/-- A turn of the loop over the scales: its trial, and the answer to it, `none` where the program
    was interrupted in one of the two. -/
structure Turn where
  course : Course
  answer : Option Answer

/-- `run_trial`. -/
def runTrial (args : Args) (rawScale : ℚ) (course : Course) : Block :=
  ⟨command args.direction rawScale, args.durationMs, course⟩

/-- The loop of `main`. -/
def trials (args : Args) : List ℚ → List Turn → List Block
  | rawScale :: scales, turn :: turns =>
    if turn.answer = some .yes ∨ turn.answer = some .no then
      runTrial args rawScale turn.course :: trials args scales turns
    else [runTrial args rawScale turn.course]
  | _, _ => []

/-- `main`; `none` where it raises `SystemExit`. -/
def main (args : Args) (turns : List Turn) : Option (List Block) :=
  if args.durationMs ≤ 0 ∨ args.periodMs ≤ 0 then none
  else if args.scales.isEmpty then none
  else some (trials args args.scales turns)

theorem mem_trials {args : Args} {block : Block} : ∀ {scales : List ℚ} {turns : List Turn},
    block ∈ trials args scales turns → ∃ rawScale course, block = runTrial args rawScale course
  | rawScale :: scales, turn :: turns, h => by
    rw [trials] at h
    split at h
    · rcases List.mem_cons.mp h with rfl | h
      · exact ⟨_, _, rfl⟩
      · exact mem_trials h
    · rw [List.mem_singleton.mp h]
      exact ⟨_, _, rfl⟩
  | [], _, h => by
    rw [trials] at h
    · cases h
    · rintro _ _ _ _ ⟨⟩
  | _ :: _, [], h => by
    rw [trials] at h
    · cases h
    · rintro _ _ _ _ _ ⟨⟩

end CharacterizeStartup

/-- A run of one of the two. -/
inductive SenderRun where
  | sendVelocity (args : SendVelocity.Args) (course : Course)
  | characterizeStartup (args : CharacterizeStartup.Args) (turns : List CharacterizeStartup.Turn)

/-- Its session. -/
def SenderRun.session : SenderRun → Option (List Block)
  | .sendVelocity args course => SendVelocity.main args course
  | .characterizeStartup args turns => CharacterizeStartup.main args turns

/-- **All commands of a session are normalized.** -/
theorem session_normalized {run : SenderRun} {blocks : List Block} (h : run.session = some blocks)
    {block : Block} (hblock : block ∈ blocks) : Normalized block.values := by
  cases run with
  | sendVelocity args course =>
    change SendVelocity.main args course = some blocks at h
    unfold SendVelocity.main at h
    split_ifs at h
    obtain rfl := Option.some.inj h
    rw [List.mem_singleton.mp hblock]
    exact sendVelocity_normalized args.values
  | characterizeStartup args turns =>
    change CharacterizeStartup.main args turns = some blocks at h
    unfold CharacterizeStartup.main at h
    split_ifs at h
    obtain rfl := Option.some.inj h
    obtain ⟨rawScale, course, rfl⟩ := CharacterizeStartup.mem_trials hblock
    exact startup_normalized args.direction rawScale

theorem stop_normalized : Normalized stopValues :=
  ⟨⟨by norm_num [stopValues], by norm_num [stopValues]⟩,
    ⟨by norm_num [stopValues], by norm_num [stopValues]⟩,
    ⟨by norm_num [stopValues], by norm_num [stopValues]⟩⟩

/-- A sending is a stop, or a command of a block that was tested before the deadline. -/
theorem mem_sent {blocks : List Block} {sending : Sending} (h : sending ∈ sent blocks) :
    sending = ⟨stopValues, none⟩ ∨
      ∃ block ∈ blocks, ∃ c, c < block.deadlineS ∧ sending = ⟨block.values, some c⟩ := by
  obtain ⟨block, hblock, hmem⟩ := List.mem_flatMap.mp h
  rcases List.mem_append.mp hmem with hcommand | hstop
  · obtain ⟨c, hc, rfl⟩ := List.mem_map.mp hcommand
    have hearly := List.mem_takeWhile_imp (p := fun c => decide (c < block.deadlineS)) hc
    exact Or.inr ⟨block, hblock, c, of_decide_eq_true hearly, rfl⟩
  · exact Or.inl (List.eq_of_mem_replicate hstop)

/-! ## 2. What the daemon makes of a payload -/

/-- A payload fits the buffer, and has no NUL in it. -/
theorem commandText_payload {values : ChassisCommand ℚ} (h : Normalized values) :
    commandText (SendVelocity.sendCommand values) = SendVelocity.sendCommand values := by
  have hforward := formatFixed_length h.forward
  have hstrafe := formatFixed_length h.strafe
  have hrotate := formatFixed_length h.rotate
  have hshort : (SendVelocity.sendCommand values).length ≤ commandBufferSize - 1 := by
    unfold SendVelocity.sendCommand velocityLine commandBufferSize
    simp only [List.length_append, List.length_cons, List.length_nil]
    omega
  have hline := (velocityCommand values).commandText
  exact hline.trans (List.take_of_length_le hshort)

/-- **A payload scans as three numbers**: those that it shows. -/
theorem sscanf_payload {values : ChassisCommand ℚ} (h : Normalized values) :
    sscanfCommand finitePart (commandText (SendVelocity.sendCommand values)) =
      ⟨3, printed 4 values.forward, printed 4 values.strafe, printed 4 values.rotate⟩ := by
  have hread : ∀ v, readFloat (formatFixed 4 v) = some (.finite (printed 4 v)) := fun v =>
    readFloat_of_readDecimal (readDecimal_formatFixed 4 v)
  have hblank : ∀ t, Breaks ([32] ++ t) := breaks_of_white rfl (List.cons_ne_nil _ _)
  have hx := scanFloat_token (w := []) rfl (hread values.forward)
    (hblank (formatFixed 4 values.strafe ++ ([32] ++ (formatFixed 4 values.rotate ++ [10]))))
  have hy := scanFloat_token (w := [32]) rfl (hread values.strafe)
    (hblank (formatFixed 4 values.rotate ++ [10]))
  have hz := scanFloat_token (w := [32]) rfl (hread values.rotate) (breaks_white (w := [10]) rfl)
  rw [List.nil_append] at hx
  rw [commandText_payload h]
  unfold SendVelocity.sendCommand velocityLine sscanfCommand commandFormat
  rw [scanf_number hx, scanf_number hy, scanf_number hz]
  rfl

/-- So it is a command for the daemon. -/
theorem validCommand_payload {values : ChassisCommand ℚ} (h : Normalized values) :
    validCommand (sscanfCommand finitePart) (SendVelocity.sendCommand values) = true := by
  rw [validCommand, sscanf_payload h]
  rfl

/-- A component that the zero test does not swallow is one whose field does not show zero. -/
theorem noticeable_printed {v : ℚ} (h : InUnit v) :
    0.0001 ≤ |clampFloat (printed 4 v) (-1) 1| ↔ ¬ ShowsZero (formatFixed 4 v) := by
  have hin := printed_mem 4 h.1 h.2
  have hclamp : clampFloat (printed 4 v) (-1) 1 = printed 4 v := saturate_eq_self hin.1 hin.2
  rw [hclamp, showsZero_iff, ← dead_band_printed, ofRat_rat, absFloat_rat, not_lt]

/-- **A payload drives unless all its fields show zero.** -/
theorem noticeable_payload {values : ChassisCommand ℚ} (h : Normalized values) :
    Noticeable (printed 4 values.forward) (printed 4 values.strafe) (printed 4 values.rotate) ↔
      ¬ (ShowsZero (formatFixed 4 values.forward) ∧ ShowsZero (formatFixed 4 values.strafe) ∧
        ShowsZero (formatFixed 4 values.rotate)) := by
  unfold Noticeable
  rw [noticeable_printed h.forward, noticeable_printed h.strafe, noticeable_printed h.rotate,
    not_and_or, not_and_or]

/-! ## 3. What the daemon reads -/

/-- The datagrams that a run of the daemon has read, newest first, with the loop times at which it
    did. -/
def datagramsRead (hist : List DaemonInput) : List (List UInt8 × UInt64) :=
  hist.flatMap fun i => (i.datagrams.map fun d => (d, i.nowMs)).reverse

/-- Where all of them parse, all are obeyed. -/
theorem obeyed_of_valid {sscanf : CString → ScanResult ℚ} {hist : List DaemonInput}
    (h : ∀ p ∈ datagramsRead hist, validCommand sscanf p.1 = true) :
    obeyed sscanf hist = datagramsRead hist := by
  induction hist with
  | nil => rfl
  | cons i hist ih =>
    have hall : i.datagrams.filter (validCommand sscanf) = i.datagrams := by
      refine List.filter_eq_self.mpr fun d hd => ?_
      refine h (d, i.nowMs) (List.mem_append_left _ ?_)
      exact List.mem_reverse.mpr (List.mem_map_of_mem hd)
    rw [obeyed, hall, ih fun p hp => h p (List.mem_append_right _ hp)]
    rfl

/-- The network brings nothing but copies of what was sent, and a command at most so much later than
    it was tested. Any of them may be lost, repeated, or overtaken. -/
def Delivers (delayMs : ℚ) (sent : List Sending) (read : List (List UInt8 × UInt64)) : Prop :=
  ∀ p ∈ read, ∃ sending ∈ sent, p.1 = sending.payload ∧
    ∀ c, sending.testedS = some c → (p.2.toNat : ℚ) ≤ 1000 * c + delayMs

/-- The network keeps the order; any datagram may be lost. -/
def InOrder (sent : List Sending) (read : List (List UInt8 × UInt64)) : Prop :=
  (read.reverse.map fun p => p.1).Sublist (sent.map Sending.payload)

/-- All fields show zero. -/
def ShowsStop (values : ChassisCommand ℚ) : Prop :=
  ShowsZero (formatFixed 4 values.forward) ∧ ShowsZero (formatFixed 4 values.strafe) ∧
    ShowsZero (formatFixed 4 values.rotate)

theorem stop_showsStop : ShowsStop stopValues := by
  have hzero : fixedUnits 4 0 = 0 := by decide +kernel
  exact ⟨(showsZero_iff 0).mpr hzero, (showsZero_iff 0).mpr hzero, (showsZero_iff 0).mpr hzero⟩

section Session

variable {run : SenderRun} {blocks : List Block}

theorem sent_normalized (h : run.session = some blocks) {sending : Sending}
    (hsending : sending ∈ sent blocks) : Normalized sending.values := by
  rcases mem_sent hsending with rfl | ⟨block, hblock, c, _, rfl⟩
  · exact stop_normalized
  · exact session_normalized h hblock

variable {memory : ChassisController ℚ} {maxTranslateRpm maxRotateRpm : ℚ} {initMs : UInt64}
  {waited : StampedFrames} {start : DaemonState ℚ}

/-- **Behind a frame that drives is a payload of the session**, the newest that was read. -/
theorem driven_by_sending (hsession : run.session = some blocks)
    (hentered : (daemonTool (sscanfCommand finitePart) start).Entered memory
      (daemonConfig maxTranslateRpm maxRotateRpm) initMs waited) {hist : List DaemonInput}
    {i : DaemonInput} (hread : ∀ p ∈ datagramsRead (i :: hist), ∃ sending ∈ sent blocks,
      p.1 = sending.payload)
    (hdrives : Drives ((chassisDaemon (sscanfCommand finitePart) start).answer hist i)) :
    ∃ d t, (datagramsRead (i :: hist)).head? = some (d, t) ∧ i.nowMs.toNat ≤ t.toNat + 300 ∧
      ∀ values, Normalized values → d = SendVelocity.sendCommand values → ¬ ShowsStop values := by
  have hvalid : ∀ p ∈ datagramsRead (i :: hist),
      validCommand (sscanfCommand finitePart) p.1 = true := by
    intro p hp
    obtain ⟨sending, hsending, hpayload⟩ := hread p hp
    rw [hpayload]
    exact validCommand_payload (sent_normalized hsession hsending)
  obtain ⟨⟨d, t, hhead, hage, hnoticeable⟩, _⟩ := daemon_driven hentered hdrives
  rw [obeyed_of_valid hvalid] at hhead
  refine ⟨d, t, hhead, hage, fun values hnormalized hpayload => ?_⟩
  rw [hpayload, sscanf_payload hnormalized] at hnoticeable
  exact (noticeable_payload hnormalized).mp hnoticeable

/-- **The daemon drives for a session, and no longer.** A frame with a current has a command of the
    session as the newest datagram behind it, read in the last 300 ms, and one that does not show
    zero; and it comes before the deadline of its loop, the delay of the network and these 300 ms
    are over. -/
theorem session_drives (hsession : run.session = some blocks) {waitMs : UInt64}
    {stats : DaemonStats} {polls : List WaitPoll}
    (hwait : waitForAllFeedback 1500 waitMs
      (chassisInit memory (daemonConfig maxTranslateRpm maxRotateRpm) initMs, stats) polls =
        some (true, start.controller, start.stats)) {delayMs : ℚ} {hist : List DaemonInput}
    {i : DaemonInput} (hdelivers : Delivers delayMs (sent blocks) (datagramsRead (i :: hist)))
    (hdrives : Drives ((chassisDaemon (sscanfCommand finitePart) start).answer hist i)) :
    ∃ block ∈ blocks, ∃ t, (datagramsRead (i :: hist)).head? =
        some (SendVelocity.sendCommand block.values, t) ∧
      i.nowMs.toNat ≤ t.toNat + 300 ∧ ¬ ShowsStop block.values ∧
      (i.nowMs.toNat : ℚ) < 1000 * block.deadlineS + delayMs + 300 := by
  obtain ⟨d, t, hhead, hage, hmoves⟩ := driven_by_sending hsession
    (daemon_entered (sscanfCommand finitePart) hwait)
    (fun p hp => (hdelivers p hp).imp fun _ h => ⟨h.1, h.2.1⟩) hdrives
  obtain ⟨sending, hsending, hpayload, hlate⟩ := hdelivers (d, t) (List.mem_of_mem_head? hhead)
  have hmove := hmoves sending.values (sent_normalized hsession hsending) hpayload
  rcases mem_sent hsending with rfl | ⟨block, hblock, c, hearly, rfl⟩
  · exact absurd stop_showsStop hmove
  · have hdelay := hlate c rfl
    have hage' : (i.nowMs.toNat : ℚ) ≤ t.toNat + 300 := by exact_mod_cast hage
    have hd : d = SendVelocity.sendCommand block.values := hpayload
    rw [hd] at hhead
    refine ⟨block, hblock, t, hhead, hage, hmove, ?_⟩
    linarith

/-- What was read last was sent in some block, behind no stop of it that was read. -/
theorem newest_block : ∀ {blocks : List Block} {read : List CString} {newest : CString},
    read.Sublist ((sent blocks).map Sending.payload) → read.getLast? = some newest →
    newest ≠ SendVelocity.sendCommand stopValues →
    ∃ earlier block later old n, blocks = earlier ++ block :: later ∧
      read = old ++ List.replicate (n + 1) newest ∧
      newest = SendVelocity.sendCommand block.values ∧
      old.Sublist ((sent earlier).map Sending.payload)
  | [], read, newest, hread, hlast, _ => by
    rw [List.sublist_nil.mp hread] at hlast
    cases hlast
  | block :: blocks, read, newest, hread, hlast, hmoves => by
    rw [sent, List.flatMap_cons, List.map_append] at hread
    obtain ⟨first, rest, rfl, hfirst, hrest⟩ := List.sublist_append_iff.mp hread
    rw [List.getLast?_append] at hlast
    cases hrestLast : rest.getLast? with
    | some last =>
      rw [hrestLast] at hlast
      obtain rfl : last = newest := Option.some.inj hlast
      obtain ⟨earlier, block', later, old, n, rfl, rfl, hblock, hold⟩ :=
        newest_block hrest hrestLast hmoves
      refine ⟨block :: earlier, block', later, first ++ old, n, rfl, ?_, hblock, ?_⟩
      · rw [List.append_assoc]
      · rw [sent, List.flatMap_cons, List.map_append]
        exact hfirst.append hold
    | none =>
      rw [hrestLast, Option.none_or] at hlast
      obtain rfl := List.getLast?_eq_none_iff.mp hrestLast
      rw [Block.sendings, List.map_append, List.map_replicate] at hfirst
      obtain ⟨commands, stops, rfl, hcommands, hstops⟩ := List.sublist_append_iff.mp hfirst
      rw [List.getLast?_append] at hlast
      -- no stop is the newest, so none was read
      cases hstopsLast : stops.getLast? with
      | some stop =>
        rw [hstopsLast] at hlast
        obtain rfl : stop = newest := Option.some.inj hlast
        have hmem := hstops.subset (List.mem_of_getLast? hstopsLast)
        exact absurd (List.eq_of_mem_replicate hmem) hmoves
      | none =>
        rw [hstopsLast, Option.none_or] at hlast
        obtain rfl := List.getLast?_eq_none_iff.mp hstopsLast
        have hsame : ∀ d ∈ commands, d = SendVelocity.sendCommand block.values := by
          intro d hd
          obtain ⟨sending, hsending, rfl⟩ := List.mem_map.mp (hcommands.subset hd)
          obtain ⟨c, _, rfl⟩ := List.mem_map.mp hsending
          rfl
        have hnewest := hsame newest (List.mem_of_getLast? hlast)
        obtain ⟨n, hlen⟩ : ∃ n, commands.length = n + 1 := by
          refine Nat.exists_eq_succ_of_ne_zero fun hzero => ?_
          rw [List.length_eq_zero_iff.mp hzero] at hlast
          cases hlast
        refine ⟨[], block, blocks, [], n, rfl, ?_, hnewest, List.nil_sublist _⟩
        rw [List.append_nil, List.append_nil, List.nil_append]
        refine List.eq_replicate_iff.mpr ⟨hlen, fun d hd => ?_⟩
        rw [hnewest]
        exact hsame d hd

/-- **A stop ends the motion of its loop.** Where the network keeps the order, a frame with a current
    has only commands of one loop as the newest datagrams behind it, and behind these nothing but
    what was sent in earlier loops: no stop of its own loop, and nothing of a later one. -/
theorem stop_ends_motion (hsession : run.session = some blocks) {waitMs : UInt64}
    {stats : DaemonStats} {polls : List WaitPoll}
    (hwait : waitForAllFeedback 1500 waitMs
      (chassisInit memory (daemonConfig maxTranslateRpm maxRotateRpm) initMs, stats) polls =
        some (true, start.controller, start.stats)) {hist : List DaemonInput} {i : DaemonInput}
    (horder : InOrder (sent blocks) (datagramsRead (i :: hist)))
    (hdrives : Drives ((chassisDaemon (sscanfCommand finitePart) start).answer hist i)) :
    ∃ earlier block later old n, blocks = earlier ++ block :: later ∧ ¬ ShowsStop block.values ∧
      ((datagramsRead (i :: hist)).reverse.map fun p => p.1) =
        old ++ List.replicate (n + 1) (SendVelocity.sendCommand block.values) ∧
      old.Sublist ((sent earlier).map Sending.payload) := by
  have hread : ∀ p ∈ datagramsRead (i :: hist), ∃ sending ∈ sent blocks,
      p.1 = sending.payload := by
    intro p hp
    have hmem := horder.subset (List.mem_map_of_mem (List.mem_reverse.mpr hp))
    obtain ⟨sending, hsending, hpayload⟩ := List.mem_map.mp hmem
    exact ⟨sending, hsending, hpayload.symm⟩
  obtain ⟨d, t, hhead, _, hmoves⟩ := driven_by_sending hsession
    (daemon_entered (sscanfCommand finitePart) hwait) hread hdrives
  have hlast : ((datagramsRead (i :: hist)).reverse.map fun p => p.1).getLast? = some d := by
    rw [List.getLast?_map, List.getLast?_reverse, hhead]
    rfl
  have hmove : d ≠ SendVelocity.sendCommand stopValues := fun h =>
    hmoves stopValues stop_normalized h stop_showsStop
  obtain ⟨earlier, block, later, old, n, rfl, hsplit, rfl, hold⟩ := newest_block horder hlast hmove
  have hnormalized := session_normalized hsession
    (List.mem_append_right earlier (List.mem_cons_self (a := block) (l := later)))
  exact ⟨earlier, block, later, old, n, rfl, hmoves _ hnormalized rfl, hsplit, hold⟩

end Session

/-- Half speed ahead for a second; one command, and the three stops. -/
def halfAhead : SenderRun :=
  .sendVelocity ⟨⟨1 / 2, 0, 0⟩, 1000, 100⟩ ⟨99 / 100, [199 / 200, 2], 3⟩

/-- What it sends. -/
def halfAheadBlock : Block := ⟨⟨1 / 2, 0, 0⟩, 1000, ⟨99 / 100, [199 / 200, 2], 3⟩⟩

theorem halfAhead_session : halfAhead.session = some [halfAheadBlock] := by
  have hvalues : SendVelocity.command ⟨1 / 2, 0, 0⟩ = ⟨1 / 2, 0, 0⟩ := by
    unfold SendVelocity.command onEach
    norm_num
  show SendVelocity.main _ _ = _
  unfold SendVelocity.main
  rw [if_neg (by decide), if_neg (by decide), hvalues]
  rfl

/-- The turn of the daemon that reads the command. -/
def halfTurn : DaemonInput := ⟨1000, [SendVelocity.sendCommand ⟨1 / 2, 0, 0⟩], [], true⟩

theorem halfTurn_drives :
    Drives ((chassisDaemon (sscanfCommand finitePart) helloStart).answer [] halfTurn) := by
  unfold Drives
  decide +kernel

/-- The command is the first that is sent. -/
theorem halfAhead_sent : ⟨⟨1 / 2, 0, 0⟩, some (199 / 200)⟩ ∈ sent [halfAheadBlock] := by
  have hearly : (199 / 200 : ℚ) ∈
      [199 / 200, 2].takeWhile (fun c => decide (c < halfAheadBlock.deadlineS)) := by decide +kernel
  refine List.mem_flatMap.mpr ⟨halfAheadBlock, List.mem_singleton_self _, ?_⟩
  exact List.mem_append_left _ (List.mem_map.mpr ⟨_, hearly, rfl⟩)

theorem halfTurn_read :
    datagramsRead [halfTurn] = [(SendVelocity.sendCommand ⟨1 / 2, 0, 0⟩, 1000)] := rfl

/-- It drives, in time. -/
theorem halfAhead_drives : ∃ block ∈ [halfAheadBlock], ∃ t, (datagramsRead [halfTurn]).head? =
      some (SendVelocity.sendCommand block.values, t) ∧
    halfTurn.nowMs.toNat ≤ t.toNat + 300 ∧ ¬ ShowsStop block.values ∧
    (halfTurn.nowMs.toNat : ℚ) < 1000 * block.deadlineS + 5 + 300 := by
  have hdelivers : Delivers 5 (sent [halfAheadBlock]) (datagramsRead [halfTurn]) := by
    intro p hp
    rw [halfTurn_read] at hp
    obtain rfl := List.mem_singleton.mp hp
    refine ⟨_, halfAhead_sent, rfl, fun c hc => ?_⟩
    obtain rfl : 199 / 200 = c := Option.some.inj hc
    decide +kernel
  exact session_drives halfAhead_session hello_waited hdelivers halfTurn_drives

/-- Two scales ahead, half speed and full speed; one command and three stops for each. -/
def twoScales : CharacterizeStartup.Args := ⟨.forward, 1000, 100, [1 / 2, 1]⟩

/-- Their loops. -/
def scaleCourses : List CharacterizeStartup.Turn :=
  [⟨⟨99 / 100, [199 / 200, 2], 3⟩, some .yes⟩, ⟨⟨3, [601 / 200, 9 / 2], 3⟩, some .no⟩]

/-- What is sent in them. -/
def scaleBlocks : List Block :=
  [CharacterizeStartup.runTrial twoScales (1 / 2) ⟨99 / 100, [199 / 200, 2], 3⟩,
    CharacterizeStartup.runTrial twoScales 1 ⟨3, [601 / 200, 9 / 2], 3⟩]

theorem twoScales_session :
    (SenderRun.characterizeStartup twoScales scaleCourses).session = some scaleBlocks := by
  show CharacterizeStartup.main _ _ = _
  unfold CharacterizeStartup.main
  rw [if_neg (by decide), if_neg (by decide)]
  rfl

/-- The daemon reads the first command and one of the stops behind it; the others are lost. -/
def betweenScales : List DaemonInput :=
  [⟨2000, [SendVelocity.sendCommand stopValues], [], true⟩,
    ⟨1000, [SendVelocity.sendCommand (CharacterizeStartup.command .forward (1 / 2))], [], true⟩]

/-- Then it hears the motors again, and reads the second command. -/
def fullTurn : DaemonInput :=
  ⟨3010, [SendVelocity.sendCommand (CharacterizeStartup.command .forward 1)],
    helloFrames.map fun f => (f.1, 3005), true⟩

theorem fullTurn_drives : Drives
    ((chassisDaemon (sscanfCommand finitePart) helloStart).answer betweenScales fullTurn) := by
  unfold Drives
  decide +kernel

/-- It drives again on the second scale, with the stop of the first among what it has read. -/
theorem second_scale_drives :
    SendVelocity.sendCommand stopValues ∈
        (datagramsRead (fullTurn :: betweenScales)).map (fun p => p.1) ∧
      ∃ earlier block later old n, scaleBlocks = earlier ++ block :: later ∧
        ¬ ShowsStop block.values ∧
        ((datagramsRead (fullTurn :: betweenScales)).reverse.map fun p => p.1) =
          old ++ List.replicate (n + 1) (SendVelocity.sendCommand block.values) ∧
        old.Sublist ((sent earlier).map Sending.payload) := by
  have horder : InOrder (sent scaleBlocks) (datagramsRead (fullTurn :: betweenScales)) := by
    unfold InOrder
    decide +kernel
  exact ⟨by decide +kernel,
    stop_ends_motion twoScales_session hello_waited horder fullTurn_drives⟩

end Rk3588Chassis
