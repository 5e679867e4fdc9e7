/-
  File:      Rk3588Chassis/CommandLine.lean
  Subject:   The text of a command (`receive_commands`): what is documented, and what is accepted.

  The documentation of the daemon names one line of three numbers. `CommandLine` is such a line,
  part by part; `Numbers` is what `sscanf` makes of a text: numbers, each as long as it can be,
  with white space allowed but not required between them.

  * `sscanfCommand_cases` -- the scan succeeds exactly on the texts of three `Numbers`;
  * `numbers_take_line` -- what is left of a line when the buffer cuts it: it scans as long as
    something of the third number does;
  * `documented_line_iff` -- so for which datagrams the daemon does what is documented.
-/
import Rk3588Chassis.DaemonLoop
import Rk3588Chassis.Library.CText

set_option linter.unusedSectionVars false

namespace Rk3588Chassis

open CFloat CText Numeral

/-! ## 1. The scan -/

/-- `" %f %f %f %c"` -/
def commandFormat : List Directive :=
  [.space, .float, .space, .float, .space, .float, .space, .char]

/-- The text consists of these numbers, each as long as it can be, and white space. -/
inductive Numbers : CString → List ExtRat → Prop
  | done {w : CString} (hw : White w) : Numbers w []
  | next {w n rest : CString} {x : ExtRat} {xs : List ExtRat} (hw : White w)
      (hx : readFloat n = some x) (hlongest : LongestNumber n rest) (hrest : Numbers rest xs) :
      Numbers (w ++ (n ++ rest)) (x :: xs)

theorem numbers_nil {s : CString} : Numbers s [] ↔ White s :=
  ⟨fun h => by
    cases h
    assumption, .done⟩

theorem numbers_cons {s : CString} {x : ExtRat} {xs : List ExtRat} :
    Numbers s (x :: xs) ↔ ∃ rest, scanFloat s = some (x, rest) ∧ Numbers rest xs := by
  constructor
  · intro h
    cases h with
    | next hw hx hlongest hrest =>
      exact ⟨_, scanFloat_eq_some.mpr ⟨_, _, rfl, hw, hx, hlongest⟩, hrest⟩
  · intro hgiven
    obtain ⟨rest, hscan, hrest⟩ := hgiven
    obtain ⟨w, n, rfl, hw, hx, hlongest⟩ := scanFloat_eq_some.mp hscan
    exact .next hw hx hlongest hrest

/-- Without a conversion `sscanf` returns 0 or `EOF`. -/
theorem scanReturn_nil (ended : Bool) : scanReturn ([], ended) ≠ 3 := by
  cases ended <;> decide

section Scan

variable {F : Type} [Zero F] [Neg F] [Add F] [Sub F] [Mul F] [Div F] [LT F] [LE F] [BEq F]
  [DecidableLT F] [DecidableLE F] [CFloat F] (read : ExtRat → F)

/-- A variable of the call: what was converted for it, or its first value `0.0f`. -/
def scannedVariable (items : List Item) (k : Nat) : F :=
  match items[k]? with
  | some (.float x) => read x
  | _ => 0

/-- `sscanf(buffer, " %f %f %f %c", &forward, &strafe, &rotate, &extra)`; `read` is the `float`
    that a number is converted to. -/
def sscanfCommand (text : CString) : ScanResult F :=
  let result := scanf commandFormat text
  { parsed := scanReturn result
    forward := scannedVariable read result.1 0
    strafe := scannedVariable read result.1 1
    rotate := scannedVariable read result.1 2 }

/-- **The scan returns 3 exactly on the texts of three numbers**, and yields these. -/
theorem sscanfCommand_cases (text : CString) :
    (∃ x y z, Numbers text [x, y, z] ∧ sscanfCommand read text = ⟨3, read x, read y, read z⟩) ∨
      ((sscanfCommand read text).parsed ≠ 3 ∧ ¬ ∃ x y z, Numbers text [x, y, z]) := by
  unfold sscanfCommand commandFormat
  simp only [numbers_cons, numbers_nil]
  rcases hx : scanFloat text with - | ⟨x, rest⟩
  · refine Or.inr ⟨?_, fun h => ?_⟩
    · rw [scanf_stop hx]
      exact scanReturn_nil _
    · obtain ⟨x, y, z, _, hscan, _⟩ := h
      cases hscan
  rw [scanf_number hx]
  rcases hy : scanFloat rest with - | ⟨y, rest'⟩
  · refine Or.inr ⟨?_, fun h => ?_⟩
    · rw [scanf_stop hy]
      exact (by decide : (1 : Int32) ≠ 3)
    · obtain ⟨_, y, z, _, hscan, _, hscan', _⟩ := h
      cases hscan
      rw [hy] at hscan'
      cases hscan'
  rw [scanf_number hy]
  rcases hz : scanFloat rest' with - | ⟨z, trail⟩
  · refine Or.inr ⟨?_, fun h => ?_⟩
    · rw [scanf_stop hz]
      exact (by decide : (2 : Int32) ≠ 3)
    · obtain ⟨_, _, z, _, hscan, _, hscan', _, hscan'', _⟩ := h
      cases hscan
      rw [hy] at hscan'
      cases hscan'
      rw [hz] at hscan''
      cases hscan''
  rw [scanf_number hz, scanf]
  rcases htrail : skipSpace trail with - | ⟨c, more⟩
  · exact Or.inl ⟨x, y, z, ⟨rest, rfl, rest', hy, trail, hz, skipSpace_eq_nil.mp htrail⟩, rfl⟩
  · refine Or.inr ⟨(by decide : (4 : Int32) ≠ 3), fun h => ?_⟩
    obtain ⟨_, _, _, _, hscan, _, hscan', _, hscan'', hwhite⟩ := h
    cases hscan
    rw [hy] at hscan'
    cases hscan'
    rw [hz] at hscan''
    cases hscan''
    rw [skipSpace_eq_nil.mpr hwhite] at htrail
    cases htrail

end Scan

/-! ## 2. The documented line -/

/-- A command as it is documented: three decimal numbers separated by white space, with white space
    allowed in front and behind. -/
structure CommandLine where
  lead : CString
  forward : CString
  sep : CString
  strafe : CString
  sep' : CString
  rotate : CString
  trail : CString
  values : ChassisCommand ℚ
  white_lead : White lead
  white_sep : White sep
  white_sep' : White sep'
  white_trail : White trail
  sep_ne : sep ≠ []
  sep'_ne : sep' ≠ []
  read_forward : readDecimal forward = some values.forward
  read_strafe : readDecimal strafe = some values.strafe
  read_rotate : readDecimal rotate = some values.rotate

/-- The line as text. -/
def CommandLine.text (line : CommandLine) : CString :=
  line.lead ++ (line.forward ++ (line.sep ++ (line.strafe ++ (line.sep' ++ (line.rotate ++
    line.trail)))))

/-- How many bytes stand in front of the third number. -/
def CommandLine.front (line : CommandLine) : Nat :=
  line.lead.length + line.forward.length + (line.sep.length + line.strafe.length) +
    line.sep'.length

/-- The payload is a documented line. -/
def Documented (datagram : List UInt8) : Prop := ∃ line : CommandLine, line.text = datagram

/-- No byte of a line is NUL. -/
theorem CommandLine.text_ne_zero (line : CommandLine) : line.text.all (· != 0) = true := by
  have hspace : ∀ c, isSpace c = true → (c != 0) = true := fun c =>
    byte_cases (P := fun c => isSpace c = true → (c != 0) = true) (by decide +kernel) c
  have hwhite : ∀ {w : CString}, White w → w.all (· != 0) = true := fun hw => all_mono hspace hw
  have hnumber : ∀ {n : CString} {q : ℚ}, readDecimal n = some q → n.all (· != 0) = true :=
    fun {n q} hn => by
      refine all_mono (fun c hc => ?_) (readDecimal_bytes (s := n) (by rw [hn]; rfl))
      have hsolid := decimalByte_solid c hc
      rw [solid, Bool.and_eq_true] at hsolid
      exact hsolid.2
  simp only [CommandLine.text, List.all_append, hwhite line.white_lead, hwhite line.white_sep,
    hwhite line.white_sep', hwhite line.white_trail, hnumber line.read_forward,
    hnumber line.read_strafe, hnumber line.read_rotate, Bool.and_true]

/-- What the daemon sees of a line is what fits its buffer. -/
theorem CommandLine.commandText (line : CommandLine) :
    Rk3588Chassis.commandText line.text = line.text.take (commandBufferSize - 1) := by
  rw [Rk3588Chassis.commandText, List.takeWhile_eq_self_iff]
  intro c hc
  exact List.all_eq_true.mp line.text_ne_zero c (List.mem_of_mem_take hc)

/-! ## 3. A line cut by the buffer -/

/-- The beginning of a broken text is broken at the same place, or gone. -/
theorem breaks_take {rest : CString} (h : Breaks rest) (k : Nat) : Breaks (rest.take k) := by
  intro c hc
  rw [List.head?_take] at hc
  split at hc
  · cases hc
  · exact h c hc

theorem white_take {w : CString} (h : White w) (k : Nat) : White (w.take k) :=
  List.all_eq_true.mpr fun c hc => List.all_eq_true.mp h c (List.mem_of_mem_take hc)

/-- **A number that the cut leaves whole is scanned.** -/
theorem scan_behind {w n rest : CString} {q : ℚ} (hw : White w) (hn : readDecimal n = some q)
    (hrest : Breaks rest) {k : Nat} (hk : w.length + n.length ≤ k) :
    scanFloat ((w ++ (n ++ rest)).take k) =
      some (.finite q, rest.take (k - (w.length + n.length))) := by
  have hlead : w.length ≤ k := by omega
  have hnumber : n.length ≤ k - w.length := by omega
  rw [List.take_append, List.take_append, List.take_of_length_le hlead,
    List.take_of_length_le hnumber, Nat.sub_sub]
  exact scanFloat_token hw (readFloat_of_readDecimal hn) (breaks_take hrest _)

/-- What a cut inside a number leaves. -/
theorem take_inside {w n : CString} (rest : CString) {k : Nat} (hk : k < w.length + n.length) :
    (w ++ (n ++ rest)).take k = w.take k ++ n.take (k - w.length) := by
  have hpast : k - w.length - n.length = 0 := by omega
  rw [List.take_append, List.take_append, hpast, List.take_zero, List.append_nil]

theorem readDecimal_whole {n : CString} {q : ℚ} (hn : readDecimal n = some q) (k : Nat) :
    (readDecimal (n.take k ++ n.drop k)).isSome = true := by
  rw [List.take_append_drop, hn]
  rfl

/-- **Behind a cut number there is nothing to scan.** -/
theorem scan_inside {w n rest left : CString} {q : ℚ} {x : ExtRat} (hw : White w)
    (hn : readDecimal n = some q) {k : Nat} (hk : k < w.length + n.length)
    (h : scanFloat ((w ++ (n ++ rest)).take k) = some (x, left)) : scanFloat left = none := by
  rw [take_inside rest hk] at h
  exact scanFloat_piece_twice (readDecimal_whole hn _) (white_take hw k) h

theorem not_white_mark {c : UInt8} (hc : decimal.isMark c = true) (s : CString) :
    ¬ White (c :: s) := by
  intro hwhite
  have hspace := List.all_eq_true.mp hwhite c List.mem_cons_self
  exact absurd hspace (byte_cases (P := fun c => decimal.isMark c = true → ¬ isSpace c = true)
    (by decide +kernel) c hc)

/-- **The last number of a cut line**: what is left of it, if that is a number. -/
theorem numbers_last {w n trail : CString} {q : ℚ} (hw : White w) (hn : readDecimal n = some q)
    (htrail : White trail) (k : Nat) (z : ExtRat) :
    Numbers ((w ++ (n ++ trail)).take k) [z] ↔
      ∃ q', readDecimal (n.take (k - w.length)) = some q' ∧ z = .finite q' := by
  rw [numbers_cons]
  simp only [numbers_nil]
  rcases le_or_gt (w.length + n.length) k with hk | hk
  · have hwhole : n.take (k - w.length) = n := List.take_of_length_le (by omega)
    rw [scan_behind hw hn (breaks_white htrail) hk, hwhole, hn]
    constructor
    · intro hgiven
      obtain ⟨rest, hscan, _⟩ := hgiven
      cases hscan
      exact ⟨q, rfl, rfl⟩
    · intro hgiven
      obtain ⟨q', hq, rfl⟩ := hgiven
      cases hq
      exact ⟨_, rfl, white_take htrail _⟩
  · rw [take_inside trail hk]
    constructor
    · intro hgiven
      obtain ⟨left, hscan, hwhite⟩ := hgiven
      rcases scanFloat_piece (readDecimal_whole hn _) (white_take hw k) hscan with
        ⟨_, hread⟩ | ⟨c, t, rfl, hmark⟩
      · have hbytes := readDecimal_bytes (readDecimal_whole hn (k - w.length))
        rw [List.all_append, Bool.and_eq_true] at hbytes
        rw [readFloat_decimal hbytes.1] at hread
        obtain ⟨q', hq, rfl⟩ := Option.map_eq_some_iff.mp hread
        exact ⟨q', hq, rfl⟩
      · exact absurd hwhite (not_white_mark hmark t)
    · intro hgiven
      obtain ⟨q', hq, rfl⟩ := hgiven
      refine ⟨[], ?_, rfl⟩
      have hend : Breaks [] := nofun
      have hscan := scanFloat_token (white_take hw k) (readFloat_of_readDecimal hq) hend
      rwa [List.append_nil] at hscan

/-- **A number of a cut line that is not the last**: the cut has to leave it whole. -/
theorem numbers_next {w n rest : CString} {q : ℚ} (hw : White w) (hn : readDecimal n = some q)
    (hrest : Breaks rest) (k : Nat) (x : ExtRat) {xs : List ExtRat} (hxs : xs ≠ []) :
    Numbers ((w ++ (n ++ rest)).take k) (x :: xs) ↔ w.length + n.length ≤ k ∧ x = .finite q ∧
      Numbers (rest.take (k - (w.length + n.length))) xs := by
  rw [numbers_cons]
  rcases le_or_gt (w.length + n.length) k with hk | hk
  · rw [scan_behind hw hn hrest hk]
    constructor
    · intro hgiven
      obtain ⟨left, hscan, hleft⟩ := hgiven
      cases hscan
      exact ⟨hk, rfl, hleft⟩
    · intro hgiven
      obtain ⟨_, rfl, hleft⟩ := hgiven
      exact ⟨_, rfl, hleft⟩
  · constructor
    · intro hgiven
      obtain ⟨left, hscan, hleft⟩ := hgiven
      obtain ⟨y, ys, rfl⟩ := List.exists_cons_of_ne_nil hxs
      obtain ⟨_, hscan', _⟩ := numbers_cons.mp hleft
      rw [scan_inside hw hn hk hscan] at hscan'
      cases hscan'
    · intro hgiven
      exact absurd hgiven.1 (not_le.mpr hk)

/-- **A cut line scans as long as something of its third number does**, and the other two are as
    they were. -/
theorem numbers_take_line (line : CommandLine) (k : Nat) (x y z : ExtRat) :
    Numbers (line.text.take k) [x, y, z] ↔
      ∃ q, readDecimal (line.rotate.take (k - line.front)) = some q ∧
        x = .finite line.values.forward ∧ y = .finite line.values.strafe ∧ z = .finite q := by
  have hbreak : ∀ t, Breaks (line.sep ++ t) := breaks_of_white line.white_sep line.sep_ne
  have hbreak' : ∀ t, Breaks (line.sep' ++ t) := breaks_of_white line.white_sep' line.sep'_ne
  have hplace : k - (line.lead.length + line.forward.length) -
      (line.sep.length + line.strafe.length) - line.sep'.length = k - line.front := by
    unfold CommandLine.front
    omega
  unfold CommandLine.text
  rw [numbers_next line.white_lead line.read_forward (hbreak _) k x (List.cons_ne_nil _ _),
    numbers_next line.white_sep line.read_strafe (hbreak' _) _ y (List.cons_ne_nil _ _),
    numbers_last line.white_sep' line.read_rotate line.white_trail, hplace]
  constructor
  · intro hgiven
    obtain ⟨_, hx, _, hy, q, hq, hz⟩ := hgiven
    exact ⟨q, hq, hx, hy, hz⟩
  · intro hgiven
    obtain ⟨q, hq, hx, hy, hz⟩ := hgiven
    -- an empty text is no number, so the cut lies behind the third separator
    have hroom : k - line.front ≠ 0 := by
      intro hzero
      rw [hzero] at hq
      cases hq
    unfold CommandLine.front at hroom
    exact ⟨by omega, hx, by omega, hy, q, hq, hz⟩

/-! ## 4. What is accepted -/

section Accept

variable {F : Type} [Zero F] [Neg F] [Add F] [Sub F] [Mul F] [Div F] [LT F] [LE F] [BEq F]
  [DecidableLT F] [DecidableLE F] [CFloat F] (read : ExtRat → F)

/-- What the documentation promises for this datagram: a documented line is obeyed and counted,
    anything else is counted as invalid. -/
def HandledAsDocumented (nowMs : UInt64) (s : ChassisController F × DaemonStats)
    (datagram : List UInt8) : Prop :=
  (∀ line : CommandLine, line.text = datagram →
    receiveCommand (sscanfCommand read) nowMs s datagram =
      (chassisSetCommand s.1 (read (.finite line.values.forward))
        (read (.finite line.values.strafe)) (read (.finite line.values.rotate)) nowMs,
        { s.2 with udpCommandCount := s.2.udpCommandCount + 1 })) ∧
  (¬ Documented datagram →
    receiveCommand (sscanfCommand read) nowMs s datagram =
      (s.1, { s.2 with invalidCommandCount := s.2.invalidCommandCount + 1 }))

/-- What the buffer holds of the third number is a decimal number of the same clamped value; so it
    is if the buffer holds all of it. -/
def CommandLine.Survives (line : CommandLine) : Prop :=
  ∃ q, readDecimal (line.rotate.take (commandBufferSize - 1 - line.front)) = some q ∧
    clampFloat (read (.finite q)) (-ofRat 1) (ofRat 1) =
      clampFloat (read (.finite line.values.rotate)) (-ofRat 1) (ofRat 1)

/-- A text of three numbers is obeyed. -/
theorem receiveCommand_numbers {datagram : List UInt8} {x y z : ExtRat}
    (h : Numbers (commandText datagram) [x, y, z]) (nowMs : UInt64)
    (s : ChassisController F × DaemonStats) :
    receiveCommand (sscanfCommand read) nowMs s datagram =
      (chassisSetCommand s.1 (read x) (read y) (read z) nowMs,
        { s.2 with udpCommandCount := s.2.udpCommandCount + 1 }) := by
  rcases sscanfCommand_cases read (commandText datagram) with ⟨x', y', z', hnumbers, hscan⟩ | hno
  · -- a text has one reading
    obtain ⟨rest, hx, hrest⟩ := numbers_cons.mp h
    obtain ⟨rest', hy, hrest'⟩ := numbers_cons.mp hrest
    obtain ⟨rest'', hz, _⟩ := numbers_cons.mp hrest'
    obtain ⟨_, hx', hmore⟩ := numbers_cons.mp hnumbers
    obtain ⟨rfl, rfl⟩ := Prod.mk.inj (Option.some.inj (hx.symm.trans hx'))
    obtain ⟨_, hy', hmore'⟩ := numbers_cons.mp hmore
    obtain ⟨rfl, rfl⟩ := Prod.mk.inj (Option.some.inj (hy.symm.trans hy'))
    obtain ⟨_, hz', _⟩ := numbers_cons.mp hmore'
    obtain ⟨rfl, rfl⟩ := Prod.mk.inj (Option.some.inj (hz.symm.trans hz'))
    have hvalid : validCommand (sscanfCommand read) datagram = true := by
      rw [validCommand, hscan]
      rfl
    rw [receiveCommand_valid _ hvalid, obeyDatagram, hscan]
  · exact absurd ⟨x, y, z, h⟩ hno.2

/-- Any other is not. -/
theorem receiveCommand_other {datagram : List UInt8}
    (h : ¬ ∃ x y z, Numbers (commandText datagram) [x, y, z]) (nowMs : UInt64)
    (s : ChassisController F × DaemonStats) :
    receiveCommand (sscanfCommand read) nowMs s datagram =
      (s.1, { s.2 with invalidCommandCount := s.2.invalidCommandCount + 1 }) := by
  rcases sscanfCommand_cases read (commandText datagram) with ⟨x, y, z, hnumbers, _⟩ | ⟨hno, _⟩
  · exact absurd ⟨x, y, z, hnumbers⟩ h
  · exact receiveCommand_invalid _ (beq_false_of_ne hno) nowMs s

/-- Obeyed and rejected differ in the counters. -/
theorem obeyed_ne_rejected (stats : DaemonStats) (c c' : ChassisController F) :
    (c, { stats with udpCommandCount := stats.udpCommandCount + 1 }) ≠
      (c', { stats with invalidCommandCount := stats.invalidCommandCount + 1 }) := by
  intro h
  exact counter_ne_succ _ (congrArg (fun s => s.2.invalidCommandCount) h)

/-- **A documented line is obeyed if what the buffer holds of it survives.** -/
theorem line_obeyed_iff (nowMs : UInt64) (s : ChassisController F × DaemonStats)
    (line : CommandLine) :
    receiveCommand (sscanfCommand read) nowMs s line.text =
      (chassisSetCommand s.1 (read (.finite line.values.forward))
        (read (.finite line.values.strafe)) (read (.finite line.values.rotate)) nowMs,
        { s.2 with udpCommandCount := s.2.udpCommandCount + 1 }) ↔ line.Survives read := by
  have hnumbers : ∀ x y z, Numbers (commandText line.text) [x, y, z] ↔
      ∃ q, readDecimal (line.rotate.take (commandBufferSize - 1 - line.front)) = some q ∧
        x = .finite line.values.forward ∧ y = .finite line.values.strafe ∧ z = .finite q := by
    intro x y z
    rw [line.commandText]
    exact numbers_take_line line _ x y z
  cases hq : readDecimal (line.rotate.take (commandBufferSize - 1 - line.front)) with
  | none =>
    have hnone : ¬ ∃ x y z, Numbers (commandText line.text) [x, y, z] := by
      intro hgiven
      obtain ⟨x, y, z, h⟩ := hgiven
      obtain ⟨q, hsome, _⟩ := (hnumbers x y z).mp h
      rw [hq] at hsome
      cases hsome
    rw [receiveCommand_other read hnone]
    refine iff_of_false (fun h => obeyed_ne_rejected _ _ _ h.symm) ?_
    intro hgiven
    obtain ⟨q, hsome, _⟩ := hgiven
    rw [hq] at hsome
    cases hsome
  | some q =>
    rw [receiveCommand_numbers read ((hnumbers _ _ _).mpr ⟨q, hq, rfl, rfl, rfl⟩)]
    constructor
    · intro h
      exact ⟨q, hq, congrArg (fun s => s.1.command.rotate) h⟩
    · intro hgiven
      obtain ⟨q', hsome, hclamp⟩ := hgiven
      obtain rfl : q = q' := Option.some.inj (hq.symm.trans hsome)
      rw [chassisSetCommand, chassisSetCommand, hclamp]

/-- **The daemon does what is documented** for a documented line whose third number survives the
    buffer, and for every other datagram that is not three numbers in its first 127 bytes, up to
    the first NUL. -/
theorem documented_line_iff (nowMs : UInt64) (s : ChassisController F × DaemonStats)
    (datagram : List UInt8) :
    HandledAsDocumented read nowMs s datagram ↔
      (∀ line : CommandLine, line.text = datagram → line.Survives read) ∧
      (¬ Documented datagram → ¬ ∃ x y z, Numbers (commandText datagram) [x, y, z]) := by
  refine and_congr (forall_congr' fun line => ?_) (imp_congr_right fun _ => ?_)
  · refine imp_congr_right fun htext => ?_
    rw [← htext]
    exact line_obeyed_iff read nowMs s line
  · constructor
    · rintro h ⟨x, y, z, hnumbers⟩
      rw [receiveCommand_numbers read hnumbers] at h
      exact obeyed_ne_rejected _ _ _ h
    · exact fun h => receiveCommand_other read h nowMs s

end Accept

/-! ## 5. A glued line -/

/-- Numbers read exactly; no line of a sender spells anything else. -/
def finitePart : ExtRat → ℚ
  | .finite q => q
  | _ => 0

/-- `1-1+1`: three numbers, nothing between them. -/
def gluedCommand : List UInt8 := [49, 45, 49, 43, 49]

/-- There is white space in every documented line. -/
theorem CommandLine.has_space (line : CommandLine) : line.text.any isSpace = true := by
  obtain ⟨c, rest, hsep⟩ := List.exists_cons_of_ne_nil line.sep_ne
  have hwhite : isSpace c = true := by
    have hall := line.white_sep
    rw [hsep] at hall
    exact List.all_eq_true.mp hall c List.mem_cons_self
  refine List.any_eq_true.mpr ⟨c, ?_, hwhite⟩
  simp [CommandLine.text, hsep]

theorem glued_not_documented : ¬ Documented gluedCommand := by
  intro hgiven
  obtain ⟨line, htext⟩ := hgiven
  have hspace := line.has_space
  rw [htext] at hspace
  exact absurd hspace (by decide)

/-- It is obeyed: full speed ahead, to the left, and around. -/
theorem glued_numbers_obeyed : ¬ HandledAsDocumented finitePart 1000 helloState gluedCommand := by
  have hvalid : validCommand (sscanfCommand finitePart) gluedCommand = true := by decide +kernel
  intro h
  have hrejected := h.2 glued_not_documented
  rw [receiveCommand_valid _ hvalid] at hrejected
  exact obeyed_ne_rejected _ _ _ hrejected

/-! ## 6. A run on such lines -/

/-- `1 0 0`: full speed ahead. -/
def aheadLine : List UInt8 := [49, 32, 48, 32, 48]

/-- That line at 1000 ms, garbage at 1301 ms: the second frame is zero. -/
theorem garbage_does_not_move :
    let daemon := chassisDaemon (sscanfCommand finitePart) ⟨helloState.1, helloState.2, 901⟩
    (∃ k, frameCurrent (daemon.answer [] ⟨1000, [aheadLine], [], true⟩).data k ≠ 0) ∧
      ∀ k, frameCurrent (daemon.answer [⟨1000, [aheadLine], [], true⟩]
        ⟨1301, [[120], [49, 49]], [], true⟩).data k = 0 := by
  intro daemon
  have hlast : lastValidMs (sscanfCommand finitePart) [⟨1301, [[120], [49, 49]], [], true⟩,
      ⟨1000, [aheadLine], [], true⟩] = some 1000 := by decide +kernel
  refine ⟨by decide +kernel, ((last_valid_command_wins zeroIsStill_rat lateIsLate_rat
    (sscanfCommand finitePart)).2 _ _ _ _ _ hello_entered _ _ fun t ht => ?_).2⟩
  rw [hlast] at ht
  cases ht
  decide

end Rk3588Chassis
