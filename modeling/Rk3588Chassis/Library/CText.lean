/-
  File:      Rk3588Chassis/Library/CText.lean
  Subject:   How the C library reads numbers out of a text: `%f` and `strtol`.

  A `%f` skips white space and consumes the longest prefix of what follows that spells a number:
  a decimal or hexadecimal numeral, an infinity or NaN, with an optional sign. So `scanFloat` is
  the search for that prefix, over the texts that spell a number as a whole (`readFloat`).

  * `scanFloat_eq_some` -- what a `%f` consumes, as a decomposition of the text;
  * `scanFloat_token` -- a number followed by white space, or by nothing, is consumed whole;
  * `scanFloat_piece_twice` -- in a piece of a decimal number a second `%f` finds nothing;
  * `strtol_whole` -- the texts that `strtol` consumes whole, and what it makes of them.
-/
import Rk3588Chassis.Library.ExtRat
import Rk3588Chassis.Library.Numeral
import Mathlib.Data.List.DropRight

namespace CText

open Numeral Rounding

/-! ## 1. White space -/

/-- `isspace`, in the C locale. -/
def isSpace (c : UInt8) : Bool := c == 32 || (decide (9 ≤ c.toNat) && decide (c.toNat ≤ 13))

/-- A text of white space only. -/
def White (s : Text) : Prop := s.all isSpace = true

/-- The text behind its leading white space. -/
def skipSpace (s : Text) : Text := s.dropWhile isSpace

/-- A byte that is neither white space nor NUL. -/
def solid (c : UInt8) : Bool := !isSpace c && c != 0

theorem skipSpace_white {w : Text} (h : White w) (s : Text) : skipSpace (w ++ s) = skipSpace s := by
  unfold skipSpace
  rw [List.dropWhile_append_of_pos fun c hc => List.all_eq_true.mp h c hc]

theorem skipSpace_skipSpace (s : Text) : skipSpace (skipSpace s) = skipSpace s :=
  List.dropWhile_idempotent isSpace s

theorem skipSpace_solid {c : UInt8} (h : isSpace c = false) (s : Text) :
    skipSpace (c :: s) = c :: s :=
  List.dropWhile_cons_of_neg (by rw [h]; exact Bool.false_ne_true)

/-- A text is its leading white space and the rest. -/
theorem skipSpace_split (s : Text) : ∃ w, White w ∧ s = w ++ skipSpace s :=
  ⟨s.takeWhile isSpace, List.all_eq_true.mpr fun _ hc => List.mem_takeWhile_imp hc,
    (List.takeWhile_append_dropWhile ..).symm⟩

theorem skipSpace_eq_nil {s : Text} : skipSpace s = [] ↔ White s := by
  rw [White, List.all_eq_true]
  exact List.dropWhile_eq_nil_iff

/-! ## 2. The longest prefix -/

/-- The length of the longest prefix with `p`; 0 if there is none. -/
def longestPrefix (p : Text → Bool) (s : Text) : Nat :=
  Nat.findGreatest (fun k => p (s.take k) = true) s.length

/-- **The longest prefix, as a decomposition.** -/
theorem longestPrefix_eq {p : Text → Bool} {s n rest : Text}
    (hs : s = n ++ rest) (hn : p n = true)
    (hlongest : ∀ m r, s = m ++ r → p m = true → m.length ≤ n.length) :
    longestPrefix p s = n.length := by
  subst hs
  refine Nat.findGreatest_eq_iff.mpr ⟨?_, fun _ => ?_, fun k hk hle hp => ?_⟩
  · rw [List.length_append]
    omega
  · rw [List.take_left]
    exact hn
  · have hlen := hlongest _ _ (List.take_append_drop k _).symm hp
    rw [List.length_take] at hlen
    omega

theorem longestPrefix_spec {p : Text → Bool} {s m r : Text} (hs : s = m ++ r) (hm : p m = true) :
    m.length ≤ (s.take (longestPrefix p s)).length := by
  have hle : m.length ≤ s.length := by
    rw [hs, List.length_append]
    omega
  have htake : p (s.take m.length) = true := by
    rw [hs, List.take_left]
    exact hm
  have hfound : m.length ≤ longestPrefix p s := Nat.le_findGreatest hle htake
  rw [List.length_take]
  omega

/-! ## 3. Texts that spell a number -/

/-- `tolower`. -/
def lower (c : UInt8) : UInt8 := if 65 ≤ c.toNat ∧ c.toNat ≤ 90 then c + 32 else c

/-- `inf` -/
def infWord : Text := [105, 110, 102]

/-- `infinity` -/
def infinityWord : Text := [105, 110, 102, 105, 110, 105, 116, 121]

/-- `nan` -/
def nanWord : Text := [110, 97, 110]

/-- `0x` -/
def hexPrefix : Text := [48, 120]

/-- A letter, a digit or an underscore. -/
def isWordByte (c : UInt8) : Bool :=
  isDigit c || c == 95 || (decide (97 ≤ (lower c).toNat) && decide ((lower c).toNat ≤ 122))

/-- What may follow `nan`: nothing, or a word in parentheses. -/
def isNanTail : Text → Bool
  | [] => true
  | c :: s => c == 40 && s.getLast? == some 41 && s.dropLast.all isWordByte

/-- The value of a text that spells a number, without a sign in front. -/
def readBody (s : Text) : Option ExtRat :=
  if s.map lower = infWord ∨ s.map lower = infinityWord then some (.inf false)
  else if (s.take 3).map lower = nanWord ∧ isNanTail (s.drop 3) = true then some .nan
  else if (s.take 2).map lower = hexPrefix then
    (readNumeral hexadecimal (s.drop 2)).map .finite
  else (readNumeral decimal s).map .finite

/-- The value of a text that spells a number. -/
def readFloat (s : Text) : Option ExtRat :=
  (readBody (splitSign s).2).map fun x => if (splitSign s).1 then -x else x

/-- The bytes that a decimal number holds. -/
def decimalByte (c : UInt8) : Bool := decimal.holds c

/-- A sign in front is split off and can be put back. -/
theorem splitSign_cases (s : Text) :
    (splitSign s).2 = s ∨ ∃ c, isSign c = true ∧ s = c :: (splitSign s).2 := by
  cases s with
  | nil => exact Or.inl rfl
  | cons c s =>
    rw [splitSign]
    cases hc : isSign c with
    | true => exact Or.inr ⟨c, hc, rfl⟩
    | false => exact Or.inl rfl

/-- A predicate that signs have holds of the text if it holds of what follows the sign. -/
theorem all_of_splitSign {p : UInt8 → Bool} (hp : ∀ c, isSign c = true → p c = true) {s : Text}
    (h : (splitSign s).2.all p = true) : s.all p = true := by
  rcases splitSign_cases s with hs | ⟨c, hc, hs⟩
  · rwa [hs] at h
  · rw [hs, List.all_cons, hp c hc, h]
    rfl

theorem splitSign_all {p : UInt8 → Bool} {s : Text} (h : s.all p = true) :
    (splitSign s).2.all p = true := by
  rcases splitSign_cases s with hs | ⟨c, _, hs⟩
  · rwa [hs]
  · rw [hs, List.all_cons, Bool.and_eq_true] at h
    exact h.2

/-- The sign is that of the first byte. -/
theorem splitSign_append {n : Text} (hn : n ≠ []) (t : Text) :
    splitSign (n ++ t) = ((splitSign n).1, (splitSign n).2 ++ t) := by
  obtain ⟨c, s, rfl⟩ := List.exists_cons_of_ne_nil hn
  rw [List.cons_append, splitSign, splitSign]
  split <;> rfl

/-- What holds of all 256 bytes. -/
theorem byte_cases {P : UInt8 → Prop} (h : ∀ n, n < 256 → P (UInt8.ofNat n)) (c : UInt8) : P c := by
  have hc := h c.toNat c.toNat_lt
  rwa [UInt8.ofNat_toNat] at hc

/-- None of the bytes of a decimal number occurs where the words and `0x` have their letter. -/
theorem decimalByte_lower (c : UInt8) (h : decimalByte c = true) :
    lower c ≠ 105 ∧ lower c ≠ 110 ∧ lower c ≠ 120 := by
  revert h
  exact byte_cases (P := fun c => decimalByte c = true →
    lower c ≠ 105 ∧ lower c ≠ 110 ∧ lower c ≠ 120) (by decide +kernel) c

theorem decimalByte_solid (c : UInt8) (h : decimalByte c = true) : solid c = true := by
  revert h
  exact byte_cases (P := fun c => decimalByte c = true → solid c = true) (by decide +kernel) c

theorem hexByte_solid (c : UInt8) (h : hexadecimal.holds c = true) : solid c = true := by
  revert h
  exact byte_cases (P := fun c => hexadecimal.holds c = true → solid c = true) (by decide +kernel) c

theorem wordByte_solid (c : UInt8) (h : isWordByte c = true) : solid c = true := by
  revert h
  exact byte_cases (P := fun c => isWordByte c = true → solid c = true) (by decide +kernel) c

theorem solid_of_lower (c : UInt8) (h : solid (lower c) = true) : solid c = true := by
  revert h
  exact byte_cases (P := fun c => solid (lower c) = true → solid c = true) (by decide +kernel) c

theorem sign_solid (c : UInt8) (h : isSign c = true) : solid c = true := by
  revert h
  exact byte_cases (P := fun c => isSign c = true → solid c = true) (by decide +kernel) c

theorem sign_decimal (c : UInt8) (h : isSign c = true) : decimalByte c = true := by
  revert h
  exact byte_cases (P := fun c => isSign c = true → decimalByte c = true) (by decide +kernel) c

theorem all_mono {p q : UInt8 → Bool} (h : ∀ c, p c = true → q c = true) {s : Text}
    (hs : s.all p = true) : s.all q = true :=
  List.all_eq_true.mpr fun c hc => h c (List.all_eq_true.mp hs c hc)

/-- **Over the bytes of decimal numbers, `%f` knows decimal numbers only.** -/
theorem readBody_decimal {s : Text} (h : s.all decimalByte = true) :
    readBody s = (readNumeral decimal s).map .finite := by
  have hword : ¬ (s.map lower = infWord ∨ s.map lower = infinityWord) := by
    cases s with
    | nil => exact fun hw => hw.elim nofun nofun
    | cons c s =>
      have hc := (decimalByte_lower c (List.all_eq_true.mp h c List.mem_cons_self)).1
      rintro (hw | hw) <;> exact hc (List.cons.inj hw).1
  have hnan : ¬ ((s.take 3).map lower = nanWord ∧ isNanTail (s.drop 3) = true) := by
    cases s with
    | nil => exact fun hw => nomatch hw.1
    | cons c s =>
      have hc := (decimalByte_lower c (List.all_eq_true.mp h c List.mem_cons_self)).2.1
      exact fun hw => hc (List.cons.inj hw.1).1
  have hhex : ¬ (s.take 2).map lower = hexPrefix := by
    rcases s with - | ⟨c, - | ⟨d, s⟩⟩
    · nofun
    · exact fun hw => nomatch (List.cons.inj hw).2
    · have hd := (decimalByte_lower d (List.all_eq_true.mp h d
        (List.mem_cons_of_mem c List.mem_cons_self))).2.2
      exact fun hw => hd (List.cons.inj (List.cons.inj hw).2).1
  rw [readBody, if_neg hword, if_neg hnan, if_neg hhex]

theorem readFloat_decimal {s : Text} (h : s.all decimalByte = true) :
    readFloat s = (readDecimal s).map .finite := by
  rw [readFloat, readBody_decimal (splitSign_all h), readDecimal]
  cases readNumeral decimal (splitSign s).2 with
  | none => rfl
  | some q => cases (splitSign s).1 <;> rfl

theorem readDecimal_bytes {s : Text} (h : (readDecimal s).isSome = true) :
    s.all decimalByte = true := by
  rw [readDecimal, Option.isSome_map] at h
  exact all_of_splitSign sign_decimal (readNumeral_bytes h)

/-- **A decimal number is read as its value.** -/
theorem readFloat_of_readDecimal {s : Text} {q : ℚ} (h : readDecimal s = some q) :
    readFloat s = some (.finite q) := by
  rw [readFloat_decimal (readDecimal_bytes (by rw [h]; rfl)), h]
  rfl

theorem isNanTail_solid {s : Text} (h : isNanTail s = true) : s.all solid = true := by
  cases s with
  | nil => rfl
  | cons c s =>
    rw [isNanTail, Bool.and_eq_true, Bool.and_eq_true, beq_iff_eq, beq_iff_eq] at h
    obtain ⟨⟨rfl, hlast⟩, hword⟩ := h
    have hsplit := List.dropLast_append_getLast? 41 hlast
    rw [List.all_cons, ← hsplit, List.all_append, all_mono wordByte_solid hword]
    rfl

theorem readBody_solid {s : Text} (h : (readBody s).isSome = true) : s.all solid = true := by
  have hlower : ∀ {t : Text}, (t.map lower).all solid = true → t.all solid = true := fun {t} ht => by
    rw [List.all_map] at ht
    exact all_mono solid_of_lower ht
  unfold readBody at h
  split_ifs at h with hword hnan hhex
  · rcases hword with hw | hw <;> exact hlower (by rw [hw]; decide)
  · have hfront : (s.take 3).all solid = true := hlower (by rw [hnan.1]; decide)
    rw [← List.take_append_drop 3 s, List.all_append, hfront, isNanTail_solid hnan.2]
    rfl
  · have hfront : (s.take 2).all solid = true := hlower (by rw [hhex]; decide)
    rw [Option.isSome_map] at h
    rw [← List.take_append_drop 2 s, List.all_append, hfront,
      all_mono hexByte_solid (readNumeral_bytes h)]
    rfl
  · rw [Option.isSome_map] at h
    exact all_mono decimalByte_solid (readNumeral_bytes h)

/-- **A number holds neither white space nor NUL.** -/
theorem readFloat_solid {s : Text} (h : (readFloat s).isSome = true) : s.all solid = true := by
  rw [readFloat, Option.isSome_map] at h
  exact all_of_splitSign sign_solid (readBody_solid h)

theorem readFloat_ne_nil {s : Text} (h : (readFloat s).isSome = true) : s ≠ [] := by
  rintro rfl
  cases h

/-- The same with an optional sign in front: a decimal number inside a longer one grows by the next
    byte, unless that is an exponent mark. -/
theorem readDecimal_append {n s : Text} {c : UInt8} (hn : (readDecimal n).isSome = true)
    (hlong : (readDecimal (n ++ c :: s)).isSome = true) :
    (readDecimal (n ++ [c])).isSome = true ∨ decimal.isMark c = true := by
  have hne : n ≠ [] := by
    rintro rfl
    cases hn
  rw [readDecimal, Option.isSome_map] at hn hlong ⊢
  rw [splitSign_append hne] at hlong ⊢
  exact readNumeral_append hn hlong

/-- No number starts with an exponent mark. -/
theorem readFloat_mark {c : UInt8} (hc : decimal.isMark c = true) (s : Text) :
    readFloat (c :: s) = none := by
  have hmark : c = 69 ∨ c = 101 := by
    rw [decimal, Bool.or_eq_true, beq_iff_eq, beq_iff_eq] at hc
    exact hc
  have hnumeral : readNumeral decimal (c :: s) = none := by
    rw [← Option.not_isSome_iff_eq_none]
    intro h
    obtain ⟨_, _, heq, hhead⟩ := readNumeral_head h
    obtain ⟨rfl, _⟩ := List.cons.inj heq
    rcases hmark with rfl | rfl <;> exact absurd hhead (by decide)
  have hbody : readBody (c :: s) = none := by
    have hword : ¬ ((c :: s).map lower = infWord ∨ (c :: s).map lower = infinityWord) := by
      rintro (hw | hw) <;> have hc := (List.cons.inj hw).1 <;> rcases hmark with rfl | rfl <;>
        exact absurd hc (by decide)
    have hnan : ¬ (((c :: s).take 3).map lower = nanWord ∧ isNanTail ((c :: s).drop 3) = true) := by
      intro hgiven
      obtain ⟨hw, _⟩ := hgiven
      have hc := (List.cons.inj hw).1
      rcases hmark with rfl | rfl <;> exact absurd hc (by decide)
    have hhex : ¬ ((c :: s).take 2).map lower = hexPrefix := by
      intro hw
      have hc := (List.cons.inj hw).1
      rcases hmark with rfl | rfl <;> exact absurd hc (by decide)
    rw [readBody, if_neg hword, if_neg hnan, if_neg hhex, hnumeral]
    rfl
  have hsign : splitSign (c :: s) = (false, c :: s) := by
    rcases hmark with rfl | rfl <;> rfl
  rw [readFloat, hsign, hbody]
  rfl

/-! ## 4. The directive `%f` -/

/-- `%f`: the number, and what is left; `none` if there is no number. -/
def scanFloat (s : Text) : Option (ExtRat × Text) :=
  let t := skipSpace s
  let k := longestPrefix (fun n => (readFloat n).isSome) t
  (readFloat (t.take k)).map fun x => (x, t.drop k)

/-- `n` is the longest number that `n ++ rest` starts with. -/
def LongestNumber (n rest : Text) : Prop :=
  ∀ m r, n ++ rest = m ++ r → (readFloat m).isSome = true → m.length ≤ n.length

/-- Solid text stays when white space is skipped. -/
theorem skipSpace_of_solid {s : Text} (h : s.all solid = true) (t : Text) (hs : s ≠ []) :
    skipSpace (s ++ t) = s ++ t := by
  obtain ⟨c, rest, rfl⟩ := List.exists_cons_of_ne_nil hs
  have hc := List.all_eq_true.mp h c List.mem_cons_self
  rw [solid, Bool.and_eq_true, Bool.not_eq_true'] at hc
  exact skipSpace_solid hc.1 _

/-- **What a `%f` consumes**: white space, and the longest number behind it. -/
theorem scanFloat_eq_some {s rest : Text} {x : ExtRat} : scanFloat s = some (x, rest) ↔
    ∃ w n, s = w ++ (n ++ rest) ∧ White w ∧ readFloat n = some x ∧ LongestNumber n rest := by
  constructor
  · intro h
    obtain ⟨y, hy, hpair⟩ := Option.map_eq_some_iff.mp h
    obtain ⟨rfl, rfl⟩ := Prod.mk.inj hpair
    obtain ⟨w, hw, hs⟩ := skipSpace_split s
    refine ⟨w, _, ?_, hw, hy, fun m r hm hnum => ?_⟩
    · rw [List.take_append_drop]
      exact hs
    · rw [List.take_append_drop] at hm
      exact longestPrefix_spec (p := fun n => (readFloat n).isSome) hm hnum
  · intro hgiven
    obtain ⟨w, n, rfl, hw, hx, hlongest⟩ := hgiven
    have hnum : (readFloat n).isSome = true := by
      rw [hx]
      rfl
    have hskip : skipSpace (w ++ (n ++ rest)) = n ++ rest := by
      rw [skipSpace_white hw, skipSpace_of_solid (readFloat_solid hnum) rest (readFloat_ne_nil hnum)]
    have hk : longestPrefix (fun n => (readFloat n).isSome) (n ++ rest) = n.length :=
      longestPrefix_eq rfl hnum hlongest
    rw [scanFloat, hskip]
    simp only [hk, List.take_left, List.drop_left, hx, Option.map_some]

/-- A text that starts with a byte no number holds, or ends. -/
def Breaks (rest : Text) : Prop := ∀ c ∈ rest.head?, solid c = false

/-- **A number that nothing solid follows is consumed whole.** -/
theorem scanFloat_token {w n rest : Text} {x : ExtRat} (hw : White w) (hx : readFloat n = some x)
    (hrest : Breaks rest) : scanFloat (w ++ (n ++ rest)) = some (x, rest) := by
  refine scanFloat_eq_some.mpr ⟨w, n, rfl, hw, hx, fun m r hm hnum => ?_⟩
  by_contra hlong
  rcases List.append_eq_append_iff.mp hm with ⟨more, rfl, hmore⟩ | ⟨more, rfl, _⟩
  · cases more with
    | nil => exact hlong (by simp)
    | cons c more =>
      have hsolid := List.all_eq_true.mp (readFloat_solid hnum) c (by simp)
      have hbreak := hrest c (by rw [hmore]; rfl)
      rw [hbreak] at hsolid
      cases hsolid
  · exact hlong (by simp)

/-- White space breaks a text. -/
theorem breaks_of_white {w : Text} (h : White w) (hne : w ≠ []) (t : Text) : Breaks (w ++ t) := by
  obtain ⟨c, s, rfl⟩ := List.exists_cons_of_ne_nil hne
  intro d hd
  obtain rfl : c = d := Option.some.inj hd
  have hc := List.all_eq_true.mp h c List.mem_cons_self
  rw [solid, hc]
  rfl

theorem breaks_white {w : Text} (h : White w) : Breaks w := by
  cases w with
  | nil => exact fun _ hd => nomatch hd
  | cons c s =>
    have hbreak := breaks_of_white h (List.cons_ne_nil c s) []
    rwa [List.append_nil] at hbreak

/-- Nothing is found where no number starts. -/
theorem scanFloat_eq_none {s : Text} (h : ∀ m r, skipSpace s = m ++ r → readFloat m = none) :
    scanFloat s = none := by
  rw [scanFloat, h _ _ (List.take_append_drop _ _).symm]
  rfl

theorem scanFloat_white {w : Text} (h : White w) : scanFloat w = none := by
  refine scanFloat_eq_none fun m r hm => ?_
  rw [skipSpace_eq_nil.mpr h] at hm
  rw [(List.nil_eq_append_iff.mp hm).1]
  rfl

theorem scanFloat_mark {c : UInt8} (hc : decimal.isMark c = true) (s : Text) :
    scanFloat (c :: s) = none := by
  have hspace : isSpace c = false := by
    have hmark : c = 69 ∨ c = 101 := by
      rw [decimal, Bool.or_eq_true, beq_iff_eq, beq_iff_eq] at hc
      exact hc
    rcases hmark with rfl | rfl <;> rfl
  refine scanFloat_eq_none fun m r hm => ?_
  rw [skipSpace_solid hspace] at hm
  cases m with
  | nil => rfl
  | cons d m =>
    obtain ⟨rfl, _⟩ := List.cons.inj hm
    exact readFloat_mark hc m

/-- **A piece of a decimal number**: it is consumed whole, as a decimal number itself, or up to an
    exponent mark. -/
theorem scanFloat_piece {w b y rest : Text} {x : ExtRat}
    (hlong : (readDecimal (b ++ y)).isSome = true) (hw : White w)
    (h : scanFloat (w ++ b) = some (x, rest)) :
    (rest = [] ∧ readFloat b = some x) ∨ ∃ c t, rest = c :: t ∧ decimal.isMark c = true := by
  obtain ⟨w', n, hs, hw', hx, hlongest⟩ := scanFloat_eq_some.mp h
  have hnum : (readFloat n).isSome = true := by
    rw [hx]
    rfl
  have hbytes := readDecimal_bytes hlong
  rw [List.all_append, Bool.and_eq_true] at hbytes
  have hb : b = n ++ rest := by
    have hleft : skipSpace (w ++ b) = b := by
      rw [skipSpace_white hw]
      cases b with
      | nil => rfl
      | cons c b =>
        have hsolid := skipSpace_of_solid (all_mono decimalByte_solid hbytes.1) [] nofun
        rwa [List.append_nil] at hsolid
    have hright : skipSpace (w ++ b) = n ++ rest := by
      rw [hs, skipSpace_white hw',
        skipSpace_of_solid (readFloat_solid hnum) rest (readFloat_ne_nil hnum)]
    exact hleft.symm.trans hright
  subst hb
  have hn : (readDecimal n).isSome = true := by
    have hdec := readFloat_decimal (s := n) (by
      rw [List.all_append, Bool.and_eq_true] at hbytes
      exact hbytes.1.1)
    rw [hdec, Option.isSome_map] at hnum
    exact hnum
  cases rest with
  | nil =>
    refine Or.inl ⟨rfl, ?_⟩
    rw [List.append_nil]
    exact hx
  | cons c t =>
    refine Or.inr ⟨c, t, rfl, ?_⟩
    rw [List.append_assoc, List.cons_append] at hlong
    rcases readDecimal_append hn hlong with hgrown | hmark
    · -- the number would not have been the longest
      obtain ⟨q, hq⟩ := Option.isSome_iff_exists.mp hgrown
      have hlen := hlongest (n ++ [c]) t (by simp) (by rw [readFloat_of_readDecimal hq]; rfl)
      rw [List.length_append, List.length_singleton] at hlen
      omega
    · exact hmark

/-- So a second `%f` finds nothing there. -/
theorem scanFloat_piece_twice {w b y rest : Text} {x : ExtRat}
    (hlong : (readDecimal (b ++ y)).isSome = true) (hw : White w)
    (h : scanFloat (w ++ b) = some (x, rest)) : scanFloat rest = none := by
  rcases scanFloat_piece hlong hw h with ⟨rfl, _⟩ | ⟨c, t, rfl, hmark⟩
  · exact scanFloat_white (w := []) rfl
  · exact scanFloat_mark hmark t

/-- A `%f` skips white space by itself. -/
theorem scanFloat_skipSpace (s : Text) : scanFloat (skipSpace s) = scanFloat s := by
  simp only [scanFloat, skipSpace_skipSpace]

/-! ## 5. `scanf` -/

/-- The directives of a format. -/
inductive Directive where
  | space
  | float
  | char

/-- What a conversion yields. -/
inductive Item where
  | float (x : ExtRat)
  | char (c : UInt8)
  deriving DecidableEq

/-- The items converted until a conversion fails, and whether there was no input left for it. -/
def scanf : List Directive → Text → List Item × Bool
  | [], _ => ([], false)
  | .space :: format, s => scanf format (skipSpace s)
  | .float :: format, s =>
    match scanFloat s with
    | none => ([], (skipSpace s).isEmpty)
    | some (x, rest) => (.float x :: (scanf format rest).1, (scanf format rest).2)
  | .char :: format, s =>
    match s with
    | [] => ([], true)
    | c :: rest => (.char c :: (scanf format rest).1, (scanf format rest).2)

/-- The return value: the number of items, or `EOF` if the input ended before the first. -/
def scanReturn (items : List Item × Bool) : Int32 :=
  if items.1 = [] ∧ items.2 = true then -1 else Int32.ofNat items.1.length

/-- One `" %f"` that converts. -/
theorem scanf_number {s rest : Text} {x : ExtRat} (h : scanFloat s = some (x, rest))
    (format : List Directive) : scanf (.space :: .float :: format) s =
      (.float x :: (scanf format rest).1, (scanf format rest).2) := by
  rw [scanf, scanf, scanFloat_skipSpace, h]

/-- One that does not. -/
theorem scanf_stop {s : Text} (h : scanFloat s = none) (format : List Directive) :
    scanf (.space :: .float :: format) s = ([], (skipSpace s).isEmpty) := by
  rw [scanf, scanf, scanFloat_skipSpace, h, skipSpace_skipSpace]

/-! ## 6. `strtof` and `strtol` -/

/-- `strtof(text, &end)`: the number, converted by `read`, and `end - text`. -/
def strtof {F : Type} (read : ExtRat → F) (s : Text) : F × Nat :=
  match scanFloat s with
  | none => (read (.finite 0), 0)
  | some (x, rest) => (read x, s.length - rest.length)

/-- `LONG_MIN`. -/
def longMin : Int := -2 ^ 63

/-- `LONG_MAX`. -/
def longMax : Int := 2 ^ 63 - 1

/-- A number with its sign. -/
def signed (negative : Bool) (n : Nat) : Int := if negative then -n else n

/-- `strtol(text, &end, 10)` on a 64-bit `long`: the value, saturated, and `end - text`. -/
def strtol (s : Text) : Int64 × Nat :=
  let (negative, t) := splitSign (skipSpace s)
  let digits := t.takeWhile isDigit
  if digits = [] then (0, 0)
  else (Int64.ofInt (saturate longMin longMax (signed negative (digitsValue digits))),
    s.length - (t.dropWhile isDigit).length)

/-- The integer that a whole text spells: optional white space, an optional sign, digits. -/
def readInteger (s : Text) : Option Int :=
  let (negative, t) := splitSign (skipSpace s)
  if t ≠ [] ∧ t.all isDigit = true then some (signed negative (digitsValue t)) else none

/-- Splitting and skipping only drop bytes. -/
theorem splitSign_skipSpace_length (s : Text) : (splitSign (skipSpace s)).2.length ≤ s.length := by
  obtain ⟨w, _, hs⟩ := skipSpace_split s
  have hskip : (skipSpace s).length ≤ s.length := by
    conv_rhs => rw [hs, List.length_append]
    omega
  rcases splitSign_cases (skipSpace s) with h | ⟨c, _, h⟩
  · rw [h]
    exact hskip
  · have hlen := congrArg List.length h
    rw [List.length_cons] at hlen
    omega

/-- **The texts `strtol` consumes whole**, and what it makes of them: the integer they spell,
    saturated. -/
theorem strtol_whole (s : Text) :
    (if (strtol s).2 = 0 ∨ (strtol s).2 < s.length then none else some (strtol s).1) =
      (readInteger s).map fun v => Int64.ofInt (saturate longMin longMax v) := by
  have hlen := splitSign_skipSpace_length s
  unfold strtol readInteger
  generalize splitSign (skipSpace s) = signAndRest at hlen ⊢
  obtain ⟨negative, t⟩ := signAndRest
  simp only at hlen ⊢
  have hsplit := List.takeWhile_append_dropWhile (p := isDigit) (l := t)
  have hparts := congrArg List.length hsplit
  rw [List.length_append] at hparts
  by_cases hnone : t.takeWhile isDigit = []
  · -- no digit where the number should start
    have hno : ¬ (t ≠ [] ∧ t.all isDigit = true) := by
      intro hgiven
      obtain ⟨hne, hall⟩ := hgiven
      rw [List.takeWhile_eq_self_iff.mpr (List.all_eq_true.mp hall)] at hnone
      exact hne hnone
    rw [if_pos hnone, if_neg hno]
    rfl
  · rw [if_neg hnone]
    have hpos : 0 < (t.takeWhile isDigit).length := List.length_pos_iff.mpr hnone
    by_cases hall : t.all isDigit = true
    · have htake := List.takeWhile_eq_self_iff.mpr (List.all_eq_true.mp hall)
      have hdrop : t.dropWhile isDigit = [] :=
        List.dropWhile_eq_nil_iff.mpr (List.all_eq_true.mp hall)
      have hne : t ≠ [] := by
        rintro rfl
        exact hnone rfl
      have hwhole : ¬ (s.length - (t.dropWhile isDigit).length = 0 ∨
          s.length - (t.dropWhile isDigit).length < s.length) := by
        rw [hdrop, List.length_nil]
        omega
      rw [if_neg hwhole, if_pos ⟨hne, hall⟩, htake]
      rfl
    · -- something behind the digits
      have hrest : 0 < (t.dropWhile isDigit).length := by
        rw [List.length_pos_iff]
        intro hnil
        exact hall (List.all_eq_true.mpr (List.dropWhile_eq_nil_iff.mp hnil))
      have hpart : s.length - (t.dropWhile isDigit).length = 0 ∨
          s.length - (t.dropWhile isDigit).length < s.length := Or.inr (by omega)
      rw [if_pos hpart, if_neg fun h => hall h.2]
      rfl

end CText
