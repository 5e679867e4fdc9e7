/-
  File:      Rk3588Chassis/Library/PatternReads.lean
  Subject:   What a pattern finds in a text that was written for it.

  `Reads a s groups rest` says that the first way of `a` at the head of `s` takes `groups` and
  leaves `rest`. Where the text is laid out as the pattern is, every part reads its piece at once,
  and the way of a sequence is put together from those of its parts: no backtracking.

  `Clear a t` says that `a` begins nowhere in `t`, whatever stands behind: a search passes over it.

  * `reads_seq`, `reads_many`, `reads_group` -- the rules for the parts;
  * `ways_takes`, `ways_stop` -- how far a pattern can come;
  * `clear_literal`, `clear_of_not_mem`, `clear_unmarked` -- texts that a pattern with a fixed
    head passes over;
  * `search_clear`, `search_reads`, `findFrom_clear`, `findFrom_reads` -- and what a search finds.
-/
import Rk3588Chassis.Library.Pattern

namespace Pattern

variable {G : Type*} {a b : Pattern G} {s t rest mid : List Char} {groups groups' : Groups G}

/-! ## 1. The first way -/

/-- The first way of a pattern at the head of a text. -/
def Reads (a : Pattern G) (s : List Char) (groups : Groups G) (rest : List Char) : Prop :=
  (a.ways s).head? = some (groups, rest)

theorem reads_text (t rest : List Char) : Reads (G := G) (.text t) (t ++ rest) [] rest := by
  unfold Reads ways
  rw [if_pos (List.prefix_append t rest), List.drop_left]
  rfl

theorem reads_nil (s : List Char) : Reads (G := G) (.text []) s [] s := reads_text [] s

/-- The longest run comes first. -/
theorem behind_head {p : Char → Bool} {run : List Char} (hrun : ∀ c ∈ run, p c = true)
    (hne : run ≠ []) (hstop : ∀ c ∈ rest.head?, p c = false) :
    (behind p (run ++ rest)).head? = some rest := by
  induction run with
  | nil => exact absurd rfl hne
  | cons c run ih =>
    rw [List.cons_append, behind, if_pos (hrun c List.mem_cons_self)]
    cases run with
    | nil =>
      have hnone : behind p rest = [] := by
        cases rest with
        | nil => rfl
        | cons d rest =>
          rw [behind, hstop d rfl]
          rfl
      rw [List.nil_append, hnone]
      rfl
    | cons d run =>
      rw [List.head?_append, ih (fun e he => hrun e (List.mem_cons_of_mem c he))
        (List.cons_ne_nil d run)]
      rfl

/-- A run of a class, up to a character that is not in it. -/
theorem reads_many {p : Char → Bool} {run : List Char} (hrun : ∀ c ∈ run, p c = true)
    (hne : run ≠ []) (hstop : ∀ c ∈ rest.head?, p c = false) :
    Reads (G := G) (.many p) (run ++ rest) [] rest := by
  unfold Reads ways
  rw [List.head?_map, behind_head hrun hne hstop]
  rfl

theorem reads_maybe (h : Reads a s groups rest) : Reads (.maybe a) s groups rest := by
  unfold Reads ways
  rw [List.head?_append, show (a.ways s).head? = _ from h]
  rfl

/-- What is not there is left out. -/
theorem reads_maybe_none (h : a.ways s = []) : Reads (.maybe a) s [] s := by
  unfold Reads ways
  rw [h]
  rfl

theorem reads_left (h : Reads a s groups rest) : Reads (.either a b) s groups rest := by
  unfold Reads ways
  rw [List.head?_append, show (a.ways s).head? = _ from h]
  rfl

theorem reads_right (ha : a.ways s = []) (hb : Reads b s groups rest) :
    Reads (.either a b) s groups rest := by
  unfold Reads ways
  rw [ha]
  exact hb

/-- **A sequence reads as its parts do.** -/
theorem reads_seq (ha : Reads a s groups mid) (hb : Reads b mid groups' rest) :
    Reads (.seq a b) s (groups ++ groups') rest := by
  unfold Reads at ha hb ⊢
  unfold ways
  cases hways : a.ways s with
  | nil =>
    rw [hways] at ha
    cases ha
  | cons w ws =>
    rw [hways] at ha
    cases ha
    rw [List.flatMap_cons, List.head?_append, List.head?_map, hb]
    rfl

/-- A group holds what its pattern has read. -/
theorem reads_group {g : G} {piece : List Char} (h : Reads a (piece ++ rest) groups rest) :
    Reads (.group g a) (piece ++ rest) ((g, piece) :: groups) rest := by
  unfold Reads at h ⊢
  unfold ways
  rw [List.head?_map, h, Option.map_some, List.length_append, Nat.add_sub_cancel,
    List.take_left]

/-! ## 2. Texts without a match at their head -/

/-- A fixed text that the text does not begin with. -/
theorem ways_text_nil (h : ¬ t <+: s) : (.text t : Pattern G).ways s = [] := if_neg h

/-- Two texts that begin with different characters. -/
theorem ways_text_head {c d : Char} (ht : t.head? = some c) (hs : s.head? = some d) (hne : c ≠ d) :
    (.text t : Pattern G).ways s = [] := by
  refine ways_text_nil fun hprefix => hne ?_
  obtain ⟨tail, rfl⟩ := hprefix
  rw [List.head?_append, ht, Option.some_or] at hs
  exact Option.some.inj hs

/-- No character of the class. -/
theorem ways_many_nil {p : Char → Bool} (h : ∀ c ∈ s.head?, p c = false) :
    (.many p : Pattern G).ways s = [] := by
  unfold ways
  cases s with
  | nil => rfl
  | cons c s =>
    rw [behind, h c rfl]
    rfl

/-- A sequence whose first part has no way. -/
theorem ways_seq_nil (h : a.ways s = []) : (.seq a b : Pattern G).ways s = [] := by
  unfold ways
  rw [h]
  rfl

/-- A sequence whose first part has one way, and the second none behind it. -/
theorem ways_seq_stuck (ha : a.ways s = [(groups, mid)]) (hb : b.ways mid = []) :
    (.seq a b : Pattern G).ways s = [] := by
  unfold ways
  rw [ha, List.flatMap_singleton, hb]
  rfl

/-- A fixed text has one way, where it stands. -/
theorem ways_text_one (t rest : List Char) :
    (.text t : Pattern G).ways (t ++ rest) = [([], rest)] := by
  unfold ways
  rw [if_pos (List.prefix_append t rest), List.drop_left]

/-- One character of a class, and then one that is not in it. -/
theorem ways_many_one {p : Char → Bool} {c : Char} (hc : p c = true)
    (hstop : ∀ d ∈ rest.head?, p d = false) :
    (.many p : Pattern G).ways (c :: rest) = [([], rest)] := by
  have hnone := ways_many_nil (G := G) hstop
  unfold ways at hnone ⊢
  rw [behind, if_pos hc, List.map_append, hnone]
  rfl

/-- A pattern with a fixed head. -/
theorem ways_headed_nil (h : ¬ t <+: s) : (.seq (.text t) b : Pattern G).ways s = [] :=
  ways_seq_nil (ways_text_nil h)

/-- A sequence whose second part is stuck behind every way of the first. -/
theorem ways_seq_blocked (h : ∀ w ∈ a.ways s, b.ways w.2 = []) : (.seq a b : Pattern G).ways s = [] := by
  unfold ways
  refine List.flatMap_eq_nil_iff.mpr fun w hw => ?_
  rw [h w hw]
  rfl

/-- The characters that a pattern can take. -/
def Takes : Pattern G → Char → Prop
  | .text t, c => c ∈ t
  | .many p, c => p c = true
  | .maybe a, c => a.Takes c
  | .either a b, c => a.Takes c ∨ b.Takes c
  | .seq a b, c => a.Takes c ∨ b.Takes c
  | .group _ a, c => a.Takes c

theorem behind_takes {p : Char → Bool} (h : rest ∈ behind p s) :
    ∃ piece, s = piece ++ rest ∧ ∀ c ∈ piece, p c = true := by
  induction s with
  | nil => cases h
  | cons c s ih =>
    rw [behind] at h
    split at h
    · rename_i hc
      have hone : ∀ d ∈ [c], p d = true := fun d hd => List.mem_singleton.mp hd ▸ hc
      rcases List.mem_append.mp h with h | h
      · obtain ⟨piece, rfl, hpiece⟩ := ih h
        exact ⟨c :: piece, rfl, List.forall_mem_cons.mpr ⟨hc, hpiece⟩⟩
      · rw [List.mem_singleton.mp h]
        exact ⟨[c], rfl, hone⟩
    · cases h

/-- **What a way has taken are characters that its pattern can take.** -/
theorem ways_takes {w : Groups G × List Char} (h : w ∈ a.ways s) :
    ∃ piece, s = piece ++ w.2 ∧ ∀ c ∈ piece, a.Takes c := by
  induction a generalizing s w with
  | text t =>
    rw [ways] at h
    split at h
    · rename_i hprefix
      rw [List.mem_singleton.mp h]
      obtain ⟨rest, rfl⟩ := hprefix
      exact ⟨t, by rw [List.drop_left], fun _ hc => hc⟩
    · cases h
  | many p =>
    obtain ⟨rest, hrest, rfl⟩ := List.mem_map.mp h
    exact behind_takes hrest
  | maybe a ih =>
    rcases List.mem_append.mp h with h | h
    · exact ih h
    · rw [List.mem_singleton.mp h]
      exact ⟨[], rfl, fun _ hc => nomatch hc⟩
  | either a b iha ihb =>
    rcases List.mem_append.mp h with h | h
    · obtain ⟨piece, hs, hpiece⟩ := iha h
      exact ⟨piece, hs, fun c hc => Or.inl (hpiece c hc)⟩
    · obtain ⟨piece, hs, hpiece⟩ := ihb h
      exact ⟨piece, hs, fun c hc => Or.inr (hpiece c hc)⟩
  | seq a b iha ihb =>
    obtain ⟨u, hu, hmap⟩ := List.mem_flatMap.mp h
    obtain ⟨v, hv, rfl⟩ := List.mem_map.mp hmap
    obtain ⟨front, rfl, hfront⟩ := iha hu
    obtain ⟨back, hback, htakes⟩ := ihb hv
    refine ⟨front ++ back, by rw [List.append_assoc, ← hback], fun c hc => ?_⟩
    rcases List.mem_append.mp hc with hc | hc
    · exact Or.inl (hfront c hc)
    · exact Or.inr (htakes c hc)
  | group g a ih =>
    obtain ⟨u, hu, rfl⟩ := List.mem_map.mp h
    obtain ⟨piece, hs, hpiece⟩ := ih hu
    exact ⟨piece, hs, hpiece⟩

/-- **No way leads past a character that the pattern cannot take.** -/
theorem ways_stop {stop : Char} {front : List Char} {w : Groups G × List Char}
    (hstop : ¬ a.Takes stop) (h : w ∈ a.ways (front ++ stop :: rest)) :
    ∃ tail, tail <:+ front ∧ w.2 = tail ++ stop :: rest := by
  obtain ⟨piece, hs, hpiece⟩ := ways_takes h
  rcases List.append_eq_append_iff.mp hs with ⟨extra, hpieceEq, hover⟩ | ⟨tail, hfront, hw⟩
  · cases extra with
    | nil => exact ⟨[], List.nil_suffix, hover.symm⟩
    | cons c extra =>
      obtain ⟨rfl, _⟩ := List.cons.inj hover
      refine absurd (hpiece stop ?_) hstop
      rw [hpieceEq]
      exact List.mem_append_right front List.mem_cons_self
  · exact ⟨tail, ⟨piece, hfront.symm⟩, hw⟩

/-- What is not there is left out, and nothing else can be. -/
theorem ways_maybe_none (h : a.ways s = []) : (.maybe a : Pattern G).ways s = [([], s)] := by
  rw [ways, h]
  rfl

/-- A piece and then at least one character of a class: where the class begins only at the end of the
    piece, and the pattern behind it is stuck there, it is stuck all in all. -/
theorem ways_run_stuck {p : Char → Bool} {front : List Char} {stop d : Char}
    (hstop : ¬ a.Takes stop) (hp : p stop = true) (hfront : ∀ c ∈ front, p c = false)
    (hd : p d = false) (hb : b.ways (d :: rest) = []) :
    (.seq a (.seq (.many p) b) : Pattern G).ways (front ++ stop :: d :: rest) = [] := by
  refine ways_seq_blocked fun w hw => ?_
  obtain ⟨tail, htail, hrest⟩ := ways_stop hstop hw
  rw [hrest]
  cases tail with
  | nil =>
    refine ways_seq_stuck (ways_many_one hp fun c hc => ?_) hb
    obtain rfl := Option.some.inj hc
    exact hd
  | cons c tail =>
    refine ways_seq_nil (ways_many_nil fun e he => ?_)
    obtain rfl := Option.some.inj he
    exact hfront c (htail.subset List.mem_cons_self)

/-- A text whose first characters are known does not begin with another text of that length. -/
theorem not_prefix_append (h : t.isPrefixOf s = false) (hlen : t.length ≤ s.length)
    (rest : List Char) : ¬ t <+: s ++ rest := by
  intro hprefix
  have hshort := List.prefix_of_prefix_length_le hprefix (List.prefix_append s rest) hlen
  rw [List.isPrefixOf_iff_prefix.mpr hshort] at h
  cases h

/-! ## 3. Texts to pass over -/

/-- The pattern begins nowhere in the text, whatever stands behind it. -/
def Clear (a : Pattern G) (t : List Char) : Prop :=
  ∀ u, u <:+ t → u ≠ [] → ∀ rest, a.ways (u ++ rest) = []

theorem clear_nil (a : Pattern G) : Clear a [] :=
  fun _ hu hne => absurd (List.suffix_nil.mp hu) hne

theorem clear_cons {c : Char} (hc : ∀ rest, a.ways (c :: t ++ rest) = []) (ht : Clear a t) :
    Clear a (c :: t) := by
  intro u hu hne rest
  rcases List.suffix_cons_iff.mp hu with rfl | hu
  · exact hc rest
  · exact ht u hu hne rest

/-- **One text behind another.** -/
theorem clear_append {t' : List Char} (h : Clear a t) (h' : Clear a t') : Clear a (t ++ t') := by
  induction t with
  | nil => exact h'
  | cons c t ih =>
    refine clear_cons (fun rest => ?_) (ih fun u hu => h u (hu.trans (List.suffix_cons c t)))
    have hhead := h (c :: t) (List.suffix_refl _) (List.cons_ne_nil c t) (t' ++ rest)
    rw [← List.append_assoc] at hhead
    exact hhead

/-- A text that lacks the first character of the head. -/
theorem clear_of_not_mem {c : Char} {lit : List Char} (h : c ∉ t) :
    Clear (.seq (.text (c :: lit)) b) t := by
  intro u hu hne rest
  refine ways_headed_nil fun hprefix => ?_
  cases u with
  | nil => exact hne rfl
  | cons d u =>
    obtain rfl := (List.cons_prefix_cons.mp hprefix).1
    exact h (hu.subset List.mem_cons_self)

/-- No rest of the text begins as the head does, nor the head as a rest of the text. -/
def blocks (lit : List Char) : List Char → Bool
  | [] => true
  | c :: t => !(lit.isPrefixOf (c :: t)) && !((c :: t).isPrefixOf lit) && blocks lit t

/-- **A fixed text is checked by evaluation.** -/
theorem clear_literal {lit : List Char} (h : blocks lit t = true) :
    Clear (.seq (.text lit) b) t := by
  induction t with
  | nil => exact clear_nil _
  | cons c t ih =>
    rw [blocks, Bool.and_eq_true, Bool.and_eq_true, Bool.not_eq_true', Bool.not_eq_true'] at h
    obtain ⟨⟨hlit, htext⟩, hrest⟩ := h
    refine clear_cons (fun rest => ways_headed_nil fun hprefix => ?_) (ih hrest)
    rcases List.prefix_or_prefix_of_prefix hprefix (List.prefix_append (c :: t) rest) with h | h
    · rw [List.isPrefixOf_iff_prefix.mpr h] at hlit
      cases hlit
    · rw [List.isPrefixOf_iff_prefix.mpr h] at htext
      cases htext

/-- A text in which the head does not stand, closed by a character that is not in the head. -/
theorem clear_unmarked {lit : List Char} {c : Char} (h : ¬ lit <:+: t) (hc : c ∉ lit) :
    Clear (.seq (.text lit) b) (t ++ [c]) := by
  intro u hu hne rest
  refine ways_headed_nil fun hprefix => ?_
  obtain ⟨before, hu⟩ := hu
  obtain ⟨v, d, rfl⟩ := List.eq_nil_or_concat u |>.resolve_left hne
  rw [List.concat_eq_append, ← List.append_assoc] at hu
  obtain ⟨rfl, hd⟩ := List.append_inj' hu rfl
  obtain rfl := List.singleton_inj.mp hd
  rw [List.concat_eq_append, List.append_assoc] at hprefix
  rcases List.prefix_or_prefix_of_prefix hprefix (List.prefix_append v _) with hlit | hlong
  · exact h (hlit.isInfix.trans (List.suffix_append before v).isInfix)
  · obtain ⟨tail, rfl⟩ := hlong
    cases tail with
    | nil =>
      rw [List.append_nil] at h
      exact h (List.suffix_append before v).isInfix
    | cons e tail =>
      have hhead := (List.prefix_append_right_inj v).mp hprefix
      obtain rfl := (List.cons_prefix_cons.mp hhead).1
      exact hc (List.mem_append_right v List.mem_cons_self)

/-! ## 4. What a search finds -/

/-- **A search passes over what is clear.** -/
theorem search_clear (h : Clear a t) (s : List Char) : a.search (t ++ s) = a.search s := by
  induction t with
  | nil => rfl
  | cons c t ih =>
    have hnone : a.ways (c :: (t ++ s)) = [] :=
      h (c :: t) (List.suffix_refl _) (List.cons_ne_nil c t) s
    rw [List.cons_append, search, hnone]
    exact ih fun u hu => h u (hu.trans (List.suffix_cons c t))

/-- Nothing is found in it. -/
theorem search_clear_end (h : Clear a t) (hend : a.ways [] = []) : a.search t = none := by
  have hsearch := search_clear h []
  rw [List.append_nil, search, hend] at hsearch
  exact hsearch

/-- **It finds what is read at the head.** -/
theorem search_reads (h : Reads a s groups rest) : a.search s = some groups := by
  unfold Reads at h
  cases s with
  | nil =>
    rw [search, h]
    rfl
  | cons c s => rw [search, h]

theorem findFrom_skip (a : Pattern G) (u rest : List Char) :
    findFrom a u.length (u ++ rest) = findFrom a 0 rest := by
  induction u with
  | nil => rfl
  | cons c u ih => exact ih

theorem findFrom_clear (h : Clear a t) (s : List Char) :
    findFrom a 0 (t ++ s) = findFrom a 0 s := by
  induction t with
  | nil => rfl
  | cons c t ih =>
    have hnone : a.ways (c :: (t ++ s)) = [] :=
      h (c :: t) (List.suffix_refl _) (List.cons_ne_nil c t) s
    rw [List.cons_append, findFrom, hnone]
    exact ih fun u hu => h u (hu.trans (List.suffix_cons c t))

/-- **A match, and then those behind it.** -/
theorem findFrom_reads {piece : List Char} (h : Reads a (piece ++ rest) groups rest)
    (hne : piece ≠ []) : findFrom a 0 (piece ++ rest) = groups :: findFrom a 0 rest := by
  obtain ⟨c, u, rfl⟩ := List.exists_cons_of_ne_nil hne
  unfold Reads at h
  have hskip : (u ++ rest).length - rest.length = u.length := by
    rw [List.length_append, Nat.add_sub_cancel]
  rw [List.cons_append] at h ⊢
  rw [findFrom, h]
  simp only [hskip, findFrom_skip]

end Pattern
