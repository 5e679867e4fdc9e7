/-
  File:      Rk3588Chassis/Library/Pattern.lean
  Subject:   Patterns with named groups, matched by backtracking.

  `ways` lists what a pattern can match at the head of a text, in the order in which a backtracking
  matcher comes to it: alternatives from the left, repetitions from the longest. The match is the
  first entry.

  A pattern looks at no more than it consumes, so text around a match does not undo it:

  * `ways_append` -- the ways of a text are ways of any longer one;
  * `search_within` -- what is found in a part of a text is found in the whole.
-/
import Mathlib.Data.List.Basic
import Mathlib.Data.List.Infix

/-- The patterns: a fixed text, at least one character of a class, and what is built from them. -/
inductive Pattern (G : Type*) where
  | text (t : List Char)
  | many (p : Char → Bool)
  | maybe (a : Pattern G)
  | either (a b : Pattern G)
  | seq (a b : Pattern G)
  | group (g : G) (a : Pattern G)

namespace Pattern

variable {G : Type*}

/-- What the groups of a match have matched. -/
abbrev Groups (G : Type*) := List (G × List Char)

/-- The text of one group; nothing, if it took no part in the match. -/
def Groups.get [DecidableEq G] (groups : Groups G) (g : G) : List Char := (groups.lookup g).getD []

/-- A sequence of several. -/
def all (parts : List (Pattern G)) : Pattern G := parts.foldr .seq (.text [])

/-- What can be left behind at least one character of a class, the longest run first. -/
def behind (p : Char → Bool) : List Char → List (List Char)
  | [] => []
  | c :: s => if p c then behind p s ++ [s] else []

/-- Every way to match at the head of a text: the groups, and the text behind the match. -/
def ways : Pattern G → List Char → List (Groups G × List Char)
  | .text t, s => if t <+: s then [([], s.drop t.length)] else []
  | .many p, s => (behind p s).map fun rest => ([], rest)
  | .maybe a, s => a.ways s ++ [([], s)]
  | .either a b, s => a.ways s ++ b.ways s
  | .seq a b, s => (a.ways s).flatMap fun w => (b.ways w.2).map fun v => (w.1 ++ v.1, v.2)
  | .group g a, s => (a.ways s).map fun w => ((g, s.take (s.length - w.2.length)) :: w.1, w.2)

/-- The leftmost match. -/
def search (a : Pattern G) : List Char → Option (Groups G)
  | [] => (a.ways []).head?.map Prod.fst
  | c :: s =>
    match (a.ways (c :: s)).head? with
    | some w => some w.1
    | none => search a s

/-- The matches from the left, none of them inside another, past `skip` characters. The pattern
    is one that matches no empty text. -/
def findFrom (a : Pattern G) : Nat → List Char → List (Groups G)
  | _, [] => []
  | skip + 1, _ :: s => findFrom a skip s
  | 0, c :: s =>
    match (a.ways (c :: s)).head? with
    | some w => w.1 :: findFrom a (s.length - w.2.length) s
    | none => findFrom a 0 s

/-- All of them. -/
def findAll (a : Pattern G) (s : List Char) : List (Groups G) := findFrom a 0 s

/-! ## Text around a match -/

theorem behind_append {p : Char → Bool} {s rest : List Char} (h : rest ∈ behind p s)
    (after : List Char) : rest ++ after ∈ behind p (s ++ after) := by
  induction s with
  | nil => cases h
  | cons c s ih =>
    rw [List.cons_append]
    unfold behind at h ⊢
    split at h
    · rename_i hc
      rw [if_pos hc]
      rcases List.mem_append.mp h with h | h
      · exact List.mem_append_left _ (ih h)
      · have hrest : rest = s := List.mem_singleton.mp h
        rw [hrest]
        exact List.mem_append_right _ List.mem_cons_self
    · cases h

/-- **More text behind takes no way from a pattern.** -/
theorem ways_append {a : Pattern G} {s : List Char} {w : Groups G × List Char} (h : w ∈ a.ways s)
    (after : List Char) : (w.1, w.2 ++ after) ∈ a.ways (s ++ after) := by
  induction a generalizing s w with
  | text t =>
    unfold ways at h ⊢
    split at h
    · rename_i ht
      have hw : w = ([], s.drop t.length) := List.mem_singleton.mp h
      rw [if_pos (ht.trans (List.prefix_append s after)), hw,
        List.drop_append_of_le_length ht.length_le]
      exact List.mem_cons_self
    · cases h
  | many p =>
    obtain ⟨rest, hrest, rfl⟩ := List.mem_map.mp h
    exact List.mem_map.mpr ⟨rest ++ after, behind_append hrest after, rfl⟩
  | maybe a ih =>
    rcases List.mem_append.mp h with h | h
    · exact List.mem_append_left _ (ih h)
    · have hw : w = ([], s) := List.mem_singleton.mp h
      rw [hw]
      exact List.mem_append_right _ List.mem_cons_self
  | either a b iha ihb =>
    rcases List.mem_append.mp h with h | h
    · exact List.mem_append_left _ (iha h)
    · exact List.mem_append_right _ (ihb h)
  | seq a b iha ihb =>
    obtain ⟨u, hu, hmap⟩ := List.mem_flatMap.mp h
    obtain ⟨v, hv, rfl⟩ := List.mem_map.mp hmap
    exact List.mem_flatMap.mpr ⟨_, iha hu, List.mem_map.mpr ⟨_, ihb hv, rfl⟩⟩
  | group g a ih =>
    obtain ⟨u, hu, rfl⟩ := List.mem_map.mp h
    refine List.mem_map.mpr ⟨_, ih hu, ?_⟩
    have hlen : (s ++ after).length - (u.2 ++ after).length = s.length - u.2.length := by
      rw [List.length_append, List.length_append]
      omega
    have htake : (s ++ after).take (s.length - u.2.length) = s.take (s.length - u.2.length) :=
      List.take_append_of_le_length (Nat.sub_le _ _)
    rw [hlen, htake]

/-- A search ends with a match where some rest of the text has one at its head. -/
theorem search_isSome_iff {a : Pattern G} {s : List Char} :
    (a.search s).isSome ↔ ∃ t, t <:+ s ∧ a.ways t ≠ [] := by
  induction s with
  | nil =>
    refine ⟨fun h => ?_, fun h => ?_⟩
    · refine ⟨[], List.suffix_refl _, fun hnone => ?_⟩
      rw [search, hnone] at h
      cases h
    · obtain ⟨t, ht, hways⟩ := h
      rw [List.suffix_nil.mp ht] at hways
      rw [search, Option.isSome_map, List.isSome_head?]
      exact hways
  | cons c s ih =>
    unfold search
    split
    · rename_i w hw
      have hmem : w ∈ a.ways (c :: s) := List.mem_of_head? hw
      exact iff_of_true rfl ⟨c :: s, List.suffix_refl _, List.ne_nil_of_mem hmem⟩
    · rename_i hnone
      rw [ih]
      refine ⟨fun h => ?_, fun h => ?_⟩
      · obtain ⟨t, ht, hways⟩ := h
        exact ⟨t, ht.trans (List.suffix_cons c s), hways⟩
      · obtain ⟨t, ht, hways⟩ := h
        rcases List.suffix_cons_iff.mp ht with heq | ht
        · rw [heq] at hways
          exact absurd (List.head?_eq_none_iff.mp hnone) hways
        · exact ⟨t, ht, hways⟩

/-- It ends without one where none has. -/
theorem search_eq_none_iff {a : Pattern G} {s : List Char} :
    a.search s = none ↔ ∀ t, t <:+ s → a.ways t = [] := by
  rw [← Option.not_isSome_iff_eq_none, search_isSome_iff]
  refine ⟨fun h t ht => ?_, fun h hfound => ?_⟩
  · by_contra hways
    exact h ⟨t, ht, hways⟩
  · obtain ⟨t, ht, hways⟩ := hfound
    exact hways (h t ht)

/-- **What is found in a part of a text is found in the whole.** -/
theorem search_within {a : Pattern G} {part : List Char} (h : (a.search part).isSome)
    (before after : List Char) : (a.search (before ++ part ++ after)).isSome := by
  obtain ⟨t, ht, hways⟩ := search_isSome_iff.mp h
  obtain ⟨w, hw⟩ := List.exists_mem_of_ne_nil _ hways
  obtain ⟨skipped, rfl⟩ := ht
  refine search_isSome_iff.mpr ⟨t ++ after, ⟨before ++ skipped, ?_⟩,
    List.ne_nil_of_mem (ways_append hw after)⟩
  simp only [List.append_assoc]

end Pattern
