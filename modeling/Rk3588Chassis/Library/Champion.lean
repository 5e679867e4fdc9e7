/-
  File:      Rk3588Chassis/Library/Champion.lean
  Subject:   The running best of a list: the first of its lowest entries.

  A search keeps the entry it has, unless the next one scores strictly less. What it is left with
  leads the list: it scores less than every entry before it, and no more than any after it.

  * `champion_leads` -- so for the whole list;
  * `champion_good_iff` -- whether the champion has a property that the score does not look at is
    decided by the scores of one entry that has it and of those that do not.
-/
import Mathlib.Order.Lattice
import Mathlib.Data.List.Basic

namespace Champion

variable {α β : Type*} [LinearOrder β] (score : α → β)

/-- One step of the search: a tie is won by the entry that was there. -/
def challenge (best : Option α) (a : α) : Option α :=
  match best with
  | none => some a
  | some b => if score a < score b then some a else some b

/-- The search, from the left. -/
def champion (entries : List α) : Option α := entries.foldl (challenge score) none

/-- The first of the lowest entries. -/
def Leads (entries : List α) (a : α) : Prop :=
  ∃ before after, entries = before ++ a :: after ∧ (∀ b ∈ before, score a < score b) ∧
    ∀ b ∈ after, score a ≤ score b

variable {score}

/-- The winner of a step is one of the two. -/
theorem challenge_cases {best : Option α} {a b : α} (h : challenge score best a = some b) :
    b = a ∨ best = some b := by
  unfold challenge at h
  split at h
  · exact Or.inl (Option.some.inj h).symm
  · split at h
    · exact Or.inl (Option.some.inj h).symm
    · exact Or.inr h

/-- It is one of them. -/
theorem Leads.mem {entries : List α} {a : α} (h : Leads score entries a) : a ∈ entries := by
  obtain ⟨before, after, rfl, _, _⟩ := h
  exact List.mem_append_right _ List.mem_cons_self

/-- None is lower. -/
theorem Leads.le {entries : List α} {a b : α} (h : Leads score entries a) (hb : b ∈ entries) :
    score a ≤ score b := by
  obtain ⟨before, after, rfl, hbefore, hafter⟩ := h
  rcases List.mem_append.mp hb with hb | hb
  · exact le_of_lt (hbefore b hb)
  · rcases List.mem_cons.mp hb with rfl | hb
    · exact le_refl _
    · exact hafter b hb

/-- A lower entry behind takes the lead. -/
theorem Leads.lost {entries : List α} {a b : α} (h : Leads score entries b) (ha : score a < score b) :
    Leads score (entries ++ [a]) a :=
  ⟨entries, [], rfl, fun _ hc => lt_of_lt_of_le ha (h.le hc), fun _ hc => nomatch hc⟩

/-- Any other does not. -/
theorem Leads.kept {entries : List α} {a b : α} (h : Leads score entries b)
    (ha : ¬ score a < score b) : Leads score (entries ++ [a]) b := by
  obtain ⟨before, after, rfl, hbefore, hafter⟩ := h
  refine ⟨before, after ++ [a], ?_, hbefore, fun c hc => ?_⟩
  · rw [List.append_assoc, List.cons_append]
  · rcases List.mem_append.mp hc with hc | hc
    · exact hafter c hc
    · rw [List.mem_singleton.mp hc]
      exact not_lt.mp ha

/-- The lead is carried along the search. -/
theorem foldl_leads {rest : List α} : ∀ {entries : List α} {b a : α}, Leads score entries b →
    rest.foldl (challenge score) (some b) = some a → Leads score (entries ++ rest) a := by
  induction rest with
  | nil =>
    intro entries b a hb ha
    obtain rfl := Option.some.inj ha
    rw [List.append_nil]
    exact hb
  | cons c rest ih =>
    intro entries b a hb ha
    have hassoc : entries ++ c :: rest = (entries ++ [c]) ++ rest := by
      rw [List.append_assoc, List.singleton_append]
    rw [List.foldl_cons, challenge] at ha
    rw [hassoc]
    split_ifs at ha with hlt
    · exact ih (hb.lost hlt) ha
    · exact ih (hb.kept hlt) ha

/-- A search that has an entry ends with one. -/
theorem foldl_isSome (rest : List α) (b : α) :
    ∃ a, rest.foldl (challenge score) (some b) = some a := by
  induction rest generalizing b with
  | nil => exact ⟨b, rfl⟩
  | cons c rest ih =>
    rw [List.foldl_cons, challenge]
    split_ifs
    · exact ih c
    · exact ih b

/-- **The champion leads.** -/
theorem champion_leads {entries : List α} {a : α} (h : champion score entries = some a) :
    Leads score entries a := by
  cases entries with
  | nil => cases h
  | cons c rest =>
    have hfirst : Leads score [c] c := ⟨[], [], rfl, nofun, nofun⟩
    exact foldl_leads hfirst h

/-- There is one as soon as there are entries. -/
theorem champion_exists {entries : List α} (h : entries ≠ []) :
    ∃ a, champion score entries = some a := by
  obtain ⟨c, rest, rfl⟩ := List.exists_cons_of_ne_nil h
  exact foldl_isSome rest c

/-- An entry with the property that beats, by the rules of the search, all without. -/
def GoodLeads (score : α → β) (good : α → Prop) (entries : List α) : Prop :=
  ∃ before r after, entries = before ++ r :: after ∧ good r ∧
    (∀ b ∈ before, ¬ good b → score r < score b) ∧ ∀ b ∈ after, ¬ good b → score r ≤ score b

/-- **When the champion has a property**: exactly if an entry that has it beats all that do not. -/
theorem champion_good_iff {good : α → Prop} {entries : List α} {a : α}
    (h : champion score entries = some a) : good a ↔ GoodLeads score good entries := by
  have hleads := champion_leads h
  constructor
  · intro hgood
    obtain ⟨before, after, heq, hbefore, hafter⟩ := hleads
    exact ⟨before, a, after, heq, hgood, fun b hb _ => hbefore b hb, fun b hb _ => hafter b hb⟩
  · intro hgiven
    obtain ⟨before, r, after, heq, hgood, hbefore, hafter⟩ := hgiven
    by_contra hbad
    obtain ⟨before', after', heq', hbefore', _⟩ := id hleads
    have hr : r ∈ entries := heq ▸ List.mem_append_right _ List.mem_cons_self
    -- the champion stands before the good entry, behind it, or is that entry
    rcases List.append_eq_append_iff.mp (heq'.symm.trans heq) with ⟨t, hb, hr'⟩ | ⟨t, hb, ha'⟩
    · cases t with
      | nil =>
        obtain ⟨rfl, _⟩ := List.cons.inj hr'
        exact hbad hgood
      | cons c t =>
        obtain ⟨rfl, _⟩ := List.cons.inj hr'
        have hbeaten := hbefore a (hb ▸ List.mem_append_right _ List.mem_cons_self) hbad
        exact absurd (hleads.le hr) (not_le.mpr hbeaten)
    · cases t with
      | nil =>
        obtain ⟨rfl, _⟩ := List.cons.inj ha'
        exact hbad hgood
      | cons c t =>
        obtain ⟨rfl, hrest⟩ := List.cons.inj ha'
        have hbeaten := hafter a (hrest ▸ List.mem_append_right _ List.mem_cons_self) hbad
        have hahead := hbefore' r (hb ▸ List.mem_append_right _ List.mem_cons_self)
        exact absurd hbeaten (not_le.mpr hahead)

end Champion
