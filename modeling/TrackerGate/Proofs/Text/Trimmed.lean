import Mathlib.Data.List.DropRight
import TrackerGate.Text.Blank

/-!
# What trimming leaves

`Text.Strips` says what trimming does without saying how: some blanks in front and some behind
are gone, and what is left neither begins nor ends with a blank. There is exactly one such
rest (`Strips.unique`, `exists_strips`), and it is the one that is computed
(`trimChars_eq_iff`). Characters and octets are trimmed alike, so all of this is about lists
of anything.
-/

namespace TrackerGate

namespace Text

section

variable {α β : Type} {blank : α → Bool} {l core : List α}

/-- `core` is what is left of `l` without the blanks at either end. -/
structure Strips (blank : α → Bool) (l core : List α) : Prop where
  around : ∃ before behind, l = before ++ core ++ behind
    ∧ (∀ a ∈ before, blank a = true) ∧ ∀ a ∈ behind, blank a = true
  first : ∀ a ∈ core.head?, blank a = false
  last : ∀ a ∈ core.getLast?, blank a = false

theorem head?_dropWhile_of_mem {a : α} (h : a ∈ (l.dropWhile blank).head?) : blank a = false := by
  have hne : l.dropWhile blank ≠ [] := by
    intro hnil
    rw [hnil] at h
    cases h
  rw [List.head?_eq_some_head hne] at h
  obtain rfl := Option.some.inj h
  exact List.head_dropWhile_not blank hne

theorem strip_eq_iff : (l.dropWhile blank).rdropWhile blank = core ↔ Strips blank l core := by
  constructor
  · rintro rfl
    refine ⟨⟨l.takeWhile blank, (l.dropWhile blank).rtakeWhile blank, ?_, ?_, ?_⟩, ?_, ?_⟩
    · rw [List.append_assoc, List.rdropWhile_append_rtakeWhile, List.takeWhile_append_dropWhile]
    · exact fun a ha => List.mem_takeWhile_imp ha
    · exact fun a ha => List.mem_rtakeWhile_imp ha
    · -- What is taken off behind leaves the first element as it is.
      intro a ha
      obtain ⟨behind, hprefix⟩ := List.rdropWhile_prefix blank (l := l.dropWhile blank)
      refine head?_dropWhile_of_mem (l := l) ?_
      rw [← hprefix, List.head?_append, ha]
      rfl
    · intro a ha
      rw [List.rdropWhile, List.getLast?_reverse] at ha
      exact head?_dropWhile_of_mem ha
  · rintro ⟨⟨before, behind, rfl, hbefore, hbehind⟩, hfirst, hlast⟩
    rw [List.append_assoc, List.dropWhile_append_of_pos hbefore]
    cases core with
    | nil =>
        rw [List.nil_append, List.dropWhile_eq_nil_iff.mpr hbehind, List.rdropWhile_nil]
    | cons a core =>
        have hfront : (a :: core ++ behind).dropWhile blank = a :: core ++ behind :=
          List.dropWhile_cons_of_neg (by simp [hfirst a rfl])
        have hback : (a :: core ++ behind).rdropWhile blank = (a :: core).rdropWhile blank := by
          rw [List.rdropWhile, List.reverse_append,
            List.dropWhile_append_of_pos fun b hb => hbehind b (List.mem_reverse.mp hb)]
          rfl
        rw [hfront, hback, List.rdropWhile_eq_self_iff]
        intro hne
        simp [hlast _ (List.getLast?_eq_some_getLast hne)]

theorem exists_strips (blank : α → Bool) (l : List α) : ∃ core, Strips blank l core :=
  ⟨_, strip_eq_iff.mp rfl⟩

theorem Strips.unique {core' : List α} (h : Strips blank l core) (h' : Strips blank l core') :
    core = core' :=
  (strip_eq_iff.mpr h).symm.trans (strip_eq_iff.mpr h')

theorem Strips.subset (h : Strips blank l core) {a : α} (ha : a ∈ core) : a ∈ l := by
  obtain ⟨before, behind, rfl, -, -⟩ := h.around
  exact List.mem_append_left _ (List.mem_append_right _ ha)

/-- Lists are trimmed alike if what they consist of is blank alike. -/
theorem Strips.map {blank' : β → Bool} {f : α → β} (h : Strips blank l core)
    (hblank : ∀ a ∈ l, blank' (f a) = blank a) : Strips blank' (l.map f) (core.map f) := by
  obtain ⟨⟨before, behind, rfl, hbefore, hbehind⟩, hfirst, hlast⟩ := h
  simp only [List.mem_append] at hblank
  refine ⟨⟨before.map f, behind.map f, by rw [List.map_append, List.map_append], ?_, ?_⟩, ?_, ?_⟩
  · intro b hb
    obtain ⟨a, ha, rfl⟩ := List.mem_map.mp hb
    exact (hblank a (.inl (.inl ha))).trans (hbefore a ha)
  · intro b hb
    obtain ⟨a, ha, rfl⟩ := List.mem_map.mp hb
    exact (hblank a (.inr ha)).trans (hbehind a ha)
  · intro b hb
    rw [List.head?_map] at hb
    obtain ⟨a, ha, rfl⟩ := Option.map_eq_some_iff.mp hb
    exact (hblank a (.inl (.inr (List.mem_of_mem_head? ha)))).trans (hfirst a ha)
  · intro b hb
    rw [List.getLast?_map] at hb
    obtain ⟨a, ha, rfl⟩ := Option.map_eq_some_iff.mp hb
    exact (hblank a (.inl (.inr (List.mem_of_getLast? ha)))).trans (hlast a ha)

end

theorem trimChars_eq_iff {cs core : List Char} :
    trimChars cs = core ↔ Strips isBlank cs core :=
  strip_eq_iff

end Text

end TrackerGate
