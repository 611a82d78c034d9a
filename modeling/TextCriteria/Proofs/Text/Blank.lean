import Mathlib.Data.List.DropRight
import TextCriteria.Text.Blank

namespace TextCriteria.Text

/-!
# Texts without blanks at their ends

Which characters are blanks is left open here, since rule strings and numerals do not have the same ones.

* `stripped` — a text without the blanks at its two ends; `Unpadded`, the texts that have none there.
* `stripped_append_left`, `stripped_append_right` — blanks at the ends make no difference.
* `stripped_around` — on the two sides of a character that is no blank only the outer ends are stripped.
* `stripped_eq_iff` — a text is what is left of it, with blanks around.
-/

variable {blank : Char → Bool} {s t padding : List Char} {c : Char}

/-- A text without the blanks at its two ends, where `blank` tells which characters are blanks. -/
def stripped (blank : Char → Bool) (s : List Char) : List Char := (s.dropWhile blank).rdropWhile blank

/-- Neither the first nor the last character is a blank. -/
structure Unpadded (blank : Char → Bool) (s : List Char) : Prop where
  head : ∀ c ∈ s.head?, blank c = false
  last : ∀ c ∈ s.getLast?, blank c = false

theorem unpadded_iff : Unpadded blank s ↔ s.head?.any blank = false ∧ s.getLast?.any blank = false := by
  rw [Option.any_eq_false, Option.any_eq_false]
  exact ⟨fun h => ⟨h.head, h.last⟩, fun h => ⟨h.1, h.2⟩⟩

instance : Decidable (Unpadded blank s) := decidable_of_iff' _ unpadded_iff

theorem unpadded_nil : Unpadded blank [] := ⟨by simp, by simp⟩

/-! ### One end -/

theorem dropWhile_eq_nil (h : ∀ c ∈ padding, blank c = true) : padding.dropWhile blank = [] := by
  simpa using h

theorem rdropWhile_append_right (h : ∀ c ∈ padding, blank c = true) :
    (s ++ padding).rdropWhile blank = s.rdropWhile blank := by
  have hreverse : ∀ c ∈ padding.reverse, blank c = true := fun c hc => h c (List.mem_reverse.mp hc)
  rw [List.rdropWhile, List.reverse_append, List.dropWhile_append_of_pos hreverse]
  rfl

/-- What follows a character that is no blank does not count for the blanks in front of it. -/
theorem dropWhile_around (hc : blank c = false) :
    (s ++ c :: t).dropWhile blank = s.dropWhile blank ++ c :: t := by
  rw [List.dropWhile_append]
  split
  · next hempty =>
    rw [List.isEmpty_iff.mp hempty, List.dropWhile_cons_of_neg (by simp [hc])]
    rfl
  · rfl

theorem rdropWhile_around (hc : blank c = false) :
    (s ++ c :: t).rdropWhile blank = s ++ c :: t.rdropWhile blank := by
  have hreverse : (s ++ c :: t).reverse = t.reverse ++ c :: s.reverse := by simp
  rw [List.rdropWhile, hreverse, dropWhile_around hc]
  simp [List.rdropWhile]

/-! ### Both ends -/

theorem stripped_append_left (h : ∀ c ∈ padding, blank c = true) :
    stripped blank (padding ++ s) = stripped blank s := by
  rw [stripped, List.dropWhile_append_of_pos h, stripped]

theorem stripped_append_right (h : ∀ c ∈ padding, blank c = true) :
    stripped blank (s ++ padding) = stripped blank s := by
  rw [stripped, stripped, List.dropWhile_append]
  split
  · next hempty => rw [List.isEmpty_iff.mp hempty, dropWhile_eq_nil h]
  · rw [rdropWhile_append_right h]

/-- Blanks that stand beside a character that is none stay, unless they reach to the end of the text. -/
theorem stripped_around (hc : blank c = false) :
    stripped blank (s ++ c :: t) = s.dropWhile blank ++ c :: t.rdropWhile blank := by
  rw [stripped, dropWhile_around hc, rdropWhile_around hc]

@[simp] theorem stripped_dropWhile : stripped blank (s.dropWhile blank) = stripped blank s := by
  rw [stripped, List.dropWhile_idempotent, stripped]

@[simp] theorem stripped_rdropWhile : stripped blank (s.rdropWhile blank) = stripped blank s := by
  have hsplit : s.rdropWhile blank ++ s.rtakeWhile blank = s := List.rdropWhile_append_rtakeWhile
  have hpadding : ∀ c ∈ s.rtakeWhile blank, blank c = true := fun c => List.mem_rtakeWhile_imp
  rw [← stripped_append_right hpadding, hsplit]

/-- A text is what is left of it, with blanks around. -/
theorem exists_padding (blank : Char → Bool) (s : List Char) :
    ∃ before after, s = before ++ stripped blank s ++ after ∧
      (∀ c ∈ before, blank c = true) ∧ ∀ c ∈ after, blank c = true := by
  refine ⟨s.takeWhile blank, (s.dropWhile blank).rtakeWhile blank, ?_, ?_, ?_⟩
  · rw [stripped, List.append_assoc, List.rdropWhile_append_rtakeWhile, List.takeWhile_append_dropWhile]
  · exact fun c => List.mem_takeWhile_imp
  · exact fun c => List.mem_rtakeWhile_imp

theorem mem_of_mem_stripped (h : c ∈ stripped blank s) : c ∈ s :=
  (List.dropWhile_suffix blank).mem ((List.rdropWhile_prefix blank _).mem h)

theorem unpadded_stripped (blank : Char → Bool) (s : List Char) : Unpadded blank (stripped blank s) := by
  constructor
  · intro c hc
    -- What is dropped at the end does not reach the first character.
    obtain ⟨after, hafter⟩ := List.rdropWhile_prefix blank (s.dropWhile blank)
    have hhead : (s.dropWhile blank).head? = some c := by
      rw [← hafter, List.head?_append]
      exact Option.or_eq_some_iff.mpr (.inl hc)
    have hnot := List.head?_dropWhile_not blank s
    rwa [hhead] at hnot
  · intro c hc
    obtain ⟨front, hfront⟩ : ∃ front, (s.dropWhile blank).rdropWhile blank = front ++ [c] :=
      List.getLast?_eq_some_iff.mp hc
    have hne : (s.dropWhile blank).rdropWhile blank ≠ [] := by simp [hfront]
    have hnot := List.rdropWhile_last_not blank (s.dropWhile blank) hne
    simpa [hfront] using hnot

theorem stripped_of_unpadded (h : Unpadded blank s) : stripped blank s = s := by
  have hhead : s.dropWhile blank = s := by
    cases s with
    | nil => rfl
    | cons c rest => exact List.dropWhile_cons_of_neg (by simp [h.head c rfl])
  have hlast : s.rdropWhile blank = s := by
    rw [List.rdropWhile_eq_self_iff]
    intro hne
    simp [h.last _ (List.getLast?_eq_some_getLast hne)]
  rw [stripped, hhead, hlast]

/-- **Stripping.** What is left of a text is the one part of it without blanks at its ends that has nothing but
    blanks around. -/
theorem stripped_eq_iff : stripped blank s = t ↔ Unpadded blank t ∧ ∃ before after,
    s = before ++ t ++ after ∧ (∀ c ∈ before, blank c = true) ∧ ∀ c ∈ after, blank c = true := by
  constructor
  · rintro rfl
    exact ⟨unpadded_stripped blank s, exists_padding blank s⟩
  · rintro ⟨ht, before, after, rfl, hbefore, hafter⟩
    rw [stripped_append_right hafter, stripped_append_left hbefore, stripped_of_unpadded ht]

end TextCriteria.Text
