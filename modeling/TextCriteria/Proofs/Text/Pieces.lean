import Mathlib.Data.List.Basic
import TextCriteria.Text.Pieces

namespace TextCriteria.Text

/-!
# Texts and their pieces

A text that is cut at every separator can be put together again from its pieces, and in one way only: a piece has
no separator in it, and each separator stands between two of them.

* `pieces_joined` — a separator ends a piece, whatever stands on its two sides.
* `pieces_append` — where two texts meet, the last piece of the one and the first of the other are one piece.
* `length_pieces`, `pieces_parts` — how many pieces there are, and what is in them.
* `pieces_eq_singleton_iff`, `pieces_eq_cons_cons_iff` — what the pieces say about the text.
-/

variable {separator : Char} {text piece piece' : List Char} {more : List (List Char)}

theorem pieces_ne_nil (separator : Char) (text : List Char) : pieces separator text ≠ [] := by
  cases text with
  | nil => simp [pieces]
  | cons c rest =>
    unfold pieces
    split
    · simp
    · split <;> simp

/-- A separator ends a piece, whatever stands on its two sides. -/
theorem pieces_joined (separator : Char) (x y : List Char) :
    pieces separator (x ++ separator :: y) = pieces separator x ++ pieces separator y := by
  induction x with
  | nil => simp [pieces]
  | cons c rest ih =>
    by_cases hc : c = separator
    · simp [pieces, hc, ih]
    · -- The character belongs to the first piece of what follows, and there is one.
      have hc' : (c == separator) = false := beq_false_of_ne hc
      obtain ⟨piece, more, hrest⟩ := List.exists_cons_of_ne_nil (pieces_ne_nil separator rest)
      simp [pieces, hc', ih, hrest]

theorem pieces_of_not_mem (h : separator ∉ text) : pieces separator text = [text] := by
  induction text with
  | nil => rfl
  | cons c rest ih =>
    obtain ⟨hc, hrest⟩ : separator ≠ c ∧ separator ∉ rest := by simpa using h
    simp [pieces, ih hrest, beq_false_of_ne (Ne.symm hc)]

/-- There is one piece more than there are separators. -/
theorem length_pieces (separator : Char) (text : List Char) :
    (pieces separator text).length = text.count separator + 1 := by
  induction text with
  | nil => rfl
  | cons c rest ih =>
    by_cases hc : c = separator
    · simp [pieces, hc, ih]
    · obtain ⟨first, more, hrest⟩ := List.exists_cons_of_ne_nil (pieces_ne_nil separator rest)
      rw [hrest] at ih
      simpa [pieces, beq_false_of_ne hc, hrest, hc] using ih

/-- A piece is a part of the text without a separator. -/
theorem pieces_parts (h : piece ∈ pieces separator text) : separator ∉ piece ∧ piece ⊆ text := by
  induction text generalizing piece with
  | nil =>
    obtain rfl : piece = [] := by simpa [pieces] using h
    exact ⟨List.not_mem_nil, List.nil_subset []⟩
  | cons c rest ih =>
    by_cases hc : c = separator
    · obtain rfl | hmem : piece = [] ∨ piece ∈ pieces separator rest := by simpa [pieces, hc] using h
      · exact ⟨List.not_mem_nil, List.nil_subset _⟩
      · obtain ⟨hnot, hsub⟩ := ih hmem
        exact ⟨hnot, List.subset_cons_of_subset c hsub⟩
    · obtain ⟨first, more, hrest⟩ := List.exists_cons_of_ne_nil (pieces_ne_nil separator rest)
      obtain rfl | hmem : piece = c :: first ∨ piece ∈ more := by
        simpa [pieces, beq_false_of_ne hc, hrest] using h
      · obtain ⟨hnot, hsub⟩ := ih (hrest ▸ List.mem_cons_self)
        exact ⟨by simpa [Ne.symm hc] using hnot, List.cons_subset_cons c hsub⟩
      · obtain ⟨hnot, hsub⟩ := ih (hrest ▸ List.mem_cons_of_mem first hmem)
        exact ⟨hnot, List.subset_cons_of_subset c hsub⟩

theorem not_mem_of_mem_pieces (h : piece ∈ pieces separator text) : separator ∉ piece := (pieces_parts h).1

theorem mem_of_mem_pieces (h : piece ∈ pieces separator text) {c : Char} (hc : c ∈ piece) : c ∈ text :=
  (pieces_parts h).2 hc

/-- Where two texts meet, the last piece of the one and the first piece of the other become one piece. -/
theorem pieces_append {before more : List (List Char)} {x y : List Char}
    (hx : pieces separator x = before ++ [piece]) (hy : pieces separator y = piece' :: more) :
    pieces separator (x ++ y) = before ++ (piece ++ piece') :: more := by
  induction x generalizing before piece with
  | nil =>
    obtain ⟨rfl, rfl⟩ := List.append_singleton_inj.mp (show [] ++ [[]] = before ++ [piece] from hx)
    exact hy
  | cons c rest ih =>
    obtain ⟨before', last, hrest⟩ : ∃ before' last, pieces separator rest = before' ++ [last] :=
      ⟨_, _, (List.dropLast_append_getLast (pieces_ne_nil separator rest)).symm⟩
    have hmeet := ih hrest
    by_cases hc : c = separator
    · have hpieces : pieces separator (c :: rest) = ([] :: before') ++ [last] := by simp [pieces, hc, hrest]
      obtain ⟨rfl, rfl⟩ := List.append_singleton_inj.mp (hpieces.symm.trans hx)
      simp [pieces, hc, hmeet]
    · have hc' : (c == separator) = false := beq_false_of_ne hc
      -- The character belongs to the first piece, which is the last one too if there is no other.
      cases before' with
      | nil =>
        have hpieces : pieces separator (c :: rest) = [] ++ [c :: last] := by simp [pieces, hc', hrest]
        obtain ⟨rfl, rfl⟩ := List.append_singleton_inj.mp (hpieces.symm.trans hx)
        simp [pieces, hc', hmeet]
      | cons first before' =>
        have hpieces : pieces separator (c :: rest) = ((c :: first) :: before') ++ [last] := by
          simp [pieces, hc', hrest]
        obtain ⟨rfl, rfl⟩ := List.append_singleton_inj.mp (hpieces.symm.trans hx)
        simp [pieces, hc', hmeet]

/-- A text has no separator in it, or it falls apart at the first one. -/
theorem not_mem_or_split (separator : Char) (text : List Char) :
    separator ∉ text ∨ ∃ piece rest, text = piece ++ separator :: rest ∧ separator ∉ piece := by
  by_cases h : separator ∈ text
  · obtain ⟨piece, rest, htext, hpiece⟩ := List.eq_append_cons_of_mem h
    exact .inr ⟨piece, rest, htext, hpiece⟩
  · exact .inl h

/-- A single piece is the whole text. -/
theorem pieces_eq_singleton_iff : pieces separator text = [piece] ↔ text = piece ∧ separator ∉ piece := by
  constructor
  · intro h
    rcases not_mem_or_split separator text with hnot | ⟨first, rest, rfl, hfirst⟩
    · rw [pieces_of_not_mem hnot, List.singleton_inj] at h
      exact ⟨h, h ▸ hnot⟩
    · rw [pieces_joined, pieces_of_not_mem hfirst, List.singleton_append, List.cons.injEq] at h
      exact absurd h.2 (pieces_ne_nil separator rest)
  · rintro ⟨rfl, hnot⟩
    exact pieces_of_not_mem hnot

/-- The first of several pieces ends at a separator, and the others are those of what follows. -/
theorem pieces_eq_cons_cons_iff : pieces separator text = piece :: piece' :: more ↔
    ∃ rest, text = piece ++ separator :: rest ∧ separator ∉ piece ∧
      pieces separator rest = piece' :: more := by
  constructor
  · intro h
    rcases not_mem_or_split separator text with hnot | ⟨first, rest, rfl, hfirst⟩
    · simp [pieces_of_not_mem hnot] at h
    · rw [pieces_joined, pieces_of_not_mem hfirst, List.singleton_append, List.cons.injEq] at h
      obtain ⟨rfl, hrest⟩ := h
      exact ⟨rest, rfl, hfirst, hrest⟩
  · rintro ⟨rest, rfl, hnot, hrest⟩
    rw [pieces_joined, pieces_of_not_mem hnot, hrest, List.singleton_append]

/-- Two pieces have the one separator between them. -/
theorem pieces_eq_pair_iff : pieces separator text = [piece, piece'] ↔
    text = piece ++ separator :: piece' ∧ separator ∉ piece ∧ separator ∉ piece' := by
  rw [pieces_eq_cons_cons_iff]
  constructor
  · rintro ⟨rest, rfl, hpiece, hrest⟩
    obtain ⟨rfl, hpiece'⟩ := pieces_eq_singleton_iff.mp hrest
    exact ⟨rfl, hpiece, hpiece'⟩
  · rintro ⟨rfl, hpiece, hpiece'⟩
    exact ⟨piece', rfl, hpiece, pieces_of_not_mem hpiece'⟩

/-- Every other character than the separator is in one of the pieces. -/
theorem exists_mem_pieces {c : Char} (hc : c ∈ text) (hne : c ≠ separator) :
    ∃ piece ∈ pieces separator text, c ∈ piece := by
  induction text with
  | nil => cases hc
  | cons d rest ih =>
    by_cases hd : d = separator
    · have hrest : c ∈ rest := (List.mem_cons.mp hc).resolve_left fun h => hne (h.trans hd)
      obtain ⟨piece, hpiece, hcpiece⟩ := ih hrest
      exact ⟨piece, by simp [pieces, hd, hpiece], hcpiece⟩
    · obtain ⟨first, more, hrest⟩ := List.exists_cons_of_ne_nil (pieces_ne_nil separator rest)
      have hpieces : pieces separator (d :: rest) = (d :: first) :: more := by
        simp [pieces, beq_false_of_ne hd, hrest]
      rw [hpieces]
      rcases List.mem_cons.mp hc with rfl | hmem
      · exact ⟨_, List.mem_cons_self, List.mem_cons_self⟩
      · obtain ⟨piece, hpiece, hcpiece⟩ := ih hmem
        rw [hrest] at hpiece
        rcases List.mem_cons.mp hpiece with rfl | hpiece
        · exact ⟨_, List.mem_cons_self, List.mem_cons_of_mem d hcpiece⟩
        · exact ⟨piece, List.mem_cons_of_mem _ hpiece, hcpiece⟩

/-- A character that does not pass a test is not among characters that do. -/
theorem not_mem_of_forall {test : Char → Bool} (h : ∀ c ∈ text, test c = true)
    (hseparator : test separator = false) : separator ∉ text := by
  intro hmem
  rw [h separator hmem] at hseparator
  cases hseparator

end TextCriteria.Text
