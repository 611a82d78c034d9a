import Mathlib.Data.List.Basic
import TextCriteria.Text.LetterCase

namespace TextCriteria.Text

/-!
# The lower case map and its inverse

The lower case map is a list of runs. A run moves the code points that it holds and leaves the others alone,
and it finds again what it has moved. So what is known of the runs is known of all code points.

* `CaseRun.Holds` — the code points of a run.
* `shiftBy_cases` — a code point stays, or a run that holds it moves it.
* `CaseRun.source?_eq_some_iff` — what a run moves, it finds again.
* `mem_lowerSources_lower` — a code point is among those with its lower case form.
* `lower_eq_small`, `lowerSources_small`, `lowerSiblings_small` — small code points are the other case of nothing.
-/

/-- The code points from the first to the last of a run, by its stride. -/
structure CaseRun.Holds (r : CaseRun) (x : Nat) : Prop where
  first : r.first ≤ x
  last : x ≤ r.last
  stride : (x - r.first) % r.stride = 0

/-- A code point stays, or a run that holds it moves it. -/
theorem shiftBy_cases (runs : List CaseRun) (x : Nat) :
    shiftBy runs x = x ∨ ∃ r ∈ runs, r.Holds x ∧ shiftBy runs x = ((x : Int) + r.shift).toNat := by
  induction runs with
  | nil => exact .inl rfl
  | cons r rest ih =>
    unfold shiftBy
    split
    · exact .inl rfl
    rename_i hfirst
    split
    · rename_i hmember
      simp only [Bool.and_eq_true, decide_eq_true_eq, beq_iff_eq] at hmember
      exact .inr ⟨r, List.mem_cons_self, ⟨Nat.not_lt.mp hfirst, hmember.1, hmember.2⟩, rfl⟩
    · rcases ih with hsame | ⟨s, hs, hholds, heq⟩
      · exact .inl hsame
      · exact .inr ⟨s, List.mem_cons_of_mem r hs, hholds, heq⟩

/-- A run finds the code point that it has moved. -/
theorem CaseRun.source?_eq_some_iff {r : CaseRun} {x z : Nat} :
    r.source? z = some x ↔ r.Holds x ∧ (z : Int) = x + r.shift := by
  unfold source?
  simp only [Bool.and_eq_true, decide_eq_true_eq, beq_iff_eq, Option.ite_none_right_eq_some,
    Option.some.injEq]
  constructor
  · rintro ⟨⟨⟨hfirst, hlast⟩, hstride⟩, rfl⟩
    have hx : ((((z : Int) - r.shift).toNat : Nat) : Int) = z - r.shift := Int.toNat_of_nonneg (by omega)
    have hle : r.first ≤ ((z : Int) - r.shift).toNat := by omega
    refine ⟨⟨hle, by omega, ?_⟩, by omega⟩
    rw [← hx, ← Int.natCast_sub hle, ← Int.natCast_emod] at hstride
    exact Int.natCast_eq_zero.mp hstride
  · rintro ⟨h, hz⟩
    have hx : (z : Int) - r.shift = x := by omega
    have hstride : ((x : Int) - r.first) % r.stride = 0 := by
      rw [← Int.natCast_sub h.first, ← Int.natCast_emod, h.stride]
      rfl
    rw [hx]
    exact ⟨⟨⟨Int.ofNat_le.mpr h.first, Int.ofNat_le.mpr h.last⟩, hstride⟩, Int.toNat_natCast x⟩

/-- A source of a code point is the code point itself, or a run moves it there. -/
theorem mem_lowerSources {x z : Nat} :
    x ∈ lowerSources z ↔ x = z ∨ ∃ r ∈ lowerRuns, r.Holds x ∧ (z : Int) = x + r.shift := by
  simp only [lowerSources, List.mem_cons, List.mem_filterMap, CaseRun.source?_eq_some_iff]

/-- A code point is among those with its lower case form. -/
theorem mem_lowerSources_lower (x : Nat) : x ∈ lowerSources (lower x) := by
  have himages : ∀ r ∈ lowerRuns, 0 ≤ (r.first : Int) + r.shift := by decide +kernel
  rw [mem_lowerSources]
  rcases shiftBy_cases lowerRuns x with hsame | ⟨r, hr, hholds, heq⟩
  · exact .inl hsame.symm
  · have himage := himages r hr
    have hfirst := hholds.first
    refine .inr ⟨r, hr, hholds, ?_⟩
    rw [lower, heq]
    omega

/-- A sibling stands in the row of its code point. -/
theorem mem_lowerSiblings {x y : Nat} (h : y ∈ lowerSiblings x) :
    ∃ siblings, (x, siblings) ∈ siblingTable ∧ y ∈ siblings := by
  unfold lowerSiblings at h
  cases hlookup : siblingTable.lookup x with
  | none =>
    rw [hlookup] at h
    cases h
  | some siblings =>
    rw [hlookup] at h
    obtain ⟨before, after, hsplit, -⟩ := List.lookup_eq_some_iff.mp hlookup
    exact ⟨siblings, hsplit ▸ List.mem_append_right before List.mem_cons_self, h⟩

/-! ### Small code points -/

/-- Nothing is moved to a code point below the lower case letters. -/
theorem lower_eq_small {x c : Nat} (hc : c < 97) (h : lower x = c) : x = c := by
  have himages : ∀ r ∈ lowerRuns, 97 ≤ (r.first : Int) + r.shift := by decide +kernel
  rcases shiftBy_cases lowerRuns x with hsame | ⟨r, hr, hholds, heq⟩
  · exact hsame.symm.trans h
  · have himage := himages r hr
    have hfirst := hholds.first
    rw [lower, heq] at h
    omega

/-- Code points below the first letter stay. -/
theorem lower_small {c : Nat} (hc : c < 65) : lower c = c := by
  unfold lower lowerRuns
  rw [shiftBy, if_pos hc]

/-- No other code point has a small one as its lower case form. -/
theorem lowerSources_small {x c : Nat} (hc : c < 65) (h : c ∈ lowerSources x) : c = x := by
  have hfirst : ∀ r ∈ lowerRuns, 65 ≤ r.first := by decide +kernel
  rcases mem_lowerSources.mp h with heq | ⟨r, hr, hholds, -⟩
  · exact heq
  · have hle := Nat.le_trans (hfirst r hr) hholds.first
    exact absurd hc (Nat.not_lt.mpr hle)

/-- Small code points have no siblings, and are none. -/
theorem lowerSiblings_small {x c : Nat} (h : c ∈ lowerSiblings x) : 65 ≤ x ∧ 65 ≤ c := by
  have htable : ∀ e ∈ siblingTable, 65 ≤ e.1 ∧ ∀ s ∈ e.2, 65 ≤ s := by decide +kernel
  obtain ⟨siblings, hrow, hc⟩ := mem_lowerSiblings h
  exact ⟨(htable _ hrow).1, (htable _ hrow).2 c hc⟩

theorem lowerAscii_eq_small {x c : Nat} (hc : c < 65) : lowerAscii x = c ↔ x = c := by
  unfold lowerAscii
  split
  · next h =>
    simp only [Bool.and_eq_true, decide_eq_true_eq] at h
    omega
  · rfl

end TextCriteria.Text
