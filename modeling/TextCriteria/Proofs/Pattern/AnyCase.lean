import TextCriteria.Proofs.Pattern.Caseless
import TextCriteria.Text.Ascii

namespace TextCriteria.Pattern

open TextCriteria.Text

/-!
# Letters where case is ignored

Where case is ignored, a class of letters of one case has those of the other case too. Where not only the
letters of ASCII are looked at, there are four more letters whose other case is one of ASCII.

* `isLetterOfAnyCase` — the letters of ASCII, and the four.
* `lowerSources_letter`, `lowerSiblings_letter`, `lower_not_upper` — what leads to letters of ASCII.
* `admits_anyCase` — what the ranges of the letters of one case admit.
-/

/-- A code point agrees with itself. -/
theorem mem_agreeing_self (m : Modes) (x : Nat) : x ∈ agreeing m x := by
  unfold agreeing
  split
  · split
    · simp only [lowerAscii]
      grind
    · exact List.mem_flatMap.mpr ⟨lower x, List.mem_cons_self, mem_lowerSources_lower x⟩
  · exact List.mem_singleton_self x

/-! ### Letters -/

/-- The code point of a letter of ASCII. -/
def IsLetterCode (x : Nat) : Prop := (65 ≤ x ∧ x ≤ 90) ∨ (97 ≤ x ∧ x ≤ 122)

instance (x : Nat) : Decidable (IsLetterCode x) := inferInstanceAs (Decidable (_ ∨ _))

/-- The letters beyond ASCII whose other case is a letter of ASCII: two letters `i`, a long `s` and the sign of
    a unit that looks like a `K`. -/
def foreignLetters : List Nat := [304, 305, 383, 8490]

/-- The letters of ASCII and, where others are looked at too, those whose other case is one of them. -/
def isLetterOfAnyCase (ascii : Bool) (c : Char) : Bool :=
  isAsciiLetter c || (!ascii && foreignLetters.contains c.toNat)

theorem isAsciiLetter_iff (c : Char) : isAsciiLetter c = true ↔ IsLetterCode c.toNat := by
  simp [isAsciiLetter, IsLetterCode, Char.le_def, UInt32.le_iff_toNat_le, or_comm]

/-- Only letters of ASCII have letters of ASCII among the code points that become them. -/
theorem lowerSources_letter {y z : Nat} (h : z ∈ lowerSources y) (hz : IsLetterCode z) : IsLetterCode y := by
  rcases mem_lowerSources.mp h with rfl | ⟨r, hr, hholds, hy⟩
  · exact hz
  · -- Of the runs, only the first one begins below the last letter.
    have hruns : ∀ r ∈ lowerRuns, r.first ≤ 122 → r.first = 65 ∧ r.last = 90 ∧ r.shift = 32 := by
      decide +kernel
    have hlo := hholds.first
    have hhi := hholds.last
    unfold IsLetterCode at hz ⊢
    obtain ⟨hfirst, hlast, hshift⟩ := hruns r hr (by omega)
    omega

/-- The lower case form of a letter is no upper case letter of ASCII. -/
theorem lower_not_upper (x : Nat) : ¬(65 ≤ lower x ∧ lower x ≤ 90) := by
  rintro ⟨hlo, hhi⟩
  have hsame : x = lower x := lower_eq_small (by omega) rfl
  have hmoved : ∀ y < 91, 65 ≤ y → lower y ≠ y := by decide +kernel
  exact hmoved (lower x) (by omega) hlo (congrArg lower hsame).symm

/-- Only two code points have a letter of ASCII as a sibling. -/
theorem lowerSiblings_letter {x y : Nat} (h : y ∈ lowerSiblings x) (hy : IsLetterCode y) :
    x = 305 ∨ x = 383 := by
  have htable : ∀ e ∈ siblingTable, ∀ s ∈ e.2, IsLetterCode s → e.1 = 305 ∨ e.1 = 383 := by decide +kernel
  obtain ⟨siblings, hrow, hmem⟩ := mem_lowerSiblings h
  exact htable _ hrow y hmem hy

/-! ### Ranges of letters -/

variable {m : Modes}

/-- The ranges of the letters of one case. -/
def letterRanges : List (Nat × Nat) := [(97, 122), (65, 90)]

theorem isLetterCode_of_range {r : Nat × Nat} (hr : r ∈ letterRanges) {z : Nat} (h : r.1 ≤ z ∧ z ≤ r.2) :
    IsLetterCode z := by
  simp only [letterRanges, List.mem_cons, List.not_mem_nil, or_false] at hr
  unfold IsLetterCode
  rcases hr with rfl | rfl
  · exact .inr h
  · exact .inl h

/-- A code point that agrees with a letter of ASCII is one of those letters, or one of the four others. -/
theorem letter_of_agreeing (hm : m.ignoreCase = true) {c : Char} {z : Nat} (h : z ∈ agreeing m c.toNat)
    (hz : IsLetterCode z) : isLetterOfAnyCase m.ascii c = true := by
  unfold agreeing at h
  rw [if_pos hm] at h
  unfold isLetterOfAnyCase
  cases hascii : m.ascii with
  | true =>
    rw [hascii] at h
    simp only [if_true, lowerAscii] at h
    rw [Bool.not_true, Bool.false_and, Bool.or_false, isAsciiLetter_iff]
    unfold IsLetterCode at hz ⊢
    grind
  | false =>
    rw [hascii, if_neg (by simp), List.mem_flatMap] at h
    obtain ⟨y, hy, hsource⟩ := h
    have hletter := lowerSources_letter hsource hz
    have hmem := mem_lowerSources_lower c.toNat
    rw [Bool.or_eq_true, isAsciiLetter_iff, Bool.not_false, Bool.true_and, List.contains_iff_mem]
    -- Either the lower case form is a letter of ASCII, or it is one of the two with such a sibling.
    rcases List.mem_cons.mp hy with rfl | hsibling
    · have hsources : ∀ y < 123, 97 ≤ y → ∀ x ∈ lowerSources y, IsLetterCode x ∨ x ∈ foreignLetters := by
        decide +kernel
      have hupper := lower_not_upper c.toNat
      unfold IsLetterCode at hletter
      exact hsources _ (by omega) (by omega) _ hmem
    · have hsources : ∀ y ∈ [305, 383], ∀ x ∈ lowerSources y, x ∈ foreignLetters := by decide +kernel
      have htwo := lowerSiblings_letter hsibling hletter
      exact .inr (hsources _ (by simpa using htwo) _ hmem)

/-- Each of these letters agrees with a letter of either case. -/
theorem exists_agreeing (hm : m.ignoreCase = true) {c : Char} (h : isLetterOfAnyCase m.ascii c = true)
    {r : Nat × Nat} (hr : r ∈ letterRanges) : ∃ z ∈ agreeing m c.toNat, r.1 ≤ z ∧ z ≤ r.2 := by
  -- Only two of the modes count, so there are finitely many cases.
  have hmodes (x : Nat) : agreeing m x = agreeing ⟨true, false, false, m.ascii⟩ x := by
    unfold agreeing
    rw [hm]
  have hletters : ∀ ascii, ∀ x < 123, IsLetterCode x → ∀ r ∈ letterRanges,
      ∃ z ∈ agreeing ⟨true, false, false, ascii⟩ x, r.1 ≤ z ∧ z ≤ r.2 := by
    decide +kernel
  have hforeign : ∀ x ∈ foreignLetters, ∀ r ∈ letterRanges,
      ∃ z ∈ agreeing ⟨true, false, false, false⟩ x, r.1 ≤ z ∧ z ≤ r.2 := by
    decide +kernel
  rw [hmodes]
  rcases Bool.or_eq_true_iff.mp h with hascii | hother
  · have hcode := (isAsciiLetter_iff c).mp hascii
    refine hletters m.ascii c.toNat ?_ hcode r hr
    unfold IsLetterCode at hcode
    omega
  · obtain ⟨hunicode, hmem⟩ := Bool.and_eq_true_iff.mp hother
    rw [Bool.not_eq_true'] at hunicode
    rw [hunicode]
    exact hforeign _ (List.contains_iff_mem.mp hmem) r hr

/-- **Letters of any case.** Where case is ignored, the range of the letters of one case admits the letters of
    both, and perhaps the four others. -/
theorem admits_anyCase (hm : m.ignoreCase = true) {r : Nat × Nat} (hr : r ∈ letterRanges) (c : Char) :
    (ClassMember.range r.1 r.2).admits m c.toNat = isLetterOfAnyCase m.ascii c := by
  rw [Bool.eq_iff_iff]
  simp only [ClassMember.admits, List.any_eq_true, Bool.and_eq_true, decide_eq_true_eq]
  constructor
  · rintro ⟨z, hz, hbounds⟩
    exact letter_of_agreeing hm hz (isLetterCode_of_range hr hbounds)
  · exact fun h => exists_agreeing hm h hr

end TextCriteria.Pattern
