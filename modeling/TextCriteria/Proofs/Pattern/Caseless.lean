import TextCriteria.Proofs.Pattern.Regular
import TextCriteria.Proofs.Text.LetterCase

namespace TextCriteria.Pattern

open TextCriteria.Text

/-!
# Where case makes no difference

The modes may say that case is ignored. That makes no difference to the code points below those of the
letters: none of them is the other case of anything.

* `Modes.CaseFree` — case makes no difference to a code point.
* `Modes.CaseFree.agree_iff`, `Modes.CaseFree.range_iff` — what characters and ranges of such code points
  take.
* `Regex.spellsOne_char`, `Regex.spellsOne_class` — the trees of single characters; `Regex.spells_word`, those
  of words.
-/

/-! ### Characters and ranges -/

variable {m : Modes}

/-- Case makes no difference to a code point: it is regarded, or there is none. -/
def Modes.CaseFree (m : Modes) (c : Nat) : Prop := m.ignoreCase = false ∨ c < 65

/-- A character of a pattern takes itself and nothing else. -/
theorem Modes.CaseFree.agree_iff {c : Nat} (h : m.CaseFree c) (x : Nat) : agree m c x = true ↔ x = c := by
  rcases h with hm | hc
  · exact Pattern.agree_iff hm
  · cases hm : m.ignoreCase with
    | false => exact Pattern.agree_iff hm
    | true =>
      cases hascii : m.ascii with
      | true => simp [agree, fold, hm, hascii, (lowerAscii_eq_small hc).mpr, lowerAscii_eq_small hc]
      | false =>
        have hnone : lowerSiblings c = [] := by
          refine List.eq_nil_iff_forall_not_mem.mpr fun y hy => ?_
          exact absurd (lowerSiblings_small hy).1 (Nat.not_le.mpr hc)
        have hlower : lower x = c ↔ x = c :=
          ⟨lower_eq_small (by omega), by rintro rfl; exact lower_small hc⟩
        simp [agree, fold, hm, hascii, lower_small hc, hnone, hlower]

/-- Of the code points that agree with a given one, at most that one is small. -/
theorem agreeing_small {x c : Nat} (hc : c < 65) : c ∈ agreeing m x ↔ c = x := by
  unfold agreeing
  split
  · split
    · have hlow : c = lowerAscii x ↔ c = x := by
        rw [eq_comm, lowerAscii_eq_small hc, eq_comm]
      simp only
      split
      · next hletter =>
        -- Neither a letter nor its other case is small.
        simp only [Bool.and_eq_true, decide_eq_true_eq] at hletter
        rw [← hlow, List.mem_pair]
        omega
      · rw [List.mem_singleton, hlow]
    · rw [List.mem_flatMap]
      constructor
      · rintro ⟨y, hy, hsource⟩
        obtain rfl := lowerSources_small hc hsource
        rcases List.mem_cons.mp hy with hlower | hsibling
        · exact (lower_eq_small (by omega) hlower.symm).symm
        · exact absurd (lowerSiblings_small hsibling).2 (Nat.not_le.mpr hc)
      · rintro rfl
        exact ⟨c, List.mem_cons.mpr (.inl (lower_small hc).symm), List.mem_cons_self⟩
  · exact List.mem_singleton

/-- A range takes the code points between its ends. -/
theorem Modes.CaseFree.range_iff {lo hi : Nat} (h : m.CaseFree hi) (x : Nat) :
    (ClassMember.range lo hi).admits m x = true ↔ lo ≤ x ∧ x ≤ hi := by
  rcases h with hm | hhi
  · simp [ClassMember.admits, agreeing, hm]
  · simp only [ClassMember.admits, List.any_eq_true, Bool.and_eq_true, decide_eq_true_eq]
    constructor
    · rintro ⟨c, hc, hbounds⟩
      rwa [← (agreeing_small (by omega)).mp hc]
    · exact fun hbounds => ⟨x, (agreeing_small (by omega)).mpr rfl, hbounds⟩

/-! ### Trees of single characters -/

theorem Regex.spellsOne_char {c : Char} (h : m.CaseFree c.toNat) :
    (Regex.char c.toNat).SpellsOne m (· == c) := by
  intro w
  refine exists_congr fun x => and_congr_right fun _ => ?_
  rw [h.agree_iff, Char.toNat_inj, beq_iff_eq]

theorem Regex.spellsOne_class {members : List ClassMember} {test : Char → Bool}
    (h : ∀ c : Char, admitsClass m false members c.toNat = test c) :
    (Regex.oneOf false members).SpellsOne m test := by
  intro w
  refine exists_congr fun x => and_congr_right fun _ => ?_
  rw [h]

/-- A character, and the other items behind it. -/
theorem Modes.CaseFree.spells_cons {c : Char} (h : m.CaseFree c.toNat) {rest : List Regex} {w : List Char} :
    (Regex.ofItems (.char c.toNat :: rest)).Spells m w ↔
      ∃ v, w = c :: v ∧ (Regex.ofItems rest).Spells m v := by
  rw [(Regex.spellsOne_char h).cons]
  simp only [beq_iff_eq]
  constructor
  · rintro ⟨_, v, rfl, rfl, hv⟩
    exact ⟨v, rfl, hv⟩
  · rintro ⟨v, rfl, hv⟩
    exact ⟨c, v, rfl, rfl, hv⟩

/-- The characters of a word, and other items behind them. -/
theorem Regex.spells_word {word : List Char} (h : ∀ c ∈ word, m.CaseFree c.toNat) {rest : List Regex}
    {w : List Char} : (Regex.ofItems (word.map (fun c => .char c.toNat) ++ rest)).Spells m w ↔
      ∃ v, w = word ++ v ∧ (Regex.ofItems rest).Spells m v := by
  induction word generalizing w with
  | nil => simp
  | cons c word ih =>
    obtain ⟨hc, hword⟩ := List.forall_mem_cons.mp h
    rw [List.map_cons, List.cons_append, hc.spells_cons]
    simp only [ih hword]
    constructor
    · rintro ⟨_, rfl, v, rfl, hv⟩
      exact ⟨v, rfl, hv⟩
    · rintro ⟨v, rfl, hv⟩
      exact ⟨word ++ v, rfl, v, rfl, hv⟩

end TextCriteria.Pattern
