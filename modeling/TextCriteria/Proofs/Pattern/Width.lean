import TextCriteria.Proofs.Pattern.Spelling

namespace TextCriteria.Pattern

/-!
# Widths

The width of a tree is read off its shape. It tells how long the words are that the tree spells, as long as no
repetition goes on without a bound and nothing is taken twice.

* `Words.length_between` — words of parts are as long as their parts together.
* `Regex.limited` — trees whose repetitions have bounds.
* `Regex.Spells.width` — the words of such a tree are as long as its width says.
-/

/-- Words of parts are as long as their parts together. -/
theorem Words.length_between {P : List Char → Prop} {lo hi n : Nat} {w : List Char} (h : Words P n w)
    (hP : ∀ u, P u → lo ≤ u.length ∧ u.length ≤ hi) : lo * n ≤ w.length ∧ w.length ≤ hi * n := by
  obtain ⟨parts, rfl, hparts, rfl⟩ := h
  induction parts with
  | nil => simp
  | cons u rest ih =>
    obtain ⟨hu, hrest⟩ := List.forall_mem_cons.mp hparts
    have hlength := hP u hu
    have hmore := ih hrest
    rw [List.length_cons, List.flatten_cons, List.length_append, Nat.mul_succ, Nat.mul_succ]
    omega

/-- Trees without references to groups, whose repetitions have bounds in order. -/
def Regex.limited : Regex → Bool
  | .seq a b | .alt a b | .conditional _ a b => a.limited && b.limited
  | .group _ a | .scoped _ a | .atomic a => a.limited
  | .backref _ => false
  | .rounds _ _ none _ => false
  | .rounds _ least (some most) a => least ≤ most && a.limited
  | _ => true

/-- **Widths.** The words of a tree whose repetitions have bounds are as long as its width says. -/
theorem Regex.Spells.width {r : Regex} {m : Modes} {w : List Char} (h : r.Spells m w) (hr : r.limited = true)
    (groups : Nat → Width) :
    (r.width groups).least ≤ w.length ∧ w.length ≤ (r.width groups).most := by
  induction r generalizing m w with
  | empty | anchor a | lookahead negative a | lookbehind negative width a =>
    obtain rfl : w = [] := h
    exact ⟨Nat.le_refl 0, Nat.le_refl 0⟩
  | char c | any | oneOf negated members =>
    obtain ⟨x, rfl, -⟩ := h
    exact ⟨Nat.le_refl 1, Nat.le_refl 1⟩
  | seq a b iha ihb =>
    obtain ⟨ha, hb⟩ := Bool.and_eq_true_iff.mp hr
    obtain ⟨u, v, rfl, hu, hv⟩ := h
    have hleft := iha hu ha
    have hright := ihb hv hb
    simp only [Regex.width, Width.add, List.length_append]
    omega
  | alt a b iha ihb | conditional i a b iha ihb =>
    obtain ⟨ha, hb⟩ := Bool.and_eq_true_iff.mp hr
    simp only [Regex.width, Width.either]
    rcases h with h | h
    · have hleft := iha h ha
      omega
    · have hright := ihb h hb
      omega
  | group i a ih | «scoped» change a ih | atomic a ih => exact ih h hr
  | backref i => cases hr
  | rounds greed least most a ih =>
    obtain ⟨n, hleast, hmost, hwords⟩ := h
    cases most with
    | none => cases hr
    | some most =>
      obtain ⟨hbounds, ha⟩ := Bool.and_eq_true_iff.mp hr
      have hle : least ≤ most := of_decide_eq_true hbounds
      have hn : n ≤ most := by
        have := hmost most rfl
        omega
      have hlength := hwords.length_between fun u hu => ih hu ha
      -- There are no fewer rounds than have to be, and no more than may be.
      exact ⟨Nat.le_trans (Nat.mul_le_mul_left _ hleast) hlength.1,
        Nat.le_trans hlength.2 (Nat.mul_le_mul_left _ hn)⟩

end TextCriteria.Pattern
