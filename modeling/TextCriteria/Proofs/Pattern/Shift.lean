import TextCriteria.Pattern.Compiled
import TextCriteria.Proofs.Pattern.Reading

namespace TextCriteria.Pattern

/-!
# Renumbering the groups of a tree

A pattern behind others has the same tree as alone, except that the groups before it are counted too.

* `Regex.shift` — a tree with all group numbers raised.
* `Regex.Within` — a tree whose groups have numbers from one up to a bound.
* `Regex.width_shift`, `Regex.fault?_shift`, `Regex.repeatable_shift` — what is asked of a tree does
  not depend on how its groups are counted.
-/

namespace Regex

/-- The tree with all group numbers raised by `k`. -/
def shift (k : Nat) : Regex → Regex
  | .empty => .empty
  | .char c => .char c
  | .any => .any
  | .oneOf negated members => .oneOf negated members
  | .anchor a => .anchor a
  | .seq a b => .seq (a.shift k) (b.shift k)
  | .alt a b => .alt (a.shift k) (b.shift k)
  | .group i a => .group (i + k) (a.shift k)
  | .scoped change a => .scoped change (a.shift k)
  | .atomic a => .atomic (a.shift k)
  | .lookahead negative a => .lookahead negative (a.shift k)
  | .lookbehind negative w a => .lookbehind negative w (a.shift k)
  | .backref i => .backref (i + k)
  | .conditional i a b => .conditional (i + k) (a.shift k) (b.shift k)
  | .rounds greed least most a => .rounds greed least most (a.shift k)

/-- Groups have numbers from one to `n`, and no reference is to number zero. -/
def Within (n : Nat) : Regex → Prop
  | .seq a b | .alt a b => a.Within n ∧ b.Within n
  | .group i a => 0 < i ∧ i ≤ n ∧ a.Within n
  | .scoped _ a | .atomic a | .lookahead _ a | .lookbehind _ _ a | .rounds _ _ _ a => a.Within n
  | .backref i => 0 < i
  | .conditional i a b => 0 < i ∧ a.Within n ∧ b.Within n
  | _ => True

/-- More groups may come. -/
theorem Within.mono {n m : Nat} (hnm : n ≤ m) {r : Regex} (h : r.Within n) : r.Within m := by
  induction r with
  | empty | char | any | oneOf | anchor => trivial
  | seq a b iha ihb | alt a b iha ihb => exact ⟨iha h.1, ihb h.2⟩
  | group i a ih => exact ⟨h.1, Nat.le_trans h.2.1 hnm, ih h.2.2⟩
  | «scoped» _ a ih | atomic a ih | lookahead _ a ih | lookbehind _ _ a ih | rounds _ _ _ a ih =>
    exact ih h
  | backref i => exact h
  | conditional i a b iha ihb => exact ⟨h.1, iha h.2.1, ihb h.2.2⟩

/-- Where no group stands before, groups keep their numbers. -/
theorem shift_zero (r : Regex) : r.shift 0 = r := by
  induction r with
  | empty | char | any | oneOf | anchor | backref => rfl
  | seq a b iha ihb | alt a b iha ihb | conditional _ a b iha ihb => simp only [shift, iha, ihb, Nat.add_zero]
  | group _ a ih | «scoped» _ a ih | atomic a ih | lookahead _ a ih | lookbehind _ _ a ih
  | rounds _ _ _ a ih => simp only [shift, ih, Nat.add_zero]

/-! ### Single pieces, sequences and alternatives -/

theorem shift_leaf {r : Regex} (h : r.isLeaf = true) (k : Nat) : r.shift k = r := by
  cases r <;> simp [isLeaf] at h <;> rfl

theorem within_leaf {r : Regex} (h : r.isLeaf = true) (n : Nat) : r.Within n := by
  cases r <;> simp [isLeaf] at h <;> trivial

theorem shift_ofItems (k : Nat) (items : List Regex) :
    (ofItems items).shift k = ofItems (items.map (shift k)) := by
  induction items with
  | nil => rfl
  | cons r rest ih => simp [ofItems, shift, ih]

theorem shift_ofBranches (k : Nat) (r : Regex) (rest : List Regex) :
    (ofBranches r rest).shift k = ofBranches (r.shift k) (rest.map (shift k)) := by
  induction rest generalizing r with
  | nil => rfl
  | cons s rest ih => simp [ofBranches, shift, ih]

theorem within_ofItems {n : Nat} {items : List Regex} (h : ∀ r ∈ items, r.Within n) :
    (ofItems items).Within n := by
  induction items with
  | nil => trivial
  | cons r rest ih =>
    exact ⟨h r List.mem_cons_self, ih fun s hs => h s (List.mem_cons_of_mem r hs)⟩

theorem within_ofBranches {n : Nat} {r : Regex} {rest : List Regex} (h : ∀ s ∈ r :: rest, s.Within n) :
    (ofBranches r rest).Within n := by
  induction rest generalizing r with
  | nil => exact h r List.mem_cons_self
  | cons s rest ih =>
    exact ⟨h r List.mem_cons_self, ih fun q hq => h q (List.mem_cons_of_mem r hq)⟩

/-! ### What is asked of a tree -/

theorem repeatable_shift (k : Nat) (r : Regex) : (r.shift k).repeatable = r.repeatable := by
  cases r <;> rfl

/-- The width depends on the groups before only through their widths. -/
theorem width_shift {k n : Nat} {r : Regex} (hr : r.Within n) {groups groups' : Nat → Width}
    (hgroups : ∀ i, 0 < i → groups' (i + k) = groups i) :
    (r.shift k).width groups' = r.width groups := by
  induction r with
  | empty | char | any | oneOf | anchor | lookahead | lookbehind => rfl
  | seq a b iha ihb | alt a b iha ihb => simp only [shift, width, iha hr.1, ihb hr.2]
  | group i a ih => simp only [shift, width, ih hr.2.2]
  | «scoped» _ a ih | atomic a ih => simp only [shift, width, ih hr]
  | backref i => exact hgroups i hr
  | conditional i a b iha ihb => simp only [shift, width, iha hr.2.1, ihb hr.2.2]
  | rounds _ _ _ a ih => simp only [shift, width, ih hr]

/-- What may not be compiled is not told by group numbers. -/
theorem fault?_shift (template : Bool) (k : Nat) (r : Regex) :
    (r.shift k).fault? template = r.fault? template := by
  induction r with
  | empty | char | any | oneOf | anchor | backref => rfl
  | seq a b iha ihb | alt a b iha ihb | conditional _ a b iha ihb =>
    simp only [shift, fault?, iha, ihb]
  | group _ a ih | «scoped» _ a ih | atomic a ih | lookahead _ a ih | lookbehind _ _ a ih
  | rounds _ _ _ a ih => simp only [shift, fault?, ih]

end Regex

end TextCriteria.Pattern
