import TextCriteria.Proofs.Pattern.Caseless
import TextCriteria.Text.Ascii

namespace TextCriteria

open TextCriteria.Pattern TextCriteria.Text

/-!
# Numbers in digits

A pattern has no numbers. It bounds a number by rows of digits with bounds of their own, one row for each way
of staying below the bound. The digits are below the letters, so case makes no difference to them.

* `IsNumeral` — so many digits, which stand for a number between two bounds.
* `Slot`, `InRow` — rows of digits, each between its own bounds.
* `numeralTree` — the tree of some rows; `spells_numeralTree`, the numbers that it spells.
-/

/-- A number between two bounds, in so many digits. -/
def IsNumeral (length lo hi : Nat) (s : List Char) : Prop :=
  s.length = length ∧ (∀ c ∈ s, isAsciiDigit c = true) ∧ lo ≤ ofDigits 10 s ∧ ofDigits 10 s ≤ hi

instance (length lo hi : Nat) (s : List Char) : Decidable (IsNumeral length lo hi s) :=
  decidable_of_iff (s.length = length ∧ s.all isAsciiDigit = true ∧ lo ≤ ofDigits 10 s ∧ ofDigits 10 s ≤ hi)
    (by simp [IsNumeral])

/-! ### Rows of digits -/

/-- A place for a digit between two bounds, which may be left out. -/
structure Slot where
  lo : Nat
  hi : Nat
  optional : Bool := false

/-- Digits fill a row if each stands in a slot of its own, in order, and no slot is passed over that may not
    be left out. -/
def InRow : List Slot → List Nat → Prop
  | [], digits => digits = []
  | slot :: rest, [] => slot.optional = true ∧ InRow rest []
  | slot :: rest, d :: digits =>
    (slot.lo ≤ d ∧ d ≤ slot.hi ∧ InRow rest digits) ∨ (slot.optional = true ∧ InRow rest (d :: digits))

/-- Characters that are digits, and whose values have a property. -/
def DigitsWith (P : List Nat → Prop) (s : List Char) : Prop :=
  (∀ c ∈ s, isAsciiDigit c = true) ∧ P (s.map digitOf)

/-- A digit between two bounds. -/
def digitIn (lo hi : Nat) (c : Char) : Bool := isAsciiDigit c && lo ≤ digitOf c && digitOf c ≤ hi

theorem isAsciiDigit_iff (c : Char) : isAsciiDigit c = true ↔ 48 ≤ c.toNat ∧ c.toNat ≤ 57 := by
  simp [isAsciiDigit, Char.le_def, UInt32.le_iff_toNat_le]

theorem digitOf_eq {c : Char} (h : isAsciiDigit c = true) : digitOf c = c.toNat - 48 := by
  obtain ⟨-, hle⟩ := Bool.and_eq_true_iff.mp h
  rw [digitOf, if_pos (of_decide_eq_true hle)]

theorem digitOf_le {c : Char} (h : isAsciiDigit c = true) : digitOf c ≤ 9 := by
  have hbounds := (isAsciiDigit_iff c).mp h
  rw [digitOf_eq h]
  omega

theorem digitIn_iff {lo hi : Nat} (hhi : hi ≤ 9) (c : Char) :
    digitIn lo hi c = true ↔ 48 + lo ≤ c.toNat ∧ c.toNat ≤ 48 + hi := by
  cases hdigit : isAsciiDigit c with
  | false =>
    have hnot := (isAsciiDigit_iff c).not.mp (by simp [hdigit])
    simp only [digitIn, hdigit, Bool.false_and, Bool.false_eq_true, false_iff]
    omega
  | true =>
    have hbounds := (isAsciiDigit_iff c).mp hdigit
    simp only [digitIn, hdigit, digitOf_eq hdigit, Bool.true_and, Bool.and_eq_true, decide_eq_true_eq]
    omega

/-! ### Trees -/

/-- A digit between two bounds: a single one by itself, two as a class of the two, more as a range. -/
def digitTree (lo hi : Nat) : Regex :=
  if lo = hi then .char (48 + lo)
  else if hi = lo + 1 then .oneOf false [.code (48 + lo), .code (48 + hi)]
  else .oneOf false [.range (48 + lo) (48 + hi)]

def Slot.tree (slot : Slot) : Regex :=
  if slot.optional then .rounds .greedy 0 (some 1) (digitTree slot.lo slot.hi)
  else digitTree slot.lo slot.hi

def rowTree (row : List Slot) : Regex := .ofItems (row.map Slot.tree)

/-- A number in one of some rows. -/
def numeralTree (row : List Slot) (rows : List (List Slot)) : Regex :=
  .scoped {} (.ofBranches (rowTree row) (rows.map rowTree))

variable {m : Modes}

theorem spellsOne_digitTree {lo hi : Nat} (hhi : hi ≤ 9) : (digitTree lo hi).SpellsOne m (digitIn lo hi) := by
  have hfree {d : Nat} (hd : d ≤ 9) : m.CaseFree (48 + d) := .inr (by omega)
  intro w
  unfold digitTree
  split
  · refine exists_congr fun x => and_congr_right fun _ => ?_
    rw [(hfree (by omega)).agree_iff, digitIn_iff hhi]
    omega
  · split <;> refine exists_congr fun x => and_congr_right fun _ => ?_
    · rw [digitIn_iff hhi]
      simp only [admitsClass, List.any_cons, List.any_nil, Bool.or_false, ClassMember.admits, Bool.bne_false,
        Bool.or_eq_true, (hfree (d := lo) (by omega)).agree_iff, (hfree hhi).agree_iff]
      omega
    · simp [admitsClass, (hfree hhi).range_iff, digitIn_iff hhi]

/-- The widest bounds are those of all digits. -/
theorem spellsOne_digit : (digitTree 0 9).SpellsOne m isAsciiDigit :=
  (spellsOne_digitTree (Nat.le_refl 9)).congr fun c => by
    rw [Bool.eq_iff_iff, digitIn_iff (Nat.le_refl 9), isAsciiDigit_iff]

/-! ### What the trees spell -/

variable {row : List Slot} {rows : List (List Slot)}

/-- The first slot of a row takes a digit or is left out. -/
theorem Slot.spells_cons {slot : Slot} (hhi : slot.hi ≤ 9) {w : List Char} :
    (rowTree (slot :: row)).Spells m w ↔ (slot.optional = true ∧ (rowTree row).Spells m w) ∨
      ∃ x v, w = x :: v ∧ digitIn slot.lo slot.hi x = true ∧ (rowTree row).Spells m v := by
  have hone : (Regex.ofItems (digitTree slot.lo slot.hi :: row.map Slot.tree)).Spells m w ↔
      ∃ x v, w = x :: v ∧ digitIn slot.lo slot.hi x = true ∧ (rowTree row).Spells m v :=
    (spellsOne_digitTree hhi).cons
  rw [rowTree, List.map_cons, Slot.tree]
  split
  · next hoptional => rw [Regex.spells_optional_cons, hone, and_iff_right hoptional, rowTree]
  · next hoptional => rw [hone, or_iff_right fun h => hoptional h.1]

/-- A row spells the digits that fill it. -/
theorem spells_row (hrow : ∀ slot ∈ row, slot.hi ≤ 9) (w : List Char) :
    (rowTree row).Spells m w ↔ DigitsWith (InRow row) w := by
  induction row generalizing w with
  | nil =>
    rw [rowTree, List.map_nil, Regex.spells_nil]
    simp +contextual [DigitsWith, InRow]
  | cons slot rest ih =>
    obtain ⟨hhi, hrest⟩ := List.forall_mem_cons.mp hrow
    rw [Slot.spells_cons hhi]
    simp only [ih hrest]
    cases w with
    | nil => simp [DigitsWith, InRow]
    | cons x v =>
      simp only [DigitsWith, InRow, digitIn, List.cons.injEq, List.forall_mem_cons, List.map_cons,
        Bool.and_eq_true, decide_eq_true_eq]
      grind

theorem spells_numeralTree (hrows : ∀ r ∈ row :: rows, ∀ slot ∈ r, slot.hi ≤ 9) (w : List Char) :
    (numeralTree row rows).Spells m w ↔ DigitsWith (fun digits => ∃ r ∈ row :: rows, InRow r digits) w := by
  rw [numeralTree, Regex.spells_scoped, Regex.spells_ofBranches, ← List.map_cons]
  constructor
  · rintro ⟨_, hmem, hspells⟩
    obtain ⟨r, hr, rfl⟩ := List.mem_map.mp hmem
    obtain ⟨hall, hin⟩ := (spells_row (hrows r hr) w).mp hspells
    exact ⟨hall, r, hr, hin⟩
  · rintro ⟨hall, r, hr, hin⟩
    exact ⟨rowTree r, List.mem_map_of_mem hr, (spells_row (hrows r hr) w).mpr ⟨hall, hin⟩⟩

/-! ### Numbers -/

/-- The number that digits stand for. -/
def valueOf (digits : List Nat) : Nat := digits.foldl (fun n d => n * 10 + d) 0

theorem ofDigits_eq (s : List Char) : ofDigits 10 s = valueOf (s.map digitOf) := by
  rw [ofDigits, valueOf, List.foldl_map]

theorem isNumeral_iff {length lo hi : Nat} {s : List Char} : IsNumeral length lo hi s ↔
    DigitsWith (fun digits => digits.length = length ∧ lo ≤ valueOf digits ∧ valueOf digits ≤ hi) s := by
  rw [IsNumeral, DigitsWith, List.length_map, ofDigits_eq, and_left_comm]

/-- Only properties of digits up to nine count. -/
theorem digitsWith_congr {P Q : List Nat → Prop} (h : ∀ digits, (∀ d ∈ digits, d ≤ 9) → (P digits ↔ Q digits))
    {s : List Char} : DigitsWith P s ↔ DigitsWith Q s := by
  refine and_congr_right fun hs => h _ fun d hd => ?_
  obtain ⟨c, hc, rfl⟩ := List.mem_map.mp hd
  exact digitOf_le (hs c hc)

/-- A row without slots that may be left out has as many digits as slots. -/
theorem InRow.length_eq (hrow : ∀ slot ∈ row, slot.optional = false) {digits : List Nat}
    (h : InRow row digits) : digits.length = row.length := by
  induction row generalizing digits with
  | nil => exact congrArg List.length h
  | cons slot rest ih =>
    obtain ⟨hslot, hrest⟩ := List.forall_mem_cons.mp hrow
    cases digits with
    | nil => exact absurd (hslot.symm.trans h.1) Bool.false_ne_true
    | cons d digits =>
      rcases h with ⟨-, -, h⟩ | ⟨hoptional, -⟩
      · rw [List.length_cons, List.length_cons, ih hrest h]
      · exact absurd (hslot.symm.trans hoptional) Bool.false_ne_true

/-- **Two digits.** Rows of two digits bound a number of two digits if they do so for each two digits. -/
theorem spells_pair (row : List Slot) (rows : List (List Slot)) {lo hi : Nat}
    (hrows : ∀ r ∈ row :: rows, r.length = 2 ∧ ∀ slot ∈ r, slot.hi ≤ 9 ∧ slot.optional = false)
    (h : ∀ x y, x ≤ 9 → y ≤ 9 → ((∃ r ∈ row :: rows, InRow r [x, y]) ↔ lo ≤ x * 10 + y ∧ x * 10 + y ≤ hi))
    (w : List Char) : (numeralTree row rows).Spells m w ↔ IsNumeral 2 lo hi w := by
  rw [spells_numeralTree fun r hr slot hslot => ((hrows r hr).2 slot hslot).1, isNumeral_iff]
  refine digitsWith_congr fun digits hdigits => ?_
  have hlength : (∃ r ∈ row :: rows, InRow r digits) → digits.length = 2 := by
    rintro ⟨r, hr, hin⟩
    rw [hin.length_eq fun slot hslot => ((hrows r hr).2 slot hslot).2, (hrows r hr).1]
  rw [← and_iff_right_of_imp hlength]
  refine and_congr_right fun htwo => ?_
  obtain ⟨x, y, rfl⟩ := List.length_eq_two.mp htwo
  rw [h x y (hdigits x (by simp)) (hdigits y (by simp))]
  simp [valueOf]

end TextCriteria
