import Mathlib.Data.List.Basic
import TextCriteria.Proofs.Pattern.Wrapping

namespace TextCriteria.Text

/-!
# Repeat marks with bounds

Numbers that are written into braces behind an item are read back as the bounds of a repetition, or
they are refused wherever the item stands.

* `decimal_digits` — a number is written in digits.
* `IsBounds` — what stands between braces, with its digits.
* `readLexeme_bounds` — bounds are one lexeme; `boundOf_decimal`, the number that was written.
* `States` — bounds that are written with small enough numbers.
* `Draft.Adds` — a text that adds one item to every draft.
* `Draft.Adds.rounds` — an item with bounds behind it is one item more, or a refusal;
  `Draft.Adds.between`, `Draft.Adds.reversed`, what it becomes for numbers that are small enough.
-/

/-! ### Digits -/

theorem toList_decimal (n : Nat) : (decimal n).toList = Nat.toDigits 10 n := by
  unfold decimal
  rw [if_neg (by omega)]
  exact Nat.toList_repr

/-- A number is written in digits. -/
theorem decimal_digits (n : Nat) : ∀ c ∈ (decimal n).toList, isAsciiDigit c = true := by
  intro c hc
  rw [toList_decimal] at hc
  have hdigit := Nat.isDigit_of_mem_toDigits (by omega) (by omega) hc
  simpa [isAsciiDigit, Char.isDigit, Char.le_def, UInt32.le_iff_toNat_le] using hdigit

theorem decimal_ne_nil (n : Nat) : (decimal n).toList ≠ [] := by
  rw [toList_decimal]
  exact Nat.toDigits_ne_nil

/-- The digits of a number stand for it. -/
theorem ofDigits_decimal (n : Nat) : ofDigits 10 (decimal n).toList = n := by
  have hstep : ∀ acc, ∀ c ∈ (decimal n).toList,
      acc * 10 + digitOf c = 10 * acc + (c.toNat - '0'.toNat) := by
    intro acc c hc
    have hdigit := decimal_digits n c hc
    have hle : c ≤ '9' := by
      simp only [isAsciiDigit, Bool.and_eq_true, decide_eq_true_eq] at hdigit
      exact hdigit.2
    rw [digitOf, if_pos hle, Nat.mul_comm]
    rfl
  rw [ofDigits, List.foldl_ext _ _ _ hstep, ← Nat.ofDigitChars_eq_foldl, toList_decimal,
    Nat.ofDigitChars_ten_toDigits]

end TextCriteria.Text

namespace TextCriteria.Pattern

open TextCriteria.Text

variable {s t lo hi : List Char}

/-! ### Bounds between braces -/

/-- One bound in digits, or two with a comma between them, of which the second may be missing. -/
inductive IsBounds : List Char → List Char → List Char → Prop
  | single {lo : List Char} (hlo : ∀ c ∈ lo, isAsciiDigit c = true) (hne : lo ≠ []) :
      IsBounds lo lo lo
  | pair {lo hi : List Char} (hlo : ∀ c ∈ lo, isAsciiDigit c = true)
      (hhi : ∀ c ∈ hi, isAsciiDigit c = true) : IsBounds (lo ++ ',' :: hi) lo hi

/-- The digits up to a character that is none. -/
theorem span_digits {c : Char} (hlo : ∀ c ∈ lo, isAsciiDigit c = true) (hc : isAsciiDigit c = false)
    (t : List Char) : (lo ++ c :: t).takeWhile isAsciiDigit = lo ∧
      (lo ++ c :: t).dropWhile isAsciiDigit = c :: t := by
  rw [List.takeWhile_append_of_pos hlo, List.dropWhile_append_of_pos hlo]
  simp [List.takeWhile, List.dropWhile, hc]

theorem boundsAhead_of_isBounds (h : IsBounds s lo hi) (t : List Char) :
    boundsAhead (s ++ '}' :: t) = (lo, hi, '}' :: t) := by
  have hbrace : isAsciiDigit '}' = false := by decide
  have hcomma : isAsciiDigit ',' = false := by decide
  cases h with
  | single hlo hne =>
    obtain ⟨htake, hdrop⟩ := span_digits hlo hbrace t
    simp [boundsAhead, htake, hdrop]
  | pair hlo hhi =>
    obtain ⟨htake, hdrop⟩ := span_digits hlo hcomma (hi ++ '}' :: t)
    obtain ⟨htake', hdrop'⟩ := span_digits hhi hbrace t
    simp [boundsAhead, htake, hdrop, htake', hdrop']

theorem IsBounds.head (h : IsBounds s lo hi) (t : List Char) :
    (s ++ '}' :: t).head? ≠ some '}' := by
  have hbrace : isAsciiDigit '}' = false := by decide
  have hdigits : ∀ {l r : List Char}, (∀ c ∈ l, isAsciiDigit c = true) → l ≠ [] →
      (l ++ r).head? ≠ some '}' := by
    intro l r hl hne hhead
    cases l with
    | nil => exact hne rfl
    | cons c l =>
      obtain rfl : c = '}' := by simpa using hhead
      have := hl '}' List.mem_cons_self
      rw [hbrace] at this
      cases this
  cases h with
  | single hlo hne => exact hdigits hlo hne
  | pair hlo hhi =>
    rw [List.append_assoc]
    by_cases hne : lo = []
    · simp [hne]
    · exact hdigits hlo hne

/-- Bounds between braces are one lexeme. -/
theorem readLexeme_bounds (h : IsBounds s lo hi) (verbose : Bool) (t : List Char) :
    readLexeme verbose '{' (s ++ '}' :: t)
      = roundsBetween lo hi (s ++ '}' :: t).length t := by
  have hlex : ∀ rest, readLexeme verbose '{' rest = readBraces rest := by
    intro rest
    cases verbose <;> rfl
  rw [hlex, readBraces_eq, if_neg (h.head t), boundsAhead_of_isBounds h]
  rfl

/-- No mark that chooses the number of rounds. -/
def Unmarked (t : List Char) : Prop := t.head? ≠ some '?' ∧ t.head? ≠ some '+'

theorem readGreed_unmarked (h : Unmarked t) : readGreed t = (.greedy, t) := by
  cases t with
  | nil => rfl
  | cons c t =>
    have hquestion : c ≠ '?' := fun hc => h.1 (by rw [hc]; rfl)
    have hplus : c ≠ '+' := fun hc => h.2 (by rw [hc]; rfl)
    simp [readGreed, hquestion, hplus]

/-- Two bounds make a repeat mark, or they are refused wherever they stand. -/
theorem roundsBetween_or_refused (lo hi : List Char) :
    (∃ least most, ∀ left t, Unmarked t →
      roundsBetween lo hi left t = .ok (.rounds .greedy least most, t)) ∨
    ∀ left t, ∃ refusal, roundsBetween lo hi left t = .error refusal := by
  have hrounds : ∀ least most t, Unmarked t →
      roundsOf least most t = .ok (.rounds .greedy least most, t) := by
    intro least most t ht
    simp [roundsOf, readGreed_unmarked ht]
  cases hleast : boundOf lo with
  | error refusal =>
    exact .inr fun left t => ⟨refusal, by simp [roundsBetween, hleast, bind, Except.bind]⟩
  | ok least =>
    cases hmost : boundOf hi with
    | error refusal =>
      exact .inr fun left t => ⟨refusal, by simp [roundsBetween, hleast, hmost, bind, Except.bind]⟩
    | ok most =>
      cases most with
      | none =>
        refine .inl ⟨least.getD 0, none, fun left t ht => ?_⟩
        simp [roundsBetween, hleast, hmost, bind, Except.bind, hrounds _ _ t ht]
      | some n =>
        by_cases hlt : n < least.getD 0
        · refine .inr fun left t => ⟨.malformed .boundsReversed (some left), ?_⟩
          simp [roundsBetween, hleast, hmost, bind, Except.bind, hlt, fault]
        · refine .inl ⟨least.getD 0, some n, fun left t ht => ?_⟩
          simp [roundsBetween, hleast, hmost, bind, Except.bind, hlt, hrounds _ _ t ht]

/-- A number that is small enough has few digits. -/
theorem length_decimal_le {n : Nat} (h : n < maxRepeat) : (decimal n).toList.length ≤ maxDigits := by
  have hsmall : n < 10 ^ 10 := by
    have : maxRepeat = 4294967295 := rfl
    omega
  have hlength : (decimal n).toList.length ≤ 10 := by
    rw [toList_decimal]
    exact (Nat.length_toDigits_le_iff (by omega) (by omega)).mpr hsmall
  have hmax : maxDigits = 4300 := rfl
  omega

/-- A number that is small enough is read as the bound that was written. -/
theorem boundOf_decimal {n : Nat} (h : n < maxRepeat) : boundOf (decimal n).toList = .ok (some n) := by
  have hdigits := Nat.not_lt.mpr (length_decimal_le h)
  have hnonempty : ¬(decimal n).toList.isEmpty = true := fun h =>
    decimal_ne_nil n (List.isEmpty_iff.mp h)
  unfold boundOf
  rw [if_neg hnonempty, if_neg hdigits, ofDigits_decimal, if_neg (by omega)]

/-- What stands between braces are the bounds `least` and `most`. -/
def States (s : List Char) (least : Nat) (most : Option Nat) : Prop :=
  ∃ lo hi bound, IsBounds s lo hi ∧ boundOf lo = .ok bound ∧ boundOf hi = .ok most ∧ bound.getD 0 = least

theorem states_exactly {n : Nat} (h : n < maxRepeat) : States (decimal n).toList n (some n) :=
  ⟨_, _, _, .single (decimal_digits n) (decimal_ne_nil n), boundOf_decimal h, boundOf_decimal h, rfl⟩

theorem states_least {n : Nat} (h : n < maxRepeat) : States ((decimal n).toList ++ [',']) n none :=
  ⟨_, [], _, .pair (decimal_digits n) (by simp), boundOf_decimal h, rfl, rfl⟩

theorem states_between {least most : Nat} (hleast : least < maxRepeat) (hmost : most < maxRepeat) :
    States ((decimal least).toList ++ ',' :: (decimal most).toList) least (some most) :=
  ⟨_, _, _, .pair (decimal_digits least) (decimal_digits most), boundOf_decimal hleast,
    boundOf_decimal hmost, rfl⟩

theorem states_most {n : Nat} (h : n < maxRepeat) : States ('0' :: ',' :: (decimal n).toList) 0 (some n) :=
  states_between (by decide : 0 < maxRepeat) h

/-- Bounds between braces make a repeat mark, if they are in order. -/
theorem States.lexeme {least : Nat} {most : Option Nat} (h : States s least most)
    (hle : ∀ l, most = some l → least ≤ l) (verbose : Bool) (ht : Unmarked t) :
    readLexeme verbose '{' (s ++ '}' :: t) = .ok (.rounds .greedy least most, t) := by
  obtain ⟨lo, hi, bound, hs, hlo, hhi, rfl⟩ := h
  rw [readLexeme_bounds hs]
  cases most with
  | none => simp [roundsBetween, hlo, hhi, bind, Except.bind, roundsOf, readGreed_unmarked ht]
  | some n =>
    have hnot : ¬n < bound.getD 0 := Nat.not_lt.mpr (hle n rfl)
    simp [roundsBetween, hlo, hhi, bind, Except.bind, hnot, roundsOf, readGreed_unmarked ht]

/-- Bounds in the wrong order are refused. -/
theorem States.lexeme_reversed {least most : Nat} (h : States s least (some most)) (hlt : most < least)
    (verbose : Bool) (t : List Char) :
    readLexeme verbose '{' (s ++ '}' :: t)
      = .error (.malformed .boundsReversed (some (s ++ '}' :: t).length)) := by
  obtain ⟨lo, hi, bound, hs, hlo, hhi, rfl⟩ := h
  rw [readLexeme_bounds hs]
  simp [roundsBetween, hlo, hhi, bind, Except.bind, hlt, fault]

/-! ### Items with bounds -/

namespace Draft

/-- The text adds the item to every draft, if an opening brace follows. -/
def Adds (s : List Char) (r : Regex) : Prop :=
  ∀ (D : Draft) (t : List Char), D.readAll (s ++ '{' :: t) = (D.withItem r).readAll ('{' :: t)

/-- A dot. -/
theorem readAll_dot (D : Draft) (t : List Char) : D.readAll ('.' :: t) = (D.withItem .any).readAll t := by
  have hl : ∀ verbose, readLexeme verbose '.' t = .ok (.item .any, t) := by
    intro verbose
    cases verbose <;> rfl
  rw [readAll_cons, hl]
  rfl

theorem adds_dot : Adds ['.'] .any := fun D t => D.readAll_dot ('{' :: t)

/-- An item with bounds behind it is one item more in every draft, or it is refused in every draft. -/
theorem Adds.rounds {pre : List Char} {r : Regex} (h : Adds pre r) (hr : r.repeatable = .yes)
    (hs : IsBounds s lo hi) :
    (∃ least most, ∀ (D : Draft) (t : List Char), Unmarked t →
      D.readAll (pre ++ '{' :: (s ++ '}' :: t))
        = (D.withItem (.rounds .greedy least most r)).readAll t) ∨
    ∀ (D : Draft) (t : List Char), ∃ refusal,
      D.readAll (pre ++ '{' :: (s ++ '}' :: t)) = .error refusal := by
  rcases roundsBetween_or_refused lo hi with ⟨least, most, hok⟩ | hrefused
  · refine .inl ⟨least, most, fun D t ht => ?_⟩
    rw [h, readAll_cons, readLexeme_bounds hs, hok _ t ht]
    simp only [push, pushRounds, Draft.withItem, hr, bind, Except.bind]
  · refine .inr fun D t => ?_
    obtain ⟨refusal, hrefused⟩ := hrefused (s ++ '}' :: t).length t
    refine ⟨refusal, ?_⟩
    rw [h, readAll_cons, readLexeme_bounds hs, hrefused]
    rfl

/-- An item with bounds in braces behind it becomes so many rounds. -/
theorem Adds.between {pre : List Char} {r : Regex} (h : Adds pre r) (hr : r.repeatable = .yes)
    {least : Nat} {most : Option Nat} (hs : States s least most) (hle : ∀ l, most = some l → least ≤ l)
    (D : Draft) (ht : Unmarked t) :
    D.readAll (pre ++ '{' :: (s ++ '}' :: t)) = (D.withItem (.rounds .greedy least most r)).readAll t := by
  rw [h, readAll_cons, hs.lexeme hle _ ht]
  simp only [push, pushRounds, Draft.withItem, hr, bind, Except.bind]

/-- With bounds in the wrong order it is refused. -/
theorem Adds.reversed {pre : List Char} {r : Regex} (h : Adds pre r) {least most : Nat}
    (hs : States s least (some most)) (hlt : most < least) (D : Draft) (t : List Char) :
    D.readAll (pre ++ '{' :: (s ++ '}' :: t))
      = .error (.malformed .boundsReversed (some (s ++ '}' :: t).length)) := by
  rw [h, readAll_cons, hs.lexeme_reversed hlt]
  rfl

end Draft

end TextCriteria.Pattern
