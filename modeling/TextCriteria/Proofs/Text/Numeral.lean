import Mathlib.Algebra.Group.Nat.Defs
import TextCriteria.Proofs.Format.Numeral
import TextCriteria.Proofs.Pattern.Bounds
import TextCriteria.Proofs.Text.Blank
import TextCriteria.Proofs.Text.Pieces
import TextCriteria.Text.Numeral

namespace TextCriteria.Text

/-!
# What numerals stand for

The reader of numerals goes through the characters once. What it accepts is said here without it: blanks, a sign,
and digits in groups between underscores.

* `IsGrouped`, `digitsOf` — groups of digits, and the values of the digits in them.
* `IsInteger` — the numerals of a number; `integer?_eq_some_iff`, that they are what is read.
* `IsInteger.trim` — blanks at the ends may be dropped, also those that a numeral may not have.
* `IsInteger.length_decimal` — the plain numeral of a number is not longer than the others.
* `isInteger_decimal` — the plain numeral is a numeral of its number.
-/

variable {s sign digits : List Char} {n : Int} {v acc : Nat} {c : Char}

/-! ### Grammar -/

/-- Nothing but digits, of any script. -/
def AllDigits (s : List Char) : Prop := ∀ c ∈ s, (digitValue? c).isSome = true

/-- Groups of digits with a single underscore between each two of them. -/
def IsGrouped (s : List Char) : Prop := ∀ group ∈ pieces '_' s, group ≠ [] ∧ AllDigits group

/-- The values of the digits of a text, in their order. -/
def digitsOf (s : List Char) : List Nat := s.filterMap digitValue?

/-- A number with a sign in front of it. -/
inductive Signed : List Char → Nat → Int → Prop
  | bare (v : Nat) : Signed [] v v
  | plus (v : Nat) : Signed ['+'] v v
  | minus (v : Nat) : Signed ['-'] v (-v)

/-- A numeral of a number: blanks around, perhaps a sign, and no more digits in groups than can be read. -/
def IsInteger (s : List Char) (n : Int) : Prop :=
  ∃ before sign digits after, s = before ++ (sign ++ digits) ++ after ∧
    (∀ c ∈ before, numeralBlank c = true) ∧ (∀ c ∈ after, numeralBlank c = true) ∧
    IsGrouped digits ∧ (digitsOf digits).length ≤ maxDigits ∧ Signed sign (valueOf (digitsOf digits)) n

/-! ### Digits -/

/-- Blanks and digits are apart: no range of the one kind has members of the other. -/
theorem digitValue?_of_blank (h : isBlank c = true) : digitValue? c = none := by
  have hascending : CodeRange.Ascending blankRanges := by simp [blankRanges, CodeRange.Ascending]
  have hapart : ∀ r ∈ blankRanges, ∀ i ≤ r.2 - r.1, digitValueIn digitRanges (r.1 + i) = none := by
    decide +kernel
  rw [isBlank, CodeRange.member_eq_any hascending, List.any_eq_true] at h
  obtain ⟨r, hr, hbounds⟩ := h
  simp only [Bool.and_eq_true, decide_eq_true_eq] at hbounds
  have hnone := hapart r hr (c.toNat - r.1) (by omega)
  rwa [Nat.add_sub_cancel' hbounds.1] at hnone

theorem digitValueIn_le {runs : List CodeRange} {x d : Nat} (h : digitValueIn runs x = some d) : d ≤ 9 := by
  induction runs with
  | nil => cases h
  | cons r rest ih =>
    unfold digitValueIn at h
    split at h
    · cases h
    · split at h
      · obtain rfl := Option.some.inj h
        omega
      · exact ih h

theorem digitsOf_le : ∀ d ∈ digitsOf s, d ≤ 9 := by
  intro d hd
  obtain ⟨c, -, hc⟩ := List.mem_filterMap.mp hd
  exact digitValueIn_le hc

theorem valueOf_lt {ds : List Nat} (h : ∀ d ∈ ds, d ≤ 9) : valueOf ds < 10 ^ ds.length := by
  induction ds using List.reverseRecOn with
  | nil => decide
  | append_singleton front d ih =>
    have hfront := ih fun e he => h e (List.mem_append_left _ he)
    have hd : d ≤ 9 := h d (by simp)
    have hvalue : valueOf (front ++ [d]) = valueOf front * 10 + d := by simp [valueOf, List.foldl_append]
    rw [hvalue, List.length_append, List.length_singleton, Nat.pow_succ]
    omega

/-- **Digits.** What is read of the rest of a run of digits. The first group may be empty where a digit stands in
    front of it. -/
theorem digitsValue?_eq_some_iff {afterDigit : Bool} : digitsValue? acc afterDigit s = some v ↔
    (∃ first more, pieces '_' s = first :: more ∧ ((afterDigit = true ∨ first ≠ []) ∧ AllDigits first) ∧
      ∀ group ∈ more, group ≠ [] ∧ AllDigits group) ∧
    v = (digitsOf s).foldl (fun n d => n * 10 + d) acc := by
  induction s generalizing acc afterDigit with
  | nil =>
    cases afterDigit with
    | false => simp [digitsValue?, pieces]
    | true => simp [digitsValue?, pieces, digitsOf, AllDigits, eq_comm (a := v)]
  | cons c rest ih =>
    obtain ⟨first, more, hrest⟩ := List.exists_cons_of_ne_nil (pieces_ne_nil '_' rest)
    by_cases hc : c = '_'
    · -- An underscore ends a group, and the next one may not be empty.
      have hnone : digitValue? '_' = none := by decide
      subst hc
      cases afterDigit with
      | false => simp [digitsValue?, pieces]
      | true => simp [digitsValue?, ih, pieces, hrest, digitsOf, hnone, AllDigits]
    · have hc' : (c == '_') = false := beq_false_of_ne hc
      cases hd : digitValue? c with
      | none => simp [digitsValue?, hc', hd, pieces, hrest, AllDigits]
      | some d => simp [digitsValue?, hc', hd, ih, pieces, hrest, digitsOf, AllDigits]

theorem digitsValue?_eq_some_iff_grouped :
    digitsValue? 0 false s = some v ↔ IsGrouped s ∧ v = valueOf (digitsOf s) := by
  obtain ⟨first, more, hs⟩ := List.exists_cons_of_ne_nil (pieces_ne_nil '_' s)
  rw [digitsValue?_eq_some_iff, IsGrouped, hs, valueOf]
  simp

/-- There are no other characters in groups of digits than digits and underscores. -/
theorem IsGrouped.isSome_iff (h : IsGrouped s) (hc : c ∈ s) : (digitValue? c).isSome = true ↔ c ≠ '_' := by
  constructor
  · rintro hsome rfl
    exact absurd hsome (by decide)
  · intro hne
    obtain ⟨group, hgroup, hcgroup⟩ := exists_mem_pieces hc hne
    exact (h group hgroup).2 c hcgroup

theorem IsGrouped.length_digitsOf (h : IsGrouped s) :
    (digitsOf s).length = (s.filter fun c => c != '_').length := by
  rw [digitsOf, List.length_filterMap_eq_countP, ← List.countP_eq_length_filter]
  refine List.countP_congr fun c hc => ?_
  rw [h.isSome_iff hc, bne_iff_ne]

theorem IsGrouped.head_isSome (h : IsGrouped s) : ∃ c rest, s = c :: rest ∧ (digitValue? c).isSome = true := by
  cases s with
  | nil => exact absurd rfl (h [] (by simp [pieces])).1
  | cons c rest =>
    refine ⟨c, rest, rfl, (h.isSome_iff List.mem_cons_self).mpr ?_⟩
    rintro rfl
    exact absurd rfl (h [] (by simp [pieces])).1

theorem IsGrouped.last_isSome (h : IsGrouped s) (hc : s.getLast? = some c) : (digitValue? c).isSome = true := by
  obtain ⟨front, rfl⟩ := List.getLast?_eq_some_iff.mp hc
  refine (h.isSome_iff (by simp)).mpr ?_
  rintro rfl
  -- Nothing would stand behind the underscore.
  have hpieces : pieces '_' (front ++ ['_']) = pieces '_' front ++ [[]] := pieces_joined '_' front []
  exact absurd rfl (h [] (by simp [hpieces])).1

/-! ### Signs -/

theorem Signed.sign_not_blank (h : Signed sign v n) (hc : c ∈ sign) : isBlank c = false := by
  cases h with
  | bare => cases hc
  | plus | minus =>
    obtain rfl := List.mem_singleton.mp hc
    decide

/-- A text is its sign and what follows it. -/
theorem signed_splitSign (s : List Char) (v : Nat) : ∃ sign, s = sign ++ (splitSign s).2 ∧
    Signed sign v (if (splitSign s).1 = true then -(v : Int) else v) := by
  unfold splitSign
  split
  · exact ⟨['-'], rfl, .minus v⟩
  · exact ⟨['+'], rfl, .plus v⟩
  · exact ⟨[], rfl, .bare v⟩

/-- A sign is found in front of digits, and nothing else is taken for one. -/
theorem Signed.splitSign_eq (h : Signed sign v n) (hdigits : IsGrouped digits) :
    (splitSign (sign ++ digits)).2 = digits ∧
      n = if (splitSign (sign ++ digits)).1 = true then -(v : Int) else v := by
  cases h with
  | plus | minus => exact ⟨rfl, rfl⟩
  | bare =>
    obtain ⟨c, rest, rfl, hc⟩ := hdigits.head_isSome
    have hplus : c ≠ '+' := by
      rintro rfl
      exact absurd hc (by decide)
    have hminus : c ≠ '-' := by
      rintro rfl
      exact absurd hc (by decide)
    simp [splitSign, hplus, hminus]

/-- There is no blank at the ends of a sign and digits. -/
theorem Signed.unpadded (h : Signed sign v n) (hdigits : IsGrouped digits) :
    Unpadded isBlank (sign ++ digits) := by
  have hdigit {c : Char} (hc : (digitValue? c).isSome = true) : isBlank c = false := by
    by_contra hblank
    rw [digitValue?_of_blank (by simpa using hblank)] at hc
    cases hc
  constructor
  · intro c hc
    cases hsign : sign with
    | nil =>
      obtain ⟨d, rest, hd, hsome⟩ := hdigits.head_isSome
      obtain rfl : d = c := by simpa [hsign, hd] using hc
      exact hdigit hsome
    | cons d rest =>
      obtain rfl : d = c := by simpa [hsign] using hc
      exact h.sign_not_blank (by simp [hsign])
  · intro c hc
    obtain ⟨d, rest, hd, -⟩ := hdigits.head_isSome
    refine hdigit (hdigits.last_isSome ?_)
    simpa [List.getLast?_append, hd] using hc

/-! ### Numerals -/

/-- The blanks of numerals are blanks. -/
theorem isBlank_of_numeralBlank (h : numeralBlank c = true) : isBlank c = true := by
  simp only [numeralBlank, Bool.or_eq_true, Bool.and_eq_true, beq_iff_eq, decide_eq_true_eq] at h
  rcases h with (rfl | ⟨hlo, hhi⟩) | ⟨-, hblank⟩
  · decide
  · simp [isBlank, blankRanges, CodeRange.member, hhi, Nat.not_lt.mpr hlo]
  · exact hblank

theorem Unpadded.numeral (h : Unpadded isBlank s) : Unpadded numeralBlank s := by
  have hnot {c : Char} (hc : isBlank c = false) : numeralBlank c = false := by
    by_contra hblank
    rw [isBlank_of_numeralBlank (by simpa using hblank)] at hc
    cases hc
  exact ⟨fun c hc => hnot (h.head c hc), fun c hc => hnot (h.last c hc)⟩

/-- **Numerals.** The numerals of a number are the texts that are read as it. -/
theorem integer?_eq_some_iff : integer? s = some n ↔ IsInteger s n := by
  have hread : integer? s = if maxDigits < ((splitSign (stripped numeralBlank s)).2.filter
      fun c => c != '_').length then none
      else (digitsValue? 0 false (splitSign (stripped numeralBlank s)).2).map fun v : Nat =>
        if (splitSign (stripped numeralBlank s)).1 then -(v : Int) else v := by
    unfold integer?
    rfl
  rw [hread]
  constructor
  · intro h
    obtain ⟨hlength, hmap⟩ := Option.ite_none_left_eq_some.mp h
    obtain ⟨v, hdigits, rfl⟩ := Option.map_eq_some_iff.mp hmap
    obtain ⟨hgrouped, rfl⟩ := digitsValue?_eq_some_iff_grouped.mp hdigits
    obtain ⟨before, after, hs, hbefore, hafter⟩ := exists_padding numeralBlank s
    obtain ⟨sign, hsplit, hsigned⟩ := signed_splitSign (stripped numeralBlank s)
      (valueOf (digitsOf (splitSign (stripped numeralBlank s)).2))
    refine ⟨before, sign, _, after, ?_, hbefore, hafter, hgrouped, ?_, hsigned⟩
    · rw [← hsplit]
      exact hs
    · rw [hgrouped.length_digitsOf]
      exact Nat.not_lt.mp hlength
  · rintro ⟨before, sign, digits, after, rfl, hbefore, hafter, hgrouped, hlength, hsigned⟩
    have hstripped : stripped numeralBlank (before ++ (sign ++ digits) ++ after) = sign ++ digits :=
      stripped_eq_iff.mpr ⟨(hsigned.unpadded hgrouped).numeral, before, after, rfl, hbefore, hafter⟩
    obtain ⟨hsplit, rfl⟩ := hsigned.splitSign_eq hgrouped
    rw [hgrouped.length_digitsOf] at hlength
    rw [hstripped, hsplit, if_neg (Nat.not_lt.mpr hlength),
      digitsValue?_eq_some_iff_grouped.mpr ⟨hgrouped, rfl⟩]
    rfl

/-- A numeral without the blanks at its ends is a numeral of the same number. -/
theorem IsInteger.trim (h : IsInteger s n) : IsInteger (trim s) n := by
  obtain ⟨before, sign, digits, after, rfl, hbefore, hafter, hgrouped, hlength, hsigned⟩ := h
  have htrim : Text.trim (before ++ (sign ++ digits) ++ after) = sign ++ digits :=
    stripped_eq_iff.mpr ⟨hsigned.unpadded hgrouped, before, after, rfl,
      fun c hc => isBlank_of_numeralBlank (hbefore c hc), fun c hc => isBlank_of_numeralBlank (hafter c hc)⟩
  rw [htrim]
  exact ⟨[], sign, digits, [], by simp, by simp, by simp, hgrouped, hlength, hsigned⟩

/-- The plain numeral of a number has no more digits than can be read, since no numeral of it has. -/
theorem IsInteger.length_decimal {n : Nat} (h : IsInteger s n) : (decimal n).length ≤ maxDigits := by
  obtain ⟨-, sign, digits, -, -, -, -, -, hlength, hsigned⟩ := h
  have hn : n = valueOf (digitsOf digits) := by
    generalize valueOf (digitsOf digits) = v at hsigned
    generalize hm : (n : Int) = m at hsigned
    cases hsigned <;> omega
  have hlt : n < 10 ^ maxDigits := by
    rw [hn]
    exact Nat.lt_of_lt_of_le (valueOf_lt digitsOf_le) (Nat.pow_le_pow_right (by decide) hlength)
  rw [← String.length_toList, toList_decimal]
  exact (Nat.length_toDigits_le_iff (by decide) (by decide)).mpr hlt

theorem digitValue?_ascii (h : isAsciiDigit c = true) : digitValue? c = some (digitOf c) := by
  have hbounds := (isAsciiDigit_iff c).mp h
  rw [digitOf_eq h, digitValue?, digitRanges, digitValueIn, if_neg (by omega), if_pos hbounds.2,
    Nat.mod_eq_of_lt (by omega)]

/-- The plain numeral of a number is one of its numerals, if it has no more digits than can be read. -/
theorem isInteger_decimal {n : Nat} (h : (decimal n).length ≤ maxDigits) :
    IsInteger (decimal n).toList n := by
  have hdigits : ∀ c ∈ (decimal n).toList, digitValue? c = some (digitOf c) := fun c hc =>
    digitValue?_ascii (decimal_digits n c hc)
  have hunderscore : '_' ∉ (decimal n).toList := not_mem_of_forall (decimal_digits n) (by decide)
  have hgrouped : IsGrouped (decimal n).toList := by
    intro group hgroup
    rw [pieces_of_not_mem hunderscore, List.mem_singleton] at hgroup
    subst hgroup
    exact ⟨decimal_ne_nil n, fun c hc => by rw [hdigits c hc]; rfl⟩
  have hvalues : digitsOf (decimal n).toList = (decimal n).toList.map digitOf := by
    rw [digitsOf, List.filterMap_congr hdigits, List.filterMap_eq_map']
  have hvalue : valueOf (digitsOf (decimal n).toList) = n := by
    rw [hvalues, ← ofDigits_eq, ofDigits_decimal]
  refine ⟨[], [], (decimal n).toList, [], by simp, by simp, by simp, hgrouped, ?_, ?_⟩
  · rwa [hvalues, List.length_map, String.length_toList]
  · rw [hvalue]
    exact .bare n

end TextCriteria.Text
