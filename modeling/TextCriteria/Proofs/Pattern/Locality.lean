import Mathlib.Data.List.Basic
import TextCriteria.Proofs.Pattern.Ends

namespace TextCriteria.Pattern

open TextCriteria.Text

/-!
# Lexemes do not look behind a closing parenthesis

A pattern that is put between parentheses is read there as it is read alone: no lexeme ends later
because a closing parenthesis and more text follow.  The one exception is a comment of a verbose
pattern that is not ended by a line break; it swallows the parenthesis.

* `Extends` — what a reader finds in a text, it finds there too if more text follows.
* `Stops` — where a run of characters ends before what follows the text, so that the readers of runs do
  not go on either.
* `readMembers_extends` — the members of a class do not depend on what follows, as a bracket ends them.
* `Passes` — what a reader finds at the start of a text, it finds there too if a closing parenthesis
  and more follow, and what it leaves is not longer than the text.
* `readLexeme_passes` — every lexeme but an open comment has this property.
* `OpenComment` — the exception.
-/

/-- The reader `f` finds `a` in a text `s` and leaves `r` of it, whatever follows. -/
def Extends {α : Type} (f : List Char → Outcome (α × List Char)) (s : List Char) (a : α) (r : List Char) :
    Prop :=
  ∀ t, f (s ++ t) = .ok (a, r ++ t)

/-- The reader `f` finds `a` in a text `s` that is followed by a closing parenthesis and more, and
    leaves `r` of it, which is not longer. -/
structure Passes {α : Type} (f : List Char → Outcome (α × List Char)) (s : List Char) (a : α)
    (r : List Char) : Prop where
  shorter : r.length ≤ s.length
  beyond : ∀ t, f (s ++ ')' :: t) = .ok (a, r ++ ')' :: t)

/-- A run of characters that leaves `r` of a text does not go on in `t` behind it: something is left, or
    a closing parenthesis follows, which belongs to no run. -/
def Stops (r t : List Char) : Prop :=
  r ≠ [] ∨ ∃ t', t = ')' :: t'

theorem Stops.closing (r t : List Char) : Stops r (')' :: t) := .inr ⟨t, rfl⟩

theorem Stops.of_nil {t : List Char} (h : Stops [] t) : ∃ t', t = ')' :: t' :=
  h.resolve_left fun hne => hne rfl

variable {s r t : List Char}

/-! ### Runs of characters -/

/-- A run ends where something is left of the text, and before a closing parenthesis. -/
theorem readAtMost_append {test : Char → Bool} (htest : test ')' = false) {n : Nat}
    (hstop : Stops (readAtMost test n s).2 t) :
    readAtMost test n (s ++ t) = ((readAtMost test n s).1, (readAtMost test n s).2 ++ t) := by
  induction s generalizing n with
  | nil =>
    have hnil : (readAtMost test n []).2 = [] := by cases n <;> rfl
    rw [hnil] at hstop
    obtain ⟨t, rfl⟩ := hstop.of_nil
    cases n <;> simp [readAtMost, htest]
  | cons c rest ih =>
    cases n with
    | zero => rfl
    | succ n =>
      by_cases hc : test c
      · have hrest : Stops (readAtMost test n rest).2 t := by simpa [readAtMost, hc] using hstop
        simp [readAtMost, hc, ih hrest]
      · simp [readAtMost, hc]

/-- Digits end before a closing parenthesis. -/
theorem takeWhile_append_stop {test : Char → Bool} (h : test ')' = false) (s t : List Char) :
    (s ++ ')' :: t).takeWhile test = s.takeWhile test := by
  induction s with
  | nil => simp [h]
  | cons c rest ih => by_cases hc : test c <;> simp [hc, ih]

theorem dropWhile_append_stop {test : Char → Bool} (h : test ')' = false) (s t : List Char) :
    (s ++ ')' :: t).dropWhile test = s.dropWhile test ++ ')' :: t := by
  induction s with
  | nil => simp [h]
  | cons c rest ih => by_cases hc : test c <;> simp [hc, ih]

/-- Only a closing parenthesis is in front where nothing was. -/
theorem head?_append_closing {c : Char} (hc : c ≠ ')') (s t : List Char) :
    (s ++ ')' :: t).head? = some c ↔ s.head? = some c := by
  cases s with
  | nil => simpa using hc.symm
  | cons d rest => exact Iff.rfl

/-! ### Pieces -/

/-- A unit that is there is read before what follows the text. -/
theorem readUnit_extends {u : List Char} (h : readUnit s = .ok (u, r)) (hu : u ≠ []) :
    Extends readUnit s u r := by
  intro t
  unfold readUnit at h
  split at h
  · exact absurd (Outcome.ok_inj h).1.symm hu
  · cases h
  · obtain ⟨rfl, rfl⟩ := Outcome.ok_inj h
    rfl
  · rename_i c rest hlone hpair
    obtain ⟨rfl, rfl⟩ := Outcome.ok_inj h
    simp [readUnit, ne_backslash hlone hpair]

theorem readUntil_extends {closing : Char} {what : String} {acc name : List Char}
    (h : readUntil closing what acc s = .ok (name, r)) : Extends (readUntil closing what acc) s name r := by
  fun_induction readUntil closing what acc s with
  | case1 | case2 | case3 | case5 => cases h
  | case4 acc c rest ih => exact fun t => by simpa [readUntil] using ih h t
  | case6 acc c rest hlone hpair hclose hacc =>
    obtain ⟨rfl, rfl⟩ := Outcome.ok_inj h
    exact fun t => by simp [readUntil, ne_backslash hlone hpair, hclose, hacc]
  | case7 acc c rest hlone hpair hclose ih =>
    exact fun t => by simpa [readUntil, ne_backslash hlone hpair, hclose] using ih h t

/-- What follows a comment in parentheses. The place of its opening does not matter. -/
theorem skipComment_append {left : Nat} (h : skipComment left s = .ok r) (left' : Nat) (t : List Char) :
    skipComment left' (s ++ t) = .ok (r ++ t) := by
  fun_induction skipComment left s with
  | case1 | case2 => cases h
  | case3 c rest ih => simpa [skipComment] using ih h
  | case4 c rest hlone hpair hclose =>
    obtain rfl := Except.ok.inj h
    simp [skipComment, ne_backslash hlone hpair, hclose]
  | case5 c rest hlone hpair hclose ih =>
    simpa [skipComment, ne_backslash hlone hpair, hclose] using ih h

/-- A comment to the end of the line either ends at a line break, and then does not look further, or
    is still open at the end of the text, and then goes on in what follows. -/
theorem skipLine_append (h : skipLine s = .ok r) :
    (∀ t, skipLine (s ++ t) = .ok (r ++ t)) ∨ (r = [] ∧ ∀ t, skipLine (s ++ t) = skipLine t) := by
  fun_induction skipLine s with
  | case1 => exact .inr ⟨(Except.ok.inj h).symm, fun t => rfl⟩
  | case2 => cases h
  | case3 c rest ih =>
    rcases ih h with hclosed | ⟨hr, hopen⟩
    · exact .inl fun t => by simpa [skipLine] using hclosed t
    · exact .inr ⟨hr, fun t => by simpa [skipLine] using hopen t⟩
  | case4 c rest hlone hpair hbreak =>
    obtain rfl := Except.ok.inj h
    exact .inl fun t => by simp [skipLine, ne_backslash hlone hpair, hbreak]
  | case5 c rest hlone hpair hbreak ih =>
    have hc := ne_backslash hlone hpair
    rcases ih h with hclosed | ⟨hr, hopen⟩
    · exact .inl fun t => by simpa [skipLine, hc, hbreak] using hclosed t
    · exact .inr ⟨hr, fun t => by simpa [skipLine, hc, hbreak] using hopen t⟩

/-! ### Escapes -/

theorem readNamed_extends {n : Nat} (h : readNamed s = .ok (n, r)) : Extends readNamed s n r := by
  intro t
  unfold readNamed at h
  split at h
  · obtain ⟨⟨name, rest⟩, hname, h⟩ := bind_eq_ok.mp h
    dsimp only at h
    split at h
    · rename_i c hc
      obtain ⟨rfl, rfl⟩ := Outcome.ok_inj h
      simp [readNamed, readUntil_extends hname t, bind, Except.bind, hc]
    · cases h
  · cases h

section Escapes

variable (hstop : Stops r t)
include hstop

theorem readHex_append {letter : Char} {count n : Nat} (h : readHex letter count s = .ok (n, r)) :
    readHex letter count (s ++ t) = .ok (n, r ++ t) := by
  simp only [readHex] at h
  split at h
  · cases h
  split at h
  · obtain ⟨rfl, rfl⟩ := Outcome.ok_inj h
    simp only [readHex, readAtMost_append (by decide) hstop]
    simp_all
  split at h <;> cases h

theorem readOctal_append {c : Char} {n : Nat} (h : readOctal c s = .ok (n, r)) :
    readOctal c (s ++ t) = .ok (n, r ++ t) := by
  simp only [readOctal] at h
  split at h
  · obtain ⟨rfl, rfl⟩ := Outcome.ok_inj h
    simp only [readOctal, readAtMost_append (by decide) hstop]
    simp_all
  · cases h

theorem readCommonEscape_append {c : Char} {n : Nat} (h : readCommonEscape c s = .ok (n, r)) :
    readCommonEscape c (s ++ t) = .ok (n, r ++ t) := by
  unfold readCommonEscape at h ⊢
  split at h
  · rename_i hx
    rw [if_pos hx, readHex_append hstop h]
  rename_i hx
  rw [if_neg hx]
  split at h
  · rename_i hu
    rw [if_pos hu, readHex_append hstop h]
  rename_i hu
  rw [if_neg hu]
  split at h
  · rename_i hU
    rw [if_pos hU, readHex_append hstop h]
  rename_i hU
  rw [if_neg hU]
  split at h
  · rename_i hN
    rw [if_pos hN, readNamed_extends h]
  rename_i hN
  rw [if_neg hN]
  split at h
  · cases h
  · rename_i hletter
    obtain ⟨rfl, rfl⟩ := Outcome.ok_inj h
    rw [if_neg hletter]

theorem readClassEscape_append {c : Char} {m : ClassMember} (h : readClassEscape c s = .ok (m, r)) :
    readClassEscape c (s ++ t) = .ok (m, r ++ t) := by
  unfold readClassEscape at h
  split at h
  · rename_i hcontrol
    obtain ⟨rfl, rfl⟩ := Outcome.ok_inj h
    simp only [readClassEscape, hcontrol]
  · rename_i hcontrol hcategory
    obtain ⟨rfl, rfl⟩ := Outcome.ok_inj h
    simp only [readClassEscape, hcontrol, hcategory]
  rename_i hcontrol hcategory
  simp only [readClassEscape, hcontrol, hcategory]
  split at h
  · rename_i hb
    obtain ⟨rfl, rfl⟩ := Outcome.ok_inj h
    rw [if_pos hb]
  rename_i hb
  rw [if_neg hb]
  split at h
  · rename_i hoctal
    obtain ⟨⟨n, rest⟩, hn, h⟩ := bind_eq_ok.mp h
    obtain ⟨rfl, rfl⟩ := Outcome.ok_inj h
    rw [if_pos hoctal, readOctal_append hstop hn]
    rfl
  rename_i hoctal
  rw [if_neg hoctal]
  split at h
  · cases h
  · rename_i hdigit
    obtain ⟨⟨n, rest⟩, hn, h⟩ := bind_eq_ok.mp h
    obtain ⟨rfl, rfl⟩ := Outcome.ok_inj h
    rw [if_neg hdigit, readCommonEscape_append hstop hn]
    rfl

/-- A number of one digit is not taken further by a closing parenthesis, one of two neither. -/
theorem readNumbered_append {c : Char} {l : Lexeme} (h : readNumbered c s = .ok (l, r)) :
    readNumbered c (s ++ t) = .ok (l, r ++ t) := by
  have hparen : isAsciiDigit ')' = false := by decide
  have hparen' : isOctal ')' = false := by decide
  unfold readNumbered at h
  split at h
  · rename_i d rest
    split at h
    · rename_i hdigit
      split at h
      · rename_i e rest'
        split at h
        · rename_i hoctal
          dsimp only at h
          split at h
          · rename_i hvalue
            obtain ⟨rfl, rfl⟩ := Outcome.ok_inj h
            simp [readNumbered, hdigit, hoctal, hvalue]
          · cases h
        · rename_i hoctal
          obtain ⟨rfl, rfl⟩ := Outcome.ok_inj h
          simp [readNumbered, hdigit, hoctal]
      · obtain ⟨rfl, rfl⟩ := Outcome.ok_inj h
        obtain ⟨t, rfl⟩ := hstop.of_nil
        simp [readNumbered, hdigit, hparen']
    · rename_i hdigit
      obtain ⟨rfl, rfl⟩ := Outcome.ok_inj h
      simp [readNumbered, hdigit]
  · obtain ⟨rfl, rfl⟩ := Outcome.ok_inj h
    obtain ⟨t, rfl⟩ := hstop.of_nil
    simp [readNumbered, hparen]

theorem readEscape_append {c : Char} {l : Lexeme} (h : readEscape c s = .ok (l, r)) :
    readEscape c (s ++ t) = .ok (l, r ++ t) := by
  unfold readEscape at h
  split at h
  · rename_i hanchor
    obtain ⟨rfl, rfl⟩ := Outcome.ok_inj h
    simp only [readEscape, hanchor]
  · rename_i hanchor hcategory
    obtain ⟨rfl, rfl⟩ := Outcome.ok_inj h
    simp only [readEscape, hanchor, hcategory]
  · rename_i hanchor hcategory hcontrol
    obtain ⟨rfl, rfl⟩ := Outcome.ok_inj h
    simp only [readEscape, hanchor, hcategory, hcontrol]
  rename_i hanchor hcategory hcontrol
  simp only [readEscape, hanchor, hcategory, hcontrol]
  split at h
  · rename_i hzero
    obtain ⟨rfl, rfl⟩ := Outcome.ok_inj h
    rw [if_pos hzero, readAtMost_append (by decide) hstop]
  rename_i hzero
  rw [if_neg hzero]
  split at h
  · rename_i hdigit
    rw [if_pos hdigit, readNumbered_append hstop h]
  · rename_i hdigit
    obtain ⟨⟨n, rest⟩, hn, h⟩ := bind_eq_ok.mp h
    obtain ⟨rfl, rfl⟩ := Outcome.ok_inj h
    rw [if_neg hdigit, readCommonEscape_append hstop hn]
    rfl

/-! ### Classes -/

theorem readClassUnit_append {unit : List Char} {m : ClassMember}
    (h : readClassUnit unit s = .ok (m, r)) : readClassUnit unit (s ++ t) = .ok (m, r ++ t) := by
  unfold readClassUnit at h
  split at h
  · exact readClassEscape_append hstop h
  · rename_i c rest hunit
    obtain ⟨rfl, rfl⟩ := Outcome.ok_inj h
    rw [readClassUnit]
    exact hunit
  · obtain ⟨rfl, rfl⟩ := Outcome.ok_inj h
    rfl

end Escapes

/-- The members that are found in a text with one bound on their number are found there with another one,
    whatever follows. -/
abbrev MembersExtend (left fuel left' fuel' : Nat) : Prop :=
  ∀ {members result : List ClassMember} {s r : List Char},
    readMembers left fuel members s = .ok (result, r) → Extends (readMembers left' fuel' members) s result r

section Members

variable {left fuel left' fuel' : Nat} {members result : List ClassMember}

theorem closeRange_extends (hmembers : MembersExtend left fuel left' fuel') {lo hi : List Char}
    {first last : ClassMember} (h : closeRange left fuel members lo hi first last s = .ok (result, r)) :
    s ≠ [] ∧ Extends (closeRange left' fuel' members lo hi first last) s result r := by
  unfold closeRange at h
  split at h
  · rename_i a b
    split at h
    · rename_i hle
      refine ⟨ne_nil_of_readMembers h, fun t => ?_⟩
      rw [closeRange, if_pos hle]
      exact hmembers h t
    · cases h
  · cases h

theorem readUpper_extends (hmembers : MembersExtend left fuel left' fuel') {lo hi : List Char}
    {first : ClassMember} (h : readUpper left fuel members lo first hi s = .ok (result, r)) :
    hi ≠ [] ∧ Extends (readUpper left' fuel' members lo first hi) s result r := by
  unfold readUpper at h
  split at h
  · cases h
  rename_i hsome
  refine ⟨by simpa using hsome, fun t => ?_⟩
  rw [readUpper, if_neg hsome]
  split at h
  · rename_i hend
    obtain ⟨rfl, rfl⟩ := Outcome.ok_inj h
    rw [if_pos hend]
  · rename_i hend
    obtain ⟨⟨last, rest⟩, hlast, h⟩ := bind_eq_ok.mp h
    obtain ⟨hne, hclose⟩ := closeRange_extends hmembers h
    rw [if_neg hend, readClassUnit_append (.inl hne) hlast]
    exact hclose t

/-- The bracket is behind every member, so a member that is the last character of a text is never read
    as one. -/
theorem readBehind_extends (hmembers : MembersExtend left fuel left' fuel') {lo : List Char}
    {first : ClassMember} (h : readBehind left fuel members lo first s = .ok (result, r)) :
    s ≠ [] ∧ Extends (readBehind left' fuel' members lo first) s result r := by
  by_cases hdash : s.head? = some '-'
  · obtain ⟨s, rfl⟩ := List.head?_eq_some_iff.mp hdash
    obtain ⟨⟨hi, rest⟩, hhi, h⟩ := bind_eq_ok.mp h
    obtain ⟨hne, hupper⟩ := readUpper_extends hmembers h
    refine ⟨List.cons_ne_nil _ _, fun t => ?_⟩
    rw [List.cons_append, readBehind, readUnit_extends hhi hne t]
    exact hupper t
  · rw [readBehind_plain hdash] at h
    have hne := ne_nil_of_readMembers h
    refine ⟨hne, fun t => ?_⟩
    have hdash : (s ++ t).head? ≠ some '-' := by rwa [List.head?_append_of_ne_nil _ hne]
    rw [readBehind_plain hdash]
    exact hmembers h t

theorem readLower_extends (hmembers : MembersExtend left fuel left' fuel') {lo : List Char}
    (h : readLower left fuel members lo s = .ok (result, r)) :
    lo ≠ [] ∧ Extends (readLower left' fuel' members lo) s result r := by
  unfold readLower at h
  split at h
  · cases h
  rename_i hsome
  refine ⟨by simpa using hsome, fun t => ?_⟩
  rw [readLower, if_neg hsome]
  split at h
  · rename_i hend
    obtain ⟨rfl, rfl⟩ := Outcome.ok_inj h
    rw [if_pos hend]
  · rename_i hend
    obtain ⟨⟨first, rest⟩, hfirst, h⟩ := bind_eq_ok.mp h
    obtain ⟨hne, hbehind⟩ := readBehind_extends hmembers h
    rw [if_neg hend, readClassUnit_append (.inl hne) hfirst]
    exact hbehind t

/-- **Members.** The members of a class are the same if more text follows. Neither the place of the class
    nor a larger bound on their number makes a difference. -/
theorem readMembers_extends (h : readMembers left fuel members s = .ok (result, r)) (left' : Nat)
    (hfuel : fuel ≤ fuel') : Extends (readMembers left' fuel' members) s result r := by
  induction fuel generalizing fuel' members result s r with
  | zero => cases h
  | succ fuel ih =>
    obtain ⟨fuel', rfl⟩ : ∃ k, fuel' = k + 1 := ⟨fuel' - 1, by omega⟩
    have hmembers : MembersExtend left fuel left' fuel' := fun h => ih h (by omega)
    rw [readMembers_succ] at h
    obtain ⟨⟨lo, rest⟩, hlo, h⟩ := bind_eq_ok.mp h
    obtain ⟨hne, hlower⟩ := readLower_extends hmembers h
    intro t
    rw [readMembers_succ, readUnit_extends hlo hne t]
    exact hlower t

/-- More text behind a class raises the bound on the number of its members and nothing else. -/
theorem readClass_extends {l : Lexeme} (h : readClass s = .ok (l, r)) : Extends readClass s l r := by
  intro t
  by_cases hcaret : s.head? = some '^'
  · obtain ⟨s, rfl⟩ := List.head?_eq_some_iff.mp hcaret
    rw [readClass_caret] at h
    obtain ⟨⟨members, rest⟩, hmembers, h⟩ := bind_eq_ok.mp h
    obtain ⟨rfl, rfl⟩ := Outcome.ok_inj h
    rw [List.cons_append, readClass_caret, readMembers_extends hmembers _ (by simp) t]
    rfl
  · rw [readClass_plain hcaret] at h
    obtain ⟨⟨members, rest⟩, hmembers, h⟩ := bind_eq_ok.mp h
    obtain ⟨rfl, rfl⟩ := Outcome.ok_inj h
    have hcaret : (s ++ t).head? ≠ some '^' := by
      rwa [List.head?_append_of_ne_nil _ (ne_nil_of_readMembers hmembers)]
    rw [readClass_plain hcaret, readMembers_extends hmembers _ (by simp) t]
    rfl

end Members

/-! ### Repeat marks -/

/-- How a repetition chooses its rounds is not told by a closing parenthesis. -/
theorem readGreed_append (s t : List Char) :
    readGreed (s ++ ')' :: t) = ((readGreed s).1, (readGreed s).2 ++ ')' :: t) := by
  rcases s with _ | ⟨c, rest⟩
  · simp [readGreed]
  · by_cases hq : c = '?'
    · simp [readGreed, hq]
    · by_cases hp : c = '+'
      · simp [readGreed, hp]
      · simp [readGreed, hq, hp]

theorem roundsOf_append {least : Nat} {most : Option Nat} {l : Lexeme}
    (h : roundsOf least most s = .ok (l, r)) (t : List Char) :
    roundsOf least most (s ++ ')' :: t) = .ok (l, r ++ ')' :: t) := by
  simp only [roundsOf] at h
  obtain ⟨rfl, rfl⟩ := Outcome.ok_inj h
  simp [roundsOf, readGreed_append]

theorem boundsAhead_append (s t : List Char) :
    boundsAhead (s ++ ')' :: t)
      = ((boundsAhead s).1, (boundsAhead s).2.1, (boundsAhead s).2.2 ++ ')' :: t) := by
  have hd : isAsciiDigit ')' = false := by decide
  unfold boundsAhead
  rw [takeWhile_append_stop hd, dropWhile_append_stop hd]
  rcases s.dropWhile isAsciiDigit with _ | ⟨c, r⟩
  · simp
  · by_cases hc : c = ','
    · simp [hc, takeWhile_append_stop hd, dropWhile_append_stop hd]
    · simp [hc]

/-- The place of the brace matters to its faults only. -/
theorem roundsBetween_append {lo hi : List Char} {left : Nat} {l : Lexeme}
    (h : roundsBetween lo hi left s = .ok (l, r)) (left' : Nat) (t : List Char) :
    roundsBetween lo hi left' (s ++ ')' :: t) = .ok (l, r ++ ')' :: t) := by
  unfold roundsBetween at h
  obtain ⟨least, hleast, h⟩ := bind_eq_ok.mp h
  obtain ⟨most, hmost, h⟩ := bind_eq_ok.mp h
  simp only [roundsBetween, hleast, hmost, bind, Except.bind]
  split at h
  · split at h
    · cases h
    · rename_i hle
      rw [if_neg hle]
      exact roundsOf_append h t
  · exact roundsOf_append h t

/-- What is not of the form of bounds leaves the brace to stand for itself, and a closing parenthesis
    behind it does not complete the form. -/
theorem readBraces_append {l : Lexeme} (h : readBraces s = .ok (l, r)) (t : List Char) :
    readBraces (s ++ ')' :: t) = .ok (l, r ++ ')' :: t) := by
  have hhead := head?_append_closing (show '}' ≠ ')' by decide) s t
  rw [readBraces_eq] at h ⊢
  split at h
  · rename_i hempty
    obtain ⟨rfl, rfl⟩ := Outcome.ok_inj h
    rw [if_pos (hhead.mpr hempty)]
  rename_i hempty
  rw [if_neg (mt hhead.mp hempty), boundsAhead_append]
  split at h
  · rename_i after hafter
    rw [hafter]
    exact roundsBetween_append h _ t
  · rename_i hopen
    obtain ⟨rfl, rfl⟩ := Outcome.ok_inj h
    rcases hrest : (boundsAhead s).2.2 with _ | ⟨c, after⟩
    · rfl
    · have hc : c ≠ '}' := fun heq => hopen after (by rw [hrest, heq])
      simp [hc]

/-! ### Openings -/

theorem readGroupName_extends {closing : Char} {name : List Char}
    (h : readGroupName closing s = .ok (name, r)) : Extends (readGroupName closing) s name r := by
  intro t
  obtain ⟨⟨name', rest⟩, hname, h⟩ := bind_eq_ok.mp h
  dsimp only at h
  split at h
  · rename_i hid
    obtain ⟨rfl, rfl⟩ := Outcome.ok_inj h
    simp [readGroupName, readUntil_extends hname t, bind, Except.bind, hid]
  · cases h

theorem readCondition_extends {ref : GroupRef} (h : readCondition s = .ok (ref, r)) :
    Extends readCondition s ref r := by
  intro t
  rw [readCondition_eq] at h ⊢
  obtain ⟨⟨name, rest⟩, hname, h⟩ := bind_eq_ok.mp h
  obtain ⟨rfl, hcondition⟩ := conditionOf_eq h
  rw [readUntil_extends hname t]
  exact hcondition _

/-- Flags are over where they say so. A larger bound on the number of their letters makes no difference. -/
theorem readFlags_extends {fuel fuel' : Nat} {on : List Char} {off : Option (List Char)} {l : Lexeme}
    (h : readFlags fuel on off s = .ok (l, r)) (hfuel : fuel ≤ fuel') :
    Extends (readFlags fuel' on off) s l r := by
  induction fuel generalizing fuel' on off s with
  | zero =>
    obtain ⟨cause, hfault⟩ := readFlags_zero on off s
    cases hfault.symm.trans h
  | succ fuel ih =>
    obtain ⟨fuel', rfl⟩ : ∃ k, fuel' = k + 1 := ⟨fuel' - 1, by omega⟩
    intro t
    rw [readFlags_succ] at h ⊢
    obtain ⟨⟨unit, rest⟩, hunit, h⟩ := bind_eq_ok.mp h
    dsimp only at h
    have hne : unit ≠ [] := by
      rintro rfl
      cases off <;> cases h
    rw [readUnit_extends hunit hne t]
    simp only [bind, Except.bind]
    cases hstep : flagStep on off unit with
    | ended l' =>
      rw [hstep] at h
      obtain ⟨rfl, rfl⟩ := Outcome.ok_inj h
      rfl
    | more on' off' =>
      rw [hstep] at h
      exact ih h (by omega) t
    | refused cause back =>
      rw [hstep] at h
      cases h

theorem readByName_extends {l : Lexeme} (h : readByName s = .ok (l, r)) : Extends readByName s l r := by
  intro t
  unfold readByName at h
  split at h
  · obtain ⟨⟨name, rest⟩, hname, h⟩ := bind_eq_ok.mp h
    obtain ⟨rfl, rfl⟩ := Outcome.ok_inj h
    simp [readByName, readGroupName_extends hname t, bind, Except.bind]
  · obtain ⟨⟨name, rest⟩, hname, h⟩ := bind_eq_ok.mp h
    obtain ⟨rfl, rfl⟩ := Outcome.ok_inj h
    simp [readByName, readGroupName_extends hname t, bind, Except.bind]
  · obtain ⟨⟨other, rest⟩, -, h⟩ := bind_eq_ok.mp h
    dsimp only at h
    split at h <;> cases h

theorem extensionOf_extends {left : Nat} {unit rest : List Char} {l : Lexeme}
    (h : extensionOf left s unit rest = .ok (l, r)) (left' : Nat) (t : List Char) :
    extensionOf left' (s ++ t) unit (rest ++ t) = .ok (l, r ++ t) := by
  unfold extensionOf at h ⊢
  split at h
  · cases h
  · exact readByName_extends h t
  · obtain ⟨rfl, rfl⟩ := Outcome.ok_inj h
    rfl
  · obtain ⟨rest, hrest, h⟩ := bind_eq_ok.mp h
    obtain ⟨rfl, rfl⟩ := Outcome.ok_inj h
    exact bind_eq_ok.mpr ⟨_, skipComment_append hrest left' t, rfl⟩
  · obtain ⟨rfl, rfl⟩ := Outcome.ok_inj h
    rfl
  · obtain ⟨rfl, rfl⟩ := Outcome.ok_inj h
    rfl
  · obtain ⟨⟨other, rest⟩, hother, h⟩ := bind_eq_ok.mp h
    obtain ⟨rfl, hne, hlook⟩ := lookBehindOf_eq h
    exact bind_eq_ok.mpr ⟨_, readUnit_extends hother hne t, hlook _⟩
  · obtain ⟨⟨ref, rest⟩, href, h⟩ := bind_eq_ok.mp h
    obtain ⟨rfl, rfl⟩ := Outcome.ok_inj h
    exact bind_eq_ok.mpr ⟨_, readCondition_extends href t, rfl⟩
  · obtain ⟨rfl, rfl⟩ := Outcome.ok_inj h
    rfl
  · exact readFlags_extends h (by simp) t
  · split at h
    · rename_i hletter
      rw [if_pos hletter]
      exact readFlags_extends h (by simp) t
    · cases h
  · cases h

/-- An extension is told by what follows the question mark; only the places of its faults depend on
    where its parenthesis stands. -/
theorem readExtension_extends {left : Nat} {l : Lexeme} (h : readExtension left s = .ok (l, r))
    (left' : Nat) : Extends (readExtension left') s l r := by
  intro t
  rw [readExtension_eq] at h ⊢
  obtain ⟨⟨unit, rest⟩, hunit, h⟩ := bind_eq_ok.mp h
  have hne : unit ≠ [] := by
    rintro rfl
    cases h
  exact bind_eq_ok.mpr ⟨_, readUnit_extends hunit hne t, extensionOf_extends h left' t⟩

/-! ### Lexemes -/

/-- A comment that is still open where the text ends. -/
def OpenComment (verbose : Bool) (c : Char) (rest : List Char) : Prop :=
  verbose = true ∧ c = '#' ∧ ∀ t, skipLine (rest ++ t) = skipLine t

/-- Where layout is not free, a closing parenthesis ends every lexeme before it. -/
theorem readLexeme_append {c : Char} {l : Lexeme} (h : readLexeme false c s = .ok (l, r))
    (t : List Char) : readLexeme false c (s ++ ')' :: t) = .ok (l, r ++ ')' :: t) := by
  simp only [readLexeme, Bool.false_and, if_neg Bool.false_ne_true] at h ⊢
  split at h
  · split at h
    · cases h
    · exact readEscape_append (.closing _ _) h
  · exact readClass_extends h _
  · exact roundsOf_append h t
  · exact roundsOf_append h t
  · exact roundsOf_append h t
  · exact readBraces_append h t
  · obtain ⟨rfl, rfl⟩ := Outcome.ok_inj h
    rfl
  · obtain ⟨rfl, rfl⟩ := Outcome.ok_inj h
    rfl
  · obtain ⟨rfl, rfl⟩ := Outcome.ok_inj h
    rfl
  · obtain ⟨rfl, rfl⟩ := Outcome.ok_inj h
    rfl
  · obtain ⟨rfl, rfl⟩ := Outcome.ok_inj h
    rfl
  · split at h
    · exact readExtension_extends h _ _
    · rename_i hmark
      obtain ⟨rfl, rfl⟩ := Outcome.ok_inj h
      rcases s with _ | ⟨d, s⟩
      · rfl
      · have hd : d ≠ '?' := fun hd => hmark s (by rw [hd])
        simp [hd]
  · obtain ⟨rfl, rfl⟩ := Outcome.ok_inj h
    rfl

theorem readLexeme_passes {verbose : Bool} {c : Char} {l : Lexeme} {s r : List Char}
    (h : readLexeme verbose c s = .ok (l, r)) :
    Passes (readLexeme verbose c) s l r ∨ (l = .skip ∧ r = [] ∧ OpenComment verbose c s) := by
  have hshort : r.length ≤ s.length := (readLexeme_ok h).2.length_le
  by_cases hlayout : (verbose && isLayout c) = true
  · simp only [readLexeme, if_pos hlayout] at h
    obtain ⟨rfl, rfl⟩ := Outcome.ok_inj h
    exact .inl ⟨hshort, fun t => by simp only [readLexeme, if_pos hlayout]⟩
  by_cases hcomment : (verbose && c == '#') = true
  · simp only [readLexeme, if_neg hlayout, if_pos hcomment] at h
    obtain ⟨rest, hrest, h⟩ := bind_eq_ok.mp h
    obtain ⟨rfl, rfl⟩ := Outcome.ok_inj h
    rcases skipLine_append hrest with hclosed | ⟨rfl, hopen⟩
    · refine .inl ⟨hshort, fun t => ?_⟩
      simp only [readLexeme, if_neg hlayout, if_pos hcomment, hclosed]
      rfl
    · simp only [Bool.and_eq_true, beq_iff_eq] at hcomment
      exact .inr ⟨rfl, rfl, hcomment.1, hcomment.2, hopen⟩
  · rw [readLexeme_plain hlayout hcomment] at h
    exact .inl ⟨hshort, fun t => by rw [readLexeme_plain hlayout hcomment, readLexeme_append h]⟩

end TextCriteria.Pattern
