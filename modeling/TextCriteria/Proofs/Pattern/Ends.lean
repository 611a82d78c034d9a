import Mathlib.Algebra.Group.Nat.Defs
import Mathlib.Data.List.Induction
import Mathlib.Data.List.TakeWhile
import TextCriteria.Proofs.Pattern.Readers

namespace TextCriteria.Pattern

open TextCriteria.Text

/-!
# How reading ends

A reader takes some characters from the start of a text and leaves the others as they are, or the text
is malformed.  Bounds of a repetition and codes of characters can be refused for another reason: they
are numbers, and numbers can be too large.

* `Refusal.OfNumber` — a number that is written in the text and too large.
* `Outcome.Ends` — the ways in which a reader ends, with one lemma per reader; `Outcome.EndsIn` for a
  reader that stands behind the first characters of what it reads.
* `Lexeme.Sound` — items are single pieces, and groups are numbered from one on.
* `readLexeme_ends` — how a lexeme ends; `readLexeme_sound`, what it is then.
-/

/-- The text was refused for a number that is written in it. -/
inductive Refusal.OfNumber (s : List Char) : Refusal → Prop
  /-- A bound is written in decimal digits. -/
  | bound {digits : List Char} {e : Refusal} (written : digits <:+: s)
      (decimal : ∀ c ∈ digits, isAsciiDigit c = true) (refused : boundOf digits = .error e) : OfNumber s e
  /-- A code is written in eight hexadecimal digits, and does not fit into 31 bits. -/
  | code {digits : List Char} (written : '\\' :: 'U' :: digits <:+: s)
      (hex : ∀ c ∈ digits, isHex c = true) (eight : digits.length = 8)
      (large : 0x80000000 ≤ ofDigits 16 digits) : OfNumber s .codeTooLarge

/-- Something with the property `P` has been read and an end of the text `s` is left. Or the text is
    malformed, or it is refused for a number in `t`, of which `s` is the part that has not been read. -/
def Outcome.EndsIn {α : Type} (P : α → Prop) (t s : List Char) : Outcome (α × List Char) → Prop
  | .ok (a, r) => P a ∧ r <:+ s
  | .error e => (∃ cause left, e = .malformed cause left) ∨ e.OfNumber t

/-- A reader at the start of what it reads. -/
abbrev Outcome.Ends {α : Type} (P : α → Prop) (s : List Char) (x : Outcome (α × List Char)) : Prop :=
  x.EndsIn P s s

/-- A reader at the start of what it reads, whatever it has read. -/
abbrev Outcome.EndsWell {α : Type} (s : List Char) (x : Outcome (α × List Char)) : Prop :=
  x.Ends (fun _ => True) s

/-- A single piece of a pattern, without groups in it. -/
def Regex.isLeaf : Regex → Bool
  | .char _ | .any | .oneOf _ _ | .anchor _ => true
  | _ => false

/-- An item is a single piece, and a number is one that a group can have. -/
def Lexeme.Sound : Lexeme → Prop
  | .item r => r.isLeaf = true
  | .reference (.number i) => 0 < i
  | .opening (.conditional (.number i)) => 0 < i
  | _ => True

/-- A sound lexeme that is no closing parenthesis. -/
structure Lexeme.Proper (l : Lexeme) : Prop where
  sound : l.Sound
  not_closing : l ≠ .closing

namespace Refusal.OfNumber

variable {s r : List Char} {e : Refusal} {c : Char}

/-- What is written in an end of a text is written in the text. -/
theorem mono (h : e.OfNumber r) (hr : r <:+ s) : e.OfNumber s := by
  cases h with
  | bound written decimal refused => exact .bound (written.trans hr.isInfix) decimal refused
  | code written hex eight large => exact .code (written.trans hr.isInfix) hex eight large

/-- A number does not begin with a character that is neither a digit nor the backslash of a code. -/
theorem of_cons (hdigit : isAsciiDigit c = false) (hescape : c ≠ '\\' ∨ s.head? ≠ some 'U')
    (h : e.OfNumber (c :: s)) : e.OfNumber s := by
  cases h with
  | @bound digits _ written decimal refused =>
    rcases List.infix_cons_iff.mp written with hprefix | hinfix
    · rcases digits with _ | ⟨d, digits⟩
      · cases refused
      · obtain ⟨rfl, -⟩ := List.cons_prefix_cons.mp hprefix
        rw [decimal d List.mem_cons_self] at hdigit
        cases hdigit
    · exact .bound hinfix decimal refused
  | code written hex eight large =>
    rcases List.infix_cons_iff.mp written with hprefix | hinfix
    · obtain ⟨rfl, rest, rfl⟩ := List.cons_prefix_cons.mp hprefix
      simp at hescape
    · exact .code hinfix hex eight large

/-- It does not begin with some characters of that kind either. -/
theorem of_append (front : List Char)
    (hfront : (front.all fun d => !isAsciiDigit d && d != '\\') = true) (h : e.OfNumber (front ++ s)) :
    e.OfNumber s := by
  induction front with
  | nil => exact h
  | cons d rest ih =>
    rw [List.all_cons, Bool.and_eq_true, Bool.and_eq_true, Bool.not_eq_true', bne_iff_ne] at hfront
    exact ih hfront.2 (h.of_cons hfront.1.1 (.inl hfront.1.2))

/-- Where no digit is written there is no such number. -/
theorem not_of_plain (hs : s.any isHex = false) : ¬ e.OfNumber s := by
  have plain : ∀ c ∈ s, ¬ isHex c = true := by simpa using hs
  intro h
  cases h with
  | @bound digits _ written decimal refused =>
    rcases digits with _ | ⟨d, digits⟩
    · cases refused
    · refine plain d (written.subset List.mem_cons_self) ?_
      simp [isHex, decimal d List.mem_cons_self]
  | @code digits written hex eight large =>
    obtain ⟨d, hd⟩ := List.exists_mem_of_length_pos (eight ▸ Nat.succ_pos 7 : 0 < digits.length)
    exact plain d (written.subset (by simp [hd])) (hex d hd)

end Refusal.OfNumber

namespace Outcome.EndsIn

variable {α β : Type} {P : α → Prop} {Q : β → Prop} {s r t u : List Char}

theorem fault {cause : Cause} {left : Nat} :
    EndsIn P t s (Pattern.fault cause left : Outcome (α × List Char)) :=
  .inl ⟨cause, some left, rfl⟩

theorem ok {a : α} (ha : P a) (hr : r <:+ s) : EndsIn P t s (.ok (a, r)) := ⟨ha, hr⟩

/-- A reader that stands further on in the text. -/
theorem behind {x : Outcome (α × List Char)} (h : x.EndsIn P u r) (hr : r <:+ s) (hu : u <:+ t) :
    x.EndsIn P t s := by
  match x with
  | .ok (_, _) => exact ⟨h.1, h.2.trans hr⟩
  | .error _ => exact h.imp_right fun hnumber => hnumber.mono hu

theorem imp {P' : α → Prop} {x : Outcome (α × List Char)} (h : x.EndsIn P t s) (hP : ∀ a, P a → P' a) :
    x.EndsIn P' t s := by
  match x with
  | .ok (a, _) => exact ⟨hP a h.1, h.2⟩
  | .error _ => exact h

/-- What has been read has the property, and what is left is an end of the text. -/
theorem of_ok {x : Outcome (α × List Char)} (h : x.EndsIn P t s) {a : α} (hx : x = .ok (a, r)) :
    P a ∧ r <:+ s := by
  subst hx
  exact h

/-- What is left is an end of the text. -/
theorem suffix {x : Outcome (α × List Char)} (h : x.EndsIn P t s) {a : α} (hx : x = .ok (a, r)) :
    r <:+ s := by
  subst hx
  exact h.2

/-- Why the text has been refused. -/
theorem of_error {x : Outcome (α × List Char)} (h : x.EndsIn P t s) {e : Refusal} (hx : x = .error e) :
    (∃ cause left, e = .malformed cause left) ∨ e.OfNumber t := by
  subst hx
  exact h

/-- What is read in two steps ends well if both steps do. -/
theorem bind {x : Outcome (α × List Char)} {f : α × List Char → Outcome (β × List Char)}
    (h : x.EndsIn P t s) (hf : ∀ a r, P a → r <:+ s → (f (a, r)).EndsIn Q t s) : (x >>= f).EndsIn Q t s := by
  match x with
  | .ok (a, r) => exact hf a r h.1 h.2
  | .error _ => exact h

end Outcome.EndsIn

/-- A reader that stands further on in the text, at the start of what it reads itself. -/
theorem Outcome.Ends.mono {α : Type} {P : α → Prop} {s r : List Char} {x : Outcome (α × List Char)}
    (h : x.Ends P r) (hr : r <:+ s) : x.Ends P s :=
  h.behind hr hr

open Outcome (Ends EndsIn EndsWell)

/-! ### Pieces -/

theorem readUnit_ends (s : List Char) : EndsWell s (readUnit s) := by
  unfold readUnit
  split
  · exact .ok trivial (List.suffix_refl _)
  · exact .fault
  · exact .ok trivial ((List.suffix_cons _ _).trans (List.suffix_cons _ _))
  · exact .ok trivial (List.suffix_cons _ _)

/-- What is read from a unit on, which stands in front of the others. -/
theorem readUnit_bind {β : Type} {Q : β → Prop} {s t : List Char}
    {f : List Char × List Char → Outcome (β × List Char)}
    (hf : ∀ u r, u ++ r = s → (f (u, r)).EndsIn Q t s) : (readUnit s >>= f).EndsIn Q t s := by
  unfold readUnit
  split
  · exact hf [] [] rfl
  · exact .fault
  · exact hf _ _ rfl
  · exact hf _ _ rfl

theorem readUntil_ends (closing : Char) (what : String) (acc s : List Char) :
    EndsWell s (readUntil closing what acc s) := by
  fun_induction readUntil closing what acc s with
  | case1 => exact .fault
  | case2 => exact .fault
  | case3 => exact .fault
  | case4 acc c rest ih => exact ih.mono ((List.suffix_cons _ _).trans (List.suffix_cons _ _))
  | case5 => exact .fault
  | case6 => exact .ok trivial (List.suffix_cons _ _)
  | case7 acc c rest _ _ _ ih => exact ih.mono (List.suffix_cons _ _)

/-- What is left behind a comment is a lexeme that means nothing. -/
theorem skipLine_ends (s : List Char) :
    Ends Lexeme.Proper s (skipLine s >>= fun r => .ok (Lexeme.skip, r)) := by
  fun_induction skipLine s with
  | case1 => exact .ok ⟨trivial, nofun⟩ (List.suffix_refl _)
  | case2 => exact .fault
  | case3 c rest ih => exact ih.mono ((List.suffix_cons _ _).trans (List.suffix_cons _ _))
  | case4 => exact .ok ⟨trivial, nofun⟩ (List.suffix_cons _ _)
  | case5 c rest _ _ _ ih => exact ih.mono (List.suffix_cons _ _)

theorem skipComment_ends (left : Nat) (s : List Char) :
    Ends Lexeme.Proper s (skipComment left s >>= fun r => .ok (Lexeme.skip, r)) := by
  fun_induction skipComment left s with
  | case1 => exact .fault
  | case2 => exact .fault
  | case3 c rest ih => exact ih.mono ((List.suffix_cons _ _).trans (List.suffix_cons _ _))
  | case4 => exact .ok ⟨trivial, nofun⟩ (List.suffix_cons _ _)
  | case5 c rest _ _ _ ih => exact ih.mono (List.suffix_cons _ _)

theorem readAtMost_suffix (test : Char → Bool) (n : Nat) (s : List Char) :
    (readAtMost test n s).2 <:+ s := by
  induction s generalizing n with
  | nil => cases n <;> simp [readAtMost]
  | cons c rest ih =>
    cases n with
    | zero => simp [readAtMost]
    | succ n =>
      by_cases hc : test c
      · simpa [readAtMost, hc] using (ih n).trans (List.suffix_cons c rest)
      · simp [readAtMost, hc]

/-! ### Escapes -/

/-- Digits are taken from the start of the text. -/
theorem readAtMost_append_eq (test : Char → Bool) (n : Nat) (s : List Char) :
    (readAtMost test n s).1 ++ (readAtMost test n s).2 = s := by
  induction s generalizing n with
  | nil => cases n <;> rfl
  | cons c rest ih =>
    cases n with
    | zero => rfl
    | succ n =>
      by_cases hc : test c
      · simp [readAtMost, hc, ih]
      · simp [readAtMost, hc]

theorem readAtMost_all (test : Char → Bool) (n : Nat) (s : List Char) :
    ∀ c ∈ (readAtMost test n s).1, test c = true := by
  induction s generalizing n with
  | nil => cases n <;> simp [readAtMost]
  | cons c rest ih =>
    cases n with
    | zero => simp [readAtMost]
    | succ n =>
      by_cases hc : test c
      · simpa [readAtMost, hc] using ih n
      · simp [readAtMost, hc]

theorem digitOf_lt {c : Char} (h : isHex c = true) : digitOf c < 16 := by
  simp only [isHex, isAsciiDigit, Bool.or_eq_true, Bool.and_eq_true, decide_eq_true_eq, Char.le_def,
    UInt32.le_iff_toNat_le, UInt32.reduceToNat, Char.reduceVal] at h
  simp only [digitOf, Char.le_def, UInt32.le_iff_toNat_le, UInt32.reduceToNat, Char.reduceVal, Char.toNat]
  split
  · omega
  split <;> omega

/-- The code that digits stand for is below the power of their number. -/
theorem ofDigits_hex_lt {digits : List Char} (h : ∀ c ∈ digits, isHex c = true) :
    ofDigits 16 digits < 16 ^ digits.length := by
  induction digits using List.reverseRecOn with
  | nil => decide
  | append_singleton digits c ih =>
    have hc := digitOf_lt (h c (by simp))
    have hrest := ih fun d hd => h d (by simp [hd])
    simp only [ofDigits, List.foldl_append, List.foldl_cons, List.foldl_nil, List.length_append,
      List.length_singleton, Nat.pow_succ] at hrest ⊢
    omega

/-- An escape of fewer digits than eight cannot ask for a code that is too large. -/
theorem readHex_ends {letter : Char} {count : Nat} (hcount : count < 8 ∨ letter = 'U' ∧ count = 8)
    (s : List Char) : EndsIn (fun _ => True) ('\\' :: letter :: s) s (readHex letter count s) := by
  have hall := readAtMost_all isHex count s
  simp only [readHex]
  split
  · exact .fault
  rename_i hlength
  split
  · exact .ok trivial (readAtMost_suffix _ _ _)
  split
  · exact .fault
  rename_i hlarge
  have hlength : (readAtMost isHex count s).1.length = count := by simpa using hlength
  have hlarge := Nat.le_of_not_lt hlarge
  rcases hcount with hshort | ⟨rfl, rfl⟩
  · have hlt := ofDigits_hex_lt hall
    have hpow : 16 ^ count ≤ 16 ^ 7 := Nat.pow_le_pow_right (by decide) (Nat.le_of_lt_succ hshort)
    rw [hlength] at hlt
    omega
  · refine .inr (.code (List.IsPrefix.isInfix ⟨(readAtMost isHex 8 s).2, ?_⟩) hall hlength hlarge)
    simp [readAtMost_append_eq]

theorem readNamed_ends (s : List Char) : EndsWell s (readNamed s) := by
  unfold readNamed
  split
  · refine ((readUntil_ends _ _ _ _).mono (List.suffix_cons _ _)).bind fun name r _ hr => ?_
    dsimp only
    split
    · exact .ok trivial hr
    · exact .fault
  · exact .fault

theorem readCommonEscape_ends (c : Char) (s : List Char) :
    EndsIn (fun _ => True) ('\\' :: c :: s) s (readCommonEscape c s) := by
  unfold readCommonEscape
  split
  · rename_i hx
    obtain rfl : c = 'x' := by simpa using hx
    exact readHex_ends (.inl (by decide)) s
  split
  · rename_i hu
    obtain rfl : c = 'u' := by simpa using hu
    exact readHex_ends (.inl (by decide)) s
  split
  · rename_i hU
    obtain rfl : c = 'U' := by simpa using hU
    exact readHex_ends (.inr ⟨rfl, rfl⟩) s
  split
  · exact (readNamed_ends s).behind (List.suffix_refl _) ((List.suffix_cons _ _).trans (List.suffix_cons _ _))
  split
  · exact .fault
  · exact .ok trivial (List.suffix_refl _)

theorem readOctal_ends (c : Char) (s : List Char) : EndsWell s (readOctal c s) := by
  simp only [readOctal]
  split
  · exact .ok trivial (readAtMost_suffix _ _ _)
  · exact .fault

theorem readClassEscape_ends (c : Char) (s : List Char) :
    EndsIn (fun _ => True) ('\\' :: c :: s) s (readClassEscape c s) := by
  unfold readClassEscape
  split
  · exact .ok trivial (List.suffix_refl _)
  · exact .ok trivial (List.suffix_refl _)
  split
  · exact .ok trivial (List.suffix_refl _)
  split
  · exact ((readOctal_ends c s).behind (List.suffix_refl _)
      ((List.suffix_cons _ _).trans (List.suffix_cons _ _))).bind fun n r _ hr => .ok trivial hr
  split
  · exact .fault
  · exact (readCommonEscape_ends _ _).bind fun n r _ hr => .ok trivial hr

/-- A digit other than zero counts something. -/
theorem ofDigits_single_ne_zero {c : Char} (hdigit : isAsciiDigit c = true) (hzero : c ≠ '0') :
    ofDigits 10 [c] ≠ 0 := by
  simp only [isAsciiDigit, Bool.and_eq_true, decide_eq_true_eq] at hdigit
  obtain ⟨hlow, hhigh⟩ := hdigit
  have hne : c.toNat ≠ 48 := fun h => hzero (Char.ext (UInt32.toNat_inj.mp h))
  have hlow : 48 ≤ c.toNat := hlow
  simp only [ofDigits, List.foldl_cons, List.foldl_nil, digitOf, if_pos hhigh]
  omega

/-- Two digits, of which the first is not zero, count something too. -/
theorem ofDigits_pair_pos {c : Char} (hc : ofDigits 10 [c] ≠ 0) (d : Char) : 0 < ofDigits 10 [c, d] := by
  simp only [ofDigits, List.foldl_cons, List.foldl_nil] at hc ⊢
  omega

theorem readNumbered_ends {c : Char} (hc : ofDigits 10 [c] ≠ 0) (s : List Char) :
    (readNumbered c s).Ends Lexeme.Proper s := by
  have hsingle : (Lexeme.reference (.number (ofDigits 10 [c]))).Proper := ⟨Nat.pos_of_ne_zero hc, nofun⟩
  have hpair (d : Char) : (Lexeme.reference (.number (ofDigits 10 [c, d]))).Proper :=
    ⟨ofDigits_pair_pos hc d, nofun⟩
  unfold readNumbered
  split
  · split
    · split
      · split
        · dsimp only
          split
          · exact .ok ⟨rfl, nofun⟩ ((List.suffix_cons _ _).trans (List.suffix_cons _ _))
          · exact .fault
        · exact .ok (hpair _) (List.suffix_cons _ _)
      · exact .ok (hpair _) (List.suffix_cons _ _)
    · exact .ok hsingle (List.suffix_refl _)
  · exact .ok hsingle (List.suffix_refl _)

theorem readEscape_ends (c : Char) (s : List Char) :
    (readEscape c s).EndsIn Lexeme.Proper ('\\' :: c :: s) s := by
  unfold readEscape
  split
  · exact .ok ⟨rfl, nofun⟩ (List.suffix_refl _)
  · exact .ok ⟨rfl, nofun⟩ (List.suffix_refl _)
  · exact .ok ⟨rfl, nofun⟩ (List.suffix_refl _)
  split
  · exact .ok ⟨rfl, nofun⟩ (readAtMost_suffix _ _ _)
  rename_i hzero
  split
  · rename_i hdigit
    exact (readNumbered_ends (ofDigits_single_ne_zero hdigit (by simpa using hzero)) s).behind
      (List.suffix_refl _) ((List.suffix_cons _ _).trans (List.suffix_cons _ _))
  · exact (readCommonEscape_ends _ _).bind fun n r _ hr => .ok ⟨rfl, nofun⟩ hr

/-! ### Classes -/

theorem readClassUnit_ends (unit s : List Char) :
    EndsIn (fun _ => True) (unit ++ s) s (readClassUnit unit s) := by
  unfold readClassUnit
  split
  · exact readClassEscape_ends _ _
  · exact .ok trivial (List.suffix_refl _)
  · exact .ok trivial (List.suffix_refl _)

theorem closeRange_ends {left fuel : Nat}
    (h : ∀ members s, EndsWell s (readMembers left fuel members s)) (members : List ClassMember)
    (lo hi : List Char) (first last : ClassMember) (s : List Char) :
    EndsWell s (closeRange left fuel members lo hi first last s) := by
  unfold closeRange
  split
  · split
    · exact h _ s
    · exact .fault
  · exact .fault

theorem readUpper_ends {left fuel : Nat}
    (h : ∀ members s, EndsWell s (readMembers left fuel members s)) (members : List ClassMember)
    (lo : List Char) (first : ClassMember) (hi s : List Char) :
    EndsIn (fun _ => True) (hi ++ s) s (readUpper left fuel members lo first hi s) := by
  unfold readUpper
  split
  · exact .fault
  split
  · exact .ok trivial (List.suffix_refl _)
  · exact (readClassUnit_ends hi s).bind fun last r _ hr =>
      (closeRange_ends h members lo hi first last r).behind hr (hr.trans (List.suffix_append hi s))

theorem readBehind_ends {left fuel : Nat}
    (h : ∀ members s, EndsWell s (readMembers left fuel members s)) (members : List ClassMember)
    (lo : List Char) (first : ClassMember) (s : List Char) :
    EndsWell s (readBehind left fuel members lo first s) := by
  unfold readBehind
  split
  · rename_i rest
    refine Ends.mono (readUnit_bind fun hi r heq => ?_) (List.suffix_cons '-' rest)
    exact (readUpper_ends h members lo first hi r).behind ⟨hi, heq⟩ (heq ▸ List.suffix_refl _)
  · exact h _ s

theorem readLower_ends {left fuel : Nat}
    (h : ∀ members s, EndsWell s (readMembers left fuel members s)) (members : List ClassMember)
    (lo s : List Char) : EndsIn (fun _ => True) (lo ++ s) s (readLower left fuel members lo s) := by
  unfold readLower
  split
  · exact .fault
  split
  · exact .ok trivial (List.suffix_refl _)
  · exact (readClassUnit_ends lo s).bind fun first r _ hr =>
      (readBehind_ends h members lo first r).behind hr (hr.trans (List.suffix_append lo s))

theorem readMembers_ends (left fuel : Nat) (members : List ClassMember) (s : List Char) :
    EndsWell s (readMembers left fuel members s) := by
  induction fuel generalizing members s with
  | zero => exact .fault
  | succ fuel ih =>
    rw [readMembers_succ]
    exact readUnit_bind fun lo r heq =>
      (readLower_ends ih members lo r).behind ⟨lo, heq⟩ (heq ▸ List.suffix_refl _)

theorem readClass_ends (s : List Char) : (readClass s).Ends Lexeme.Proper s := by
  by_cases hcaret : s.head? = some '^'
  · obtain ⟨s, rfl⟩ := List.head?_eq_some_iff.mp hcaret
    rw [readClass_caret]
    exact ((readMembers_ends _ _ _ s).mono (List.suffix_cons _ _)).bind fun _ _ _ hr => .ok ⟨rfl, nofun⟩ hr
  · rw [readClass_plain hcaret]
    exact (readMembers_ends _ _ _ s).bind fun _ _ _ hr => .ok ⟨rfl, nofun⟩ hr

theorem readGreed_suffix (s : List Char) : (readGreed s).2 <:+ s := by
  unfold readGreed
  split
  · exact List.suffix_cons _ _
  · exact List.suffix_cons _ _
  · exact List.suffix_refl _

theorem roundsOf_ends (least : Nat) (most : Option Nat) (s : List Char) :
    (roundsOf least most s).Ends Lexeme.Proper s := by
  exact .ok ⟨trivial, nofun⟩ (readGreed_suffix s)

/-! ### Bounds -/

/-- A bound is refused for its length or for its value. -/
theorem boundOf_error {digits : List Char} {e : Refusal} (h : boundOf digits = .error e) :
    (maxDigits < digits.length ∧ e = .tooManyDigits digits.length) ∨
      (digits.length ≤ maxDigits ∧ maxRepeat ≤ ofDigits 10 digits ∧ e = .repeatTooLarge) := by
  unfold boundOf at h
  split at h
  · cases h
  split at h
  · rename_i hlength
    exact .inl ⟨hlength, (Except.error.inj h).symm⟩
  split at h
  · rename_i hlength hvalue
    exact .inr ⟨Nat.le_of_not_lt hlength, hvalue, (Except.error.inj h).symm⟩
  · cases h

theorem digits_takeWhile (s : List Char) : ∀ c ∈ s.takeWhile isAsciiDigit, isAsciiDigit c = true :=
  fun _ hc => List.mem_takeWhile_imp hc

/-- The two bounds and what follows them are parts of the text. -/
theorem boundsAhead_infix (s : List Char) :
    ((boundsAhead s).1 <:+: s ∧ ∀ c ∈ (boundsAhead s).1, isAsciiDigit c = true) ∧
      ((boundsAhead s).2.1 <:+: s ∧ ∀ c ∈ (boundsAhead s).2.1, isAsciiDigit c = true) ∧
      (boundsAhead s).2.2 <:+ s := by
  have hlo := (List.takeWhile_prefix (l := s) isAsciiDigit).isInfix
  have hdrop := List.dropWhile_suffix (l := s) isAsciiDigit
  unfold boundsAhead
  split
  · rename_i r hr
    have hr := (List.suffix_cons ',' r).trans (hr ▸ hdrop)
    have hhi := (List.takeWhile_prefix (l := r) isAsciiDigit).isInfix.trans hr.isInfix
    exact ⟨⟨hlo, digits_takeWhile s⟩, ⟨hhi, digits_takeWhile r⟩,
      (List.dropWhile_suffix isAsciiDigit).trans hr⟩
  · exact ⟨⟨hlo, digits_takeWhile s⟩, ⟨hlo, digits_takeWhile s⟩, hdrop⟩

theorem readBraces_ends (s : List Char) : (readBraces s).Ends Lexeme.Proper s := by
  obtain ⟨⟨hlo, dlo⟩, ⟨hhi, dhi⟩, hrest⟩ := boundsAhead_infix s
  rw [readBraces_eq]
  split
  · exact .ok ⟨rfl, nofun⟩ (List.suffix_refl _)
  split
  · rename_i after hafter
    have hafter : after <:+ s := (List.suffix_cons '}' after).trans (hafter ▸ hrest)
    unfold roundsBetween
    cases hleast : boundOf (boundsAhead s).1 with
    | error e => exact .inr (.bound hlo dlo hleast)
    | ok least =>
      cases hmost : boundOf (boundsAhead s).2.1 with
      | error e => exact .inr (.bound hhi dhi hmost)
      | ok most =>
        simp only [bind, Except.bind]
        split
        · split
          · exact .fault
          · exact (roundsOf_ends _ _ after).mono hafter
        · exact (roundsOf_ends _ _ after).mono hafter
  · exact .ok ⟨rfl, nofun⟩ (List.suffix_refl _)

/-! ### Openings -/

theorem readFlags_ends (fuel : Nat) (on : List Char) (off : Option (List Char)) (s : List Char) :
    (readFlags fuel on off s).Ends Lexeme.Proper s := by
  induction fuel generalizing on off s with
  | zero =>
    obtain ⟨cause, hfault⟩ := readFlags_zero on off s
    rw [hfault]
    exact .fault
  | succ fuel ih =>
    rw [readFlags_succ]
    refine (readUnit_ends s).bind fun unit r _ hr => ?_
    cases hstep : flagStep on off unit with
    | ended l =>
      refine .ok ?_ hr
      rcases flagStep_ended hstep with ⟨_, rfl⟩ | ⟨_, rfl⟩ <;> exact ⟨trivial, nofun⟩
    | more on off => exact (ih on off r).mono hr
    | refused cause back => exact .fault

theorem readGroupName_ends (closing : Char) (s : List Char) : EndsWell s (readGroupName closing s) := by
  unfold readGroupName
  refine (readUntil_ends _ _ _ _).bind fun name r _ hr => ?_
  dsimp only
  split
  · exact .ok trivial hr
  · exact .fault

/-- A conditional asks for a name or for a number that is not zero. -/
theorem conditionOf_ends (name s : List Char) :
    (conditionOf name s).Ends (fun ref => (Lexeme.opening (.conditional ref)).Proper) s := by
  unfold conditionOf
  dsimp only
  split
  · exact .ok ⟨trivial, nofun⟩ (List.suffix_refl _)
  split
  · exact .fault
  rename_i n _
  split
  · exact .fault
  rename_i hneg
  split
  · exact .fault
  rename_i hzero
  split
  · exact .fault
  · have hzero : n ≠ 0 := by simpa using hzero
    have hpos : 0 < n.toNat := by omega
    exact .ok ⟨hpos, nofun⟩ (List.suffix_refl _)

theorem readCondition_ends (s : List Char) :
    (readCondition s).Ends (fun ref => (Lexeme.opening (.conditional ref)).Proper) s := by
  rw [readCondition_eq]
  exact (readUntil_ends _ _ _ _).bind fun name r _ hr => (conditionOf_ends name r).mono hr

theorem readByName_ends (s : List Char) : (readByName s).Ends Lexeme.Proper s := by
  unfold readByName
  split
  · rename_i rest
    exact ((readGroupName_ends _ rest).mono (List.suffix_cons _ _)).bind fun _ _ _ hr =>
      .ok ⟨trivial, nofun⟩ hr
  · rename_i rest
    exact ((readGroupName_ends _ rest).mono (List.suffix_cons _ _)).bind fun _ _ _ hr =>
      .ok ⟨trivial, nofun⟩ hr
  · refine (readUnit_ends s).bind fun unit r _ _ => ?_
    dsimp only
    split <;> exact .fault

theorem lookBehindOf_ends (unit s : List Char) : (lookBehindOf unit s).Ends Lexeme.Proper s := by
  unfold lookBehindOf
  split
  · exact .fault
  · exact .ok ⟨trivial, nofun⟩ (List.suffix_refl _)
  · exact .ok ⟨trivial, nofun⟩ (List.suffix_refl _)
  · exact .fault

theorem extensionOf_ends (left : Nat) (unit : List Char) {s r : List Char} (hr : r <:+ s) :
    (extensionOf left s unit r).Ends Lexeme.Proper s := by
  unfold extensionOf
  split
  · exact .fault
  · exact (readByName_ends r).mono hr
  · exact .ok ⟨trivial, nofun⟩ hr
  · exact (skipComment_ends left r).mono hr
  · exact .ok ⟨trivial, nofun⟩ hr
  · exact .ok ⟨trivial, nofun⟩ hr
  · exact ((readUnit_ends r).mono hr).bind fun other _ _ hrest => (lookBehindOf_ends other _).mono hrest
  · exact ((readCondition_ends r).mono hr).bind fun _ _ href hrest => .ok href hrest
  · exact .ok ⟨trivial, nofun⟩ hr
  · exact (readFlags_ends _ _ _ r).mono hr
  · split
    · exact readFlags_ends _ _ _ s
    · exact .fault
  · exact .fault

/-- What stands between an opening parenthesis with a question mark and the rest of the text. -/
theorem readExtension_ends (left : Nat) (s : List Char) :
    (readExtension left s).Ends Lexeme.Proper s := by
  rw [readExtension_eq]
  exact (readUnit_ends s).bind fun unit r _ hr => extensionOf_ends left unit hr

/-! ### Lexemes -/

/-- A sound lexeme, which is a closing parenthesis only if it begins with one. -/
structure Lexeme.BegunBy (c : Char) (l : Lexeme) : Prop where
  sound : l.Sound
  closing : l = .closing → c = ')'

theorem Lexeme.Proper.begunBy {l : Lexeme} (h : l.Proper) (c : Char) : l.BegunBy c :=
  ⟨h.sound, fun hl => absurd hl h.not_closing⟩

/-- A lexeme is found at the start of a text, or the text is malformed there, or it is refused for a
    number. -/
theorem readLexeme_ends (verbose : Bool) (c : Char) (s : List Char) :
    (readLexeme verbose c s).EndsIn (Lexeme.BegunBy c) (c :: s) s := by
  have other {x : Outcome (Lexeme × List Char)} (h : x.Ends Lexeme.Proper s) :
      x.EndsIn (Lexeme.BegunBy c) (c :: s) s :=
    (h.imp fun l hl => hl.begunBy c).behind (List.suffix_refl _) (List.suffix_cons c s)
  have here {l : Lexeme} (hl : l.Proper) : EndsIn (Lexeme.BegunBy c) (c :: s) s (.ok (l, s)) :=
    other (.ok hl (List.suffix_refl _))
  unfold readLexeme
  split
  · exact here ⟨trivial, nofun⟩
  split
  · exact other (skipLine_ends s)
  split
  · split
    · exact .fault
    · rename_i e rest
      exact ((readEscape_ends e rest).imp fun l hl => hl.begunBy '\\').behind (List.suffix_cons _ _)
        (List.suffix_refl _)
  · exact other (readClass_ends s)
  · exact other (roundsOf_ends _ _ s)
  · exact other (roundsOf_ends _ _ s)
  · exact other (roundsOf_ends _ _ s)
  · exact other (readBraces_ends s)
  · exact here ⟨rfl, nofun⟩
  · exact here ⟨rfl, nofun⟩
  · exact here ⟨rfl, nofun⟩
  · exact here ⟨trivial, nofun⟩
  · exact .ok ⟨trivial, fun _ => rfl⟩ (List.suffix_refl _)
  · split
    · rename_i rest
      exact other ((readExtension_ends _ rest).mono (List.suffix_cons _ _))
    · exact here ⟨trivial, nofun⟩
  · exact here ⟨rfl, nofun⟩

/-- A lexeme that is found is sound, and an end of the text is left. -/
theorem readLexeme_ok {verbose : Bool} {c : Char} {l : Lexeme} {s r : List Char}
    (h : readLexeme verbose c s = .ok (l, r)) : l.BegunBy c ∧ r <:+ s :=
  (readLexeme_ends verbose c s).of_ok h

/-- Items are single pieces, and groups are referred to by numbers that they can have. -/
theorem readLexeme_sound {verbose : Bool} {c : Char} {l : Lexeme} {s r : List Char}
    (h : readLexeme verbose c s = .ok (l, r)) : l.Sound :=
  (readLexeme_ok h).1.sound

/-- A lexeme leaves less than there was. -/
theorem readLexeme_shorter {verbose : Bool} {c : Char} {l : Lexeme} {s r : List Char}
    (h : readLexeme verbose c s = .ok (l, r)) : r.length < (c :: s).length :=
  Nat.lt_succ_of_le (readLexeme_ok h).2.length_le

end TextCriteria.Pattern
