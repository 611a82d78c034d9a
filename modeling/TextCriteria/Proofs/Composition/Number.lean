import TextCriteria.Proofs.Composition.Body

namespace TextCriteria

open TextCriteria.Pattern TextCriteria.Text

/-!
# Numbers that are too large

A fragment is refused because it is malformed, or for a number that is written in its body: a bound of a
repetition, or the code of a character. The pattern that is put together is refused because it is
malformed, or for a number that is written in one of the bodies.

* `Refusal.OfNumber.split` — a number stands on one side of every character that is not a part of one.
* `Failure.OfNumber` — the failure for such a number.
* `Requirement.compileAlone_error`, `compile_composedText_error` — how fragments and compositions fail.
-/

/-! ### Texts -/

namespace Pattern.Refusal.OfNumber

variable {e : Refusal} {a b s : List Char} {c : Char}

/-- What is written as one piece stands on one side of every character that is not in it. -/
theorem infix_split {piece : List Char} (hmem : c ∉ piece) (h : piece <:+: a ++ c :: b) :
    piece <:+: a ∨ piece <:+: b := by
  obtain ⟨p, q, heq⟩ := h
  rcases List.append_eq_append_iff.mp heq with ⟨w, hw, hq⟩ | ⟨w, hw, hq⟩
  · rcases w with _ | ⟨d, w⟩
    · exact .inl ⟨p, [], by simpa using hw.symm⟩
    · exact .inl ⟨p, d :: w, hw.symm⟩
  · rcases w with _ | ⟨d, w⟩
    · exact .inl ⟨p, [], by simpa using hw⟩
    obtain ⟨rfl, hb⟩ := List.cons.inj hq
    rcases List.append_eq_append_iff.mp hw with ⟨v, hv, hpiece⟩ | ⟨v, hv, hrest⟩
    · exact absurd (hpiece ▸ List.mem_append_right v List.mem_cons_self) hmem
    · rcases v with _ | ⟨d, v⟩
      · have hpiece : c :: w = piece := hrest
        exact absurd (hpiece ▸ List.mem_cons_self) hmem
      · obtain ⟨-, hw⟩ := List.cons.inj hrest
        exact .inr ⟨v, q, by rw [hb, hw]; rfl⟩

/-- The characters that numbers are written in. -/
def isNumeric (c : Char) : Bool := isHex c || c == '\\' || c == 'U'

/-- A number stands on one side of every character that is not a part of one. -/
theorem split (hc : isNumeric c = false) (h : e.OfNumber (a ++ c :: b)) :
    e.OfNumber a ∨ e.OfNumber b := by
  simp only [isNumeric, Bool.or_eq_false_iff, beq_eq_false_iff_ne] at hc
  obtain ⟨⟨hhex, hescape⟩, hletter⟩ := hc
  cases h with
  | @bound digits _ written decimal refused =>
    have hmem : c ∉ digits := by
      intro hin
      simp [isHex, decimal c hin] at hhex
    exact (infix_split hmem written).imp (.bound · decimal refused) (.bound · decimal refused)
  | @code digits written hex eight large =>
    have hmem : c ∉ '\\' :: 'U' :: digits := by
      intro hin
      simp only [List.mem_cons, hescape, hletter, false_or] at hin
      simp [hex c hin] at hhex
    exact (infix_split hmem written).imp (.code · hex eight large) (.code · hex eight large)

/-- A number between parentheses. -/
theorem of_closing (h : e.OfNumber (a ++ ')' :: b)) : e.OfNumber a ∨ e.OfNumber b :=
  h.split (by decide)

end Pattern.Refusal.OfNumber

variable {flags : Flags} {rs : List Requirement} {r : Requirement} {f : Fragment} {e : Refusal}

/-! ### Where the number is written -/

theorem Fragment.ofNumber_render (h : e.OfNumber f.render.toList) : e.OfNumber f.body.toList := by
  cases hk : f.kind with
  | lookahead =>
    rw [render_lookahead hk, toList_asLookahead, core_lookahead hk] at h
    have hbehind := Refusal.OfNumber.of_append ['(', '?', '='] (by decide) h
    rcases hbehind.of_closing with h | h
    · exact h
    · exact absurd h (Refusal.OfNumber.not_of_plain rfl)
  | anchored =>
    rw [toList_anchored hk] at h
    have hbehind := Refusal.OfNumber.of_append ['^', '(', '?', ':'] (by decide) h
    rcases hbehind.of_closing with h | h
    · exact h
    · exact absurd h (Refusal.OfNumber.not_of_plain rfl)

theorem Fragment.ofNumber_core (h : e.OfNumber f.core.toList) : e.OfNumber f.body.toList := by
  cases hk : f.kind with
  | lookahead => rwa [core_lookahead hk] at h
  | anchored => exact ofNumber_render (by rwa [core_anchored hk] at h)

/-- A number in a row of fragments is written in the body of one of them, or behind them. -/
theorem ofNumber_row {tail : List Char} (htail : ¬ e.OfNumber tail)
    (h : e.OfNumber (((fragmentsOf rs).flatMap fun f => f.asLookahead.toList) ++ tail)) :
    ∃ r ∈ rs, e.OfNumber r.fragment.body.toList := by
  induction rs with
  | nil => exact absurd h htail
  | cons r rest ih =>
    have hlist : ((fragmentsOf (r :: rest)).flatMap fun f => f.asLookahead.toList) ++ tail
        = '(' :: '?' :: '=' :: (r.fragment.core.toList ++ ')' ::
          (((fragmentsOf rest).flatMap fun f => f.asLookahead.toList) ++ tail)) := by
      simp [fragmentsOf, Fragment.toList_asLookahead]
    rw [hlist] at h
    have hbehind := Refusal.OfNumber.of_append ['(', '?', '='] (by decide) h
    rcases hbehind.of_closing with h | h
    · exact ⟨r, List.mem_cons_self, Fragment.ofNumber_core h⟩
    · obtain ⟨q, hq, hnumber⟩ := ih h
      exact ⟨q, List.mem_cons_of_mem r hq, hnumber⟩

theorem ofNumber_composedText (h : e.OfNumber (composedText rs).toList) :
    ∃ r ∈ rs, e.OfNumber r.fragment.body.toList := by
  rw [toList_composedText] at h
  refine ofNumber_row (Refusal.OfNumber.not_of_plain ?_) (h.of_cons (by decide) (.inl (by decide)))
  cases rs <;> rfl

/-! ### Failures -/

/-- The failure for a number that is written in the text and too large. -/
def Failure.OfNumber (text : String) (e : Failure) : Prop :=
  ∃ refusal, e = .refused refusal ∧ refusal.OfNumber text.toList

/-- What is put together begins with the start of a line. -/
theorem begins_composedText (rs : List Requirement) : Begins (composedText rs).toList :=
  ⟨_, .inl (toList_composedText rs)⟩

/-- A text that has begun fails with its pattern, or for a number that is written in it. -/
theorem compileFor_error {text : String} {requirement : Value} {e : Failure}
    (hflags : flags.Accepted) (hbegins : Begins text.toList)
    (h : compileFor text flags requirement = .error e) :
    e.Names text requirement ∨ e.OfNumber text := by
  cases hcompile : compile text flags with
  | ok c => cases h.symm.trans (compileFor_eq_ok.mpr hcompile)
  | error refusal =>
    rcases compileChars_error hflags hbegins (compile_eq_error.mp hcompile) with
      ⟨cause, left, rfl⟩ | hnumber
    · obtain ⟨reason, heq⟩ := compileFor_malformed requirement ⟨cause, left, hcompile⟩
      exact .inl ⟨reason, Except.error.inj (h.symm.trans heq)⟩
    · refine .inr ⟨refusal, ?_, hnumber⟩
      simp only [compileFor, hcompile] at h
      cases hnumber with
      | bound _ _ refused =>
        rcases boundOf_error refused with ⟨-, rfl⟩ | ⟨-, -, rfl⟩ <;> exact (Except.error.inj h).symm
      | code => exact (Except.error.inj h).symm

/-- **Fragments.** A fragment fails with its pattern and message, or for a number in its body. -/
theorem Requirement.compileAlone_error {e : Failure} (hflags : flags.Accepted)
    (h : r.compileAlone flags = .error e) :
    e.Names r.fragment.render r.message ∨ e.OfNumber r.fragment.body :=
  (compileFor_error hflags r.fragment.begins h).imp_right fun ⟨refusal, heq, hnumber⟩ =>
    ⟨refusal, heq, Fragment.ofNumber_render hnumber⟩

/-- **Compositions.** The one pattern fails without a requirement, or for a number in a body. -/
theorem compile_composedText_error {e : Failure} (hflags : flags.Accepted)
    (h : compileFor (composedText rs) flags .null = .error e) :
    e.Names (composedText rs) .null ∨ ∃ r ∈ rs, e.OfNumber r.fragment.body :=
  (compileFor_error hflags (begins_composedText rs) h).imp_right fun ⟨refusal, heq, hnumber⟩ =>
    (ofNumber_composedText hnumber).imp fun _ h => ⟨h.1, refusal, heq, h.2⟩

end TextCriteria
