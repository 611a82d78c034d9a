import TextCriteria.Proofs.Pattern.Overrun

namespace TextCriteria.Pattern

/-!
# A malformed pattern between parentheses

A text that is no pattern by itself is none between parentheses either, with one exception: it closes
the parenthesis around it. Then what follows is read outside of it.

* `Draft.Inside` — a draft alone, and the draft just behind a new parenthesis, at the same lexeme.
* `Outcome.Unfinished` — the text is malformed, or a parenthesis is open at its end.
* `Draft.Inside.readAll_error` — what cannot be read alone cannot be read there, or the parenthesis is
  not closed.
* `Draft.Inside.readAll_ok` — what can be read alone is read there, or it asks for flags of the whole
  pattern, or it takes the parenthesis into a comment.
-/

/-- The text is malformed, or a parenthesis is open at its end. -/
def Outcome.Unfinished (x : Outcome Draft) : Prop :=
  x.Malformed ∨ ∃ E, x = .ok E ∧ E.outer ≠ []

/-- A place inside of a parenthesis, with nothing before it that a text could refer to. -/
structure Site.Fresh (site : Site) : Prop where
  groups : site.groups = 0
  names : site.names = []
  inside : site.outer ≠ []

namespace Site.Fresh

variable {site : Site}

theorem moves (h : site.Fresh) (l : Lexeme) : ¬ site.Moves l :=
  fun hmoves => hmoves.2 h.groups

theorem bars_iff (h : site.Fresh) {l : Lexeme} : site.Bars l ↔ l.isGlobal = true := by
  simp [Site.Bars, h.names]

end Site.Fresh

namespace Draft

variable {site : Site} {d d' e D D' E : Draft} {l : Lexeme} {s t : List Char} {left after : Nat}

/-- `D` has read just behind a new parenthesis what `d` has read alone, and notes the same groups that
    are asked for. -/
structure Inside (site : Site) (d D : Draft) : Prop where
  planted : Planted site d D
  alone : d.Sound
  sound : D.Sound
  asked : D.asked.map Prod.fst = d.asked.map Prod.fst

namespace Inside

theorem outer_ne_nil (I : Inside site d D) (hsite : site.Fresh) : D.outer ≠ [] :=
  I.planted.outer_ne_nil hsite.inside

/-- **Step.** A lexeme that does not ask for flags of the whole pattern does the same in both drafts. -/
theorem push (I : Inside site d D) (hsite : site.Fresh) (hl : l.Sound) (hglobal : l.isGlobal = false)
    (h : d.push l left after = .ok d') (left' after' : Nat) :
    ∃ D', D.push l left' after' = .ok D' ∧ Inside site d' D' := by
  have hbars : ¬ site.Bars l := by
    rw [hsite.bars_iff, hglobal]
    simp
  obtain ⟨D', hpush, P'⟩ := I.planted.push I.alone hl (hsite.moves l) hbars h left' after'
  refine ⟨D', hpush, P', push_sound I.alone hl h, push_sound I.sound hl hpush, ?_⟩
  rw [(push_follows hpush).asked, (push_follows h).asked, I.asked]

/-- **Step back.** A lexeme that is added inside is added alone too, unless it closes the parenthesis
    around the text. -/
theorem push_back (I : Inside site d D) (hsite : site.Fresh) (hl : l.Sound)
    (h : D.push l left after = .ok D') (left' after' : Nat) :
    (∃ d', d.push l left' after' = .ok d') ∨
      d.push l left' after' = .error (.malformed .unbalanced (some left')) := by
  by_cases hclosing : l = .closing ∧ d.outer = []
  · obtain ⟨rfl, houter⟩ := hclosing
    refine .inr ?_
    simp only [Draft.push, pushClosing, houter, fault]
  · refine .inl (I.planted.push_back hsite.inside I.alone hl (hsite.moves l) (fun name hname => ?_)
      (fun heq hnil => hclosing ⟨heq, hnil⟩) h left' after')
    have hknown := (known_of_push h).1 name hname
    rw [I.planted.names, hsite.names, List.append_nil, List.map_map] at hknown
    obtain ⟨entry, hentry, rfl⟩ := List.mem_map.mp hknown
    rw [← Option.isSome_iff_exists, List.lookup_isSome_iff]
    exact ⟨entry, hentry, beq_self_eq_true _⟩

theorem push_global (I : Inside site d D) (hsite : site.Fresh) (hglobal : l.isGlobal = true)
    (left after : Nat) : (D.push l left after).Malformed := by
  cases l with
  | globalFlags letters =>
    refine ⟨.globalFlagsLate, some left, ?_⟩
    simp [Draft.push, pushGlobals, I.outer_ne_nil hsite, fault]
  | _ => cases hglobal

/-- A lexeme that is refused alone is refused inside, unless it closes the parenthesis around the text. -/
theorem push_error (I : Inside site d D) (hsite : site.Fresh) (hl : l.Sound) {e : Refusal}
    (h : d.push l left after = .error e) (hbalanced : ∀ left, e ≠ .malformed .unbalanced left)
    (left' after' : Nat) :
    (∃ cause left, e = .malformed cause left) ∧ (D.push l left' after').Malformed := by
  constructor
  · rcases d.push_ok_or_malformed l left after with ⟨d', hpush⟩ | ⟨cause, left, hfault⟩
    · cases hpush.symm.trans h
    · exact ⟨cause, left, Except.error.inj (h.symm.trans hfault)⟩
  · rcases D.push_ok_or_malformed l left' after' with ⟨D', hpush⟩ | hmalformed
    · rcases I.push_back hsite hl hpush left after with ⟨d', hback⟩ | hback
      · cases hback.symm.trans h
      · exact absurd (Except.error.inj (h.symm.trans hback)) (hbalanced _)
    · exact hmalformed

end Inside

/-! ### What follows the closing parenthesis -/

/-- What follows a body in a fragment: nothing, or the end of the text. -/
abbrev Tail (t : List Char) : Prop := t <:+ ['\\', 'Z']

theorem tail_cases (ht : Tail t) : t = [] ∨ t = ['Z'] ∨ t = ['\\', 'Z'] := by
  simp only [Tail, List.suffix_cons_iff, List.suffix_nil] at ht
  rcases ht with rfl | rfl | rfl <;> simp

/-- It opens and closes nothing, and asks for no group. -/
theorem readAll_tail (D : Draft) (ht : Tail t) :
    ∃ E, D.readAll t = .ok E ∧ E.outer = D.outer ∧ E.groups = D.groups ∧ E.asked = D.asked := by
  rcases tail_cases ht with rfl | rfl | rfl
  · exact ⟨D, rfl, rfl, rfl, rfl⟩
  · have hl : readLexeme D.frame.verbose 'Z' [] = .ok (.item (.char 'Z'.toNat), []) := by
      cases D.frame.verbose <;> rfl
    refine ⟨D.withItem (.char 'Z'.toNat), ?_, rfl, rfl, rfl⟩
    rw [readAll_cons, hl]
    rfl
  · exact ⟨D.withItem (.anchor .textEnd), by rw [readAll_textEnd]; rfl, rfl, rfl, rfl⟩

/-- No number is written there. -/
theorem not_ofNumber_tail (ht : Tail t) (e : Refusal) : ¬ e.OfNumber t := by
  rcases tail_cases ht with rfl | rfl | rfl <;> exact Refusal.OfNumber.not_of_plain rfl

theorem unfinished_tail (hD : D.outer ≠ []) (ht : Tail t) : (D.readAll t).Unfinished := by
  obtain ⟨E, heq, houter, -⟩ := D.readAll_tail ht
  exact .inr ⟨E, heq, houter ▸ hD⟩

/-! ### Texts that cannot be read -/

/-- Where no lexeme can be read alone, the parenthesis behind the text may end one. Then it is not there
    to close what is open. -/
theorem Inside.readAll_of_lexeme_error (I : Inside site d D) (hsite : site.Fresh) {c : Char}
    {rest : List Char} {e : Refusal} (h : readLexeme d.frame.verbose c rest = .error e) (ht : Tail t) :
    D.readAll (c :: (rest ++ ')' :: t)) = .error e ∨
      ((∃ cause left, e = .malformed cause left) ∧ (D.readAll (c :: (rest ++ ')' :: t))).Unfinished) := by
  rw [readAll_cons, I.planted.verbose]
  rcases readLexeme_error_beyond h (not_ofNumber_tail ht) with
    heq | ⟨hmalformed, ⟨cause, left, heq⟩ | ⟨l, r, heq, hclosing, hr⟩⟩
  · exact .inl (by rw [heq]; rfl)
  · exact .inr ⟨hmalformed, .inl ⟨cause, left, by rw [heq]; rfl⟩⟩
  · refine .inr ⟨hmalformed, ?_⟩
    rw [heq]
    simp only [bind, Except.bind]
    rcases D.push_ok_or_malformed l ((rest ++ ')' :: t).length + 1) r.length with
      ⟨D', hpush⟩ | ⟨cause, left, hfault⟩
    · have hlength := (push_follows hpush).outer_length hclosing
      have hpos := List.length_pos_iff.mpr (I.outer_ne_nil hsite)
      rw [hpush]
      exact unfinished_tail (List.length_pos_iff.mp (by omega)) (hr.trans ht)
    · exact .inl ⟨cause, left, by rw [hfault]⟩

/-- **Run.** What cannot be read alone is refused behind a new parenthesis for the same number, or the
    parenthesis is not closed there. Only a text that closes it too early may be read further. -/
theorem Inside.readAll_error (I : Inside site d D) (hsite : site.Fresh) {e : Refusal}
    (h : d.readAll s = .error e) (hbalanced : ∀ left, e ≠ .malformed .unbalanced left)
    (ht : Tail t) :
    ((∀ l ∈ d.lexemes s, l.isGlobal = false) ∧ D.readAll (s ++ ')' :: t) = .error e) ∨
      (((∃ cause left, e = .malformed cause left) ∨ ∃ l ∈ d.lexemes s, l.isGlobal = true) ∧
        (D.readAll (s ++ ')' :: t)).Unfinished) := by
  -- On the length, since a lexeme takes more than one character.
  induction hn : s.length using Nat.strongRecOn generalizing d D s with
  | ind n ih =>
    rcases s with _ | ⟨c, rest⟩
    · cases h
    rw [List.cons_append, lexemes_cons]
    rw [readAll_cons] at h
    cases hl : readLexeme d.frame.verbose c rest with
    | error e' =>
      rw [hl] at h
      obtain rfl : e' = e := Except.error.inj h
      rcases I.readAll_of_lexeme_error hsite hl ht with heq | ⟨hmalformed, hunfinished⟩
      · exact .inl ⟨by simp, heq⟩
      · exact .inr ⟨.inl hmalformed, hunfinished⟩
    | ok x =>
      obtain ⟨l, rest'⟩ := x
      have hsound := readLexeme_sound hl
      rw [hl] at h
      simp only [bind, Except.bind] at h
      rcases readLexeme_passes hl with pass | ⟨rfl, rfl, -⟩
      · rw [readAll_cons, I.planted.verbose, pass.beyond t]
        simp only [bind, Except.bind]
        cases hglobal : l.isGlobal with
        | true =>
          obtain ⟨cause, left, hfault⟩ := I.push_global hsite hglobal
            ((rest ++ ')' :: t).length + 1) (rest' ++ ')' :: t).length
          refine .inr ⟨.inr ?_, .inl ⟨cause, left, by rw [hfault]⟩⟩
          split <;> exact ⟨l, List.mem_cons_self, hglobal⟩
        | false =>
          cases hp : d.push l (rest.length + 1) rest'.length with
          | error e' =>
            rw [hp] at h
            obtain rfl : e' = e := Except.error.inj h
            obtain ⟨hmalformed, cause, left, hfault⟩ := I.push_error hsite hsound hp hbalanced
              ((rest ++ ')' :: t).length + 1) (rest' ++ ')' :: t).length
            exact .inr ⟨.inl hmalformed, .inl ⟨cause, left, by rw [hfault]⟩⟩
          | ok d' =>
            rw [hp] at h
            obtain ⟨D', hpush, I'⟩ := I.push hsite hsound hglobal hp ((rest ++ ')' :: t).length + 1)
              (rest' ++ ')' :: t).length
            rw [hpush]
            simpa [hglobal] using ih rest'.length (hn ▸ readLexeme_shorter hl) I' h rfl
      · cases h

/-! ### Texts that can be read -/

/-- Inside of a parenthesis, a text that is read alone is read in the same lexemes. -/
theorem Inside.reads {isOpen : Bool} {ls : List Lexeme} (I : Inside site d D) (hsite : site.Fresh)
    (h : Reads 0 isOpen d s ls e) (hglobals : ∀ l ∈ ls, l.isGlobal = false) (n : Nat) :
    ∃ E, Reads n isOpen D s ls E ∧ Inside site e E := by
  induction h generalizing D with
  | done d => exact ⟨D, .done D, I⟩
  | comment hopen => exact ⟨D, .comment (I.planted.verbose ▸ hopen), I⟩
  | @step isOpen d d' e c rest rest' l ls hl pass hp hs ih =>
    obtain ⟨D', hpush, I'⟩ := I.push hsite (readLexeme_sound hl) (hglobals l List.mem_cons_self) hp
      (rest.length + 1 + n) (rest'.length + n)
    obtain ⟨E, hreads, IE⟩ := ih I' fun m hm => hglobals m (List.mem_cons_of_mem l hm)
    rw [← I.planted.verbose] at hl pass
    exact ⟨E, .step hl pass hpush hreads, IE⟩

end Draft

end TextCriteria.Pattern
