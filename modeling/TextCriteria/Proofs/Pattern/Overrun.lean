import TextCriteria.Proofs.Pattern.Begun

namespace TextCriteria.Pattern

open TextCriteria.Text

open Outcome (Ends EndsIn EndsWell)

/-!
# Lexemes that a closing parenthesis completes

A text that is malformed by itself can be read between parentheses only at the price of the closing one:
a lexeme that the end of the text cuts off goes on and takes the parenthesis with it.

* `Overruns` — what cannot be read in a text is refused before a parenthesis for the same number, or the
  text is malformed, and what is read then takes the parenthesis; one lemma per reader.
* `Overruns.bind`, `Overruns.unit` — two steps of which each one overruns.
* `readLexeme_error_beyond` — the same for lexemes, which are no closing parentheses themselves.
-/

/-- What the reader `f` cannot read in a text `s`, the reader `g` cannot read before a closing parenthesis
    and more, for the same reason. Or the text is malformed alone, and `g` goes on behind the
    parenthesis if it does not fail too. -/
def Overruns {α : Type} (f g : List Char → Outcome (α × List Char)) (s : List Char) : Prop :=
  ∀ e, f s = .error e → ∀ t, g (s ++ ')' :: t) = .error e ∨
    ((∃ cause left, e = .malformed cause left) ∧ EndsWell t (g (s ++ ')' :: t)))

namespace Overruns

variable {α β : Type} {f g : List Char → Outcome (α × List Char)} {s : List Char}

/-- Nothing overruns where the reader does not fail alone. -/
theorem of_ok {a : α} {r : List Char} (h : f s = .ok (a, r)) : Overruns f g s := by
  intro e he
  cases h.symm.trans he

/-- A text that is malformed alone, and what the reader does behind the parenthesis. -/
theorem of_malformed (h : (f s).Malformed) (hbeyond : ∀ t, EndsWell t (g (s ++ ')' :: t))) :
    Overruns f g s := by
  intro e he t
  obtain ⟨cause, left, heq⟩ := h
  exact .inr ⟨⟨cause, left, Except.error.inj (he.symm.trans heq)⟩, hbeyond t⟩

/-- A text that is malformed alone and before a parenthesis. -/
theorem of_fault (h : (f s).Malformed) (hbeyond : ∀ t, (g (s ++ ')' :: t)).Malformed) : Overruns f g s := by
  refine of_malformed h fun t => ?_
  obtain ⟨cause, left, heq⟩ := hbeyond t
  rw [heq]
  exact .inl ⟨cause, left, rfl⟩

/-- **Two steps.** Where the first one fails, the second one goes on behind the parenthesis; else the second
    one fails at the same place. -/
theorem bind {k K : α → List Char → Outcome (β × List Char)} (hf : Overruns f g s)
    (hok : ∀ {a r}, f s = .ok (a, r) →
      (∀ t, g (s ++ ')' :: t) = .ok (a, r ++ ')' :: t)) ∧ Overruns (k a) (K a) r)
    (hK : ∀ a r, EndsWell r (K a r)) :
    Overruns (fun s => f s >>= fun x => k x.1 x.2) (fun s => g s >>= fun x => K x.1 x.2) s := by
  intro e h t
  cases hs : f s with
  | error e' =>
    simp only [hs] at h
    obtain rfl : e' = e := Except.error.inj h
    rcases hf _ hs t with heq | ⟨hmalformed, hends⟩
    · exact .inl (by simp only [heq]; rfl)
    · exact .inr ⟨hmalformed, hends.bind fun a r _ hr => (hK a r).mono hr⟩
  | ok x =>
    obtain ⟨a, r⟩ := x
    obtain ⟨hbeyond, hk⟩ := hok hs
    simp only [hs] at h
    simp only [hbeyond t]
    exact hk e h t

/-- What is made of the result makes no difference. -/
theorem map (hf : Overruns f g s) (make : α → β)
    (hok : ∀ {a r}, f s = .ok (a, r) → ∀ t, g (s ++ ')' :: t) = .ok (a, r ++ ')' :: t)) :
    Overruns (fun s => f s >>= fun x => .ok (make x.1, x.2)) (fun s => g s >>= fun x => .ok (make x.1, x.2)) s :=
  hf.bind (k := fun a r => .ok (make a, r)) (K := fun a r => .ok (make a, r))
    (fun h => ⟨hok h, of_ok rfl⟩) fun _ r => .ok trivial (List.suffix_refl r)

end Overruns

/-! ### Pieces -/

/-- The unit that takes a parenthesis alone or behind a backslash. -/
def TakesClosing (u : List Char) : Prop := u = [')'] ∨ u = ['\\', ')']

/-- No number goes on from such a unit. -/
theorem TakesClosing.endsWell {α : Type} {P : α → Prop} {u t : List Char} {x : Outcome (α × List Char)}
    (hu : TakesClosing u) (h : x.EndsIn P (u ++ t) t) : x.Ends P t := by
  match x with
  | .ok (_, _) => exact h
  | .error e =>
    refine h.imp_right fun hnumber => ?_
    rcases hu with rfl | rfl
    · exact hnumber.of_cons (by decide) (.inl (by decide))
    · exact (hnumber.of_cons (by decide) (.inr (by simp))).of_cons (by decide) (.inl (by decide))

/-- A unit of a text is read before a parenthesis too, or it takes the parenthesis. -/
theorem readUnit_apart (s : List Char) :
    (∃ u r, r.length < s.length ∧ readUnit s = .ok (u, r) ∧
      ∀ t, readUnit (s ++ ')' :: t) = .ok (u, r ++ ')' :: t)) ∨
    ((readUnit s).Malformed ∨ readUnit s = .ok ([], [])) ∧
      ∃ u, TakesClosing u ∧ ∀ t, readUnit (s ++ ')' :: t) = .ok (u, t) := by
  rcases s with _ | ⟨c, s⟩
  · exact .inr ⟨.inr rfl, [')'], .inl rfl, fun t => by simp [readUnit]⟩
  by_cases hc : c = '\\'
  · subst hc
    rcases s with _ | ⟨d, s⟩
    · exact .inr ⟨.inl ⟨_, _, rfl⟩, ['\\', ')'], .inr rfl, fun t => by simp [readUnit]⟩
    · exact .inl ⟨['\\', d], s, by simp only [List.length_cons]; omega, rfl, fun t => rfl⟩
  · exact .inl ⟨[c], s, by simp, by simp [readUnit, hc], fun t => by simp [readUnit, hc]⟩

/-- What is read from a unit on overruns if it does so behind a unit, and if nothing can be read where no
    unit is left. -/
theorem Overruns.unit {β : Type} {k K : List Char → List Char → Outcome (β × List Char)} {s : List Char}
    (hunit : ∀ {u r}, r.length < s.length → Overruns (k u) (K u) r) (hend : (k [] []).Malformed)
    (hclosing : ∀ u t, (K u t).EndsIn (fun _ => True) (u ++ t) t) :
    Overruns (fun s => readUnit s >>= fun x => k x.1 x.2) (fun s => readUnit s >>= fun x => K x.1 x.2) s := by
  rcases readUnit_apart s with ⟨u, r, hlt, hu, hu'⟩ | ⟨hnone, u, htakes, hu'⟩
  · intro e h t
    simp only [hu] at h
    simp only [hu' t]
    exact hunit hlt e h t
  · refine Overruns.of_malformed ?_ fun t => ?_
    · rcases hnone with ⟨cause, left, hfault⟩ | hempty
      · exact ⟨cause, left, by simp only [hfault]; rfl⟩
      · have heq : (readUnit s >>= fun x => k x.1 x.2) = k [] [] := by rw [hempty]; rfl
        exact heq ▸ hend
    · simp only [hu' t]
      exact htakes.endsWell (hclosing u t)

theorem readUntil_overruns (closing : Char) (what : String) (acc s : List Char) :
    Overruns (readUntil closing what acc) (readUntil closing what acc) s := by
  have hparen : ∀ acc t, EndsWell t (readUntil closing what acc (')' :: t)) := by
    intro acc t
    have heq : readUntil closing what acc (')' :: t)
        = if ')' == closing then
            if acc.isEmpty then fault (.missingName what) (t.length + 1) else .ok (acc, t)
          else readUntil closing what (acc ++ [')']) t := by
      rw [readUntil] <;> simp
    rw [heq]
    split
    · split
      · exact .fault
      · exact .ok trivial (List.suffix_refl _)
    · exact readUntil_ends _ _ _ _
  fun_induction readUntil closing what acc s with
  | case1 acc hacc => exact .of_malformed ⟨_, _, by rw [readUntil, if_pos hacc]; rfl⟩ (hparen acc)
  | case2 acc hacc => exact .of_malformed ⟨_, _, by rw [readUntil, if_neg hacc]; rfl⟩ (hparen acc)
  | case3 acc =>
    refine .of_malformed ⟨_, _, rfl⟩ fun t => ?_
    simpa only [List.cons_append, List.nil_append, readUntil] using readUntil_ends closing what _ t
  | case4 acc c rest ih =>
    intro e h t
    simpa [readUntil] using ih e (by simpa [readUntil] using h) t
  | case5 acc c rest hlone hpair hclose hacc =>
    have hfault : ∀ t, readUntil closing what acc (c :: t) = fault (.missingName what) (t.length + 1) :=
      fun t => by simp [readUntil, ne_backslash hlone hpair, hclose, hacc]
    exact .of_fault ⟨_, _, hfault rest⟩ fun t => ⟨_, _, hfault (rest ++ ')' :: t)⟩
  | case6 acc c rest hlone hpair hclose hacc =>
    exact .of_ok (a := acc) (r := rest) (by simp [readUntil, hclose, hacc])
  | case7 acc c rest hlone hpair hclose ih =>
    intro e h t
    have hc := ne_backslash hlone hpair
    simpa [readUntil, hc, hclose] using ih e (by simpa [readUntil, hc, hclose] using h) t

/-- A comment that a line break ends goes on behind the parenthesis. -/
theorem skipLine_overruns (s : List Char) :
    Overruns (fun s => skipLine s >>= fun r => .ok (Lexeme.skip, r))
      (fun s => skipLine s >>= fun r => .ok (Lexeme.skip, r)) s := by
  fun_induction skipLine s with
  | case1 => exact .of_ok rfl
  | case2 => exact .of_malformed ⟨_, _, rfl⟩ fun t => (skipLine_ends t).imp fun _ _ => trivial
  | case3 c rest ih => exact ih
  | case4 c rest hlone hpair hbreak =>
    exact .of_ok (a := Lexeme.skip) (r := rest) (by simp [skipLine, hbreak, bind, Except.bind])
  | case5 c rest hlone hpair hbreak ih =>
    intro e h t
    have hc := ne_backslash hlone hpair
    simpa [skipLine, hc, hbreak] using ih e (by simpa [skipLine, hc, hbreak] using h) t

theorem skipComment_overruns (left left' : Nat) (s : List Char) :
    Overruns (fun s => skipComment left s >>= fun r => .ok (Lexeme.skip, r))
      (fun s => skipComment left' s >>= fun r => .ok (Lexeme.skip, r)) s := by
  fun_induction skipComment left s with
  | case1 =>
    refine .of_malformed ⟨_, _, rfl⟩ fun t => ?_
    simp [skipComment]
    exact .ok trivial (List.suffix_refl _)
  | case2 => exact .of_malformed ⟨_, _, rfl⟩ fun t => (skipComment_ends left' t).imp fun _ _ => trivial
  | case3 c rest ih => exact ih
  | case4 c rest hlone hpair hclose =>
    exact .of_ok (a := Lexeme.skip) (r := rest) (by simp [skipComment, hclose, bind, Except.bind])
  | case5 c rest hlone hpair hclose ih =>
    intro e h t
    have hc := ne_backslash hlone hpair
    simpa [skipComment, hc, hclose] using ih e (by simpa [skipComment, hc, hclose] using h) t

/-! ### Escapes -/

theorem readHex_overruns (letter : Char) (count : Nat) (s : List Char) :
    Overruns (readHex letter count) (readHex letter count) s := by
  have hparen : isHex ')' = false := by decide
  intro e h t
  simp only [readHex, readAtMost_append hparen (.closing _ t)] at h ⊢
  split at h
  · rename_i hcount
    rw [if_pos hcount]
    exact .inr ⟨⟨_, _, (Except.error.inj h).symm⟩, .fault⟩
  rename_i hcount
  rw [if_neg hcount]
  split at h
  · cases h
  rename_i hvalid
  rw [if_neg hvalid]
  split at h
  · rename_i hfits
    rw [if_pos hfits]
    exact .inr ⟨⟨_, _, (Except.error.inj h).symm⟩, .fault⟩
  · rename_i hlarge
    rw [if_neg hlarge]
    exact .inl h

/-- What is made of a name does not depend on what follows it. -/
theorem characterOf_overruns (name s : List Char) :
    Overruns (characterOf name) (characterOf name) s := by
  unfold characterOf
  cases characterNamed? name with
  | some c => exact .of_ok rfl
  | none => exact .of_fault ⟨_, _, rfl⟩ fun t => ⟨_, _, rfl⟩

theorem characterOf_ends (name s : List Char) : EndsWell s (characterOf name s) := by
  unfold characterOf
  split
  · exact .ok trivial (List.suffix_refl _)
  · exact .fault

theorem readNamed_overruns (s : List Char) : Overruns readNamed readNamed s := by
  by_cases hbrace : s.head? = some '{'
  · obtain ⟨s, rfl⟩ := List.head?_eq_some_iff.mp hbrace
    exact (readUntil_overruns '}' "character name" [] s).bind
      (fun h => ⟨fun t => readUntil_extends h (')' :: t), characterOf_overruns _ _⟩) characterOf_ends
  · refine .of_fault ⟨_, _, readNamed_plain hbrace⟩ fun t => ⟨_, _, readNamed_plain ?_⟩
    rwa [Ne, head?_append_closing (by decide)]

theorem readCommonEscape_overruns (c : Char) (s : List Char) :
    Overruns (readCommonEscape c) (readCommonEscape c) s := by
  unfold readCommonEscape
  by_cases hx : (c == 'x') = true
  · simp only [if_pos hx]
    exact readHex_overruns _ _ _
  by_cases hu : (c == 'u') = true
  · simp only [if_neg hx, if_pos hu]
    exact readHex_overruns _ _ _
  by_cases hU : (c == 'U') = true
  · simp only [if_neg hx, if_neg hu, if_pos hU]
    exact readHex_overruns _ _ _
  by_cases hN : (c == 'N') = true
  · simp only [if_neg hx, if_neg hu, if_neg hU, if_pos hN]
    exact readNamed_overruns _
  simp only [if_neg hx, if_neg hu, if_neg hU, if_neg hN]
  by_cases hletter : isAsciiLetter c = true
  · simp only [if_pos hletter]
    exact .of_fault ⟨_, _, rfl⟩ fun t => ⟨_, _, rfl⟩
  · simp only [if_neg hletter]
    exact .of_ok rfl

theorem readOctal_overruns (c : Char) (s : List Char) :
    Overruns (readOctal c) (readOctal c) s := by
  have hparen : isOctal ')' = false := by decide
  intro e h t
  simp only [readOctal, readAtMost_append hparen (.closing _ t)] at h ⊢
  split at h
  · cases h
  · rename_i hvalue
    rw [if_neg hvalue]
    exact .inr ⟨⟨_, _, (Except.error.inj h).symm⟩, .fault⟩

theorem readClassEscape_overruns (c : Char) (s : List Char) :
    Overruns (readClassEscape c) (readClassEscape c) s := by
  unfold readClassEscape
  cases controlEscape? c with
  | some n => exact .of_ok rfl
  | none =>
    cases categoryEscape? c with
    | some m => exact .of_ok rfl
    | none =>
      dsimp only
      by_cases hb : (c == 'b') = true
      · simp only [if_pos hb]
        exact .of_ok rfl
      by_cases hoctal : isOctal c = true
      · simp only [if_neg hb, if_pos hoctal]
        exact (readOctal_overruns c s).map ClassMember.code fun h t => readOctal_append (.closing _ t) h
      by_cases hdigit : isAsciiDigit c = true
      · simp only [if_neg hb, if_neg hoctal, if_pos hdigit]
        exact .of_fault ⟨_, _, rfl⟩ fun t => ⟨_, _, rfl⟩
      · simp only [if_neg hb, if_neg hoctal, if_neg hdigit]
        exact (readCommonEscape_overruns c s).map ClassMember.code
          fun h t => readCommonEscape_append (.closing _ t) h

/-- Only a code of three octal digits can be too large, and it is so before a parenthesis. -/
theorem readNumbered_overruns (c : Char) (s : List Char) :
    Overruns (readNumbered c) (readNumbered c) s := by
  intro e h t
  unfold readNumbered at h
  split at h
  · rename_i d rest
    split at h
    · rename_i hdigit
      split at h
      · rename_i e' rest'
        split at h
        · rename_i hoctal
          dsimp only at h
          split at h
          · cases h
          · rename_i hvalue
            simp only [List.cons_append, readNumbered, hdigit, hoctal, if_true, if_neg hvalue]
            exact .inr ⟨⟨_, _, (Except.error.inj h).symm⟩, .fault⟩
        · cases h
      · cases h
    · cases h
  · cases h

theorem readEscape_overruns (c : Char) (s : List Char) :
    Overruns (readEscape c) (readEscape c) s := by
  unfold readEscape
  cases anchorEscape? c with
  | some a => exact .of_ok rfl
  | none =>
    cases categoryEscape? c with
    | some m => exact .of_ok rfl
    | none =>
      cases controlEscape? c with
      | some n => exact .of_ok rfl
      | none =>
        dsimp only
        by_cases hzero : (c == '0') = true
        · simp only [if_pos hzero]
          exact .of_ok rfl
        by_cases hdigit : isAsciiDigit c = true
        · simp only [if_neg hzero, if_pos hdigit]
          exact readNumbered_overruns c s
        · simp only [if_neg hzero, if_neg hdigit]
          exact (readCommonEscape_overruns c s).map (fun n => Lexeme.item (.char n))
            fun h t => readCommonEscape_append (.closing _ t) h

/-! ### Classes -/

theorem readClassUnit_overruns (unit s : List Char) :
    Overruns (readClassUnit unit) (readClassUnit unit) s := by
  intro e h t
  unfold readClassUnit at h
  split at h
  · exact readClassEscape_overruns _ _ e h t
  · cases h
  · cases h

/-- Members that a text cuts off, with one bound on their number, take the parenthesis with another one. -/
abbrev MembersOverrun (left fuel left' fuel' : Nat) : Prop :=
  ∀ members s, s.length < min fuel fuel' →
    Overruns (readMembers left fuel members) (readMembers left' fuel' members) s

section Members

variable {left left' fuel fuel' : Nat}

theorem closeRange_overruns (hmembers : MembersOverrun left fuel left' fuel') (members : List ClassMember)
    (lo hi : List Char) (first last : ClassMember) {s : List Char} (hs : s.length < min fuel fuel') :
    Overruns (closeRange left fuel members lo hi first last)
      (closeRange left' fuel' members lo hi first last) s := by
  unfold closeRange
  split
  · rename_i a b
    by_cases hle : a ≤ b
    · simp only [if_pos hle]
      exact hmembers _ s hs
    · simp only [if_neg hle]
      exact .of_fault ⟨_, _, rfl⟩ fun t => ⟨_, _, rfl⟩
  · exact .of_fault ⟨_, _, rfl⟩ fun t => ⟨_, _, rfl⟩

theorem readUpper_overruns (hmembers : MembersOverrun left fuel left' fuel') (members : List ClassMember)
    (lo : List Char) (first : ClassMember) (hi : List Char) {s : List Char} (hs : s.length < min fuel fuel') :
    Overruns (readUpper left fuel members lo first hi)
      (readUpper left' fuel' members lo first hi) s := by
  unfold readUpper
  by_cases hempty : hi.isEmpty = true
  · simp only [if_pos hempty]
    exact .of_fault ⟨_, _, rfl⟩ fun t => ⟨_, _, rfl⟩
  by_cases hend : (hi == [']']) = true
  · simp only [if_neg hempty, if_pos hend]
    exact .of_ok rfl
  simp only [if_neg hempty, if_neg hend]
  refine (readClassUnit_overruns hi s).bind
    (fun {last r} hlast => ⟨fun t => readClassUnit_append (.closing _ t) hlast, ?_⟩)
    fun last r => closeRange_ends (readMembers_ends _ _) _ _ _ _ _ _
  have hshort := ((readClassUnit_ends _ _).suffix hlast).length_le
  exact closeRange_overruns hmembers _ _ _ _ _ (Nat.lt_of_le_of_lt hshort hs)

theorem readBehind_overruns (hmembers : MembersOverrun left fuel left' fuel') (members : List ClassMember)
    (lo : List Char) (first : ClassMember) {s : List Char} (hs : s.length < min fuel fuel') :
    Overruns (readBehind left fuel members lo first) (readBehind left' fuel' members lo first) s := by
  by_cases hdash : s.head? = some '-'
  · obtain ⟨s, rfl⟩ := List.head?_eq_some_iff.mp hdash
    refine Overruns.unit (s := s) (fun {u r} hlt => readUpper_overruns hmembers _ _ _ _ ?_) ⟨_, _, rfl⟩
      fun u t => readUpper_ends (readMembers_ends _ _) _ _ _ _ _
    simp only [List.length_cons] at hs
    omega
  · intro e h t
    have hdash' : (s ++ ')' :: t).head? ≠ some '-' := by rwa [Ne, head?_append_closing (by decide)]
    rw [readBehind_plain hdash] at h
    rw [readBehind_plain hdash']
    exact hmembers _ s hs e h t

theorem readLower_overruns (hmembers : MembersOverrun left fuel left' fuel') (members : List ClassMember)
    (lo : List Char) {s : List Char} (hs : s.length < min fuel fuel') :
    Overruns (readLower left fuel members lo) (readLower left' fuel' members lo) s := by
  unfold readLower
  by_cases hempty : lo.isEmpty = true
  · simp only [if_pos hempty]
    exact .of_fault ⟨_, _, rfl⟩ fun t => ⟨_, _, rfl⟩
  by_cases hend : (lo == [']'] && !members.isEmpty) = true
  · simp only [if_neg hempty, if_pos hend]
    exact .of_ok rfl
  simp only [if_neg hempty, if_neg hend]
  refine (readClassUnit_overruns lo s).bind
    (fun {first r} hfirst => ⟨fun t => readClassUnit_append (.closing _ t) hfirst, ?_⟩)
    fun first r => readBehind_ends (readMembers_ends _ _) _ _ _ _
  have hshort := ((readClassUnit_ends _ _).suffix hfirst).length_le
  exact readBehind_overruns hmembers _ _ _ (Nat.lt_of_le_of_lt hshort hs)

theorem readMembers_overruns (left left' fuel fuel' : Nat) : MembersOverrun left fuel left' fuel' := by
  induction fuel generalizing fuel' with
  | zero => exact fun members s hs => absurd hs (by omega)
  | succ fuel ih =>
    intro members s hs e h t
    rcases fuel' with _ | fuel'
    · omega
    rw [readMembers_succ] at h ⊢
    refine Overruns.unit (fun {u r} hlt => readLower_overruns (ih fuel') _ _ ?_) ⟨_, _, rfl⟩
      (fun u t => readLower_ends (readMembers_ends _ _) _ _ _) e h t
    omega

end Members

theorem readClass_overruns (s : List Char) : Overruns readClass readClass s := by
  intro e h t
  by_cases hcaret : s.head? = some '^'
  · obtain ⟨s, rfl⟩ := List.head?_eq_some_iff.mp hcaret
    rw [readClass_caret] at h
    rw [List.cons_append, readClass_caret]
    exact (readMembers_overruns _ _ _ _ [] s (by simp)).map
      (fun members => Lexeme.item (.oneOf true members)) (fun h t => readMembers_extends h _ (by simp) _) e h t
  · have hcaret' : (s ++ ')' :: t).head? ≠ some '^' := by rwa [Ne, head?_append_closing (by decide)]
    rw [readClass_plain hcaret] at h
    rw [readClass_plain hcaret']
    exact (readMembers_overruns _ _ _ _ [] s (by simp)).map
      (fun members => Lexeme.item (.oneOf false members)) (fun h t => readMembers_extends h _ (by simp) _) e h t

/-! ### Bounds -/

/-- A number is refused alone and before a parenthesis, and so are bounds that are reversed. -/
theorem readBraces_overruns (s : List Char) : Overruns readBraces readBraces s := by
  intro e h t
  rw [readBraces_eq] at h
  split at h
  · cases h
  rename_i hhead
  have hhead' : (s ++ ')' :: t).head? ≠ some '}' := by rwa [Ne, head?_append_closing (by decide)]
  split at h
  · rename_i after hafter
    rw [readBraces_eq, if_neg hhead', boundsAhead_append, hafter]
    unfold roundsBetween at h
    simp only [List.cons_append, roundsBetween]
    cases hleast : boundOf (boundsAhead s).1 with
    | error e' =>
      rw [hleast] at h
      exact .inl h
    | ok least =>
      cases hmost : boundOf (boundsAhead s).2.1 with
      | error e' =>
        rw [hleast, hmost] at h
        exact .inl h
      | ok most =>
        rw [hleast, hmost] at h
        simp only [bind, Except.bind] at h ⊢
        split at h
        · rename_i n
          split at h
          · rename_i hreversed
            simp only [if_pos hreversed]
            exact .inr ⟨⟨_, _, (Except.error.inj h).symm⟩, .fault⟩
          · cases h
        · cases h
  · cases h

/-! ### Openings -/

theorem flagStep_run_ends (fuel : Nat) (on : List Char) (off : Option (List Char)) (unit r : List Char) :
    EndsWell r ((flagStep on off unit).run fuel r) := by
  cases flagStep on off unit with
  | ended l => exact .ok trivial (List.suffix_refl _)
  | more on off => exact (readFlags_ends fuel on off r).imp fun _ _ => trivial
  | refused cause back => exact .fault

theorem readFlags_overruns {on : List Char} {off : Option (List Char)} {fuel fuel' : Nat} {s : List Char}
    (hs : s.length < min fuel fuel') : Overruns (readFlags fuel on off) (readFlags fuel' on off) s := by
  induction fuel generalizing fuel' on off s with
  | zero => omega
  | succ fuel ih =>
    intro e h t
    rcases fuel' with _ | fuel'
    · omega
    rw [readFlags_succ] at h ⊢
    refine Overruns.unit (k := fun u r => (flagStep on off u).run fuel r)
      (K := fun u r => (flagStep on off u).run fuel' r) (fun {u r} hlt => ?_) ?_
      (fun u t => (flagStep_run_ends fuel' on off u t).behind (List.suffix_refl _) (List.suffix_append u t)) e h t
    · cases flagStep on off u with
      | ended l => exact .of_ok rfl
      | more on' off' => exact ih (by omega)
      | refused cause back => exact .of_fault ⟨_, _, rfl⟩ fun t => ⟨_, _, rfl⟩
    · -- No letter and no end of the flags is left.
      cases off <;> exact ⟨_, _, rfl⟩

theorem groupNameOf_ends (name s : List Char) : EndsWell s (groupNameOf name s) := by
  unfold groupNameOf
  split
  · exact .ok trivial (List.suffix_refl _)
  · exact .fault

theorem groupNameOf_overruns (name s : List Char) : Overruns (groupNameOf name) (groupNameOf name) s := by
  unfold groupNameOf
  by_cases hid : isIdentifier name = true
  · simp only [if_pos hid]
    exact .of_ok rfl
  · simp only [if_neg hid]
    exact .of_fault ⟨_, _, rfl⟩ fun t => ⟨_, _, rfl⟩

theorem readGroupName_overruns (closing : Char) (s : List Char) :
    Overruns (readGroupName closing) (readGroupName closing) s :=
  (readUntil_overruns closing "group name" [] s).bind
    (fun h => ⟨fun t => readUntil_extends h (')' :: t), groupNameOf_overruns _ _⟩) groupNameOf_ends

/-- A condition that is none alone is none before a parenthesis. -/
theorem conditionOf_overruns (name s : List Char) :
    Overruns (conditionOf name) (conditionOf name) s := by
  unfold conditionOf
  dsimp only
  by_cases hid : isIdentifier name = true
  · simp only [if_pos hid]
    exact .of_ok rfl
  simp only [if_neg hid]
  cases integer? name with
  | none => exact .of_fault ⟨_, _, rfl⟩ fun t => ⟨_, _, rfl⟩
  | some n =>
    dsimp only
    by_cases hneg : n < 0
    · simp only [if_pos hneg]
      exact .of_fault ⟨_, _, rfl⟩ fun t => ⟨_, _, rfl⟩
    by_cases hzero : (n == 0) = true
    · simp only [if_neg hneg, if_pos hzero]
      exact .of_fault ⟨_, _, rfl⟩ fun t => ⟨_, _, rfl⟩
    by_cases hmax : maxGroups ≤ n.toNat
    · simp only [if_neg hneg, if_neg hzero, if_pos hmax]
      exact .of_fault ⟨_, _, rfl⟩ fun t => ⟨_, _, rfl⟩
    · simp only [if_neg hneg, if_neg hzero, if_neg hmax]
      exact .of_ok rfl

theorem readCondition_overruns (s : List Char) : Overruns readCondition readCondition s :=
  (readUntil_overruns ')' "group name" [] s).bind
    (fun h => ⟨fun t => readUntil_extends h (')' :: t), conditionOf_overruns _ _⟩)
    fun name r => (conditionOf_ends name r).imp fun _ _ => trivial

/-- What names do not begin with is malformed. -/
theorem readByName_malformed {s : List Char} (hopens : s.head? ≠ some '<') (hrefers : s.head? ≠ some '=') :
    (readByName s).Malformed := by
  unfold readByName
  split
  · simp at hopens
  · simp at hrefers
  · unfold readUnit
    split
    · exact ⟨_, _, rfl⟩
    · exact ⟨_, _, rfl⟩
    · exact ⟨_, _, rfl⟩
    · exact ⟨_, _, rfl⟩

/-- What is cut off is the name. No parenthesis stands for the sign in front of it. -/
theorem readByName_overruns (s : List Char) : Overruns readByName readByName s := by
  by_cases hopens : s.head? = some '<'
  · obtain ⟨s, rfl⟩ := List.head?_eq_some_iff.mp hopens
    exact (readGroupName_overruns '>' s).map (fun name => Lexeme.opening (.capture (some name)))
      fun h t => readGroupName_extends h (')' :: t)
  by_cases hrefers : s.head? = some '='
  · obtain ⟨s, rfl⟩ := List.head?_eq_some_iff.mp hrefers
    exact (readGroupName_overruns ')' s).map (fun name => Lexeme.reference (.name name))
      fun h t => readGroupName_extends h (')' :: t)
  · refine .of_fault (readByName_malformed hopens hrefers) fun t => readByName_malformed ?_ ?_
    · rwa [Ne, head?_append_closing (by decide)]
    · rwa [Ne, head?_append_closing (by decide)]

theorem lookBehindOf_overruns (unit s : List Char) : Overruns (lookBehindOf unit) (lookBehindOf unit) s := by
  unfold lookBehindOf
  split
  · exact .of_fault ⟨_, _, rfl⟩ fun t => ⟨_, _, rfl⟩
  · exact .of_ok rfl
  · exact .of_ok rfl
  · exact .of_fault ⟨_, _, rfl⟩ fun t => ⟨_, _, rfl⟩

/-- An extension from its unit on. The text that the unit belongs to is followed by a parenthesis too, since
    a letter of a flag is read again with the others. -/
theorem extensionOf_beyond {left : Nat} {s unit rest : List Char} {e : Refusal}
    (h : extensionOf left s unit rest = .error e) (left' : Nat) (t : List Char) :
    extensionOf left' (s ++ ')' :: t) unit (rest ++ ')' :: t) = .error e ∨
      ((∃ cause left, e = .malformed cause left) ∧
        EndsWell t (extensionOf left' (s ++ ')' :: t) unit (rest ++ ')' :: t))) := by
  by_cases hletter : ∃ c, unit = [c] ∧ isFlagLetter c = true
  · obtain ⟨c, rfl, hc⟩ := hletter
    rw [extensionOf_letter hc] at h ⊢
    exact readFlags_overruns (by simp) e h t
  have hfault {cause : Cause} {back : Nat} (hl : (fault cause back : Outcome (Lexeme × List Char)) = .error e) :
      ∃ cause left, e = .malformed cause left :=
    ⟨cause, some back, (Except.error.inj hl).symm⟩
  unfold extensionOf at h ⊢
  split at h
  · exact .inr ⟨hfault h, .fault⟩
  · exact readByName_overruns rest e h t
  · cases h
  · exact skipComment_overruns left left' rest e h t
  · cases h
  · cases h
  · exact Overruns.unit (fun _ => lookBehindOf_overruns _ _) ⟨_, _, rfl⟩
      (fun u t => ((lookBehindOf_ends u t).imp fun _ _ => trivial).behind (List.suffix_refl _)
        (List.suffix_append u t)) e h t
  · exact (readCondition_overruns rest).map (fun ref => Lexeme.opening (.conditional ref))
      (fun h t => readCondition_extends h (')' :: t)) e h t
  · cases h
  · exact readFlags_overruns (by simp) e h t
  · rename_i c _ _ _ _ _ _ _ _ _
    have hc : ¬ isFlagLetter c = true := fun hc => hletter ⟨c, rfl, hc⟩
    rw [if_neg hc] at h
    simp only [if_neg hc]
    exact .inr ⟨hfault h, .fault⟩
  · exact .inr ⟨hfault h, .fault⟩

/-- An extension that the end of the text cuts off. The place of its opening does not matter. -/
theorem readExtension_overruns (left left' : Nat) (s : List Char) :
    Overruns (readExtension left) (readExtension left') s := by
  intro e h t
  rw [readExtension_eq] at h ⊢
  rcases readUnit_apart s with ⟨unit, rest, -, hu, hu'⟩ | ⟨hnone, u, hu, hu'⟩
  · rw [hu] at h
    rw [hu']
    exact extensionOf_beyond h left' t
  · -- Neither a parenthesis nor an escaped one begins an extension.
    rw [hu']
    refine .inr ⟨?_, ?_⟩
    · rcases hnone with ⟨cause, left, hfault⟩ | hempty
      · rw [hfault] at h
        exact ⟨cause, left, (Except.error.inj h).symm⟩
      · rw [hempty] at h
        exact ⟨_, _, (Except.error.inj h).symm⟩
    · rcases hu with rfl | rfl <;> exact .fault

/-! ### Lexemes -/

theorem readLexeme_overruns (verbose : Bool) (c : Char) (s : List Char) :
    Overruns (readLexeme verbose c) (readLexeme verbose c) s := by
  intro e h t
  unfold readLexeme at h ⊢
  split at h
  · cases h
  rename_i hlayout
  rw [if_neg hlayout]
  split at h
  · rename_i hcomment
    rw [if_pos hcomment]
    exact skipLine_overruns s e h t
  rename_i hcomment
  rw [if_neg hcomment]
  split at h
  · split at h
    · refine .inr ⟨⟨_, _, (Except.error.inj h).symm⟩, ?_⟩
      exact TakesClosing.endsWell (u := ['\\', ')']) (.inr rfl) ((readEscape_ends ')' t).imp fun _ _ => trivial)
    · rename_i c rest
      exact readEscape_overruns c rest e h t
  · exact readClass_overruns s e h t
  · cases h
  · cases h
  · cases h
  · exact readBraces_overruns s e h t
  · cases h
  · cases h
  · cases h
  · cases h
  · cases h
  · split at h
    · rename_i rest
      exact readExtension_overruns _ _ rest e h t
    · cases h
  · cases h

/-- **Cut off.** A lexeme that cannot be read alone cannot be read before a closing parenthesis either,
    and for the same number if it was for one; or the text is malformed alone, and the lexeme takes the
    parenthesis. The text behind the parenthesis is one without numbers. -/
theorem readLexeme_error_beyond {verbose : Bool} {c : Char} {s t : List Char} {e : Refusal}
    (h : readLexeme verbose c s = .error e) (ht : ∀ e : Refusal, ¬ e.OfNumber t) :
    readLexeme verbose c (s ++ ')' :: t) = .error e ∨
      (∃ cause left, e = .malformed cause left) ∧
        ((readLexeme verbose c (s ++ ')' :: t)).Malformed ∨
          ∃ l r, readLexeme verbose c (s ++ ')' :: t) = .ok (l, r) ∧ l ≠ .closing ∧ r <:+ t) := by
  refine (readLexeme_overruns verbose c s e h t).imp_right fun ⟨hmalformed, hends⟩ => ⟨hmalformed, ?_⟩
  cases hext : readLexeme verbose c (s ++ ')' :: t) with
  | error e' =>
    obtain ⟨cause, left, rfl⟩ := (hends.of_error hext).resolve_right (ht e')
    exact .inl ⟨cause, left, rfl⟩
  | ok x =>
    obtain ⟨l, r⟩ := x
    refine .inr ⟨l, r, rfl, fun hclosing => ?_, hends.suffix hext⟩
    rw [(readLexeme_ok hext).1.closing hclosing, readLexeme_closing] at h
    cases h

end TextCriteria.Pattern
