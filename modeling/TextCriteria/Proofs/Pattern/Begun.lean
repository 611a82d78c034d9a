import TextCriteria.Proofs.Pattern.Wrapping

namespace TextCriteria.Pattern

/-!
# Texts that have begun

Flags for the whole pattern stand before everything else. Once something else has been read, no text
that follows can set them, so the flags that a pattern is compiled under are those of the caller.

* `Draft.Begun` — something has been read.
* `Draft.push_begun` — it stays so, and flags of the whole pattern are refused.
* `Begins` — texts that begin as fragments and compositions do.
* `compileChars_error` — why such a text is refused.
-/

namespace Draft

/-- Something has been read that is more than layout. -/
def Begun (d : Draft) : Prop :=
  d.outer ≠ [] ∨ d.frame.branches ≠ [] ∨ d.frame.items ≠ []

variable {d d' e : Draft} {l : Lexeme} {left after : Nat}

theorem begun_withItem (d : Draft) (r : Regex) : (d.withItem r).Begun :=
  .inr (.inr (List.cons_ne_nil _ _))

/-- Every lexeme except a closing parenthesis leaves at least as many parentheses open. -/
theorem Follows.outer_length (h : Follows l d d') (hl : l ≠ .closing) :
    d.outer.length ≤ d'.outer.length := by
  have hlayout := congrArg List.length h.layout
  have hcount : ∀ e : Draft, e.layout.length = e.outer.length + 1 := fun e => by simp [Draft.layout]
  have hle : d.layout.length ≤ (l.layout d.layout).length := by
    unfold Lexeme.layout
    split <;> simp_all
  rw [hcount] at hlayout hle
  omega

theorem Follows.outer_opening {what : Opening} (h : Follows (.opening what) d d') :
    d'.outer ≠ [] := by
  have hlayout := congrArg List.length h.layout
  have hframe : d.layout = d.frame.verbose :: d.outer.map Frame.verbose := rfl
  have hle : 1 < (Lexeme.layout (.opening what) d.layout).length := by
    rw [hframe]
    cases what <;> simp [Lexeme.layout]
  intro hnil
  rw [← hlayout] at hle
  simp [Draft.layout, hnil] at hle

theorem pushReference_begun {ref : GroupRef} (h : d.pushReference ref left after = .ok d') :
    d'.Begun := by
  cases ref with
  | number i =>
    simp only [pushReference] at h
    split at h
    · simp [fault] at h
    split at h
    · simp [fault] at h
    · obtain ⟨_, -, h⟩ := bind_eq_ok.mp h
      obtain rfl := Except.ok.inj h
      exact d.begun_withItem _
  | name name =>
    simp only [pushReference] at h
    split at h
    · simp [fault] at h
    split at h
    · simp [fault] at h
    · obtain ⟨_, -, h⟩ := bind_eq_ok.mp h
      obtain rfl := Except.ok.inj h
      exact d.begun_withItem _

theorem pushClosing_begun (h : d.pushClosing left = .ok d') : d'.Begun := by
  unfold pushClosing at h
  split at h
  · simp [fault] at h
  dsimp only at h
  split at h
  · simp [fault] at h
  all_goals
    obtain rfl := Except.ok.inj h
    exact begun_withItem _ _

/-- **Invariant.** What has begun stays so, and flags of the whole pattern come too late. -/
theorem push_begun (hd : d.Sound) (hbegun : d.Begun) (h : d.push l left after = .ok d') :
    d'.Begun ∧ l.isGlobal = false := by
  cases l with
  | skip =>
    obtain rfl := Except.ok.inj h
    exact ⟨hbegun, rfl⟩
  | item r =>
    obtain rfl := Except.ok.inj h
    exact ⟨d.begun_withItem r, rfl⟩
  | reference ref => exact ⟨pushReference_begun h, rfl⟩
  | rounds greed least most =>
    refine ⟨?_, rfl⟩
    simp only [push, pushRounds] at h
    split at h
    · simp [fault] at h
    split at h
    · simp [fault] at h
    · simp [fault] at h
    · obtain rfl := Except.ok.inj h
      exact .inr (.inr (List.cons_ne_nil _ _))
  | bar =>
    refine ⟨?_, rfl⟩
    simp only [push, pushBar] at h
    split at h
    · -- The first branch of a conditional is no branch of its own, but the conditional is open.
      rename_i i hopened
      obtain rfl := Except.ok.inj h
      refine .inl fun hnil => ?_
      rw [hd.opened_whole hnil] at hopened
      cases hopened
    · simp [fault] at h
    · obtain rfl := Except.ok.inj h
      exact .inr (.inl (List.cons_ne_nil _ _))
  | opening what => exact ⟨.inl (push_follows h).outer_opening, rfl⟩
  | closing => exact ⟨pushClosing_begun h, rfl⟩
  | globalFlags letters =>
    simp only [push, pushGlobals] at h
    split at h
    · rename_i hempty
      simp only [Bool.and_eq_true, List.isEmpty_iff] at hempty
      rcases hbegun with houter | hbranches | hitems
      · exact absurd hempty.1.1 houter
      · exact absurd hempty.1.2 hbranches
      · exact absurd hempty.2 hitems
    · simp [fault] at h

theorem Reads.globals_of_begun {n : Nat} {isOpen : Bool} {s : List Char} {ls : List Lexeme}
    (h : Reads n isOpen d s ls e) (hd : d.Sound) (hbegun : d.Begun) : e.globals = d.globals := by
  induction h with
  | done => rfl
  | comment => rfl
  | step hl _ hp _ ih =>
    obtain ⟨hbegun', hglobal⟩ := push_begun hd hbegun hp
    rw [ih (push_sound hd (readLexeme_sound hl) hp) hbegun', (push_follows hp).globals hglobal]

end Draft

/-! ### Texts -/

/-- The text begins with the start of a line or with a look ahead. -/
def Begins (text : List Char) : Prop :=
  ∃ rest, text = '^' :: rest ∨ text = '(' :: '?' :: '=' :: rest

variable {flags : Flags} {text : List Char} {d : Draft} {e : Refusal}

/-- A text that has begun sets no flags of the whole pattern. -/
theorem Begins.globals (h : Begins text) (hread : readText flags text = .ok d) : d.globals = [] := by
  have ready := Draft.start_ready flags.verbose text.length
  obtain ⟨rest, rfl | rfl⟩ := h
  · rw [readText, Draft.readAll_caret] at hread
    have ready' := ready.withItem (r := .anchor .lineStart) trivial
    obtain ⟨isOpen, ls, hreads⟩ := Draft.readAll_eq_ok.mp hread
    exact hreads.globals_of_begun ready'.sound (Draft.begun_withItem _ _)
  · obtain ⟨left, heq⟩ := Draft.readAll_look ready rest
    obtain ⟨isOpen, ls, hreads⟩ := Draft.readAll_eq_ok.mp (heq.symm.trans hread)
    exact hreads.globals_of_begun (ready.enter Draft.plain_look _ _).sound
      (.inl (List.cons_ne_nil _ _))

/-- **Refusals.** A text that has begun is refused because it is malformed, or for a number that is
    written in it. -/
theorem compileChars_error (hflags : flags.Accepted) (hbegins : Begins text)
    (h : compileChars text flags = .error e) :
    (∃ cause left, e = .malformed cause left) ∨ e.OfNumber text := by
  have of_malformed : (compileChars text flags).Malformed → ∃ cause left, e = .malformed cause left := by
    rintro ⟨cause, left, heq⟩
    exact ⟨cause, left, Except.error.inj (h.symm.trans heq)⟩
  cases hread : readText flags text with
  | error e' =>
    obtain rfl := Except.error.inj (h.symm.trans (compileChars_error_of_read hflags hread))
    exact Draft.readAll_error hread
  | ok d =>
    have hglobals := hbegins.globals hread
    by_cases houter : d.outer = []
    · by_cases hmissing : d.missingGroup? = none
      · by_cases hfault : d.frame.body.fault? flags.template = none
        · cases h.symm.trans (compileChars_eq_ok hflags hread hglobals ⟨houter, hmissing, hfault⟩)
        · exact .inl (of_malformed
            (compileChars_malformed_of_fault hflags hread hglobals houter hmissing hfault))
      · exact .inl (of_malformed
          (compileChars_malformed_of_missing hflags hread hglobals houter hmissing))
    · exact .inl (of_malformed (compileChars_malformed_of_open hread houter))

end TextCriteria.Pattern
