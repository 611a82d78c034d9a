import TextCriteria.Proofs.Pattern.Planting

namespace TextCriteria.Pattern

/-!
# A pattern behind other groups

The groups of a text are counted from those that stand before it. A text that refers to a group by its
number may then mean another group than alone, and may be malformed.

* `Alike` — what two readings of a text have in common, alone and behind other groups.
* `Draft.Reads.again` — the second reading takes the same lexemes, or the text is malformed there.
* `Draft.behind` — the draft from which a text is read behind other groups.
* `Draft.Reads.behind` — without such numbers, only the numbers of the groups are different.
-/

/-- `e` has read with `k` groups more before it what `d` has read alone. Only the trees may differ, and
    what has been noted about groups that are closed. -/
structure Alike (k : Nat) (d e : Draft) : Prop where
  layout : e.layout = d.layout
  groups : e.groups = d.groups + k
  names : e.names.map Prod.fst = d.names.map Prod.fst
  asked : e.asked.map Prod.fst = d.asked.map Prod.fst

namespace Alike

variable {k : Nat} {d d' e e' : Draft} {l : Lexeme}

theorem verbose (A : Alike k d e) : e.frame.verbose = d.frame.verbose :=
  (List.cons.inj A.layout).1

theorem outer_length (A : Alike k d e) : e.outer.length = d.outer.length := by
  have := congrArg List.length A.layout
  simpa [Draft.layout] using this

theorem outer_eq_nil (A : Alike k d e) : e.outer = [] ↔ d.outer = [] := by
  rw [← List.length_eq_zero_iff, A.outer_length, List.length_eq_zero_iff]

theorem follow (A : Alike k d e) (h : Draft.Follows l d d') (h' : Draft.Follows l e e') :
    Alike k d' e' := by
  refine ⟨?_, ?_, ?_, ?_⟩
  · rw [h'.layout, A.layout, h.layout]
  · rw [h'.groups, A.groups, h.groups]
    omega
  · rw [h'.names, A.names, h.names]
  · rw [h'.asked, A.asked, h.asked]

/-- A name that is known alone is known behind other groups too. -/
theorem known (A : Alike k d e) {name : List Char} (h : name ∈ d.names.map Prod.fst) :
    ∃ i, e.names.lookup name = some i := by
  rw [← A.names, List.mem_map] at h
  obtain ⟨entry, hentry, rfl⟩ := h
  rw [← Option.isSome_iff_exists, List.lookup_isSome_iff]
  exact ⟨entry, hentry, beq_self_eq_true _⟩

end Alike

/-- A lexeme that has been added refers to a known name, and closes a parenthesis that is open. -/
theorem Draft.known_of_push {d d' : Draft} {l : Lexeme} {left after : Nat}
    (h : d.push l left after = .ok d') :
    (∀ name, l.name? = some name → name ∈ d.names.map Prod.fst) ∧ (l = .closing → d.outer ≠ []) := by
  have mem : ∀ {name : List Char} {i : Nat}, d.names.lookup name = some i →
      name ∈ d.names.map Prod.fst := fun hname => List.mem_map_of_mem (lookup_mem hname)
  constructor
  · intro name hname
    cases l with
    | reference ref =>
      cases ref with
      | number i => cases hname
      | name name =>
        obtain rfl := Option.some.inj hname
        simp only [push, pushReference] at h
        split at h
        · simp [fault] at h
        · exact mem ‹_›
    | opening what =>
      cases what with
      | conditional ref =>
        cases ref with
        | number i => cases hname
        | name name =>
          obtain rfl := Option.some.inj hname
          simp only [push, pushOpening] at h
          split at h
          · simp [fault] at h
          · exact mem ‹_›
      | _ => cases hname
    | _ => cases hname
  · rintro rfl hnil
    simp [push, pushClosing, hnil, fault] at h

section Again

variable {k n : Nat} {isOpen : Bool} {d d₂ e : Draft} {s : List Char} {ls : List Lexeme}

/-- **Again.** A text that has been read alone is read behind other groups in the same lexemes, or it is
    malformed there. Then it is so inside of every larger pattern where these groups stand before it. -/
theorem Draft.Reads.again (h : Reads n isOpen d s ls e) (A : Alike k d d₂) (hd : d₂.Sound) :
    (∃ e₂, Reads 0 isOpen d₂ s ls e₂ ∧ Alike k e e₂) ∨
    ((d₂.readAll s).Malformed ∧ ∀ (site : Site) (D : Draft), Planted site d₂ D → site.outer ≠ [] →
      (∀ l ∈ ls, ¬ site.Moves l) → ∀ t, (D.readAll (s ++ ')' :: t)).Malformed) := by
  induction h generalizing d₂ with
  | done d => exact .inl ⟨d₂, .done d₂, A⟩
  | comment hopen => exact .inl ⟨d₂, .comment (A.verbose ▸ hopen), A⟩
  | @step isOpen d d' e c rest rest' l ls hl pass hp hs ih =>
    have hsound := readLexeme_sound hl
    obtain ⟨hname, hclosing⟩ := known_of_push hp
    have hl₂ := hl
    have pass₂ := pass
    rw [← A.verbose] at hl₂ pass₂
    rw [readAll_cons, hl₂]
    simp only [bind, Except.bind]
    rcases d₂.push_ok_or_malformed l (rest.length + 1) rest'.length with
      ⟨d₂', hpush⟩ | ⟨cause, left, hfault⟩
    · have A' := A.follow (push_follows hp) (push_follows hpush)
      rw [hpush]
      rcases ih A' (push_sound hd hsound hpush) with ⟨e₂, hreads, hA⟩ | ⟨hread, hbehind⟩
      · exact .inl ⟨e₂, .step hl₂ pass₂ hpush hreads, hA⟩
      · refine .inr ⟨hread, fun site D P hinside hmoves t => ?_⟩
        rw [List.cons_append, readAll_cons, P.verbose, pass₂.beyond t]
        simp only [bind, Except.bind]
        by_cases hbar : site.Bars l
        · obtain ⟨cause, left, hfault⟩ := P.push_barred hinside hbar hpush
            ((rest ++ ')' :: t).length + 1) (rest' ++ ')' :: t).length
          exact ⟨cause, left, by rw [hfault]⟩
        · obtain ⟨D', hpush', P'⟩ := P.push hd hsound (hmoves l List.mem_cons_self) hbar hpush
            ((rest ++ ')' :: t).length + 1) (rest' ++ ')' :: t).length
          rw [hpush']
          exact hbehind site D' P' hinside (fun m hm => hmoves m (List.mem_cons_of_mem l hm)) t
    · refine .inr ⟨⟨cause, left, by rw [hfault]⟩, fun site D P hinside hmoves t => ?_⟩
      rw [List.cons_append, readAll_cons, P.verbose, pass₂.beyond t]
      simp only [bind, Except.bind]
      -- What is added inside of the larger pattern would have been added here.
      rcases D.push_ok_or_malformed l ((rest ++ ')' :: t).length + 1) (rest' ++ ')' :: t).length with
        ⟨D', hpush⟩ | ⟨cause', left', hfault'⟩
      · obtain ⟨d₂', hpush₂⟩ := P.push_back hinside hd hsound (hmoves l List.mem_cons_self)
          (fun name hname' => A.known (hname name hname'))
          (fun heq hnil => hclosing heq (A.outer_eq_nil.mp hnil)) hpush (rest.length + 1) rest'.length
        cases hpush₂.symm.trans hfault
      · exact ⟨cause', left', by rw [hfault']⟩

end Again

/-! ### Texts behind other groups -/

namespace Draft

/-- Nothing read yet, but `k` groups are counted before the text. Those in `closed` can be referred to. -/
def behind (verbose : Bool) (length k : Nat) (closed : List (Nat × Width)) : Draft :=
  { start verbose length with groups := k, closed := closed }

variable {verbose isOpen : Bool} {n m k : Nat} {closed : List (Nat × Width)} {d : Draft} {s : List Char}
  {ls : List Lexeme}

theorem behind_sound (hclosed : ∀ e ∈ closed, 0 < e.1 ∧ e.1 ≤ k) :
    (behind verbose n k closed).Sound :=
  ⟨rfl, ⟨trivial, by simp [behind, start], by simp [behind, start]⟩, by simp [behind, start],
    by simp [behind, start], hclosed⟩

theorem behind_alike : Alike k (start verbose n) (behind verbose n k closed) :=
  ⟨rfl, (Nat.zero_add k).symm, rfl, rfl⟩

/-- The place behind some groups and outside of every parenthesis. -/
def siteBehind (k : Nat) (closed : List (Nat × Width)) (hclosed : ∀ e ∈ closed, 0 < e.1 ∧ e.1 ≤ k) :
    Site where
  opened := .whole
  outer := []
  groups := k
  closed := closed
  plain := by simp
  closed_le := fun e he => (hclosed e he).2

theorem planted_behind (hclosed : ∀ e ∈ closed, 0 < e.1 ∧ e.1 ≤ k) :
    Planted (siteBehind k closed hclosed) (start verbose n) (behind verbose n k closed) :=
  ⟨rfl, rfl, (Nat.zero_add k).symm, rfl, rfl, rfl, fun _ h => absurd h List.not_mem_nil, rfl⟩

/-- Where no number stands for another group, a text has behind other groups the tree that it has alone,
    with these groups counted too. -/
theorem Reads.behind (h : Reads m isOpen (start verbose n) s ls d)
    (hclosed : ∀ e ∈ closed, 0 < e.1 ∧ e.1 ≤ k) (hglobals : ∀ l ∈ ls, l.isGlobal = false)
    (hmoves : ∀ l ∈ ls, l.refersByNumber = true → k = 0) :
    ∃ e, Reads 0 isOpen (behind verbose n k closed) s ls e ∧ e.groups = d.groups + k ∧
      e.frame.body = d.frame.body.shift k := by
  have hfree : ∀ l ∈ ls, ¬ (siteBehind k closed hclosed).Bars l := by
    rintro l hl (hglobal | ⟨name, -, htaken⟩)
    · rw [hglobals l hl] at hglobal
      cases hglobal
    · cases htaken
  obtain ⟨e, hreads, P⟩ := h.planted (planted_behind hclosed) (start_sound _ _)
    (fun l hl hm => hm.2 (hmoves l hl hm.1)) hfree 0
  exact ⟨e, hreads, P.groups, P.body⟩

end Draft

end TextCriteria.Pattern
