import TextCriteria.Proofs.Pattern.Behind
import TextCriteria.Proofs.Pattern.Compilation

namespace TextCriteria.Pattern

/-!
# A pattern between parentheses

What a text that is a pattern by itself becomes between an opening and a closing parenthesis of a
larger pattern.

* `Draft.Grows` — a draft with some more items, and with the groups of a text that was read behind it.
* `Draft.Barred` — what a text may not contain inside of a larger pattern.
* `Draft.readAll_wrapped` — a text between parentheses is one item more, or a fault.
* `Draft.readAll_wrapped_open` — behind a comment that is still open, the parenthesis stays open too.
* `Draft.Reads.after` — what is malformed behind other groups is so between parentheses.
* `Draft.readAll_look`, `Draft.readAll_scoped` — the two kinds of parentheses around fragments.
-/

/-- A closing parenthesis is a lexeme of its own. -/
theorem readLexeme_closing (verbose : Bool) (t : List Char) :
    readLexeme verbose ')' t = .ok (.closing, t) := by
  cases verbose <;> rfl

namespace Draft

/-- Nothing stands in the way of a new parenthesis: no look behind is open, and no flags have been set
    inside the pattern. -/
structure Ready (D : Draft) : Prop where
  sound : D.Sound
  limit : D.limit = none
  globals : D.globals = []

/-- A parenthesis that a text can stand in: not the whole pattern and not a conditional. -/
structure Plain (o : Opened) : Prop where
  sound : ∀ n, o.Sound n
  ne_whole : o ≠ .whole
  ne_conditional : ∀ i yes, o ≠ .conditional i yes

/-- `D'` is the draft `D` with the items `rs` more, the last one first, and with the groups and names
    of `d`, the draft of a text that was read behind the groups of `D`. -/
structure Grows (D : Draft) (rs : List Regex) (d D' : Draft) : Prop where
  frame : D'.frame.bare = { D.frame.bare with items := rs ++ D.frame.items }
  outer : D'.outer.map Frame.bare = D.outer.map Frame.bare
  groups : D'.groups = d.groups
  groups_le : D.groups ≤ d.groups
  closed : D'.closed = d.closed
  names : D'.names = d.names ++ D.names
  asked : ∀ a ∈ D'.asked, (∃ b ∈ D.asked, b.1 = a.1) ∨ ∃ b ∈ d.asked, b.1 = a.1
  globals : D'.globals = []
  sound : D'.Sound

/-- What a text may not contain inside of a larger pattern: flags of the whole pattern, and a name of
    a group that is taken. -/
def Barred (D d : Draft) (ls : List Lexeme) : Prop :=
  (∃ l ∈ ls, l.isGlobal = true) ∨ ∃ name ∈ d.names.map Prod.fst, (D.names.lookup name).isSome

/-- How the parenthesis `o` is closed: its contents become the item `wrap` of them. -/
def Closes (o : Opened) (wrap : Regex → Regex) (Q : Option Nat → Prop) : Prop :=
  ∀ (E : Draft) (frame : Frame) (outer : List Frame) (left : Nat), E.frame.opened = o →
    E.outer = frame :: outer → ∃ limit, Q limit ∧
      E.pushClosing left
        = .ok (withItem { E with frame := frame, outer := outer, limit := limit } (wrap E.frame.body))

/-- The draft from which a text of `n` characters is read behind the groups of `D`. -/
abbrev after (D : Draft) (n : Nat) : Draft := behind D.frame.verbose n D.groups D.closed

variable {D D' d : Draft} {o : Opened} {s : List Char} {ls : List Lexeme} {n : Nat} {isOpen : Bool}
  {rs : List Regex}

theorem start_ready (verbose : Bool) (n : Nat) : (start verbose n).Ready :=
  ⟨start_sound _ _, rfl, rfl⟩

theorem Ready.withItem (hD : D.Ready) {r : Regex} (hr : r.Within D.groups) : (D.withItem r).Ready :=
  ⟨hD.sound.withItem hr, hD.limit, hD.globals⟩

theorem Ready.enter (hD : D.Ready) (ho : Plain o) (verbose : Bool) (left : Nat) :
    (D.enter o verbose left).Ready :=
  ⟨hD.sound.enter (ho.sound _) ho.ne_whole verbose left, hD.limit, hD.globals⟩

/-- An item behind the others. -/
theorem Grows.withItem (h : D.Grows rs d D') {r : Regex} (hr : r.Within D'.groups) :
    D.Grows (r :: rs) d (D'.withItem r) := by
  refine ⟨?_, h.outer, h.groups, h.groups_le, h.closed, h.names, h.asked, h.globals, h.sound.withItem hr⟩
  exact congrArg (fun f : Frame => { f with items := r :: f.items }) h.frame

/-- An item before the others. -/
theorem Grows.of_withItem {r : Regex} (h : (D.withItem r).Grows rs d D') :
    D.Grows (rs ++ [r]) d D' := by
  refine ⟨?_, h.outer, h.groups, h.groups_le, h.closed, h.names, h.asked, h.globals, h.sound⟩
  rw [h.frame, List.append_assoc]
  rfl

/-! ### The text between the parentheses -/

/-- The place just inside a new parenthesis. The groups before it are counted in the text already. -/
def siteOf (D : Draft) (o : Opened) (ho : Plain o) : Site where
  opened := o
  outer := (D.frame :: D.outer).map Frame.bare
  names := D.names
  asked := D.asked.map Prod.fst
  plain := ho.ne_conditional
  closed_le := by simp

theorem siteOf_inside (D : Draft) (ho : Plain o) : (D.siteOf o ho).outer ≠ [] := by
  simp [siteOf]

theorem siteOf_moves (D : Draft) (ho : Plain o) (l : Lexeme) : ¬ (D.siteOf o ho).Moves l :=
  fun hmoves => hmoves.2 rfl

theorem after_sound (hD : D.Sound) : (D.after n).Sound :=
  behind_sound hD.closed

/-- Nothing has been read alone, and nothing behind a new parenthesis. -/
theorem planted_after (hD : D.Ready) (ho : Plain o) (n left : Nat) :
    Planted (D.siteOf o ho) (D.after n) (D.enter o D.frame.verbose left) := by
  refine ⟨rfl, rfl, rfl, rfl, ?_, hD.limit, fun a ha => .inl ?_, hD.globals⟩
  · simp [siteOf, behind, enter]
  · exact List.mem_map_of_mem ha

/-- The names after a text are those that its lexemes give to groups. -/
theorem Reads.mem_names (h : Reads 0 isOpen (D.after n) s ls d) {name : List Char} :
    name ∈ d.names.map Prod.fst ↔ ∃ l ∈ ls, l.groupName? = some name := by
  have hnames : (D.after n).names = [] := rfl
  rw [h.names, hnames]
  simp

theorem Reads.barred_iff (h : Reads 0 isOpen (D.after n) s ls d) (ho : Plain o) :
    Barred D d ls ↔ ∃ l ∈ ls, (D.siteOf o ho).Bars l := by
  constructor
  · rintro (⟨l, hl, hglobal⟩ | ⟨name, hname, htaken⟩)
    · exact ⟨l, hl, .inl hglobal⟩
    · obtain ⟨l, hl, heq⟩ := h.mem_names.mp hname
      exact ⟨l, hl, .inr ⟨name, heq, htaken⟩⟩
  · rintro ⟨l, hl, hglobal | ⟨name, hname, htaken⟩⟩
    · exact .inl ⟨l, hl, hglobal⟩
    · exact .inr ⟨name, h.mem_names.mpr ⟨l, hl, hname⟩, htaken⟩

/-- What has been read behind other groups is read between parentheses too, or it is barred there. -/
theorem Reads.enter (h : Reads 0 isOpen (D.after n) s ls d) (hD : D.Ready) (ho : Plain o)
    (left : Nat) (t : List Char) :
    (¬ Barred D d ls ∧ ∃ E, Planted (D.siteOf o ho) d E ∧ E.Sound ∧
      (D.enter o D.frame.verbose left).readAll (s ++ ')' :: t)
        = if isOpen then skipLine t >>= E.readAll else E.readAll (')' :: t)) ∨
    (Barred D d ls ∧
      ((D.enter o D.frame.verbose left).readAll (s ++ ')' :: t)).Malformed) := by
  have P := planted_after hD ho n left
  have hsound := after_sound (n := n) hD.sound
  have hmoves : ∀ l ∈ ls, ¬ (D.siteOf o ho).Moves l := fun l _ => D.siteOf_moves ho l
  by_cases hbars : ∃ l ∈ ls, (D.siteOf o ho).Bars l
  · exact .inr ⟨(h.barred_iff ho).mpr hbars, h.barred P (D.siteOf_inside ho) hsound hmoves hbars t⟩
  · have hfree : ∀ l ∈ ls, ¬ (D.siteOf o ho).Bars l := fun l hl hbar => hbars ⟨l, hl, hbar⟩
    obtain ⟨E, hreads, PE⟩ := h.planted P hsound hmoves hfree (t.length + 1)
    exact .inl ⟨fun hbarred => hbars ((h.barred_iff ho).mp hbarred), E, PE,
      hreads.sound (hD.enter ho _ _).sound, hreads.beyond⟩

/-- **Between parentheses.** A text that is a pattern behind other groups becomes one item between
    parentheses, or it contains something barred and is refused. -/
theorem readAll_wrapped (hD : D.Ready) (ho : Plain o) {wrap : Regex → Regex} {Q : Option Nat → Prop}
    (hclose : Closes o wrap Q) (h : Reads 0 false (D.after n) s ls d) (hd : d.outer = []) (left : Nat)
    (t : List Char) :
    (¬ Barred D d ls ∧ ∃ D', D.Grows [wrap d.frame.body] d D' ∧ Q D'.limit ∧
      (D.enter o D.frame.verbose left).readAll (s ++ ')' :: t) = D'.readAll t) ∨
    (Barred D d ls ∧
      ((D.enter o D.frame.verbose left).readAll (s ++ ')' :: t)).Malformed) := by
  rcases h.enter hD ho left t with ⟨hfree, E, PE, hE, heq⟩ | hbarred
  · refine .inl ⟨hfree, ?_⟩
    have hopened : E.frame.opened = o := by
      rw [PE.opened, (h.sound (after_sound hD.sound)).opened_whole hd]
      rfl
    have houter : E.outer.map Frame.bare = (D.frame :: D.outer).map Frame.bare := by
      rw [PE.outer, hd]
      rfl
    rw [List.map_cons] at houter
    obtain ⟨frame, outer, hcons, hframe, hrest⟩ := List.map_eq_cons_iff.mp houter
    obtain ⟨limit, hQ, hpush⟩ := hclose E frame outer (t.length + 1) hopened hcons
    have hbody : E.frame.body = d.frame.body := PE.body.trans (Regex.shift_zero _)
    have hclosed : E.closed = d.closed := by simpa [siteOf] using PE.closed
    have hnames : E.names = d.names ++ D.names := by simpa [siteOf] using PE.names
    rw [hbody] at hpush
    refine ⟨Draft.withItem { E with frame := frame, outer := outer, limit := limit }
        (wrap d.frame.body),
      ⟨?_, hrest, PE.groups, h.groups_le, hclosed, hnames, fun a ha => ?_, PE.globals,
        pushClosing_sound hE hpush⟩, hQ, ?_⟩
    · exact congrArg (fun f : Frame => { f with items := wrap d.frame.body :: f.items }) hframe
    · rcases PE.asked a ha with hin | hin
      · exact .inl (List.mem_map.mp hin)
      · exact .inr hin
    · rw [heq]
      simp only [Bool.false_eq_true, if_false]
      rw [readAll_cons, readLexeme_closing]
      exact congrArg (· >>= fun d' => d'.readAll t) hpush
  · exact .inr hbarred

/-- A comment that is still open takes the closing parenthesis with it, if the text ends on its line. -/
theorem readAll_wrapped_open (hD : D.Ready) (ho : Plain o) (h : Reads 0 true (D.after n) s ls d)
    (left : Nat) {t : List Char} (ht : skipLine t = .ok []) :
    (∃ E, E.outer ≠ [] ∧ (D.enter o D.frame.verbose left).readAll (s ++ ')' :: t) = .ok E) ∨
      ((D.enter o D.frame.verbose left).readAll (s ++ ')' :: t)).Malformed := by
  rcases h.enter hD ho left t with ⟨-, E, PE, -, heq⟩ | ⟨-, hfault⟩
  · refine .inl ⟨E, PE.outer_ne_nil (D.siteOf_inside ho), ?_⟩
    rw [heq, ht]
    rfl
  · exact .inr hfault

/-- A text that is a pattern alone is one behind the groups of `D` too, or it is malformed there and
    between parentheses. -/
theorem Reads.after (h : Reads 0 isOpen (start D.frame.verbose n) s ls d) (hD : D.Ready)
    (ho : Plain o) :
    (∃ e, Reads 0 isOpen (D.after n) s ls e ∧ Alike D.groups d e) ∨
    (((D.after n).readAll s).Malformed ∧ ∀ left t,
      ((D.enter o D.frame.verbose left).readAll (s ++ ')' :: t)).Malformed) := by
  rcases h.again behind_alike (after_sound hD.sound) with hread | ⟨hfault, hinside⟩
  · exact .inl hread
  · exact .inr ⟨hfault, fun left t => hinside _ _ (planted_after hD ho n left)
      (D.siteOf_inside ho) (fun l _ => D.siteOf_moves ho l) t⟩

/-! ### The parentheses around fragments -/

theorem plain_look : Plain (.look false false none) :=
  ⟨fun _ => trivial, by simp, by simp⟩

theorem plain_scoped : Plain (.scoped {}) :=
  ⟨fun _ => trivial, by simp, by simp⟩

theorem closes_look : Closes (.look false false none) (.lookahead false) (· = none) := by
  intro E frame outer left hopened houter
  refine ⟨none, rfl, ?_⟩
  simp only [pushClosing, houter, hopened]

theorem closes_scoped : Closes (.scoped {}) (.scoped {}) (fun _ => True) := by
  intro E frame outer left hopened houter
  refine ⟨E.limit, trivial, ?_⟩
  simp only [pushClosing, houter, hopened]

theorem readAll_look (hD : D.Ready) (rest : List Char) :
    ∃ left, D.readAll ('(' :: '?' :: '=' :: rest)
      = (D.enter (.look false false none) D.frame.verbose left).readAll rest := by
  refine ⟨('?' :: '=' :: rest).length + 1, ?_⟩
  have hl : ∀ verbose, readLexeme verbose '(' ('?' :: '=' :: rest)
      = .ok (.opening (.look false false), rest) := by
    intro verbose
    cases verbose <;> rfl
  rw [readAll_cons, hl, ← hD.limit]
  rfl

theorem readAll_scoped (D : Draft) (rest : List Char) :
    ∃ left, D.readAll ('(' :: '?' :: ':' :: rest)
      = (D.enter (.scoped {}) D.frame.verbose left).readAll rest := by
  refine ⟨('?' :: ':' :: rest).length + 1, ?_⟩
  have hl : ∀ verbose, readLexeme verbose '(' ('?' :: ':' :: rest)
      = .ok (.opening (.scoped {}), rest) := by
    intro verbose
    cases verbose <;> rfl
  rw [readAll_cons, hl]
  rfl

/-- The start of a line. -/
theorem readAll_caret (D : Draft) (rest : List Char) :
    D.readAll ('^' :: rest) = (D.withItem (.anchor .lineStart)).readAll rest := by
  have hl : ∀ verbose, readLexeme verbose '^' rest = .ok (.item (.anchor .lineStart), rest) := by
    intro verbose
    cases verbose <;> rfl
  rw [readAll_cons, hl]
  rfl

/-- The end of the text. -/
theorem readAll_textEnd (D : Draft) (rest : List Char) :
    D.readAll ('\\' :: 'Z' :: rest) = (D.withItem (.anchor .textEnd)).readAll rest := by
  have hl : ∀ verbose, readLexeme verbose '\\' ('Z' :: rest)
      = .ok (.item (.anchor .textEnd), rest) := by
    intro verbose
    cases verbose <;> rfl
  rw [readAll_cons, hl]
  rfl

/-- What has been read behind a new parenthesis that looks ahead becomes one item when it is closed. -/
theorem Grows.readAll_closing {verbose : Bool} {left : Nat}
    (h : (D.enter (.look false false none) verbose left).Grows rs d D') (t : List Char) :
    ∃ D'', D.Grows [.lookahead false (Regex.ofItems rs.reverse)] d D'' ∧ D''.limit = none ∧
      D'.readAll (')' :: t) = D''.readAll t := by
  have hopened : D'.frame.opened = .look false false none := (congrArg Frame.opened h.frame :)
  have hbranches : D'.frame.branches = [] := (congrArg Frame.branches h.frame :)
  have hitems : D'.frame.items = rs ++ [] := (congrArg Frame.items h.frame :)
  have houter : D'.outer.map Frame.bare = (D.frame :: D.outer).map Frame.bare := h.outer
  rw [List.map_cons] at houter
  obtain ⟨frame, outer, hcons, hframe, hrest⟩ := List.map_eq_cons_iff.mp houter
  have hbody : D'.frame.body = Regex.ofItems rs.reverse := by
    simp only [Frame.body, Frame.branch, hbranches, hitems, List.append_nil]
    rfl
  obtain ⟨limit, rfl, hpush⟩ := closes_look D' frame outer (t.length + 1) hopened hcons
  rw [hbody] at hpush
  refine ⟨Draft.withItem { D' with frame := frame, outer := outer, limit := none }
      (.lookahead false (Regex.ofItems rs.reverse)),
    ⟨?_, hrest, h.groups, h.groups_le, h.closed, h.names, h.asked, h.globals,
      pushClosing_sound h.sound hpush⟩, rfl, ?_⟩
  · exact congrArg (fun f : Frame =>
      { f with items := .lookahead false (Regex.ofItems rs.reverse) :: f.items }) hframe
  · rw [readAll_cons, readLexeme_closing]
    exact congrArg (· >>= fun d' => d'.readAll t) hpush

/-! ### Fragments that look ahead, and fragments that fit the whole text -/

/-- A text between the parentheses of a look ahead. -/
theorem readAll_lookahead (hD : D.Ready) (h : Reads 0 false (D.after n) s ls d) (hd : d.outer = [])
    (t : List Char) :
    (¬ Barred D d ls ∧ ∃ D', D.Grows [.lookahead false d.frame.body] d D' ∧ D'.limit = none ∧
      D.readAll ('(' :: '?' :: '=' :: (s ++ ')' :: t)) = D'.readAll t) ∨
    (Barred D d ls ∧ (D.readAll ('(' :: '?' :: '=' :: (s ++ ')' :: t))).Malformed) := by
  obtain ⟨left, heq⟩ := readAll_look hD (s ++ ')' :: t)
  rw [heq]
  exact readAll_wrapped hD plain_look closes_look h hd left t

/-- A text between the start of a line and the end of the text. -/
theorem readAll_anchored (hD : D.Ready) (h : Reads 0 false (D.after n) s ls d) (hd : d.outer = [])
    (t : List Char) :
    (¬ Barred D d ls ∧ ∃ D', D.Grows [.anchor .textEnd, .scoped {} d.frame.body,
        .anchor .lineStart] d D' ∧
      D.readAll ('^' :: '(' :: '?' :: ':' :: (s ++ ')' :: '\\' :: 'Z' :: t)) = D'.readAll t) ∨
    (Barred D d ls ∧
      (D.readAll ('^' :: '(' :: '?' :: ':' :: (s ++ ')' :: '\\' :: 'Z' :: t))).Malformed) := by
  have hD' : (D.withItem (.anchor .lineStart)).Ready := hD.withItem trivial
  obtain ⟨left, heq⟩ := readAll_scoped (D.withItem (.anchor .lineStart))
    (s ++ ')' :: '\\' :: 'Z' :: t)
  rw [readAll_caret, heq]
  rcases readAll_wrapped hD' plain_scoped closes_scoped h hd left ('\\' :: 'Z' :: t) with
    ⟨hfree, D', hgrows, -, heq'⟩ | hbar
  · have hend : (Regex.anchor .textEnd).Within D'.groups := trivial
    refine .inl ⟨hfree, _, hgrows.of_withItem.withItem hend, ?_⟩
    rw [heq', readAll_textEnd]
  · exact .inr hbar

theorem readAll_lookahead_open (hD : D.Ready) (h : Reads 0 true (D.after n) s ls d) {t : List Char}
    (ht : skipLine t = .ok []) :
    (∃ E, E.outer ≠ [] ∧ D.readAll ('(' :: '?' :: '=' :: (s ++ ')' :: t)) = .ok E) ∨
      (D.readAll ('(' :: '?' :: '=' :: (s ++ ')' :: t))).Malformed := by
  obtain ⟨left, heq⟩ := readAll_look hD (s ++ ')' :: t)
  rw [heq]
  exact readAll_wrapped_open hD plain_look h left ht

theorem readAll_anchored_open (hD : D.Ready) (h : Reads 0 true (D.after n) s ls d) :
    (∃ E, E.outer ≠ [] ∧
      D.readAll ('^' :: '(' :: '?' :: ':' :: (s ++ ')' :: ['\\', 'Z'])) = .ok E) ∨
      (D.readAll ('^' :: '(' :: '?' :: ':' :: (s ++ ')' :: ['\\', 'Z']))).Malformed := by
  have hD' : (D.withItem (.anchor .lineStart)).Ready := hD.withItem trivial
  obtain ⟨left, heq⟩ := readAll_scoped (D.withItem (.anchor .lineStart)) (s ++ ')' :: ['\\', 'Z'])
  rw [readAll_caret, heq]
  exact readAll_wrapped_open hD' plain_scoped h left rfl

/-- A text that is malformed behind other groups is so between the parentheses of a look ahead. -/
theorem readAll_lookahead_after (hD : D.Ready)
    (h : Reads 0 isOpen (start D.frame.verbose n) s ls d) (t : List Char) :
    (∃ e, Reads 0 isOpen (D.after n) s ls e ∧ Alike D.groups d e) ∨
    (((D.after n).readAll s).Malformed ∧
      (D.readAll ('(' :: '?' :: '=' :: (s ++ ')' :: t))).Malformed) := by
  obtain ⟨left, heq⟩ := readAll_look hD (s ++ ')' :: t)
  rw [heq]
  exact (h.after hD plain_look).imp id fun hfault => ⟨hfault.1, hfault.2 left t⟩

end Draft

end TextCriteria.Pattern
