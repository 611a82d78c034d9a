import TextCriteria.Proofs.Pattern.Shift

namespace TextCriteria.Pattern

/-!
# What every draft keeps to

Groups are numbered from one up to the number of groups that have been opened, in the trees of a
draft, in its names and among the groups that have been closed.

* `Draft.Sound` — the invariant.
* `Draft.push_sound` — adding a lexeme keeps it.
* `Draft.push_ok_or_malformed` — a lexeme is added or the text is malformed.
* `Draft.readAll_error` — a text that cannot be read is malformed or contains a number that is too large.
* `Draft.Follows` — what a lexeme changes in every draft that it is added to.
* `Draft.Reads.sound`, `Draft.Reads.names`, `Draft.Reads.groups_le`, `Draft.Reads.globals` — the same for
  texts.
-/

/-- What is open has a number that its group has, and so has what it contains. -/
def Opened.Sound (n : Nat) : Opened → Prop
  | .capture i => 0 < i ∧ i ≤ n
  | .conditional i yes => 0 < i ∧ ∀ r, yes = some r → r.Within n
  | _ => True

structure Frame.Sound (n : Nat) (f : Frame) : Prop where
  opened : f.opened.Sound n
  branches : ∀ r ∈ f.branches, r.Within n
  items : ∀ r ∈ f.items, r.Within n

/-- What is open, from the inside out. -/
def Draft.parens (d : Draft) : List Opened :=
  (d.frame :: d.outer).map Frame.opened

/-- The whole pattern is around everything that is open, and nowhere else. -/
def Opened.Nested : List Opened → Prop
  | [] => False
  | [o] => o = .whole
  | o :: outer => o ≠ .whole ∧ Nested outer

/-- Groups are numbered from one to the number of groups, and the whole pattern is around everything
    that is open. -/
structure Draft.Sound (d : Draft) : Prop where
  nested : Opened.Nested d.parens
  frame : d.frame.Sound d.groups
  outer : ∀ f ∈ d.outer, f.Sound d.groups
  names : ∀ e ∈ d.names, 0 < e.2 ∧ e.2 ≤ d.groups
  closed : ∀ e ∈ d.closed, 0 < e.1 ∧ e.1 ≤ d.groups

/-! ### Trees of parentheses -/

theorem Opened.Sound.mono {n m : Nat} (hnm : n ≤ m) {o : Opened} (h : o.Sound n) : o.Sound m := by
  cases o with
  | capture i => exact ⟨h.1, Nat.le_trans h.2 hnm⟩
  | conditional i yes => exact ⟨h.1, fun r hr => (h.2 r hr).mono hnm⟩
  | _ => trivial

namespace Frame

variable {n m : Nat} {f : Frame}

theorem Sound.mono (hnm : n ≤ m) (h : f.Sound n) : f.Sound m :=
  ⟨h.opened.mono hnm, fun r hr => (h.branches r hr).mono hnm, fun r hr => (h.items r hr).mono hnm⟩

theorem Sound.branch (h : f.Sound n) : f.branch.Within n :=
  Regex.within_ofItems fun r hr => h.items r (List.mem_reverse.mp hr)

/-- The pattern inside a parenthesis, branch after branch. -/
theorem body_eq (f : Frame) :
    ∃ r rest, (f.branch :: f.branches).reverse = r :: rest ∧ f.body = Regex.ofBranches r rest := by
  unfold body
  rcases h : (f.branch :: f.branches).reverse with _ | ⟨r, rest⟩
  · simp at h
  · exact ⟨r, rest, rfl, rfl⟩

theorem Sound.body (h : f.Sound n) : f.body.Within n := by
  obtain ⟨r, rest, hrest, heq⟩ := f.body_eq
  rw [heq]
  refine Regex.within_ofBranches fun s hs => ?_
  rw [← hrest, List.mem_reverse] at hs
  rcases List.mem_cons.mp hs with rfl | hs
  · exact h.branch
  · exact h.branches s hs

/-- An item more. -/
theorem Sound.item (h : f.Sound n) {r : Regex} (hr : r.Within n) :
    Frame.Sound n { f with items := r :: f.items } := by
  refine ⟨h.opened, h.branches, fun s hs => ?_⟩
  rcases List.mem_cons.mp hs with rfl | hs
  · exact hr
  · exact h.items s hs

/-- A parenthesis with nothing in it yet. -/
theorem sound_empty {o : Opened} (ho : o.Sound n) (left : Nat) (verbose : Bool) :
    Frame.Sound n { opened := o, left := left, verbose := verbose } :=
  ⟨ho, by simp, by simp⟩

end Frame

/-! ### Lexemes -/

namespace Draft

theorem start_sound (verbose : Bool) (length : Nat) : (start verbose length).Sound :=
  ⟨rfl, ⟨trivial, by simp [start], by simp [start]⟩, by simp [start], by simp [start], by simp [start]⟩

theorem Sound.withItem {d : Draft} (hd : d.Sound) {r : Regex} (hr : r.Within d.groups) :
    (d.withItem r).Sound :=
  ⟨hd.nested, hd.frame.item hr, hd.outer, hd.names, hd.closed⟩

theorem Sound.withLimit {d : Draft} (hd : d.Sound) (limit : Option Nat) :
    Draft.Sound { d with limit := limit } :=
  ⟨hd.nested, hd.frame, hd.outer, hd.names, hd.closed⟩

theorem Sound.withAsked {d : Draft} (hd : d.Sound) (asked : List (Nat × Nat)) :
    Draft.Sound { d with asked := asked } :=
  ⟨hd.nested, hd.frame, hd.outer, hd.names, hd.closed⟩

/-- A new parenthesis goes in front of those that are open. -/
theorem Sound.enter {d : Draft} (hd : d.Sound) {o : Opened} (ho : o.Sound d.groups) (hne : o ≠ .whole)
    (verbose : Bool) (left : Nat) : (d.enter o verbose left).Sound := by
  refine ⟨⟨hne, hd.nested⟩, Frame.sound_empty ho _ _, fun f hf => ?_, hd.names, hd.closed⟩
  rcases List.mem_cons.mp hf with rfl | hf
  · exact hd.frame
  · exact hd.outer f hf

theorem lookup_mem {α β : Type} [BEq α] [LawfulBEq α] {entries : List (α × β)} {a : α} {b : β}
    (h : entries.lookup a = some b) : (a, b) ∈ entries := by
  obtain ⟨before, after, rfl, -⟩ := List.lookup_eq_some_iff.mp h
  simp

theorem pushReference_sound {d d' : Draft} (hd : d.Sound) {ref : GroupRef} {left after : Nat}
    (href : (Lexeme.reference ref).Sound) (h : d.pushReference ref left after = .ok d') :
    d'.Sound := by
  cases ref with
  | number i =>
    simp only [pushReference] at h
    split at h
    · simp [fault] at h
    split at h
    · simp [fault] at h
    · obtain ⟨_, -, h⟩ := bind_eq_ok.mp h
      obtain rfl : d.withItem (.backref i) = d' := by simpa using h
      exact hd.withItem href
  | name name =>
    simp only [pushReference] at h
    split at h
    · simp [fault] at h
    · rename_i i hi
      split at h
      · simp [fault] at h
      · obtain ⟨_, -, h⟩ := bind_eq_ok.mp h
        obtain rfl : d.withItem (.backref i) = d' := by simpa using h
        exact hd.withItem (hd.names _ (lookup_mem hi)).1

theorem pushRounds_sound {d d' : Draft} (hd : d.Sound) {greed : Greed} {least : Nat}
    {most : Option Nat} {left : Nat} (h : d.pushRounds greed least most left = .ok d') :
    d'.Sound := by
  unfold pushRounds at h
  split at h
  · simp [fault] at h
  · rename_i item items hitems
    split at h
    · simp [fault] at h
    · simp [fault] at h
    · obtain rfl := Except.ok.inj h
      have hin := hd.frame.items
      rw [hitems] at hin
      refine ⟨hd.nested, ⟨hd.frame.opened, hd.frame.branches, fun r hr => ?_⟩, hd.outer, hd.names, hd.closed⟩
      rcases List.mem_cons.mp hr with rfl | hr
      · exact hin item List.mem_cons_self
      · exact hin r (List.mem_cons_of_mem item hr)

theorem pushBar_sound {d d' : Draft} (hd : d.Sound) {left : Nat} (h : d.pushBar left = .ok d') :
    d'.Sound := by
  unfold pushBar at h
  split at h
  · rename_i i hopened
    obtain rfl := Except.ok.inj h
    have ho := hd.frame.opened
    rw [hopened] at ho
    refine ⟨?_, ⟨⟨ho.1, fun r hr => ?_⟩, hd.frame.branches, by simp⟩, hd.outer, hd.names, hd.closed⟩
    · have hnested := hd.nested
      simp only [parens, List.map_cons, hopened] at hnested ⊢
      cases houter : d.outer.map Frame.opened with
      | nil =>
        rw [houter] at hnested
        cases hnested
      | cons o outer =>
        rw [houter] at hnested
        exact ⟨by simp, hnested.2⟩
    · obtain rfl := Option.some.inj hr
      exact hd.frame.branch
  · simp [fault] at h
  · obtain rfl := Except.ok.inj h
    refine ⟨hd.nested, ⟨hd.frame.opened, fun r hr => ?_, by simp⟩, hd.outer, hd.names, hd.closed⟩
    rcases List.mem_cons.mp hr with rfl | hr
    · exact hd.frame.branch
    · exact hd.frame.branches r hr

/-- A group more leaves everything as sound as it was. -/
theorem Sound.group {d : Draft} (hd : d.Sound) :
    Draft.Sound { d with groups := d.groups + 1 } :=
  have more := Nat.le_succ d.groups
  ⟨hd.nested, hd.frame.mono more, fun f hf => (hd.outer f hf).mono more,
    fun e he => ⟨(hd.names e he).1, Nat.le_succ_of_le (hd.names e he).2⟩,
    fun e he => ⟨(hd.closed e he).1, Nat.le_succ_of_le (hd.closed e he).2⟩⟩

theorem pushOpening_sound {d d' : Draft} (hd : d.Sound) {what : Opening} {left after : Nat}
    (hwhat : (Lexeme.opening what).Sound) (h : d.pushOpening what left after = .ok d') :
    d'.Sound := by
  have hnew : Opened.Sound (d.groups + 1) (.capture (d.groups + 1)) :=
    ⟨Nat.succ_pos _, Nat.le_refl _⟩
  unfold pushOpening at h
  split at h
  · obtain rfl := Except.ok.inj h
    exact hd.group.enter hnew (by simp) _ _
  · rename_i name
    split at h
    · simp [fault] at h
    · obtain rfl := Except.ok.inj h
      have hd' : Draft.Sound { d with
          groups := d.groups + 1
          names := (name, d.groups + 1) :: d.names } := by
        refine ⟨hd.nested, hd.group.frame, hd.group.outer, fun e he => ?_, hd.group.closed⟩
        rcases List.mem_cons.mp he with rfl | he
        · exact hnew
        · exact hd.group.names e he
      exact hd'.enter hnew (by simp) _ _
  · obtain rfl := Except.ok.inj h
    refine hd.enter ?_ (by simp) _ _
    trivial
  · obtain rfl := Except.ok.inj h
    refine hd.enter ?_ (by simp) _ _
    trivial
  · obtain rfl := Except.ok.inj h
    refine (hd.withLimit _).enter ?_ (by simp) _ _
    trivial
  · split at h
    · simp [fault] at h
    · rename_i i hi
      obtain ⟨_, -, h⟩ := bind_eq_ok.mp h
      obtain rfl := Except.ok.inj h
      refine hd.enter ?_ (by simp) _ _
      exact ⟨(hd.names _ (lookup_mem hi)).1, by simp⟩
  · rename_i i
    obtain ⟨_, -, h⟩ := bind_eq_ok.mp h
    obtain rfl := Except.ok.inj h
    split
    · refine hd.enter ?_ (by simp) _ _
      exact ⟨hwhat, by simp⟩
    · refine (hd.withAsked _).enter ?_ (by simp) _ _
      exact ⟨hwhat, by simp⟩

theorem pushClosing_sound {d d' : Draft} (hd : d.Sound) {left : Nat}
    (h : d.pushClosing left = .ok d') : d'.Sound := by
  unfold pushClosing at h
  split at h
  · simp [fault] at h
  rename_i frame outer houter
  have hout := hd.outer
  rw [houter] at hout
  have hinner : ∀ f ∈ outer, f.Sound d.groups := fun f hf => hout f (List.mem_cons_of_mem frame hf)
  have hnested : Opened.Nested (parens { d with frame := frame, outer := outer }) := by
    have hnested := hd.nested
    simp only [parens, houter, List.map_cons] at hnested
    exact hnested.2
  have hback : Draft.Sound { d with frame := frame, outer := outer } :=
    ⟨hnested, hout frame List.mem_cons_self, hinner, hd.names, hd.closed⟩
  have ho := hd.frame.opened
  dsimp only at h
  split at h
  · simp [fault] at h
  · rename_i i hopened
    obtain rfl := Except.ok.inj h
    rw [hopened] at ho
    have hclosed : Draft.Sound { d with
        frame := frame
        outer := outer
        closed := (i, d.frame.body.width d.groupWidth) :: d.closed } := by
      refine ⟨hnested, hback.frame, hinner, hd.names, fun e he => ?_⟩
      rcases List.mem_cons.mp he with rfl | he
      · exact ho
      · exact hd.closed e he
    refine hclosed.withItem ?_
    exact ⟨ho.1, ho.2, hd.frame.body⟩
  · obtain rfl := Except.ok.inj h
    refine hback.withItem ?_
    exact hd.frame.body
  · obtain rfl := Except.ok.inj h
    refine hback.withItem ?_
    exact hd.frame.body
  · obtain rfl := Except.ok.inj h
    refine (hback.withLimit _).withItem ?_
    exact hd.frame.body
  · obtain rfl := Except.ok.inj h
    refine (hback.withLimit _).withItem ?_
    exact hd.frame.body
  · rename_i i hopened
    obtain rfl := Except.ok.inj h
    rw [hopened] at ho
    refine hback.withItem ?_
    exact ⟨ho.1, hd.frame.branch, trivial⟩
  · rename_i i yes hopened
    obtain rfl := Except.ok.inj h
    rw [hopened] at ho
    refine hback.withItem ?_
    exact ⟨ho.1, ho.2 yes rfl, hd.frame.branch⟩

/-- **Invariant.** Adding a lexeme keeps a draft sound. -/
theorem push_sound {d d' : Draft} (hd : d.Sound) {l : Lexeme} (hl : l.Sound) {left after : Nat}
    (h : d.push l left after = .ok d') : d'.Sound := by
  cases l with
  | skip =>
    obtain rfl := Except.ok.inj h
    exact hd
  | item r =>
    obtain rfl := Except.ok.inj h
    exact hd.withItem (Regex.within_leaf hl _)
  | reference ref => exact pushReference_sound hd hl h
  | rounds greed least most => exact pushRounds_sound hd h
  | bar => exact pushBar_sound hd h
  | opening what => exact pushOpening_sound hd hl h
  | closing => exact pushClosing_sound hd h
  | globalFlags letters =>
    simp only [push, pushGlobals] at h
    split at h
    · obtain rfl := Except.ok.inj h
      exact ⟨hd.nested, ⟨hd.frame.opened, hd.frame.branches, hd.frame.items⟩, hd.outer, hd.names, hd.closed⟩
    · simp [fault] at h

/-- Where no parenthesis is open there is the whole pattern. -/
theorem Sound.opened_whole {d : Draft} (hd : d.Sound) (h : d.outer = []) :
    d.frame.opened = .whole := by
  have hnested := hd.nested
  simpa [parens, h, Opened.Nested] using hnested

/-- Inside of a parenthesis there is something else. -/
theorem Sound.opened_ne_whole {d : Draft} (hd : d.Sound) (h : d.outer ≠ []) :
    d.frame.opened ≠ .whole := by
  have hnested := hd.nested
  unfold parens at hnested
  cases houter : d.outer with
  | nil => exact absurd houter h
  | cons frame outer =>
    rw [houter] at hnested
    exact hnested.1

/-- A parenthesis that is open can be closed. -/
theorem Sound.pushClosing_ok {d : Draft} (hd : d.Sound) (h : d.outer ≠ []) (left : Nat) :
    ∃ d', d.pushClosing left = .ok d' := by
  unfold pushClosing
  split
  · rename_i hnil
    exact absurd hnil h
  dsimp only
  split
  · rename_i hwhole
    exact absurd hwhole (hd.opened_ne_whole h)
  all_goals exact ⟨_, rfl⟩

/-! ### What lexemes change -/

/-- Whether layout is free inside what is open, from the inside out. -/
def layout (d : Draft) : List Bool :=
  (d.frame :: d.outer).map Frame.verbose

/-- What the lexeme `l` changes in the draft `d`, apart from the tree: a group more, its name, a number
    that is asked for. Flags of the whole pattern are set only by a lexeme that asks for them. -/
structure Follows (l : Lexeme) (d d' : Draft) : Prop where
  layout : d'.layout = l.layout d.layout
  groups : d'.groups = d.groups + l.groupCount
  names : d'.names.map Prod.fst = l.groupName?.toList ++ d.names.map Prod.fst
  asked : d'.asked.map Prod.fst = l.asks (d.asked.map Prod.fst)
  globals : l.isGlobal = false → d'.globals = d.globals

theorem pushReference_follows {d d' : Draft} {ref : GroupRef} {left after : Nat}
    (h : d.pushReference ref left after = .ok d') : Follows (.reference ref) d d' := by
  cases ref with
  | number i =>
    simp only [pushReference] at h
    split at h
    · simp [fault] at h
    split at h
    · simp [fault] at h
    · obtain ⟨_, -, h⟩ := bind_eq_ok.mp h
      obtain rfl := Except.ok.inj h
      exact ⟨rfl, rfl, rfl, rfl, fun _ => rfl⟩
  | name name =>
    simp only [pushReference] at h
    split at h
    · simp [fault] at h
    split at h
    · simp [fault] at h
    · obtain ⟨_, -, h⟩ := bind_eq_ok.mp h
      obtain rfl := Except.ok.inj h
      exact ⟨rfl, rfl, rfl, rfl, fun _ => rfl⟩

theorem pushOpening_follows {d d' : Draft} {what : Opening} {left after : Nat}
    (h : d.pushOpening what left after = .ok d') : Follows (.opening what) d d' := by
  unfold pushOpening at h
  split at h
  · obtain rfl := Except.ok.inj h
    exact ⟨rfl, rfl, rfl, rfl, fun _ => rfl⟩
  · split at h
    · simp [fault] at h
    · obtain rfl := Except.ok.inj h
      exact ⟨rfl, rfl, rfl, rfl, fun _ => rfl⟩
  · obtain rfl := Except.ok.inj h
    exact ⟨rfl, rfl, rfl, rfl, fun _ => rfl⟩
  · obtain rfl := Except.ok.inj h
    exact ⟨rfl, rfl, rfl, rfl, fun _ => rfl⟩
  · obtain rfl := Except.ok.inj h
    exact ⟨rfl, rfl, rfl, rfl, fun _ => rfl⟩
  · split at h
    · simp [fault] at h
    · obtain ⟨_, -, h⟩ := bind_eq_ok.mp h
      obtain rfl := Except.ok.inj h
      exact ⟨rfl, rfl, rfl, rfl, fun _ => rfl⟩
  · rename_i i
    obtain ⟨_, -, h⟩ := bind_eq_ok.mp h
    obtain rfl := Except.ok.inj h
    have hknown : ((d.asked.any fun a => a.1 == i) = true) = (i ∈ d.asked.map Prod.fst) := by
      simp
    simp only [hknown]
    split
    · rename_i hin
      exact ⟨rfl, rfl, rfl, (if_pos hin).symm, fun _ => rfl⟩
    · rename_i hin
      exact ⟨rfl, rfl, rfl, (if_neg hin).symm, fun _ => rfl⟩

theorem pushClosing_follows {d d' : Draft} {left : Nat} (h : d.pushClosing left = .ok d') :
    Follows .closing d d' := by
  unfold pushClosing at h
  split at h
  · simp [fault] at h
  rename_i frame outer houter
  have hlayout : (frame :: outer).map Frame.verbose = Lexeme.layout .closing d.layout := by
    unfold layout
    rw [houter]
    rfl
  dsimp only at h
  split at h
  · simp [fault] at h
  all_goals
    obtain rfl := Except.ok.inj h
    exact ⟨hlayout, rfl, rfl, rfl, fun _ => rfl⟩

/-- **Step.** What a lexeme changes does not depend on the tree that has been read before it. -/
theorem push_follows {d d' : Draft} {l : Lexeme} {left after : Nat}
    (h : d.push l left after = .ok d') : Follows l d d' := by
  cases l with
  | skip =>
    obtain rfl := Except.ok.inj h
    exact ⟨rfl, rfl, rfl, rfl, fun _ => rfl⟩
  | item r =>
    obtain rfl := Except.ok.inj h
    exact ⟨rfl, rfl, rfl, rfl, fun _ => rfl⟩
  | reference ref => exact pushReference_follows h
  | rounds greed least most =>
    simp only [push, pushRounds] at h
    split at h
    · simp [fault] at h
    split at h
    · simp [fault] at h
    · simp [fault] at h
    · obtain rfl := Except.ok.inj h
      exact ⟨rfl, rfl, rfl, rfl, fun _ => rfl⟩
  | bar =>
    simp only [push, pushBar] at h
    split at h
    · obtain rfl := Except.ok.inj h
      exact ⟨rfl, rfl, rfl, rfl, fun _ => rfl⟩
    · simp [fault] at h
    · obtain rfl := Except.ok.inj h
      exact ⟨rfl, rfl, rfl, rfl, fun _ => rfl⟩
  | opening what => exact pushOpening_follows h
  | closing => exact pushClosing_follows h
  | globalFlags letters =>
    simp only [push, pushGlobals] at h
    split at h
    · obtain rfl := Except.ok.inj h
      exact ⟨rfl, rfl, rfl, rfl, by simp [Lexeme.isGlobal]⟩
    · simp [fault] at h

/-! ### What is refused -/

theorem checkLimit_ok_or_malformed (d : Draft) (i after : Nat) :
    d.checkLimit i after = .ok () ∨ (d.checkLimit i after).Malformed := by
  unfold checkLimit
  split
  · exact .inl rfl
  split
  · exact .inr ⟨_, _, rfl⟩
  split
  · exact .inr ⟨_, _, rfl⟩
  · exact .inl rfl

/-- A lexeme is added, or the text is malformed. -/
theorem push_ok_or_malformed (d : Draft) (l : Lexeme) (left after : Nat) :
    (∃ d', d.push l left after = .ok d') ∨ (d.push l left after).Malformed := by
  have limited : ∀ (e d' : Draft) (i : Nat),
      (∃ d'', (do e.checkLimit i after; .ok d' : Outcome Draft) = .ok d'') ∨
        (do e.checkLimit i after; .ok d' : Outcome Draft).Malformed := by
    intro e d' i
    rcases e.checkLimit_ok_or_malformed i after with h | ⟨cause, n, h⟩
    · exact .inl ⟨d', by rw [h]; rfl⟩
    · exact .inr ⟨cause, n, by rw [h]; rfl⟩
  unfold push
  split
  · exact .inl ⟨_, rfl⟩
  · exact .inl ⟨_, rfl⟩
  · unfold pushReference
    split
    · split
      · exact .inr ⟨_, _, rfl⟩
      split
      · exact .inr ⟨_, _, rfl⟩
      · exact limited _ _ _
    · dsimp only
      split
      · exact .inr ⟨_, _, rfl⟩
      split
      · exact .inr ⟨_, _, rfl⟩
      · exact limited _ _ _
  · unfold pushRounds
    split
    · exact .inr ⟨_, _, rfl⟩
    split
    · exact .inr ⟨_, _, rfl⟩
    · exact .inr ⟨_, _, rfl⟩
    · exact .inl ⟨_, rfl⟩
  · unfold pushBar
    split
    · exact .inl ⟨_, rfl⟩
    · exact .inr ⟨_, _, rfl⟩
    · exact .inl ⟨_, rfl⟩
  · unfold pushOpening
    dsimp only
    split
    · exact .inl ⟨_, rfl⟩
    · split
      · exact .inr ⟨_, _, rfl⟩
      · exact .inl ⟨_, rfl⟩
    · exact .inl ⟨_, rfl⟩
    · exact .inl ⟨_, rfl⟩
    · exact .inl ⟨_, rfl⟩
    · split
      · exact .inr ⟨_, _, rfl⟩
      · exact limited _ _ _
    · exact limited _ _ _
  · unfold pushClosing
    split
    · exact .inr ⟨_, _, rfl⟩
    dsimp only
    split
    · exact .inr ⟨_, _, rfl⟩
    all_goals exact .inl ⟨_, rfl⟩
  · unfold pushGlobals
    split
    · exact .inl ⟨_, rfl⟩
    · exact .inr ⟨_, _, rfl⟩

/-! ### Texts -/

section Texts

variable {n : Nat} {isOpen : Bool} {d e : Draft} {s : List Char} {ls : List Lexeme}

/-- Reading a text keeps a draft sound. -/
theorem Reads.sound (h : Reads n isOpen d s ls e) (hd : d.Sound) : e.Sound := by
  induction h with
  | done => exact hd
  | comment => exact hd
  | step hl _ hp _ ih => exact ih (push_sound hd (readLexeme_sound hl) hp)

/-- The names after a text are those of the groups that its lexemes open, and those before it. -/
theorem Reads.names (h : Reads n isOpen d s ls e) :
    e.names.map Prod.fst = (ls.filterMap Lexeme.groupName?).reverse ++ d.names.map Prod.fst := by
  induction h with
  | done => rfl
  | comment => rfl
  | @step _ d _ _ _ _ _ l ls _ _ hp _ ih =>
    rw [ih, (push_follows hp).names]
    cases hl : l.groupName? <;> simp [hl]

/-- No group is taken back. -/
theorem Reads.groups_le (h : Reads n isOpen d s ls e) : d.groups ≤ e.groups := by
  induction h with
  | done => exact Nat.le_refl _
  | comment => exact Nat.le_refl _
  | step _ _ hp _ ih =>
    refine Nat.le_trans ?_ ih
    rw [(push_follows hp).groups]
    exact Nat.le_add_right _ _

/-- A text that does not ask for flags of the whole pattern sets none. -/
theorem Reads.globals (h : Reads n isOpen d s ls e) (hls : ∀ l ∈ ls, l.isGlobal = false) :
    e.globals = d.globals := by
  induction h with
  | done => rfl
  | comment => rfl
  | @step _ _ _ _ _ _ _ l ls _ _ hp _ ih =>
    rw [ih fun m hm => hls m (List.mem_cons_of_mem l hm),
      (push_follows hp).globals (hls l List.mem_cons_self)]

/-- **Refusals of texts.** A text that cannot be read is malformed or contains a number that is too
    large. -/
theorem readAll_error {e : Refusal} (h : d.readAll s = .error e) :
    (∃ cause left, e = .malformed cause left) ∨ e.OfNumber s := by
  induction hn : s.length using Nat.strongRecOn generalizing d s with
  | ind n ih =>
    rcases s with _ | ⟨c, rest⟩
    · cases h
    rw [readAll_cons] at h
    have hrest := List.suffix_cons c rest
    cases hl : readLexeme d.frame.verbose c rest with
    | error e' =>
      rw [hl] at h
      obtain rfl : e' = e := Except.error.inj h
      exact (readLexeme_ends d.frame.verbose c rest).of_error hl
    | ok x =>
      obtain ⟨l, rest'⟩ := x
      simp only [hl, bind, Except.bind] at h
      rcases d.push_ok_or_malformed l (rest.length + 1) rest'.length with
        ⟨d', hpush⟩ | ⟨cause, left, hfault⟩
      · rw [hpush] at h
        rcases ih rest'.length (hn ▸ readLexeme_shorter hl) h rfl with hmalformed | hnumber
        · exact .inl hmalformed
        · exact .inr (hnumber.mono ((readLexeme_ok hl).2.trans hrest))
      · rw [hfault] at h
        exact .inl ⟨cause, left, (Except.error.inj h).symm⟩

end Texts

end Draft

end TextCriteria.Pattern
