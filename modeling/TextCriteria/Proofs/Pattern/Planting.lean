import TextCriteria.Proofs.Pattern.Soundness

namespace TextCriteria.Pattern

/-!
# A pattern inside another one

A text that is a pattern by itself is also read inside of a larger one. What it becomes there is the
tree that it has alone, with the groups that stand before it counted too.

* `Site` — a place in a larger pattern.
* `Planted` — the draft of a text alone, and the draft of the larger pattern at the same lexeme.
* `Site.Bars`, `Site.Moves` — the lexemes that cannot stand at a site, and those that mean another
  group there.
* `Planted.push`, `Planted.push_back` — one lexeme is added to both drafts or to none.
* `Draft.Reads.planted`, `Draft.Reads.barred` — a whole text, read in both drafts.
-/

/-- A parenthesis, wherever it stands. -/
def Frame.bare (f : Frame) : Frame := { f with left := 0 }

/-- A place in a larger pattern: what is open, and the groups, names and widths found before it. -/
structure Site where
  opened : Opened
  outer : List Frame
  groups : Nat := 0
  names : List (List Char × Nat) := []
  closed : List (Nat × Width) := []
  asked : List Nat := []
  plain : ∀ i yes, opened ≠ .conditional i yes
  closed_le : ∀ e ∈ closed, e.1 ≤ groups

/-- What an open parenthesis of a text will become at a site; the text itself fills the parenthesis
    around it. -/
def Opened.planted (site : Site) : Opened → Opened
  | .whole => site.opened
  | .capture i => .capture (i + site.groups)
  | .scoped change => .scoped change
  | .atomic => .atomic
  | .look behind negative limit => .look behind negative (limit.map (· + site.groups))
  | .conditional i yes => .conditional (i + site.groups) (yes.map (Regex.shift site.groups))

theorem Opened.of_planted_conditional {site : Site} {o : Opened} {j : Nat} {yes : Option Regex}
    (h : o.planted site = .conditional j yes) : ∃ i yes', o = .conditional i yes' := by
  cases o with
  | whole => exact absurd h (site.plain j yes)
  | conditional i yes' => exact ⟨i, yes', rfl⟩
  | _ => cases h

/-- An open parenthesis of a text as it is found at a site. -/
def Frame.planted (site : Site) (f : Frame) : Frame where
  opened := f.opened.planted site
  left := 0
  verbose := f.verbose
  branches := f.branches.map (Regex.shift site.groups)
  items := f.items.map (Regex.shift site.groups)

/-- `D` has read at a site what `d` has read alone. -/
structure Planted (site : Site) (d D : Draft) : Prop where
  frame : D.frame.bare = d.frame.planted site
  outer : D.outer.map Frame.bare = d.outer.map (Frame.planted site) ++ site.outer
  groups : D.groups = d.groups + site.groups
  names : D.names = d.names.map (fun e => (e.1, e.2 + site.groups)) ++ site.names
  closed : D.closed = d.closed.map (fun e => (e.1 + site.groups, e.2)) ++ site.closed
  limit : D.limit = d.limit.map (· + site.groups)
  asked : ∀ a ∈ D.asked, a.1 ∈ site.asked ∨ ∃ b ∈ d.asked, b.1 = a.1
  globals : D.globals = []

namespace Site

/-- Flags of the whole pattern come too late, and a name is taken. -/
def Bars (site : Site) (l : Lexeme) : Prop :=
  l.isGlobal = true ∨ ∃ name, l.groupName? = some name ∧ (site.names.lookup name).isSome

/-- A number stands for another group if there are groups before. -/
def Moves (site : Site) (l : Lexeme) : Prop :=
  l.refersByNumber = true ∧ site.groups ≠ 0

/-- Where numbers stand for the same groups, there are none before. -/
theorem groups_eq_zero {site : Site} {l : Lexeme} (hmoves : ¬ site.Moves l)
    (hnumber : l.refersByNumber = true) : site.groups = 0 := by
  by_cases hzero : site.groups = 0
  · exact hzero
  · exact absurd ⟨hnumber, hzero⟩ hmoves

end Site

/-! ### Entries found by number and by name -/

theorem lookup_raised (k i : Nat) (entries : List (Nat × Width)) :
    (entries.map fun e => (e.1 + k, e.2)).lookup (i + k) = entries.lookup i := by
  induction entries with
  | nil => rfl
  | cons e rest ih =>
    obtain ⟨index, width⟩ := e
    rw [List.map_cons]
    by_cases h : i = index
    · rw [h, List.lookup_cons_self, List.lookup_cons_self]
    · have h' : i + k ≠ index + k := by omega
      rw [List.lookup_cons, List.lookup_cons, beq_eq_false_iff_ne.mpr h, beq_eq_false_iff_ne.mpr h']
      exact ih

theorem lookup_above {k i : Nat} {entries : List (Nat × Width)} (h : ∀ e ∈ entries, e.1 ≤ k)
    (hi : 0 < i) : entries.lookup (i + k) = none := by
  rw [List.lookup_eq_none_iff]
  intro e he
  have := h e he
  simp
  omega

theorem lookup_named (k : Nat) (name : List Char) (names : List (List Char × Nat)) :
    (names.map fun e => (e.1, e.2 + k)).lookup name = (names.lookup name).map (· + k) := by
  induction names with
  | nil => rfl
  | cons e rest ih =>
    obtain ⟨other, index⟩ := e
    rw [List.map_cons]
    by_cases h : name = other
    · rw [h, List.lookup_cons_self, List.lookup_cons_self]
      rfl
    · rw [List.lookup_cons, List.lookup_cons, beq_eq_false_iff_ne.mpr h]
      exact ih

namespace Planted

variable {site : Site} {d D : Draft}

/-! ### What two drafts have in common -/

theorem opened (P : Planted site d D) : D.frame.opened = d.frame.opened.planted site :=
  (congrArg Frame.opened P.frame :)

theorem verbose (P : Planted site d D) : D.frame.verbose = d.frame.verbose :=
  (congrArg Frame.verbose P.frame :)

theorem branches (P : Planted site d D) :
    D.frame.branches = d.frame.branches.map (Regex.shift site.groups) :=
  (congrArg Frame.branches P.frame :)

theorem items (P : Planted site d D) :
    D.frame.items = d.frame.items.map (Regex.shift site.groups) :=
  (congrArg Frame.items P.frame :)

theorem branch (P : Planted site d D) : D.frame.branch = d.frame.branch.shift site.groups := by
  unfold Frame.branch
  rw [P.items, Regex.shift_ofItems, List.map_reverse]

theorem body (P : Planted site d D) : D.frame.body = d.frame.body.shift site.groups := by
  obtain ⟨r, rest, hrest, heq⟩ := d.frame.body_eq
  have hmap : (D.frame.branch :: D.frame.branches).reverse
      = (r :: rest).map (Regex.shift site.groups) := by
    rw [P.branch, P.branches, ← List.map_cons, ← List.map_reverse, hrest]
  unfold Frame.body at heq ⊢
  rw [hmap, hrest]
  exact (Regex.shift_ofBranches _ _ _).symm

/-- A group that has been closed alone is closed under its new number, and no other one is. -/
theorem lookup_closed (P : Planted site d D) {i : Nat} (hi : 0 < i) :
    D.closed.lookup (i + site.groups) = d.closed.lookup i := by
  rw [P.closed, List.lookup_append, lookup_raised, lookup_above site.closed_le hi, Option.or_none]

theorem isClosed (P : Planted site d D) {i : Nat} (hi : 0 < i) :
    D.isClosed (i + site.groups) = d.isClosed i := by
  unfold Draft.isClosed
  rw [P.lookup_closed hi]

theorem groupWidth (P : Planted site d D) {i : Nat} (hi : 0 < i) :
    D.groupWidth (i + site.groups) = d.groupWidth i := by
  unfold Draft.groupWidth
  rw [P.lookup_closed hi]

theorem body_width (P : Planted site d D) (hd : d.Sound) :
    D.frame.body.width D.groupWidth = d.frame.body.width d.groupWidth := by
  rw [P.body]
  exact Regex.width_shift hd.frame.body fun i hi => P.groupWidth hi

/-- A name of the text alone stands for its group under the new number. -/
theorem lookup_name (P : Planted site d D) {name : List Char} {i : Nat}
    (h : d.names.lookup name = some i) : D.names.lookup name = some (i + site.groups) := by
  rw [P.names, List.lookup_append, lookup_named, h]
  rfl

theorem lookup_new_name (P : Planted site d D) {name : List Char} (h : d.names.lookup name = none) :
    D.names.lookup name = site.names.lookup name := by
  rw [P.names, List.lookup_append, lookup_named, h]
  rfl

/-- What a look behind may refer to alone, it may refer to at the site, and nothing else. -/
theorem checkLimit_iff (P : Planted site d D) {i : Nat} (hi : 0 < i) (after after' : Nat) :
    D.checkLimit (i + site.groups) after' = .ok () ↔ d.checkLimit i after = .ok () := by
  unfold Draft.checkLimit
  rw [P.limit, P.isClosed hi]
  cases d.limit with
  | none => exact Iff.rfl
  | some limit =>
    simp only [Option.map_some, Nat.add_le_add_iff_right]
    cases d.isClosed i with
    | false => simp [fault]
    | true => split <;> simp [fault]

/-- Inside of a parenthesis one stays there. -/
theorem outer_ne_nil (P : Planted site d D) (hinside : site.outer ≠ []) : D.outer ≠ [] := by
  intro hnil
  have houter := P.outer
  rw [hnil, List.map_nil] at houter
  exact hinside (List.append_eq_nil_iff.mp houter.symm).2

/-! ### Adding lexemes -/

theorem withItem (P : Planted site d D) (r : Regex) :
    Planted site (d.withItem r) (D.withItem (r.shift site.groups)) := by
  refine ⟨?_, P.outer, P.groups, P.names, P.closed, P.limit, P.asked, P.globals⟩
  simp only [Draft.withItem, Frame.bare, Frame.planted, List.map_cons]
  rw [P.opened, P.verbose, P.branches, P.items]

theorem withLimit (P : Planted site d D) (limit : Option Nat) :
    Planted site { d with limit := limit } { D with limit := limit.map (· + site.groups) } :=
  ⟨P.frame, P.outer, P.groups, P.names, P.closed, rfl, P.asked, P.globals⟩

theorem enter (P : Planted site d D) (o : Opened) (verbose : Bool) (left left' : Nat) :
    Planted site (d.enter o verbose left) (D.enter (o.planted site) verbose left') := by
  refine ⟨rfl, ?_, P.groups, P.names, P.closed, P.limit, P.asked, P.globals⟩
  simp only [Draft.enter, List.map_cons, List.cons_append]
  rw [P.frame, P.outer]

theorem reference (P : Planted site d D) (hd : d.Sound) {ref : GroupRef} {d' : Draft}
    {left after : Nat} (hsound : (Lexeme.reference ref).Sound)
    (hmoves : ¬ site.Moves (.reference ref)) (h : d.pushReference ref left after = .ok d')
    (left' after' : Nat) :
    ∃ D', D.pushReference ref left' after' = .ok D' ∧ Planted site d' D' := by
  cases ref with
  | number i =>
    have hzero := site.groups_eq_zero hmoves rfl
    have hclosed := P.isClosed hsound
    have hlimit := (P.checkLimit_iff hsound after after').mpr
    have item := P.withItem (.backref i)
    simp only [Regex.shift, hzero, Nat.add_zero] at hclosed hlimit item
    simp only [Draft.pushReference] at h
    split at h
    · simp [fault] at h
    rename_i hgroups
    split at h
    · simp [fault] at h
    rename_i hopen
    obtain ⟨_, hcheck, h⟩ := bind_eq_ok.mp h
    obtain rfl := Except.ok.inj h
    refine ⟨_, ?_, item⟩
    simp only [Draft.pushReference]
    rw [if_neg (by rw [P.groups]; omega), if_neg (by rw [hclosed]; exact hopen), hlimit hcheck]
    rfl
  | name name =>
    simp only [Draft.pushReference] at h
    split at h
    · simp [fault] at h
    rename_i i hname
    have hi : 0 < i := (hd.names _ (Draft.lookup_mem hname)).1
    split at h
    · simp [fault] at h
    rename_i hopen
    obtain ⟨_, hcheck, h⟩ := bind_eq_ok.mp h
    obtain rfl := Except.ok.inj h
    refine ⟨_, ?_, P.withItem (.backref i)⟩
    simp only [Draft.pushReference, P.lookup_name hname]
    rw [if_neg (by rw [P.isClosed hi]; exact hopen), (P.checkLimit_iff hi after after').mpr hcheck]
    rfl

theorem rounds (P : Planted site d D) {greed : Greed} {least : Nat} {most : Option Nat} {d' : Draft}
    {left : Nat} (h : d.pushRounds greed least most left = .ok d') (left' : Nat) :
    ∃ D', D.pushRounds greed least most left' = .ok D' ∧ Planted site d' D' := by
  have hitems := P.items
  unfold Draft.pushRounds at h
  split at h
  · simp [fault] at h
  rename_i item items heq
  rw [heq, List.map_cons] at hitems
  split at h
  · simp [fault] at h
  · simp [fault] at h
  rename_i hrep
  obtain rfl := Except.ok.inj h
  refine ⟨{ D with frame := { D.frame with
    items := (Regex.rounds greed least most item).shift site.groups
      :: items.map (Regex.shift site.groups) } }, ?_, ?_⟩
  · simp only [Draft.pushRounds, hitems, Regex.repeatable_shift, hrep]
    rfl
  · refine ⟨?_, P.outer, P.groups, P.names, P.closed, P.limit, P.asked, P.globals⟩
    simp only [Frame.bare, Frame.planted, List.map_cons]
    rw [P.opened, P.verbose, P.branches]

theorem bar (P : Planted site d D) {d' : Draft} {left : Nat} (h : d.pushBar left = .ok d')
    (left' : Nat) : ∃ D', D.pushBar left' = .ok D' ∧ Planted site d' D' := by
  have hopened := P.opened
  unfold Draft.pushBar at h
  split at h
  · rename_i i heq
    rw [heq] at hopened
    obtain rfl := Except.ok.inj h
    refine ⟨{ D with frame := { D.frame with
      opened := .conditional (i + site.groups) (some D.frame.branch), items := [] } }, ?_, ?_⟩
    · simp only [Draft.pushBar, hopened, Opened.planted, Option.map_none]
    · refine ⟨?_, P.outer, P.groups, P.names, P.closed, P.limit, P.asked, P.globals⟩
      simp only [Frame.bare, Frame.planted, Opened.planted, Option.map_some, List.map_nil]
      rw [P.branch, P.verbose, P.branches]
  · simp [fault] at h
  · rename_i hnone hsome
    obtain rfl := Except.ok.inj h
    -- The parenthesis around the text is no conditional, so neither is the one that it stands for.
    have hother : ∀ j yes, D.frame.opened ≠ .conditional j yes := by
      intro j yes hcond
      rw [hopened] at hcond
      obtain ⟨i, yes', ho⟩ := Opened.of_planted_conditional hcond
      cases yes' with
      | none => exact hnone i ho
      | some yes' => exact hsome i yes' ho
    have hbar : D.pushBar left' = .ok { D with
        frame := { D.frame with branches := D.frame.branch :: D.frame.branches, items := [] } } := by
      unfold Draft.pushBar
      split
      · rename_i i hcond
        exact absurd hcond (hother i none)
      · rename_i i yes hcond
        exact absurd hcond (hother i (some yes))
      · rfl
    refine ⟨_, hbar, ?_⟩
    refine ⟨?_, P.outer, P.groups, P.names, P.closed, P.limit, P.asked, P.globals⟩
    simp only [Frame.bare, Frame.planted, List.map_cons, List.map_nil]
    rw [P.opened, P.branch, P.verbose, P.branches]

/-- One group more in both drafts. -/
theorem group (P : Planted site d D) :
    Planted site { d with groups := d.groups + 1 }
      { D with groups := d.groups + 1 + site.groups } :=
  ⟨P.frame, P.outer, rfl, P.names, P.closed, P.limit, P.asked, P.globals⟩

/-- What a conditional asks for is noted in both drafts, unless it has been noted before. -/
theorem asking (P : Planted site d D) (i n m : Nat) :
    Planted site (if d.asked.any fun a => a.1 == i then d else { d with asked := (i, n) :: d.asked })
      (if D.asked.any fun a => a.1 == i then D else { D with asked := (i, m) :: D.asked }) := by
  have old : ∀ a ∈ D.asked, a.1 ∈ site.asked ∨ ∃ b ∈ (i, n) :: d.asked, b.1 = a.1 := by
    intro a ha
    rcases P.asked a ha with h | ⟨b, hb, heq⟩
    · exact .inl h
    · exact .inr ⟨b, List.mem_cons_of_mem _ hb, heq⟩
  split
  · rename_i known
    obtain ⟨b, hb, hbi⟩ := List.any_eq_true.mp known
    split
    · exact P
    · refine ⟨P.frame, P.outer, P.groups, P.names, P.closed, P.limit, fun a ha => ?_, P.globals⟩
      rcases List.mem_cons.mp ha with rfl | ha
      · exact .inr ⟨b, hb, by simpa using hbi⟩
      · exact P.asked a ha
  · split
    · exact ⟨P.frame, P.outer, P.groups, P.names, P.closed, P.limit, old, P.globals⟩
    · refine ⟨P.frame, P.outer, P.groups, P.names, P.closed, P.limit, fun a ha => ?_, P.globals⟩
      rcases List.mem_cons.mp ha with rfl | ha
      · exact .inr ⟨(i, n), List.mem_cons_self, rfl⟩
      · exact old a ha

/-- One group more, with a name, in both drafts. -/
theorem naming (P : Planted site d D) (name : List Char) :
    Planted site { d with groups := d.groups + 1, names := (name, d.groups + 1) :: d.names }
      { D with
        groups := d.groups + 1 + site.groups
        names := (name, d.groups + 1 + site.groups) :: D.names } := by
  refine ⟨P.frame, P.outer, rfl, ?_, P.closed, P.limit, P.asked, P.globals⟩
  rw [P.names]
  rfl

/-- Inside of what looks behind, the groups that are open now may be referred to in both drafts. -/
theorem limiting (P : Planted site d D) (behind : Bool) :
    Planted site { d with limit := if behind && d.limit.isNone then some (d.groups + 1) else d.limit }
      { D with limit := if behind && D.limit.isNone then some (D.groups + 1) else D.limit } := by
  have hgroups : D.groups + 1 = d.groups + 1 + site.groups := by
    rw [P.groups]
    omega
  refine ⟨P.frame, P.outer, P.groups, P.names, P.closed, ?_, P.asked, P.globals⟩
  simp only [P.limit, Option.isNone_map, hgroups]
  split <;> rfl

/-- A conditional that asks for a group by its number, where no group of the site can be meant. -/
theorem conditional (P : Planted site d D) (hzero : site.groups = 0) {i : Nat} (hi : 0 < i) {d' : Draft}
    {left after : Nat} (h : d.pushOpening (.conditional (.number i)) left after = .ok d')
    (left' after' : Nat) :
    ∃ D', D.pushOpening (.conditional (.number i)) left' after' = .ok D' ∧ Planted site d' D' := by
  unfold Draft.pushOpening at h
  obtain ⟨_, hcheck, h⟩ := bind_eq_ok.mp h
  obtain rfl := Except.ok.inj h
  -- A number that has been asked for before is not noted again, alone or at the site.
  generalize hdn : (if d.asked.any fun a => a.1 == i then d
    else { d with asked := (i, left - 3) :: d.asked }) = dn at hcheck ⊢
  generalize hDn : (if D.asked.any fun a => a.1 == i then D
    else { D with asked := (i, left' - 3) :: D.asked }) = Dn
  have noted : Planted site dn Dn := hdn ▸ hDn ▸ P.asking i _ _
  have hcond : Opened.planted site (.conditional i none) = .conditional i none := by
    simp only [Opened.planted, hzero, Nat.add_zero, Option.map_none]
  have hlimit := (noted.checkLimit_iff hi after after').mpr hcheck
  rw [hzero, Nat.add_zero] at hlimit
  refine ⟨Dn.enter (.conditional i none) D.frame.verbose left', ?_, ?_⟩
  · simp only [Draft.pushOpening, hDn]
    rw [hlimit]
    rfl
  · have entered := noted.enter (.conditional i none) d.frame.verbose left left'
    rw [hcond] at entered
    rw [P.verbose]
    exact entered

theorem opening (P : Planted site d D) (hd : d.Sound) {what : Opening} {d' : Draft}
    {left after : Nat} (hsound : (Lexeme.opening what).Sound) (hmoves : ¬ site.Moves (.opening what))
    (hbars : ¬ site.Bars (.opening what)) (h : d.pushOpening what left after = .ok d')
    (left' after' : Nat) :
    ∃ D', D.pushOpening what left' after' = .ok D' ∧ Planted site d' D' := by
  have number : D.groups + 1 = d.groups + 1 + site.groups := by
    rw [P.groups]
    omega
  unfold Draft.pushOpening at h
  split at h
  · obtain rfl := Except.ok.inj h
    refine ⟨_, rfl, ?_⟩
    rw [P.verbose, number]
    exact P.group.enter (.capture (d.groups + 1)) _ _ _
  · rename_i name
    split at h
    · simp [fault] at h
    rename_i hnew
    obtain rfl := Except.ok.inj h
    have hfree : site.names.lookup name = none := by
      cases hname : site.names.lookup name with
      | none => rfl
      | some i => exact absurd (.inr ⟨name, rfl, by simp [hname]⟩) hbars
    have hnew' : D.names.lookup name = none := by rw [P.lookup_new_name hnew, hfree]
    refine ⟨({ D with groups := D.groups + 1, names := (name, D.groups + 1) :: D.names }).enter
      (.capture (D.groups + 1)) D.frame.verbose left', ?_, ?_⟩
    · simp only [Draft.pushOpening, hnew']
    · rw [P.verbose, number]
      exact (P.naming name).enter (.capture (d.groups + 1)) _ _ _
  · rename_i change
    obtain rfl := Except.ok.inj h
    refine ⟨_, rfl, ?_⟩
    rw [P.verbose]
    exact P.enter (.scoped change) _ _ _
  · obtain rfl := Except.ok.inj h
    refine ⟨_, rfl, ?_⟩
    rw [P.verbose]
    exact P.enter .atomic _ _ _
  · rename_i behind negative
    obtain rfl := Except.ok.inj h
    refine ⟨_, rfl, ?_⟩
    have hlook : Opened.planted site (.look behind negative d.limit)
        = .look behind negative D.limit := by
      rw [P.limit]
      rfl
    rw [P.verbose, ← hlook]
    exact (P.limiting behind).enter _ _ _ _
  · rename_i name
    split at h
    · simp [fault] at h
    rename_i i hname
    obtain ⟨_, hcheck, h⟩ := bind_eq_ok.mp h
    obtain rfl := Except.ok.inj h
    have hi : 0 < i := (hd.names _ (Draft.lookup_mem hname)).1
    refine ⟨D.enter (.conditional (i + site.groups) none) D.frame.verbose left', ?_, ?_⟩
    · simp only [Draft.pushOpening, P.lookup_name hname]
      rw [(P.checkLimit_iff hi after after').mpr hcheck]
      rfl
    · rw [P.verbose]
      exact P.enter (.conditional i none) _ _ _
  · exact P.conditional (site.groups_eq_zero hmoves rfl) hsound h left' after'

/-- A parenthesis that the text has opened is closed in both drafts. The one around the text stays
    open: alone, the text could not close it. -/
theorem closing (P : Planted site d D) (hd : d.Sound) {d' : Draft} {left : Nat}
    (h : d.pushClosing left = .ok d') (left' : Nat) :
    ∃ D', D.pushClosing left' = .ok D' ∧ Planted site d' D' := by
  have hopened := P.opened
  have houter := P.outer
  have hbody := P.body
  have hbranch := P.branch
  have hwidth := P.body_width hd
  rw [hbody] at hwidth
  unfold Draft.pushClosing at h
  split at h
  · simp [fault] at h
  rename_i frame outer heq
  rw [heq, List.map_cons, List.cons_append] at houter
  obtain ⟨Frame, Outer, hOuter, hframe, hrest⟩ := List.map_eq_cons_iff.mp houter
  have back : Planted site { d with frame := frame, outer := outer }
      { D with frame := Frame, outer := Outer } :=
    ⟨hframe, hrest, P.groups, P.names, P.closed, P.limit, P.asked, P.globals⟩
  dsimp only at h
  split at h
  · simp [fault] at h
  · rename_i i ho
    obtain rfl := Except.ok.inj h
    rw [ho] at hopened
    have closed : Planted site
        { d with
          frame := frame
          outer := outer
          closed := (i, d.frame.body.width d.groupWidth) :: d.closed }
        { D with
          frame := Frame
          outer := Outer
          closed := (i + site.groups, d.frame.body.width d.groupWidth) :: D.closed } := by
      refine ⟨hframe, hrest, P.groups, P.names, ?_, P.limit, P.asked, P.globals⟩
      rw [P.closed]
      rfl
    refine ⟨_, ?_, closed.withItem (.group i d.frame.body)⟩
    simp only [Draft.pushClosing, hOuter, hopened, Opened.planted, hwidth, hbody, Regex.shift]
  · rename_i change ho
    obtain rfl := Except.ok.inj h
    rw [ho] at hopened
    refine ⟨_, ?_, back.withItem (.scoped change d.frame.body)⟩
    simp only [Draft.pushClosing, hOuter, hopened, Opened.planted, hbody, Regex.shift]
  · rename_i ho
    obtain rfl := Except.ok.inj h
    rw [ho] at hopened
    refine ⟨_, ?_, back.withItem (.atomic d.frame.body)⟩
    simp only [Draft.pushClosing, hOuter, hopened, Opened.planted, hbody, Regex.shift]
  · rename_i negative limit ho
    obtain rfl := Except.ok.inj h
    rw [ho] at hopened
    refine ⟨_, ?_, (back.withLimit limit).withItem (.lookahead negative d.frame.body)⟩
    simp only [Draft.pushClosing, hOuter, hopened, Opened.planted, hbody, Regex.shift]
  · rename_i negative limit ho
    obtain rfl := Except.ok.inj h
    rw [ho] at hopened
    refine ⟨_, ?_, (back.withLimit limit).withItem (.lookbehind negative _ d.frame.body)⟩
    simp only [Draft.pushClosing, hOuter, hopened, Opened.planted, hwidth, hbody, Regex.shift]
  · rename_i i ho
    obtain rfl := Except.ok.inj h
    rw [ho] at hopened
    refine ⟨_, ?_, back.withItem (.conditional i d.frame.branch .empty)⟩
    simp only [Draft.pushClosing, hOuter, hopened, Opened.planted, Option.map_none, hbranch, Regex.shift]
  · rename_i i yes ho
    obtain rfl := Except.ok.inj h
    rw [ho] at hopened
    refine ⟨_, ?_, back.withItem (.conditional i yes d.frame.branch)⟩
    simp only [Draft.pushClosing, hOuter, hopened, Opened.planted, Option.map_some, hbranch, Regex.shift]

/-- **Step.** A lexeme that is neither barred nor means another group does at a site what it does
    alone. -/
theorem push (P : Planted site d D) (hd : d.Sound) {l : Lexeme} {d' : Draft} {left after : Nat}
    (hl : l.Sound) (hmoves : ¬ site.Moves l) (hbars : ¬ site.Bars l)
    (h : d.push l left after = .ok d') (left' after' : Nat) :
    ∃ D', D.push l left' after' = .ok D' ∧ Planted site d' D' := by
  cases l with
  | skip =>
    obtain rfl := Except.ok.inj h
    exact ⟨D, rfl, P⟩
  | item r =>
    obtain rfl := Except.ok.inj h
    have item := P.withItem r
    rw [Regex.shift_leaf hl] at item
    exact ⟨_, rfl, item⟩
  | reference ref => exact P.reference hd hl hmoves h left' after'
  | rounds greed least most => exact P.rounds h left'
  | bar => exact P.bar h left'
  | opening what => exact P.opening hd hl hmoves hbars h left' after'
  | closing => exact P.closing hd h left'
  | globalFlags letters => exact absurd (.inl rfl) hbars

/-- A barred lexeme is a fault. -/
theorem push_barred (P : Planted site d D) (hinside : site.outer ≠ []) {l : Lexeme} {d' : Draft}
    {left after : Nat} (hbars : site.Bars l) (h : d.push l left after = .ok d') (left' after' : Nat) :
    (D.push l left' after').Malformed := by
  rcases hbars with hglobal | ⟨name, hname, htaken⟩
  · cases l with
    | globalFlags letters =>
      refine ⟨.globalFlagsLate, some left', ?_⟩
      simp [Draft.push, Draft.pushGlobals, P.outer_ne_nil hinside, fault]
    | _ => simp [Lexeme.isGlobal] at hglobal
  · cases l with
    | opening what =>
      cases what with
      | capture name? =>
        obtain rfl : name? = some name := hname
        have hnew : d.names.lookup name = none := by
          simp only [Draft.push, Draft.pushOpening] at h
          split at h
          · simp [fault] at h
          · assumption
        obtain ⟨i, hi⟩ := Option.isSome_iff_exists.mp htaken
        rw [← P.lookup_new_name hnew] at hi
        refine ⟨.groupDefinedTwice name (D.groups + 1) i, some (after' + name.length + 1), ?_⟩
        simp only [Draft.push, Draft.pushOpening, hi, fault]
      | _ => simp [Lexeme.groupName?] at hname
    | _ => simp [Lexeme.groupName?] at hname

/-! ### No more is added at a site than alone -/

theorem reference_back (P : Planted site d D) (hd : d.Sound) {ref : GroupRef}
    (hsound : (Lexeme.reference ref).Sound) (hmoves : ¬ site.Moves (.reference ref))
    (hknown : ∀ name, (Lexeme.reference ref).name? = some name → ∃ i, d.names.lookup name = some i)
    {D' : Draft} {left' after' : Nat} (h : D.pushReference ref left' after' = .ok D')
    (left after : Nat) : ∃ d', d.pushReference ref left after = .ok d' := by
  cases ref with
  | number i =>
    have hzero := site.groups_eq_zero hmoves rfl
    have hgroups := P.groups
    have hclosed := P.isClosed hsound
    have hlimit := (P.checkLimit_iff hsound after after').mp
    simp only [hzero, Nat.add_zero] at hgroups hclosed hlimit
    simp only [Draft.pushReference] at h ⊢
    split at h
    · simp [fault] at h
    rename_i hle
    split at h
    · simp [fault] at h
    rename_i hopen
    obtain ⟨_, hcheck, -⟩ := bind_eq_ok.mp h
    rw [hgroups] at hle
    rw [hclosed] at hopen
    rw [if_neg hle, if_neg hopen, hlimit hcheck]
    exact ⟨_, rfl⟩
  | name name =>
    obtain ⟨i, hname⟩ := hknown name rfl
    have hi : 0 < i := (hd.names _ (Draft.lookup_mem hname)).1
    simp only [Draft.pushReference, P.lookup_name hname] at h
    simp only [Draft.pushReference, hname]
    split at h
    · simp [fault] at h
    rename_i hopen
    obtain ⟨_, hcheck, -⟩ := bind_eq_ok.mp h
    rw [P.isClosed hi] at hopen
    rw [if_neg hopen, (P.checkLimit_iff hi after after').mp hcheck]
    exact ⟨_, rfl⟩

theorem rounds_back (P : Planted site d D) {greed : Greed} {least : Nat} {most : Option Nat}
    {D' : Draft} {left' : Nat} (h : D.pushRounds greed least most left' = .ok D') (left : Nat) :
    ∃ d', d.pushRounds greed least most left = .ok d' := by
  have hitems := P.items
  unfold Draft.pushRounds at h ⊢
  cases heq : d.frame.items with
  | nil =>
    rw [heq, List.map_nil] at hitems
    simp [hitems, fault] at h
  | cons item items =>
    rw [heq, List.map_cons] at hitems
    simp only [hitems, Regex.repeatable_shift] at h
    dsimp only
    cases hrep : item.repeatable with
    | place => simp [hrep, fault] at h
    | repetition => simp [hrep, fault] at h
    | yes => exact ⟨_, rfl⟩

theorem bar_back (P : Planted site d D) {D' : Draft} {left' : Nat} (h : D.pushBar left' = .ok D')
    (left : Nat) : ∃ d', d.pushBar left = .ok d' := by
  have hopened := P.opened
  unfold Draft.pushBar
  split
  · exact ⟨_, rfl⟩
  · rename_i i yes heq
    rw [heq] at hopened
    simp [Draft.pushBar, hopened, Opened.planted, fault] at h
  · exact ⟨_, rfl⟩

theorem opening_back (P : Planted site d D) (hd : d.Sound) {what : Opening}
    (hsound : (Lexeme.opening what).Sound) (hmoves : ¬ site.Moves (.opening what))
    (hknown : ∀ name, (Lexeme.opening what).name? = some name → ∃ i, d.names.lookup name = some i)
    {D' : Draft} {left' after' : Nat} (h : D.pushOpening what left' after' = .ok D')
    (left after : Nat) : ∃ d', d.pushOpening what left after = .ok d' := by
  unfold Draft.pushOpening
  split
  · exact ⟨_, rfl⟩
  · rename_i name
    dsimp only
    cases hname : d.names.lookup name with
    | none => exact ⟨_, rfl⟩
    | some i => simp [Draft.pushOpening, P.lookup_name hname, fault] at h
  · exact ⟨_, rfl⟩
  · exact ⟨_, rfl⟩
  · exact ⟨_, rfl⟩
  · rename_i name
    obtain ⟨i, hname⟩ := hknown name rfl
    have hi : 0 < i := (hd.names _ (Draft.lookup_mem hname)).1
    simp only [Draft.pushOpening, P.lookup_name hname] at h
    obtain ⟨_, hcheck, -⟩ := bind_eq_ok.mp h
    simp only [hname]
    rw [(P.checkLimit_iff hi after after').mp hcheck]
    exact ⟨_, rfl⟩
  · rename_i i
    obtain ⟨_, hcheck, -⟩ := bind_eq_ok.mp h
    have hlimit := ((P.asking i (left - 3) (left' - 3)).checkLimit_iff hsound after after').mp
    rw [site.groups_eq_zero hmoves rfl, Nat.add_zero] at hlimit
    dsimp only
    rw [hlimit hcheck]
    exact ⟨_, rfl⟩

/-- **Step back.** A lexeme that is added at a site is added alone too, unless it closes the parenthesis
    around the text or refers to a name that is known only at the site. -/
theorem push_back (P : Planted site d D) (hinside : site.outer ≠ []) (hd : d.Sound) {l : Lexeme}
    (hl : l.Sound) (hmoves : ¬ site.Moves l)
    (hknown : ∀ name, l.name? = some name → ∃ i, d.names.lookup name = some i)
    (hclosing : l = .closing → d.outer ≠ []) {D' : Draft} {left' after' : Nat}
    (h : D.push l left' after' = .ok D') (left after : Nat) :
    ∃ d', d.push l left after = .ok d' := by
  cases l with
  | skip => exact ⟨d, rfl⟩
  | item r => exact ⟨_, rfl⟩
  | reference ref => exact P.reference_back hd hl hmoves hknown h left after
  | rounds greed least most => exact P.rounds_back h left
  | bar => exact P.bar_back h left
  | opening what => exact P.opening_back hd hl hmoves hknown h left after
  | closing => exact hd.pushClosing_ok (hclosing rfl) left
  | globalFlags letters =>
    simp [Draft.push, Draft.pushGlobals, P.outer_ne_nil hinside, fault] at h

end Planted

/-! ### Whole texts -/

section Texts

variable {n : Nat} {isOpen : Bool} {d e D : Draft} {s : List Char} {ls : List Lexeme} {site : Site}

/-- **Run.** A text that is read alone is read in the same way at a site, unless it contains a lexeme
    that is barred there. -/
theorem Draft.Reads.planted (h : Reads n isOpen d s ls e) (P : Planted site d D) (hd : d.Sound)
    (hmoves : ∀ l ∈ ls, ¬ site.Moves l) (hfree : ∀ l ∈ ls, ¬ site.Bars l) (m : Nat) :
    ∃ E, Reads m isOpen D s ls E ∧ Planted site e E := by
  induction h generalizing D with
  | done d => exact ⟨D, .done D, P⟩
  | comment hopen => exact ⟨D, .comment (P.verbose ▸ hopen), P⟩
  | @step isOpen d d' e c rest rest' l ls hl pass hp hs ih =>
    have hsound := readLexeme_sound hl
    obtain ⟨D', hpush, P'⟩ := P.push hd hsound (hmoves l List.mem_cons_self)
      (hfree l List.mem_cons_self) hp (rest.length + 1 + m) (rest'.length + m)
    obtain ⟨E, hreads, PE⟩ := ih P' (push_sound hd hsound hp)
      (fun k hk => hmoves k (List.mem_cons_of_mem l hk))
      (fun k hk => hfree k (List.mem_cons_of_mem l hk))
    rw [← P.verbose] at hl pass
    exact ⟨E, .step hl pass hpush hreads, PE⟩

/-- A text with a barred lexeme is malformed between parentheses. -/
theorem Draft.Reads.barred (h : Reads n isOpen d s ls e) (P : Planted site d D)
    (hinside : site.outer ≠ []) (hd : d.Sound) (hmoves : ∀ l ∈ ls, ¬ site.Moves l)
    (hbars : ∃ l ∈ ls, site.Bars l) (t : List Char) : (D.readAll (s ++ ')' :: t)).Malformed := by
  induction h generalizing D with
  | done d => simp at hbars
  | comment hopen => simp [Site.Bars, Lexeme.isGlobal, Lexeme.groupName?] at hbars
  | @step isOpen d d' e c rest rest' l ls hl pass hp hs ih =>
    have hsound := readLexeme_sound hl
    rw [List.cons_append, readAll_cons, P.verbose, pass.beyond t]
    simp only [bind, Except.bind]
    by_cases hbar : site.Bars l
    · obtain ⟨cause, left, hfault⟩ := P.push_barred hinside hbar hp
        ((rest ++ ')' :: t).length + 1) (rest' ++ ')' :: t).length
      exact ⟨cause, left, by rw [hfault]⟩
    · obtain ⟨D', hpush, P'⟩ := P.push hd hsound (hmoves l List.mem_cons_self) hbar hp
        ((rest ++ ')' :: t).length + 1) (rest' ++ ')' :: t).length
      rw [hpush]
      refine ih P' (push_sound hd hsound hp) (fun k hk => hmoves k (List.mem_cons_of_mem l hk)) ?_
      obtain ⟨k, hk, hkbar⟩ := hbars
      rcases List.mem_cons.mp hk with rfl | hk
      · exact absurd hkbar hbar
      · exact ⟨k, hk, hkbar⟩

end Texts

end TextCriteria.Pattern
