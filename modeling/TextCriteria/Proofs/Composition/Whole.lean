import TextCriteria.Composition
import TextCriteria.Proofs.Pattern.Row

namespace TextCriteria.Pattern

/-!
# Whole fragments

A fragment is whole if what it asks for is a pattern by itself and remains one between the parentheses
that are put around it in a row.

* `ReadThrough`, `ReadAlone` — a text that is read to its end and leaves nothing open there.
* `Fragment.core` — what a fragment asks for, without parentheses around it that look ahead.
* `Fragment.tree`, `Fragment.groupCount`, `Fragment.groupNames`, `Fragment.refersByNumber` — its tree
  and groups, read alone.
* `Fragment.Whole` — the condition; `Fragment.whole_iff` says what it comes to.
* `Fragment.render_accepts` — a whole fragment compiled alone accepts what its tree matches.
* `Fragment.whole_or_malformed` — a fragment whose body is a pattern by itself is whole or malformed.
-/

variable {flags : Flags} {text : String} {ls : List Lexeme}

/-- A text that is read to its end: nothing is left open, nothing is missing, and no flags of the whole
    pattern are set. -/
structure ReadThrough (flags : Flags) (text : String) (ls : List Lexeme) : Prop where
  reads : Draft.Reads 0 false (Draft.start flags.verbose text.toList.length) text.toList ls
    (draftOf flags text)
  outer : (draftOf flags text).outer = []
  missing : (draftOf flags text).missingGroup? = none
  globals : ∀ l ∈ ls, l.isGlobal = false

/-- A text that is read to its end, with nothing in its tree that is refused. -/
structure ReadAlone (flags : Flags) (text : String) (ls : List Lexeme) : Prop
    extends ReadThrough flags text ls where
  fault : (draftOf flags text).frame.body.fault? flags.template = none

namespace ReadThrough

theorem lexemesOf_eq (h : ReadThrough flags text ls) : lexemesOf flags text = ls :=
  h.reads.lexemes_eq

/-- The groups of a text are numbered from one on. -/
theorem within (h : ReadThrough flags text ls) :
    (draftOf flags text).frame.body.Within (groupsOf flags text) :=
  (h.reads.sound (Draft.start_sound _ _)).frame.body

theorem asked_le (h : ReadThrough flags text ls) :
    ∀ a ∈ (draftOf flags text).asked, a.1 ≤ groupsOf flags text :=
  Draft.missingGroup?_eq_none.mp h.missing

/-- What a text contains is barred elsewhere only for the names of its groups. -/
theorem barred_iff (h : ReadThrough flags text ls) {D d : Draft}
    (hnames : d.names.map Prod.fst = namesOf flags text) :
    Draft.Barred D d ls ↔ ∃ name ∈ namesOf flags text, name ∈ D.names.map Prod.fst := by
  have htaken : ∀ name, (D.names.lookup name).isSome = true ↔ name ∈ D.names.map Prod.fst := by
    intro name
    rw [List.lookup_isSome_iff, List.mem_map]
    exact ⟨fun ⟨e, he, heq⟩ => ⟨e, he, (eq_of_beq heq).symm⟩,
      fun ⟨e, he, heq⟩ => ⟨e, he, beq_iff_eq.mpr heq.symm⟩⟩
  simp only [← htaken, ← hnames]
  constructor
  · rintro (⟨l, hl, hglobal⟩ | htaken)
    · rw [h.globals l hl] at hglobal
      cases hglobal
    · exact htaken
  · exact .inr

theorem free (h : ReadThrough flags text ls) {D : Draft} (hD : D.names = []) :
    ¬ Draft.Barred D (draftOf flags text) ls := by
  rw [h.barred_iff rfl, hD]
  simp

end ReadThrough

/-- A text compiles to its tree. -/
theorem ReadAlone.compileChars_eq (h : ReadAlone flags text ls) (hflags : flags.Accepted) :
    compileChars text.toList flags = .ok (flags.inForce, (draftOf flags text).frame.body) :=
  compileChars_eq_ok hflags (Draft.readAll_eq_ok.mpr ⟨_, _, h.reads⟩) (h.reads.globals h.globals)
    ⟨h.outer, h.missing, h.fault⟩

/-- A text that compiles has been read, but perhaps with a comment left open or with flags of the whole
    pattern in it. -/
theorem Compiles.reads (h : Compiles flags text) :
    ∃ isOpen ls, Draft.Reads 0 isOpen (Draft.start flags.verbose text.toList.length) text.toList ls
        (draftOf flags text) ∧
      (draftOf flags text).outer = [] ∧
      (isOpen = false → (∀ l ∈ ls, l.isGlobal = false) → flags.Accepted ∧ ReadAlone flags text ls) := by
  obtain ⟨c, hcompile⟩ := h
  obtain ⟨x, hx, -⟩ := compile_eq_ok.mp hcompile
  obtain ⟨d, hread, hd, -, hforce⟩ := compileChars_complete hx
  obtain ⟨isOpen, ls, hreads⟩ := Draft.readAll_eq_ok.mp hread
  obtain rfl := draftOf_eq hread
  refine ⟨isOpen, ls, hreads, hd.outer, fun hclosed hglobals => ?_⟩
  obtain ⟨haccepted, hinForce⟩ := hforce (hreads.globals hglobals)
  rw [hinForce, Flags.inForce_template] at hd
  exact ⟨haccepted, ⟨hclosed ▸ hreads, hd.outer, hd.missing, hglobals⟩, hd.fault⟩

end TextCriteria.Pattern

namespace TextCriteria.Fragment

open TextCriteria.Pattern

variable {flags : Flags} {f : Fragment} {ls : List Lexeme}

/-! ### What a fragment asks for -/

/-- What a fragment asks for at the start of a text. -/
def core (f : Fragment) : String :=
  match f.kind with
  | .lookahead => f.body
  | .anchored => f.render

/-- The tree of what a fragment asks for. -/
def tree (f : Fragment) (flags : Flags) : Regex := (draftOf flags f.core).frame.body

/-- How many groups a fragment opens. -/
def groupCount (f : Fragment) (flags : Flags) : Nat := groupsOf flags f.core

/-- The names that a fragment gives to groups. -/
def groupNames (f : Fragment) (flags : Flags) : List (List Char) := namesOf flags f.core

/-- Whether a fragment refers to a group by its number. -/
def refersByNumber (f : Fragment) (flags : Flags) : Bool :=
  (lexemesOf flags f.core).any Lexeme.refersByNumber

/-- Whether a text has at its start what a fragment asks for. -/
def holds (f : Fragment) (flags : Flags) (value : String) : Bool :=
  ((f.tree flags).run value.toList.toArray flags.inForce.modes some { pos := 0 }).isSome

/-- What the fragment asks for is a pattern by itself, and one between the parentheses of a row. -/
structure Whole (flags : Flags) (f : Fragment) : Prop where
  core : Compiles flags f.core
  lookahead : Compiles flags f.asLookahead

/-! ### The texts of a fragment -/

/-- In a row every fragment is written as a look ahead at what it asks for. -/
theorem asLookahead_eq (f : Fragment) : f.asLookahead = "(?=" ++ f.core ++ ")" := by
  cases hk : f.kind <;> simp only [asLookahead, core, render, hk]

theorem toList_asLookahead (f : Fragment) :
    f.asLookahead.toList = '(' :: '?' :: '=' :: (f.core.toList ++ ')' :: []) := by
  rw [asLookahead_eq, String.toList_append, String.toList_append]
  rfl

theorem core_lookahead (h : f.kind = .lookahead) : f.core = f.body := by
  simp only [core, h]

theorem core_anchored (h : f.kind = .anchored) : f.core = f.render := by
  simp only [core, h]

theorem render_lookahead (h : f.kind = .lookahead) : f.render = f.asLookahead := by
  simp only [asLookahead, h]

theorem toList_anchored (h : f.kind = .anchored) :
    f.render.toList = '^' :: '(' :: '?' :: ':' :: (f.body.toList ++ ')' :: ['\\', 'Z']) := by
  simp only [render, h]
  rw [String.toList_append, String.toList_append]
  rfl

/-! ### Whole fragments -/

/-- Between the parentheses of a look ahead stands the tree. -/
theorem readText_asLookahead (h : ReadThrough flags f.core ls) :
    ∃ D, readText flags f.asLookahead.toList = .ok D ∧ D.globals = [] ∧
      D.Row flags.verbose [.lookahead false (f.tree flags)] := by
  have ready := Draft.start_ready flags.verbose f.asLookahead.toList.length
  rcases Draft.readAll_lookahead ready h.reads h.outer [] with
    ⟨-, D, hgrows, -, heq⟩ | ⟨hbarred, -⟩
  · have row := (Draft.Row.start flags.verbose _).grow hgrows h.asked_le
    exact ⟨D, (congrArg (Draft.readAll _) (toList_asLookahead f)).trans heq, hgrows.globals, row⟩
  · exact absurd hbarred (h.free rfl)

/-- The look ahead compiles to a look ahead at the tree. -/
theorem compileChars_asLookahead (hflags : flags.Accepted) (h : ReadAlone flags f.core ls) :
    compileChars f.asLookahead.toList flags
      = .ok (flags.inForce, Regex.ofItems [.lookahead false (f.tree flags)]) := by
  obtain ⟨D, hread, hglobals, row⟩ := readText_asLookahead h.toReadThrough
  have hfault : (f.tree flags).fault? flags.template = none := h.fault
  have hcompile := compileChars_eq_ok hflags hread hglobals
    (row.complete (by simpa [Regex.fault?] using hfault))
  rwa [row.body] at hcompile

/-- A fragment is whole exactly when it is read in lexemes of which the last one leaves nothing open,
    and none asks for flags of the whole pattern. -/
theorem whole_iff : f.Whole flags ↔ flags.Accepted ∧ ∃ ls, ReadAlone flags f.core ls := by
  constructor
  · intro h
    obtain ⟨isOpen, ls, hreads, houter, halone⟩ := h.core.reads
    obtain ⟨c, hlook⟩ := h.lookahead
    obtain ⟨y, hy, -⟩ := compile_eq_ok.mp hlook
    obtain ⟨E, hreadE, hE, -⟩ := compileChars_complete hy
    rw [toList_asLookahead] at hreadE
    have ready := Draft.start_ready flags.verbose
      ('(' :: '?' :: '=' :: (f.core.toList ++ [')'])).length
    cases isOpen with
    | true =>
      -- An open comment takes the closing parenthesis, so the look ahead would not compile.
      have hend : skipLine [] = .ok [] := rfl
      rcases Draft.readAll_lookahead_open ready hreads hend with
        ⟨E', hE', heq⟩ | ⟨cause, left, heq⟩
      · obtain rfl := Except.ok.inj (hreadE.symm.trans heq)
        exact absurd hE.outer hE'
      · cases hreadE.symm.trans heq
    | false =>
      rcases Draft.readAll_lookahead ready hreads houter [] with
        ⟨hfree, -⟩ | ⟨-, cause, left, heq⟩
      · obtain ⟨haccepted, hread⟩ := halone rfl fun l hl => by
          cases hg : l.isGlobal with
          | false => rfl
          | true => exact absurd (.inl ⟨l, hl, hg⟩) hfree
        exact ⟨haccepted, ls, hread⟩
      · cases hreadE.symm.trans heq
  · rintro ⟨hflags, ls, h⟩
    exact ⟨⟨_, compile_eq_ok.mpr ⟨_, h.compileChars_eq hflags, rfl⟩⟩,
      ⟨_, compile_eq_ok.mpr ⟨_, compileChars_asLookahead hflags h, rfl⟩⟩⟩

/-- The fragment compiled alone accepts the texts that have at their start what it asks for. -/
theorem render_accepts (hflags : flags.Accepted) (h : ReadAlone flags f.core ls) :
    ∃ c, compile f.render flags = .ok c ∧ ∀ value, c.accepts value = f.holds flags value := by
  cases hk : f.kind with
  | anchored =>
    rw [← core_anchored hk]
    refine ⟨_, compile_eq_ok.mpr ⟨_, h.compileChars_eq hflags, rfl⟩, fun value => ?_⟩
    simp only [Compiled.accepts, Compiled.match?, Regex.matchAt, Option.isSome_map, holds, tree]
  | lookahead =>
    rw [render_lookahead hk]
    refine ⟨_, compile_eq_ok.mpr ⟨_, compileChars_asLookahead hflags h, rfl⟩, fun value => ?_⟩
    simp only [Compiled.accepts, Compiled.match?, Regex.matchAt, Option.isSome_map, holds,
      Regex.ofItems, Regex.run]
    cases (f.tree flags).run value.toList.toArray flags.inForce.modes some { pos := 0 } <;> rfl

/-- So does whatever a whole fragment compiles to. -/
theorem Whole.accepts_eq (h : f.Whole flags) {c : Compiled} (hc : compile f.render flags = .ok c)
    (value : String) : c.accepts value = f.holds flags value := by
  obtain ⟨hflags, ls, halone⟩ := whole_iff.mp h
  obtain ⟨c', hc', haccepts⟩ := render_accepts hflags halone
  obtain rfl := Except.ok.inj (hc.symm.trans hc')
  exact haccepts value

/-! ### Bodies that are patterns by themselves -/

/-- The items between the start of a line and the end of the text. -/
def anchoredItems (body : Regex) : List Regex :=
  [.anchor .lineStart, .scoped {} body, .anchor .textEnd]

theorem fault?_anchoredItems {template : Bool} {body : Regex} :
    (∀ r ∈ anchoredItems body, r.fault? template = none) ↔ body.fault? template = none := by
  simp [anchoredItems, Regex.fault?]

/-- From the first position, the body is matched up to the end of the text. -/
theorem anchoredItems_run (body : Regex) (text : Array Char) (m : Modes) :
    (Regex.ofItems (anchoredItems body)).run text m some { pos := 0 }
      = body.run text m (fun q => if q.pos == text.size then some q else none) { pos := 0 } := by
  simp [anchoredItems, Regex.ofItems, Regex.run, Anchor.holds]

/-- The start of a line, the body and the end of the text. -/
theorem readText_anchored (h : ReadThrough flags f.body ls) (hk : f.kind = .anchored) :
    ∃ D, readText flags f.render.toList = .ok D ∧ D.globals = [] ∧
      D.groups = groupsOf flags f.body ∧
      D.Row flags.verbose (anchoredItems (draftOf flags f.body).frame.body) := by
  have ready := Draft.start_ready flags.verbose f.render.toList.length
  rcases Draft.readAll_anchored ready h.reads h.outer [] with
    ⟨-, D, hgrows, heq⟩ | ⟨hbarred, -⟩
  · have row := (Draft.Row.start flags.verbose _).grow hgrows h.asked_le
    exact ⟨D, (congrArg (Draft.readAll _) (toList_anchored hk)).trans heq, hgrows.globals,
      hgrows.groups, row⟩
  · exact absurd hbarred (h.free rfl)

theorem tree_anchored (h : ReadThrough flags f.body ls) (hk : f.kind = .anchored) :
    f.tree flags = Regex.ofItems (anchoredItems (draftOf flags f.body).frame.body) := by
  obtain ⟨D, hread, -, -, row⟩ := readText_anchored h hk
  rw [tree, core_anchored hk, draftOf_eq hread, row.body]

/-- The same between the parentheses of a look ahead. -/
theorem readText_anchored_lookahead (h : ReadThrough flags f.body ls) (hk : f.kind = .anchored) :
    ∃ D, readText flags f.asLookahead.toList = .ok D ∧ D.globals = [] ∧
      D.Row flags.verbose
        [.lookahead false (Regex.ofItems (anchoredItems (draftOf flags f.body).frame.body))] := by
  have ready := Draft.start_ready flags.verbose f.asLookahead.toList.length
  have hlist : f.asLookahead.toList = '(' :: '?' :: '=' :: '^' :: '(' :: '?' :: ':' ::
      (f.body.toList ++ ')' :: '\\' :: 'Z' :: [')']) := by
    rw [toList_asLookahead, core_anchored hk, toList_anchored hk]
    simp
  obtain ⟨left, hopen⟩ := Draft.readAll_look ready
    ('^' :: '(' :: '?' :: ':' :: (f.body.toList ++ ')' :: '\\' :: 'Z' :: [')']))
  have ready' := ready.enter Draft.plain_look flags.verbose left
  rcases Draft.readAll_anchored ready' h.reads h.outer [')'] with
    ⟨-, D, hgrows, heq⟩ | ⟨hbarred, -⟩
  · obtain ⟨D', hgrows', -, heq'⟩ := hgrows.readAll_closing []
    have row := (Draft.Row.start flags.verbose _).grow hgrows' h.asked_le
    exact ⟨D', (congrArg (Draft.readAll _) hlist).trans (hopen.trans (heq.trans heq')),
      hgrows'.globals, row⟩
  · exact absurd hbarred (h.free rfl)

/-- A body that leaves nothing open makes a whole fragment, of either kind. -/
theorem whole_of_body (hflags : flags.Accepted) (h : ReadAlone flags f.body ls) :
    f.Whole flags ∧ f.groupCount flags = groupsOf flags f.body := by
  cases hk : f.kind with
  | lookahead =>
    have hcore := core_lookahead hk
    exact ⟨whole_iff.mpr ⟨hflags, ls, hcore ▸ h⟩, by rw [groupCount, hcore]⟩
  | anchored =>
    have hcore := core_anchored hk
    obtain ⟨D, hread, hglobal, hgroups, row⟩ := readText_anchored h.toReadThrough hk
    obtain ⟨E, hreadE, hglobalE, rowE⟩ := readText_anchored_lookahead h.toReadThrough hk
    have hfault := fault?_anchoredItems.mpr h.fault
    refine ⟨⟨?_, ?_⟩, ?_⟩
    · rw [hcore]
      exact ⟨_, compile_eq_ok.mpr ⟨_, compileChars_eq_ok hflags hread hglobal (row.complete hfault),
        rfl⟩⟩
    · have hfaultE : (Regex.ofItems (anchoredItems (draftOf flags f.body).frame.body)).fault?
          flags.template = none := Regex.fault?_ofItems.mpr hfault
      exact ⟨_, compile_eq_ok.mpr ⟨_, compileChars_eq_ok hflags hreadE hglobalE
        (rowE.complete (by simpa [Regex.fault?] using hfaultE)), rfl⟩⟩
    · rw [groupCount, hcore, groupsOf, draftOf_eq hread, hgroups]

/-- A body that sets flags of the whole pattern, or ends in an open comment, is malformed inside of a
    fragment. -/
theorem malformed_of_body (hflags : flags.Accepted) {isOpen : Bool}
    (h : Draft.Reads 0 isOpen (Draft.start flags.verbose f.body.toList.length) f.body.toList ls
      (draftOf flags f.body))
    (houter : (draftOf flags f.body).outer = [])
    (hbad : isOpen = true ∨ ∃ l ∈ ls, l.isGlobal = true) : (compile f.render flags).Malformed := by
  have ready := Draft.start_ready flags.verbose f.render.toList.length
  -- The outcome is the same for the two kinds of fragments, only the parentheses differ.
  have hread : (∃ E, E.outer ≠ [] ∧ readText flags f.render.toList = .ok E) ∨
      (readText flags f.render.toList).Malformed := by
    cases hk : f.kind with
    | lookahead =>
      rw [render_lookahead hk, toList_asLookahead, core_lookahead hk] at ready ⊢
      cases isOpen with
      | true => exact Draft.readAll_lookahead_open ready h rfl
      | false =>
        have hglobal := hbad.resolve_left (by simp)
        rcases Draft.readAll_lookahead ready h houter [] with
          ⟨hfree, -⟩ | ⟨-, hfault⟩
        · exact absurd (.inl hglobal) hfree
        · exact .inr hfault
    | anchored =>
      rw [toList_anchored hk] at ready ⊢
      cases isOpen with
      | true => exact Draft.readAll_anchored_open ready h
      | false =>
        have hglobal := hbad.resolve_left (by simp)
        rcases Draft.readAll_anchored ready h houter [] with
          ⟨hfree, -⟩ | ⟨-, hfault⟩
        · exact absurd (.inl hglobal) hfree
        · exact .inr hfault
  rcases hread with ⟨E, hE, heq⟩ | hfault
  · exact compile_malformed (compileChars_malformed_of_open heq hE)
  · exact compile_malformed (compileChars_malformed_of_read hflags hfault)

/-- A body whose tree is refused makes a fragment whose tree is. -/
theorem malformed_of_fault (hflags : flags.Accepted) (h : ReadThrough flags f.body ls)
    (hfault : (draftOf flags f.body).frame.body.fault? flags.template ≠ none) :
    (compile f.render flags).Malformed := by
  refine compile_malformed ?_
  cases hk : f.kind with
  | lookahead =>
    have hcore := core_lookahead hk
    obtain ⟨D, hread, hglobals, row⟩ := readText_asLookahead (f := f) (hcore ▸ h)
    rw [render_lookahead hk]
    refine compileChars_malformed_of_row hflags hread hglobals row fun hall => hfault ?_
    simpa [Regex.fault?, tree, hcore] using hall
  | anchored =>
    obtain ⟨D, hread, hglobals, -, row⟩ := readText_anchored h hk
    exact compileChars_malformed_of_row hflags hread hglobals row fun hall =>
      hfault (fault?_anchoredItems.mp hall)

/-- A body that is read to its end leaves nothing open, or the fragment is malformed. -/
theorem readThrough_or_malformed (hflags : flags.Accepted) {d : Draft}
    (hread : readText flags f.body.toList = .ok d) (houter : d.outer = [])
    (hmissing : d.missingGroup? = none) :
    (∃ ls, ReadThrough flags f.body ls) ∨ (compile f.render flags).Malformed := by
  obtain ⟨isOpen, ls, hreads⟩ := Draft.readAll_eq_ok.mp hread
  obtain rfl := draftOf_eq hread
  by_cases hbad : isOpen = true ∨ ∃ l ∈ ls, l.isGlobal = true
  · exact .inr (malformed_of_body hflags hreads houter hbad)
  · have hclosed : isOpen = false := by
      cases isOpen with
      | false => rfl
      | true => exact absurd (.inl rfl) hbad
    have hglobals : ∀ l ∈ ls, l.isGlobal = false := by
      intro l hl
      cases hg : l.isGlobal with
      | false => rfl
      | true => exact absurd (.inr ⟨l, hl, hg⟩) hbad
    exact .inl ⟨ls, hclosed ▸ hreads, houter, hmissing, hglobals⟩

/-- **Bodies.** A body that is read to its end makes a fragment that is whole or malformed. -/
theorem whole_or_malformed_of_read (hflags : flags.Accepted) {d : Draft}
    (hread : readText flags f.body.toList = .ok d) (houter : d.outer = [])
    (hmissing : d.missingGroup? = none) :
    (f.Whole flags ∧ f.groupCount flags = groupsOf flags f.body) ∨
      (compile f.render flags).Malformed := by
  rcases readThrough_or_malformed hflags hread houter hmissing with ⟨ls, through⟩ | hmalformed
  · by_cases hfault : (draftOf flags f.body).frame.body.fault? flags.template = none
    · exact .inl (whole_of_body hflags ⟨through, hfault⟩)
    · exact .inr (malformed_of_fault hflags through hfault)
  · exact .inr hmalformed

/-- A fragment whose body is a pattern by itself is whole, or it is malformed. -/
theorem whole_or_malformed (hflags : flags.Accepted) (hbody : Compiles flags f.body) :
    (f.Whole flags ∧ f.groupCount flags = groupsOf flags f.body) ∨
      (compile f.render flags).Malformed := by
  obtain ⟨c, hcompile⟩ := hbody
  obtain ⟨x, hx, -⟩ := compile_eq_ok.mp hcompile
  obtain ⟨d, hread, hd, -⟩ := compileChars_complete hx
  exact whole_or_malformed_of_read hflags hread hd.outer hd.missing

end TextCriteria.Fragment
