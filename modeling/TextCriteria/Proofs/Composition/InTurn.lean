import TextCriteria.Proofs.Composition.Whole

namespace TextCriteria

open TextCriteria.Pattern

/-!
# Fragments in a row

Whole fragments in a row are read one after the other. The groups of each are counted on from those of
the fragments before it, and where these begin and end in a match is known to it.

* `NamesApart` — no two fragments give a group the same name.
* `treesBehind`, `NumbersFit` — the trees of the fragments in a row, and whether they have any.
* `holdInTurn` — whether a text has what the fragments ask for in a row.
* `readAll_fragment` — one fragment joins a row of others, as a look ahead at the tree that it has there.
* `readAll_fragments` — the row is read unless a name is given twice or a fragment is no pattern in it.
* `NumbersKept` — no fragment refers to a group by its number behind a fragment that opens groups;
  `numbersFit_of_kept` and `holdInTurn_of_kept` say that then each of them stands as if alone.
-/

/-- No two fragments give a group the same name. -/
def NamesApart (flags : Flags) (fs : List Fragment) : Prop :=
  fs.Pairwise fun f g => ∀ name ∈ f.groupNames flags, name ∉ g.groupNames flags

/-- The trees of some fragments, each read behind the groups of those before it, of which there are `k`
    before the first one. A number in a fragment counts these groups too. -/
def treesBehind (flags : Flags) : Nat → List (Nat × Width) → List Fragment → Outcome (List Regex)
  | _, _, [] => .ok []
  | k, closed, f :: fs => do
    let d ← (Draft.behind flags.verbose f.core.toList.length k closed).readAll f.core.toList
    let trees ← treesBehind flags d.groups d.closed fs
    .ok (d.frame.body :: trees)

/-- Every fragment is a pattern also behind the groups of those before it. -/
def NumbersFit (flags : Flags) (fs : List Fragment) : Prop :=
  ∃ trees, treesBehind flags 0 [] fs = .ok trees ∧ ∀ r ∈ trees, r.fault? flags.template = none

/-- Whether a text has at its start what the fragments ask for one after the other, each behind the
    groups of those before it. -/
def holdInTurn (flags : Flags) (fs : List Fragment) (value : String) : Bool :=
  match treesBehind flags 0 [] fs with
  | .ok trees =>
    (Regex.inTurn value.toList.toArray flags.inForce.modes trees { pos := 0 }).isSome
  | .error _ => false

/-- No fragment refers to a group by its number behind a fragment that opens groups: the number would
    stand for a group of that fragment. -/
def NumbersKept (flags : Flags) (fs : List Fragment) : Prop :=
  fs.Pairwise fun f g => 0 < f.groupCount flags → g.refersByNumber flags = false

/-- No fragment gives a group a name that is taken before the row, or in it. -/
def NamesFree (flags : Flags) (taken : List (List Char)) (fs : List Fragment) : Prop :=
  NamesApart flags fs ∧ ∀ f ∈ fs, ∀ name ∈ f.groupNames flags, name ∉ taken

variable {flags : Flags} {fs : List Fragment}

theorem namesFree_nil (taken : List (List Char)) : NamesFree flags taken [] :=
  ⟨.nil, by simp⟩

/-- The names of the first fragment are taken for the others. -/
theorem namesFree_cons {taken : List (List Char)} {f : Fragment} :
    NamesFree flags taken (f :: fs) ↔
      (∀ name ∈ f.groupNames flags, name ∉ taken) ∧
        NamesFree flags (f.groupNames flags ++ taken) fs := by
  simp only [NamesFree, NamesApart, List.pairwise_cons, List.forall_mem_cons, List.mem_append]
  constructor
  · rintro ⟨⟨hf, hfs⟩, htaken, hrest⟩
    refine ⟨htaken, hfs, fun g hg name hname hor => ?_⟩
    rcases hor with hin | hin
    · exact hf g hg name hin hname
    · exact hrest g hg name hname hin
  · rintro ⟨htaken, hfs, hrest⟩
    refine ⟨⟨fun g hg name hin hname => ?_, hfs⟩, htaken, fun g hg name hname hin => ?_⟩
    · exact hrest g hg name hname (.inl hin)
    · exact hrest g hg name hname (.inr hin)

theorem namesFree_iff : NamesFree flags [] fs ↔ NamesApart flags fs := by
  simp [NamesFree]

/-! ### Reading a row of fragments -/

theorem treesBehind_cons {k : Nat} {closed : List (Nat × Width)} {f : Fragment} {trees : List Regex} :
    treesBehind flags k closed (f :: fs) = .ok trees ↔
      ∃ d rest, (Draft.behind flags.verbose f.core.toList.length k closed).readAll f.core.toList
          = .ok d ∧
        treesBehind flags d.groups d.closed fs = .ok rest ∧ trees = d.frame.body :: rest := by
  simp only [treesBehind]
  constructor
  · intro h
    obtain ⟨d, hd, h⟩ := bind_eq_ok.mp h
    obtain ⟨rest, hrest, h⟩ := bind_eq_ok.mp h
    exact ⟨d, rest, hd, hrest, (Except.ok.inj h).symm⟩
  · rintro ⟨d, rest, hd, hrest, rfl⟩
    exact bind_eq_ok.mpr ⟨d, hd, bind_eq_ok.mpr ⟨rest, hrest, rfl⟩⟩

/-- Behind the draft `D` the fragment `f` has been read as the draft `d`, and `D'` is `D` with a look ahead at
    its tree in the row. -/
structure Joined (flags : Flags) (f : Fragment) (items : List Regex) (D d D' : Draft) : Prop where
  read : (Draft.behind flags.verbose f.core.toList.length D.groups D.closed).readAll f.core.toList = .ok d
  free : ∀ name ∈ f.groupNames flags, name ∉ D.names.map Prod.fst
  row : D'.Row flags.verbose (items ++ [.lookahead false d.frame.body])
  ready : D'.Ready
  groups : D'.groups = d.groups
  closed : D'.closed = d.closed
  names : D'.names.map Prod.fst = f.groupNames flags ++ D.names.map Prod.fst

/-- **One fragment.** A whole fragment in a row joins it, unless one of its names is taken or it is no pattern
    behind the groups of the row. -/
theorem readAll_fragment {f : Fragment} (hwhole : f.Whole flags) {D : Draft} {items : List Regex}
    (row : D.Row flags.verbose items) (ready : D.Ready) (t : List Char) :
    (∃ d D', Joined flags f items D d D' ∧ D.readAll (f.asLookahead.toList ++ t) = D'.readAll t) ∨
    (((∃ name ∈ f.groupNames flags, name ∈ D.names.map Prod.fst) ∨
        ((Draft.behind flags.verbose f.core.toList.length D.groups D.closed).readAll f.core.toList).Malformed) ∧
      (D.readAll (f.asLookahead.toList ++ t)).Malformed) := by
  obtain ⟨hflags, ls, halone⟩ := Fragment.whole_iff.mp hwhole
  have hreads := halone.reads
  have htext : f.asLookahead.toList ++ t = '(' :: '?' :: '=' :: (f.core.toList ++ ')' :: t) := by
    rw [Fragment.toList_asLookahead]
    simp
  have hafter : D.after f.core.toList.length
      = .behind flags.verbose f.core.toList.length D.groups D.closed := by
    rw [← row.verbose_eq]
  rw [htext]
  rw [← row.verbose_eq] at hreads
  -- First the fragment is read behind the groups of the row, then at its place in the row.
  rcases Draft.readAll_lookahead_after ready hreads t with ⟨d, hd, A⟩ | ⟨hbehind, hfault⟩
  · rcases Draft.readAll_lookahead ready hd (A.outer_eq_nil.mpr halone.outer) t with
      ⟨hfree, D', hgrows, hlimit, heq⟩ | ⟨hbarred, hfault⟩
    · have hasked : ∀ a ∈ d.asked, a.1 ≤ d.groups := by
        intro a ha
        have hin := List.mem_map_of_mem (f := Prod.fst) ha
        rw [A.asked, List.mem_map] at hin
        obtain ⟨b, hb, heq⟩ := hin
        rw [A.groups, ← heq]
        exact Nat.le_add_right_of_le (halone.asked_le b hb)
      refine .inl ⟨d, D', ⟨?_, fun name hname hin => ?_, row.grow hgrows hasked,
        ⟨hgrows.sound, hlimit, hgrows.globals⟩, hgrows.groups, hgrows.closed, ?_⟩, heq⟩
      · rw [← hafter]
        exact Draft.readAll_eq_ok.mpr ⟨_, _, hd⟩
      · exact hfree ((halone.barred_iff A.names).mpr ⟨name, hname, hin⟩)
      · rw [hgrows.names, List.map_append, A.names]
        rfl
    · exact .inr ⟨.inl ((halone.barred_iff A.names).mp hbarred), hfault⟩
  · rw [hafter] at hbehind
    exact .inr ⟨.inr hbehind, hfault⟩

/-- **Row.** Whole fragments in a row are read one after the other. Each becomes a look ahead at the tree
    that it has there. The reading fails exactly when a name is given to two groups, or a fragment is no
    pattern behind the groups of those before it. -/
theorem readAll_fragments (hwhole : ∀ f ∈ fs, f.Whole flags) {D : Draft} {items : List Regex}
    (row : D.Row flags.verbose items) (ready : D.Ready) (t : List Char) :
    (NamesFree flags (D.names.map Prod.fst) fs ∧
      ∃ trees, treesBehind flags D.groups D.closed fs = .ok trees ∧
        ∃ D' : Draft, D.readAll ((fs.flatMap fun f => f.asLookahead.toList) ++ t) = D'.readAll t ∧
          D'.Row flags.verbose (items ++ trees.map (.lookahead false)) ∧ D'.Ready) ∨
    (¬ (NamesFree flags (D.names.map Prod.fst) fs ∧
        ∃ trees, treesBehind flags D.groups D.closed fs = .ok trees) ∧
      (D.readAll ((fs.flatMap fun f => f.asLookahead.toList) ++ t)).Malformed) := by
  induction fs generalizing D items with
  | nil =>
    refine .inl ⟨namesFree_nil _, [], rfl, D, rfl, ?_, ready⟩
    simpa using row
  | cons f rest ih =>
    have hrest : ∀ g ∈ rest, g.Whole flags := fun g hg => hwhole g (List.mem_cons_of_mem f hg)
    rw [List.flatMap_cons, List.append_assoc, namesFree_cons]
    simp only [treesBehind_cons]
    rcases readAll_fragment (hwhole f List.mem_cons_self) row ready
        ((rest.flatMap fun f => f.asLookahead.toList) ++ t) with ⟨d, D', joined, heq⟩ | ⟨hcause, hfault⟩
    · rw [heq]
      rcases ih hrest joined.row joined.ready with
        ⟨hnames, trees, htrees, E, heq', rowE, readyE⟩ | ⟨hclash, hfault⟩
      · rw [joined.names] at hnames
        rw [joined.groups, joined.closed] at htrees
        refine .inl ⟨⟨joined.free, hnames⟩, d.frame.body :: trees, ⟨d, trees, joined.read, htrees, rfl⟩, E,
          heq', ?_, readyE⟩
        simpa using rowE
      · rw [joined.names, joined.groups, joined.closed] at hclash
        refine .inr ⟨?_, hfault⟩
        rintro ⟨⟨-, hnames⟩, trees, d', trees', hread', htrees', rfl⟩
        obtain rfl := Except.ok.inj (joined.read.symm.trans hread')
        exact hclash ⟨hnames, trees', htrees'⟩
    · refine .inr ⟨?_, hfault⟩
      rintro ⟨⟨hfree, -⟩, trees, d', trees', hread', -⟩
      rcases hcause with ⟨name, hname, hin⟩ | ⟨cause, left, hbehind⟩
      · exact hfree name hname hin
      · cases hbehind.symm.trans hread'

/-! ### Fragments that keep their numbers -/

/-- The fragments with their groups. -/
def parts (flags : Flags) (fs : List Fragment) : List (Nat × Regex) :=
  fs.map fun f => (f.groupCount flags, f.tree flags)

/-- Where no number stands for the group of another fragment, each fragment has in a row the tree that it
    has alone, except that the groups before it are counted too. -/
theorem treesBehind_of_kept (hwhole : ∀ f ∈ fs, f.Whole flags) (hkept : NumbersKept flags fs) {k : Nat}
    {closed : List (Nat × Width)} (hclosed : ∀ e ∈ closed, 0 < e.1 ∧ e.1 ≤ k)
    (hmoved : k ≠ 0 → ∀ f ∈ fs, f.refersByNumber flags = false) :
    treesBehind flags k closed fs = .ok (Regex.placed k (parts flags fs)) := by
  induction fs generalizing k closed with
  | nil => rfl
  | cons f rest ih =>
    obtain ⟨hflags, ls, halone⟩ := Fragment.whole_iff.mp (hwhole f List.mem_cons_self)
    obtain ⟨hfirst, hrest⟩ := List.pairwise_cons.mp hkept
    have hnumbers : ∀ l ∈ ls, l.refersByNumber = true → k = 0 := by
      intro l hl href
      by_cases hzero : k = 0
      · exact hzero
      · have hnone := hmoved hzero f List.mem_cons_self
        rw [Fragment.refersByNumber, halone.lexemesOf_eq, List.any_eq_false] at hnone
        exact absurd href (hnone l hl)
    obtain ⟨e, hreads, hgroups, hbody⟩ := halone.reads.behind hclosed halone.globals hnumbers
    have hgroups : e.groups = k + f.groupCount flags := hgroups.trans (Nat.add_comm _ _)
    have hmoved' : e.groups ≠ 0 → ∀ g ∈ rest, g.refersByNumber flags = false := by
      intro hne g hg
      by_cases hzero : k = 0
      · exact hfirst g hg (by omega)
      · exact hmoved hzero g (List.mem_cons_of_mem f hg)
    have htrees := ih (fun g hg => hwhole g (List.mem_cons_of_mem f hg)) hrest
      (hreads.sound (Draft.behind_sound hclosed)).closed hmoved'
    refine treesBehind_cons.mpr ⟨e, _, Draft.readAll_eq_ok.mpr ⟨_, _, hreads⟩, htrees, ?_⟩
    rw [hbody, hgroups]
    rfl

theorem Pattern.Regex.fault?_placed {template : Bool} {parts : List (Nat × Regex)}
    (h : ∀ e ∈ parts, e.2.fault? template = none) (k : Nat) :
    ∀ r ∈ placed k parts, r.fault? template = none := by
  induction parts generalizing k with
  | nil => simp [placed]
  | cons e rest ih =>
    obtain ⟨n, r⟩ := e
    intro s hs
    rcases List.mem_cons.mp hs with rfl | hs
    · rw [fault?_shift]
      exact h (n, r) List.mem_cons_self
    · exact ih (fun e he => h e (List.mem_cons_of_mem _ he)) (k + n) s hs

/-- A whole fragment compiles alone, and its groups are numbered from one on. -/
theorem parts_sound (hwhole : ∀ f ∈ fs, f.Whole flags) :
    ∀ e ∈ parts flags fs, e.2.fault? flags.template = none ∧ e.2.Within e.1 := by
  intro e he
  obtain ⟨f, hf, rfl⟩ := List.mem_map.mp he
  obtain ⟨-, ls, halone⟩ := Fragment.whole_iff.mp (hwhole f hf)
  exact ⟨halone.fault, halone.within⟩

theorem treesBehind_start (hwhole : ∀ f ∈ fs, f.Whole flags) (hkept : NumbersKept flags fs) :
    treesBehind flags 0 [] fs = .ok (Regex.placed 0 (parts flags fs)) :=
  treesBehind_of_kept hwhole hkept (by simp) fun h => absurd rfl h

theorem numbersFit_of_kept (hwhole : ∀ f ∈ fs, f.Whole flags) (hkept : NumbersKept flags fs) :
    NumbersFit flags fs :=
  ⟨_, treesBehind_start hwhole hkept,
    Regex.fault?_placed (fun e he => (parts_sound hwhole e he).1) 0⟩

/-- Where no number stands for the group of another fragment, a row asks for what each of its fragments
    asks for alone. -/
theorem holdInTurn_of_kept (hwhole : ∀ f ∈ fs, f.Whole flags) (hkept : NumbersKept flags fs)
    (value : String) :
    holdInTurn flags fs value = true ↔ ∀ f ∈ fs, f.holds flags value = true := by
  have hturn := Regex.inTurn_placed value.toList.toArray flags.inForce.modes
    (fun e he => (parts_sound hwhole e he).2) (P := { pos := 0 }) (Marks.clear_empty 0)
  simp only [parts, List.forall_mem_map] at hturn
  simp only [holdInTurn, treesBehind_start hwhole hkept]
  exact hturn

end TextCriteria
