import TextCriteria.Proofs.Composition.InTurn

namespace TextCriteria

open TextCriteria.Pattern

/-!
# The one pattern

The text of the one pattern is a row of fragments with the whole text behind it.

* `Composable` — when there is a pattern for some fragments.
* `composedTree` — the tree of the one pattern.
* `compileChars_composedText` — what the text of the one pattern compiles to, and when it does not.
* `composedTree_matchAt` — what the one pattern matches.
-/

variable {flags : Flags} {rs : List Requirement} {trees : List Regex}

/-- There is one pattern for some whole fragments: nothing forbids to repeat, no two of them give a group
    the same name, and each is a pattern behind the groups of those before it. -/
structure Composable (flags : Flags) (fs : List Fragment) : Prop where
  template : flags.template = false
  names : NamesApart flags fs
  numbers : NumbersFit flags fs

/-! ### The text of the one pattern -/

/-- The fragments of some requirements. -/
def fragmentsOf (rs : List Requirement) : List Fragment := rs.map fun r => r.fragment

/-- How many characters the one pattern takes at the least. -/
def leastTaken (fs : List Fragment) : Nat := if fs.isEmpty then 0 else 1

/-- The tree of the one pattern: looks ahead at the trees of the fragments, and then the whole text, of
    `least` characters at the least. -/
def composedTree (trees : List Regex) (least : Nat) : Regex :=
  Regex.ofItems (.anchor .lineStart :: (trees.map (.lookahead false) ++ Regex.consuming least))

theorem toList_composedText (rs : List Requirement) :
    (composedText rs).toList = '^' :: (((fragmentsOf rs).flatMap fun f => f.asLookahead.toList) ++
      ['(', '?', 's', ':', '.', if rs.isEmpty then '*' else '+', ')', '\\', 'Z']) := by
  unfold composedText
  cases rs with
  | nil => rfl
  | cons r rest =>
    simp only [List.isEmpty_cons, Bool.false_eq_true, if_false, String.toList_append,
      String.toList_join, fragmentsOf, List.flatMap_map, consumeAll]
    simp

/-- Under the template flag nothing may be repeated, and the part that takes the whole text repeats. -/
theorem Pattern.Regex.fault?_consuming (template : Bool) (least : Nat) :
    (∀ r ∈ consuming least, r.fault? template = none) ↔ template = false := by
  cases template <;> simp [consuming, ofItems, fault?]

theorem fault?_composed {least : Nat} :
    (∀ r ∈ Regex.anchor .lineStart :: (trees.map (.lookahead false) ++ Regex.consuming least),
      r.fault? flags.template = none) ↔
    flags.template = false ∧ ∀ r ∈ trees, r.fault? flags.template = none := by
  rw [List.forall_mem_cons, List.forall_mem_append, Regex.fault?_consuming, List.forall_mem_map]
  simp only [Regex.fault?, true_and]
  exact and_comm

/-- **Compilation.** The text of the one pattern compiles to its tree if there is one, and is malformed
    otherwise. -/
theorem compileChars_composedText (hflags : flags.Accepted)
    (hwhole : ∀ f ∈ fragmentsOf rs, f.Whole flags) :
    (Composable flags (fragmentsOf rs) ∧
      ∃ trees, treesBehind flags 0 [] (fragmentsOf rs) = .ok trees ∧
        compileChars (composedText rs).toList flags
          = .ok (flags.inForce, composedTree trees (leastTaken (fragmentsOf rs)))) ∨
    (¬ Composable flags (fragmentsOf rs) ∧
      (compileChars (composedText rs).toList flags).Malformed) := by
  have hmark : (if rs.isEmpty then '*' else '+') = '*' ∧ leastTaken (fragmentsOf rs) = 0 ∨
      (if rs.isEmpty then '*' else '+') = '+' ∧ leastTaken (fragmentsOf rs) = 1 := by
    cases rs <;> simp [leastTaken, fragmentsOf]
  rw [toList_composedText]
  generalize hn : ('^' :: (((fragmentsOf rs).flatMap fun f => f.asLookahead.toList) ++
      ['(', '?', 's', ':', '.', if rs.isEmpty then '*' else '+', ')', '\\', 'Z'])) = text
  have ready := (Draft.start_ready flags.verbose text.length).withItem
    (show (Regex.anchor .lineStart).Within 0 from trivial)
  have row := (Draft.Row.start flags.verbose text.length).withItem (.anchor .lineStart)
  have hread : readText flags text = ((Draft.start flags.verbose text.length).withItem
      (.anchor .lineStart)).readAll (((fragmentsOf rs).flatMap fun f => f.asLookahead.toList) ++
        ['(', '?', 's', ':', '.', if rs.isEmpty then '*' else '+', ')', '\\', 'Z']) := by
    rw [← Draft.readAll_caret, hn]
  have hnames : NamesFree flags [] (fragmentsOf rs) ↔ NamesApart flags (fragmentsOf rs) :=
    namesFree_iff
  rcases readAll_fragments hwhole row ready
      ['(', '?', 's', ':', '.', if rs.isEmpty then '*' else '+', ')', '\\', 'Z'] with
    ⟨hfree, trees, htrees, D, heq, rowD, readyD⟩ | ⟨hclash, hfault⟩
  · have htrees : treesBehind flags 0 [] (fragmentsOf rs) = .ok trees := htrees
    rw [heq, Draft.readAll_consuming D hmark] at hread
    have rowE := (rowD.withItem (.scoped { dotAll := some true }
      (Regex.ofItems [.rounds .greedy (leastTaken (fragmentsOf rs)) none .any]))).withItem
        (.anchor .textEnd)
    have hitems : [] ++ [Regex.anchor .lineStart] ++ trees.map (.lookahead false) ++
        [.scoped { dotAll := some true }
          (Regex.ofItems [.rounds .greedy (leastTaken (fragmentsOf rs)) none .any])] ++
        [.anchor .textEnd]
        = .anchor .lineStart :: (trees.map (.lookahead false) ++
          Regex.consuming (leastTaken (fragmentsOf rs))) := by
      simp [Regex.consuming]
    have rowE := hitems ▸ rowE
    by_cases hfault : flags.template = false ∧ ∀ r ∈ trees, r.fault? flags.template = none
    · refine .inl ⟨⟨hfault.1, hnames.mp hfree, trees, htrees, hfault.2⟩, trees, htrees, ?_⟩
      have hcompile := compileChars_eq_ok hflags hread readyD.globals
        (rowE.complete (fault?_composed.mpr hfault))
      rwa [rowE.body] at hcompile
    · refine .inr ⟨?_, compileChars_malformed_of_row hflags hread readyD.globals rowE
        (mt fault?_composed.mp hfault)⟩
      rintro ⟨htemplate, -, trees', htrees', hfree'⟩
      obtain rfl := Except.ok.inj (htrees.symm.trans htrees')
      exact hfault ⟨htemplate, hfree'⟩
  · refine .inr ⟨?_, compileChars_malformed_of_read hflags (hread ▸ hfault)⟩
    rintro ⟨-, hapart, trees, htrees, -⟩
    exact hclash ⟨hnames.mpr hapart, trees, htrees⟩

/-! ### What the one pattern matches -/

/-- **Matching.** The one pattern matches a whole text or nothing: a text that has at its start what is
    asked for in turn, and that is long enough. -/
theorem composedTree_matchAt (modes : Modes) (least : Nat) (value : String) :
    (composedTree trees least).matchAt value.toList.toArray modes 0
      = if (Regex.inTurn value.toList.toArray modes trees { pos := 0 }).isSome = true ∧
          least ≤ value.length then some value.length
        else none := by
  have hsize : value.toList.toArray.size = value.length := by
    rw [List.size_toArray, String.length_toList]
  have hline : Anchor.lineStart.holds value.toList.toArray modes 0 = true := rfl
  unfold Regex.matchAt composedTree
  simp only [Regex.ofItems, Regex.run, hline, if_true]
  rw [Regex.run_looks]
  cases hturn : Regex.inTurn value.toList.toArray modes trees { pos := 0 } with
  | none => rfl
  | some q =>
    have hpos : q.pos = 0 := Regex.inTurn_pos hturn
    rw [Option.bind_some, Regex.run_consuming _ _ _ (by omega), hpos, hsize, Nat.zero_add]
    by_cases hlong : least ≤ value.length
    · rw [if_pos hlong, if_pos ⟨rfl, hlong⟩]
      rfl
    · rw [if_neg hlong, if_neg fun h => hlong h.2]
      rfl

theorem leastTaken_le (rs : List Requirement) (value : String) :
    leastTaken (fragmentsOf rs) ≤ value.length ↔ value ≠ "" ∨ rs = [] := by
  have hempty : value.length = 0 ↔ value = "" := String.length_eq_zero_iff
  cases rs with
  | nil => simp [leastTaken, fragmentsOf]
  | cons r rest =>
    simp only [leastTaken, fragmentsOf, List.map_cons, List.isEmpty_cons, Bool.false_eq_true, if_false,
      Ne, ← hempty, List.cons_ne_nil, or_false]
    omega

end TextCriteria
