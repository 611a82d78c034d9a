import TextCriteria.Proofs.Composition.Diagnosis

namespace TextCriteria

open TextCriteria.Pattern

/-!
# The verdict of a composition and those of its fragments

* `match?_of_whole` — what a composition of whole fragments matches.
* `accepts_alone` — what such a composition accepts, each of the fragments accepts alone.
* `accepts_iff_diagnose` — it matches a text exactly when the diagnosis finds nothing.
* `sneaking_accepts`, `borrowed_number_rejects` — bodies that close their own parenthesis, and numbers
  that stand for the group of another body, for which this is not so.
-/

variable {flags : Flags} {rs : List Requirement} {c : Compiled} {value : String}

/-! ### From the composition to the fragments -/

/-- A composition succeeds only after every fragment has compiled alone. -/
theorem compiles_of_compose (h : compose rs flags = .ok c) : ∀ r ∈ rs, r.Compiles flags := by
  rcases all_or_firstRefused flags rs with hall | ⟨r, e, hrefused⟩
  · exact hall
  · rw [compose_of_firstRefused hrefused] at h
    cases h

/-- What a successful composition of whole fragments matches. -/
theorem match?_of_whole (hflags : flags.Accepted) (hwhole : ∀ f ∈ fragmentsOf rs, f.Whole flags)
    (hcompose : compose rs flags = .ok c) (value : String) :
    c.match? value
      = if holdInTurn flags (fragmentsOf rs) value = true ∧ (value ≠ "" ∨ rs = []) then
          some value.length
        else none := by
  rcases compose_of_whole hflags hwhole with ⟨-, c', hcompose', hmatch⟩ | ⟨-, reason, hfault⟩
  · obtain rfl := Except.ok.inj (hcompose.symm.trans hcompose')
    exact hmatch value
  · rw [hfault] at hcompose
    cases hcompose

/-- Fragments without groups keep the numbers of each other. -/
theorem numbersKept_of_groupFree {fs : List Fragment} (h : ∀ f ∈ fs, f.groupCount flags = 0) :
    NumbersKept flags fs := by
  refine List.Pairwise.imp_of_mem (R := fun _ _ => True) (fun {f g} hf _ _ hcount => ?_)
    (List.pairwise_of_forall fun _ _ => trivial)
  have := h f hf
  omega

/-- **Soundness.** No whole fragment without groups can switch another one off, get around it or move
    it: each of them accepts alone what their composition accepts. -/
theorem accepts_alone (hflags : flags.Accepted) (hwhole : ∀ r ∈ rs, r.fragment.Whole flags)
    (hfree : ∀ r ∈ rs, r.fragment.groupCount flags = 0) (hcompose : compose rs flags = .ok c)
    (haccepts : c.accepts value = true) :
    ∀ r ∈ rs, ∃ alone, r.compileAlone flags = .ok alone ∧ alone.accepts value = true := by
  have hwhole' : ∀ f ∈ fragmentsOf rs, f.Whole flags := by
    simpa [fragmentsOf] using hwhole
  have hkept : NumbersKept flags (fragmentsOf rs) :=
    numbersKept_of_groupFree (by simpa [fragmentsOf] using hfree)
  have hholds : ∀ f ∈ fragmentsOf rs, f.holds flags value = true := by
    rw [← holdInTurn_of_kept hwhole' hkept]
    rw [Compiled.accepts, match?_of_whole hflags hwhole' hcompose] at haccepts
    split at haccepts
    · rename_i hboth
      exact hboth.1
    · cases haccepts
  intro r hr
  obtain ⟨alone, hcompile, halone⟩ := compiles_of_whole hwhole' r hr
  refine ⟨alone, hcompile, ?_⟩
  rw [halone]
  exact hholds r.fragment (List.mem_map_of_mem hr)

/-- A fragment that looks ahead beside one that fits the whole text. -/
theorem accepts_alone_pair :
    ∃ c, compose [⟨.lookahead "a|b", .str "m1"⟩, ⟨.anchored "ab", .str "m2"⟩] 0 = .ok c ∧
      c.accepts "ab" = true ∧
      ∀ r ∈ [(⟨.lookahead "a|b", .str "m1"⟩ : Requirement), ⟨.anchored "ab", .str "m2"⟩],
        ∃ alone, r.compileAlone 0 = .ok alone ∧ alone.accepts "ab" = true := by
  refine ⟨_, rfl, rfl, accepts_alone ⟨_, rfl⟩ ?_ ?_ rfl rfl⟩
  · simp only [List.forall_mem_cons]
    exact ⟨⟨⟨_, rfl⟩, ⟨_, rfl⟩⟩, ⟨⟨_, rfl⟩, ⟨_, rfl⟩⟩, by simp⟩
  · simp only [List.forall_mem_cons]
    exact ⟨rfl, rfl, by simp⟩

/-- **A way around.** The first body closes its own parenthesis and goes on with another branch, so
    the composition accepts a text that the second fragment does not accept alone. -/
theorem sneaking_accepts :
    ∃ c alone : Compiled,
      compose [⟨.lookahead "a)|(?=b", .str "m1"⟩, ⟨.lookahead "c", .str "m2"⟩] 0 = .ok c ∧
      (∀ r ∈ [(⟨.lookahead "a)|(?=b", .str "m1"⟩ : Requirement), ⟨.lookahead "c", .str "m2"⟩],
        groupsOf 0 r.fragment.render = 0) ∧
      c.accepts "a" = true ∧
      (⟨.lookahead "c", .str "m2"⟩ : Requirement).compileAlone 0 = .ok alone ∧
      alone.accepts "a" = false := by
  refine ⟨_, _, rfl, ?_, rfl, rfl, rfl⟩
  simp only [List.forall_mem_cons]
  exact ⟨rfl, rfl, by simp⟩

/-! ### The composition beside the diagnosis -/

/-- Fragments that compile alone, and whose bodies do so too, are whole. -/
theorem whole_of_compiles (hflags : flags.Accepted)
    (hbody : ∀ r ∈ rs, Pattern.Compiles flags r.fragment.body) (hall : ∀ r ∈ rs, r.Compiles flags) :
    ∀ f ∈ fragmentsOf rs, f.Whole flags := by
  simp only [fragmentsOf, List.forall_mem_map]
  intro r hr
  rcases Fragment.whole_or_malformed hflags (hbody r hr) with ⟨hwhole, -⟩ | ⟨cause, left, hrefused⟩
  · exact hwhole
  · obtain ⟨alone, halone⟩ := Requirement.compiles_iff.mp (hall r hr)
    rw [hrefused] at halone
    cases halone

/-- **Agreement.** The composition matches a text that is not empty if the text has what the fragments ask
    for in turn; the diagnosis finds nothing in it if it has what each of them asks for alone. As long as
    no fragment refers to a group by its number behind other groups, these are the same. -/
theorem accepts_iff_diagnose (hflags : flags.Accepted)
    (hbody : ∀ r ∈ rs, Pattern.Compiles flags r.fragment.body) (hcompose : compose rs flags = .ok c)
    (hvalue : value ≠ "") :
    (c.accepts value = true ↔ holdInTurn flags (fragmentsOf rs) value = true) ∧
      (diagnose rs value flags = .ok [] ↔ ∀ f ∈ fragmentsOf rs, f.holds flags value = true) ∧
      (NumbersKept flags (fragmentsOf rs) →
        (c.accepts value = true ↔ diagnose rs value flags = .ok [])) := by
  have hwhole := whole_of_compiles hflags hbody (compiles_of_compose hcompose)
  obtain ⟨failed, hfailed, hiff⟩ := diagnose_of_whole hwhole value
  have haccepts : c.accepts value = true ↔ holdInTurn flags (fragmentsOf rs) value = true := by
    rw [Compiled.accepts, match?_of_whole hflags hwhole hcompose]
    simp [hvalue]
  have hdiagnose : diagnose rs value flags = .ok [] ↔
      ∀ f ∈ fragmentsOf rs, f.holds flags value = true := by
    rw [hfailed, Except.ok.injEq, hiff]
  refine ⟨haccepts, hdiagnose, fun hkept => ?_⟩
  rw [haccepts, hdiagnose]
  exact holdInTurn_of_kept hwhole hkept value

/-- Two bodies with groups, of which the first refers to its own. -/
theorem accepts_iff_diagnose_pair :
    ∃ c, compose [⟨.anchored "(a|b)\\1", .str "m1"⟩, ⟨.anchored "(a)*(?:b)*", .str "m2"⟩] 0 = .ok c ∧
      (c.accepts "aa" = true ↔
        diagnose [⟨.anchored "(a|b)\\1", .str "m1"⟩, ⟨.anchored "(a)*(?:b)*", .str "m2"⟩] "aa" 0
          = .ok []) := by
  refine ⟨_, rfl, (accepts_iff_diagnose ⟨_, rfl⟩ ?_ rfl (by decide)).2.2 ?_⟩
  · simp only [List.forall_mem_cons]
    exact ⟨⟨_, rfl⟩, ⟨_, rfl⟩, by simp⟩
  · simp only [NumbersKept, fragmentsOf, List.map_cons, List.map_nil, List.pairwise_cons]
    refine ⟨?_, by simp, .nil⟩
    intro g hg _
    obtain rfl := List.mem_singleton.mp hg
    rfl

/-- **A borrowed number.** Behind the group of the first body, the number in the second one stands for
    that group, and the composition does not match a text that meets both requirements. -/
theorem borrowed_number_rejects :
    ∃ c : Compiled,
      compose [⟨.anchored "(a)bb", .str "m1"⟩, ⟨.anchored "a(b)\\1", .str "m2"⟩] 0 = .ok c ∧
      c.accepts "abb" = false ∧
      diagnose [⟨.anchored "(a)bb", .str "m1"⟩, ⟨.anchored "a(b)\\1", .str "m2"⟩] "abb" 0 = .ok [] :=
  ⟨_, rfl, rfl, rfl⟩

end TextCriteria
