import TextCriteria.Proofs.Composition.Agreement

namespace TextCriteria

open TextCriteria.Pattern

/-!
# What is refused, and for which requirement

* `Failure.Names` — a failure names a pattern and a requirement.
* `FirstRefused.names` — the failure for a fragment names its own pattern and requirement.
* `compose_of_kept` — what a composition accepts whose fragments stay apart, and when it fails.
* `refused_alike` — composition and diagnosis fail for the same requirement; when none is refused
  alone, it is told exactly when the composition fails.
* `compose_name_twice` — two requirements that compile alone and not together.
-/

variable {flags : Flags} {rs : List Requirement} {r : Requirement} {e : Failure}

/-- The failure is that `pattern` is none, with a requirement or without. -/
def Failure.Names (pattern : String) (requirement : Value) (e : Failure) : Prop :=
  ∃ reason, e = .record (.pattern (.str pattern) (.str reason) requirement)

/-- **Attribution.** A fragment whose body is a pattern by itself is refused only as malformed, and the
    failure names it with its requirement. -/
theorem FirstRefused.names (hflags : flags.Accepted)
    (hbody : ∀ r ∈ rs, Pattern.Compiles flags r.fragment.body) (h : FirstRefused flags rs r e) :
    e.Names r.fragment.render r.message := by
  obtain ⟨before, after, rfl, -, hr⟩ := h
  have hmem : r ∈ before ++ r :: after := List.mem_append_right _ List.mem_cons_self
  rcases Fragment.whole_or_malformed hflags (hbody r hmem) with ⟨hwhole, -⟩ | hrefused
  · obtain ⟨hflags, ls, halone⟩ := Fragment.whole_iff.mp hwhole
    obtain ⟨c, hcompile, -⟩ := Fragment.render_accepts hflags halone
    rw [Requirement.compileAlone, compileFor_eq_ok.mpr hcompile] at hr
    cases hr
  · obtain ⟨reason, hfault⟩ := compileFor_malformed r.message hrefused
    exact ⟨reason, Except.error.inj (hr.symm.trans hfault)⟩

/-- Fragments that stay apart from each other. Where repetitions are not forbidden, their composition accepts
    what each of them asks for; else it fails without a requirement. -/
theorem compose_of_kept (hflags : flags.Accepted) (hwhole : ∀ f ∈ fragmentsOf rs, f.Whole flags)
    (hapart : NamesApart flags (fragmentsOf rs)) (hkept : NumbersKept flags (fragmentsOf rs)) :
    (flags.template = false ∧ ∃ c, compose rs flags = .ok c ∧ ∀ value, c.accepts value = true ↔
      (∀ f ∈ fragmentsOf rs, f.holds flags value = true) ∧ (value ≠ "" ∨ rs = [])) ∨
    (flags.template = true ∧ ∃ e, e.Names (composedText rs) .null ∧ compose rs flags = .error e) := by
  have hfit := numbersFit_of_kept hwhole hkept
  rcases compose_of_whole hflags hwhole with ⟨hcond, c, hc, hmatch⟩ | ⟨hcond, reason, hfault⟩
  · refine .inl ⟨hcond.template, c, hc, fun value => ?_⟩
    rw [Compiled.accepts, hmatch, ← holdInTurn_of_kept hwhole hkept]
    split
    · exact iff_of_true rfl ‹_›
    · exact iff_of_false Bool.false_ne_true ‹_›
  · refine .inr ⟨?_, _, ⟨reason, rfl⟩, hfault⟩
    rw [← Bool.not_eq_false]
    exact fun htemplate => hcond ⟨htemplate, hapart, hfit⟩

/-- **Refusal.** Composition and diagnosis of bodies that are patterns by themselves fail for the same
    requirement, whatever the text. When no fragment is refused alone, the diagnosis succeeds; the
    composition does so too or fails without a requirement: under the template flag, where two fragments
    give a group the same name, or where one is no pattern behind the groups of those before it. -/
theorem refused_alike (hflags : flags.Accepted)
    (hbody : ∀ r ∈ rs, Pattern.Compiles flags r.fragment.body) :
    (∃ r e, FirstRefused flags rs r e ∧ e.Names r.fragment.render r.message ∧
      compose rs flags = .error e ∧ ∀ value, diagnose rs value flags = .error e) ∨
    ((∀ r ∈ rs, r.Compiles flags) ∧ (∀ value, ∃ failed, diagnose rs value flags = .ok failed) ∧
      ((Composable flags (fragmentsOf rs) ∧ ∃ c, compose rs flags = .ok c) ∨
        (¬ Composable flags (fragmentsOf rs) ∧
          ∃ e, e.Names (composedText rs) .null ∧ compose rs flags = .error e))) := by
  rcases all_or_firstRefused flags rs with hall | ⟨r, e, hrefused⟩
  · have hwhole := whole_of_compiles hflags hbody hall
    refine .inr ⟨hall, fun value => ?_, ?_⟩
    · obtain ⟨failed, hfailed, -⟩ := diagnose_of_all hall value
      exact ⟨failed, hfailed⟩
    · rcases compose_of_whole hflags hwhole with ⟨hcond, c, hc, -⟩ | ⟨hcond, reason, hfault⟩
      · exact .inl ⟨hcond, c, hc⟩
      · exact .inr ⟨hcond, _, ⟨reason, rfl⟩, hfault⟩
  · exact .inl ⟨r, e, hrefused, hrefused.names hflags hbody, compose_of_firstRefused hrefused,
      diagnose_of_firstRefused hrefused⟩

/-- A body that sets flags of the whole pattern is refused inside of a fragment. -/
theorem refused_alike_flags :
    ∃ r ∈ [(⟨.anchored "a", .str "m1"⟩ : Requirement), ⟨.anchored "(?i)b", .str "m2"⟩], ∃ e : Failure,
      e.Names r.fragment.render r.message ∧
      compose [⟨.anchored "a", .str "m1"⟩, ⟨.anchored "(?i)b", .str "m2"⟩] 0 = .error e ∧
      diagnose [⟨.anchored "a", .str "m1"⟩, ⟨.anchored "(?i)b", .str "m2"⟩] "b" 0 = .error e := by
  have hbody : ∀ r ∈ [(⟨.anchored "a", .str "m1"⟩ : Requirement), ⟨.anchored "(?i)b", .str "m2"⟩],
      Pattern.Compiles 0 r.fragment.body := by
    simp only [List.forall_mem_cons]
    exact ⟨⟨_, rfl⟩, ⟨_, rfl⟩, by simp⟩
  rcases refused_alike ⟨_, rfl⟩ hbody with
    ⟨r, e, ⟨before, after, hsplit, -⟩, hnames, hcompose, hdiagnose⟩ | ⟨hall, -⟩
  · refine ⟨r, ?_, e, hnames, hcompose, hdiagnose "b"⟩
    rw [hsplit]
    exact List.mem_append_right _ List.mem_cons_self
  · obtain ⟨c, hc⟩ := hall _ (List.mem_cons_of_mem _ List.mem_cons_self)
    cases hc

/-- **A name twice.** Each of two requirements compiles alone; together they give two groups one name,
    and the failure names no requirement. -/
theorem compose_name_twice :
    (∀ r ∈ [(⟨.anchored "(?P<x>a)", .str "m1"⟩ : Requirement), ⟨.anchored "(?P<x>a)", .str "m2"⟩],
      Pattern.Compiles 0 r.fragment.body ∧ r.Compiles 0) ∧
    diagnose [⟨.anchored "(?P<x>a)", .str "m1"⟩, ⟨.anchored "(?P<x>a)", .str "m2"⟩] "a" 0 = .ok [] ∧
    compose [⟨.anchored "(?P<x>a)", .str "m1"⟩, ⟨.anchored "(?P<x>a)", .str "m2"⟩] 0
      = .error (.record (.pattern
          (.str "^(?=^(?:(?P<x>a))\\Z)(?=^(?:(?P<x>a))\\Z)(?s:.+)\\Z")
          (.str ("redefinition of group name 'x' as group 2; was group 1 at position 31"))
          .null)) := by
  refine ⟨?_, rfl, rfl⟩
  simp only [List.forall_mem_cons]
  exact ⟨⟨⟨_, rfl⟩, ⟨_, rfl⟩⟩, ⟨⟨_, rfl⟩, ⟨_, rfl⟩⟩, by simp⟩

end TextCriteria
