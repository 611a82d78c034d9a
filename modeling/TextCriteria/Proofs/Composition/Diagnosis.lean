import TextCriteria.Proofs.Composition.Composed

namespace TextCriteria

open TextCriteria.Pattern

/-!
# Composition beside diagnosis

Both compile every fragment alone first and stop at the same one. After that the composition compiles
the one pattern, and the diagnosis probes every fragment.

* `FirstRefused` — the first requirement whose fragment does not compile.
* `all_or_firstRefused` — there is one, or every fragment compiles.
* `compose_of_firstRefused`, `diagnose_of_firstRefused` — both report it.
* `diagnose_append` — the messages for more requirements stand behind those for the others.
* `Fragment.Accepts` — the texts that a fragment accepts alone; `diagnose_eq_nil_iff`, nothing has failed
  exactly for the texts that each fragment accepts.
* `compose_of_whole`, `diagnose_of_whole` — what both say about whole fragments.
-/

/-- The fragment of a requirement compiles alone. -/
def Requirement.Compiles (flags : Flags) (r : Requirement) : Prop :=
  ∃ c, r.compileAlone flags = .ok c

/-- `r` is the first requirement whose fragment does not compile alone, and fails with `e`. -/
def FirstRefused (flags : Flags) (rs : List Requirement) (r : Requirement) (e : Failure) : Prop :=
  ∃ before after, rs = before ++ r :: after ∧ (∀ q ∈ before, q.Compiles flags) ∧
    r.compileAlone flags = .error e

variable {flags : Flags} {rs : List Requirement} {r : Requirement} {e : Failure}

/-! ### One requirement -/

theorem compileFor_eq_ok {text : String} {requirement : Value} {c : Compiled} :
    compileFor text flags requirement = .ok c ↔ compile text flags = .ok c := by
  unfold compileFor
  cases compile text flags <;> simp

theorem compileFor_malformed {text : String} (requirement : Value)
    (h : (compile text flags).Malformed) :
    ∃ reason, compileFor text flags requirement
      = .error (.record (.pattern (.str text) (.str reason) requirement)) := by
  obtain ⟨cause, left, h⟩ := h
  exact ⟨cause.reason text.toList left, by simp [compileFor, h, patternFailure]⟩

theorem Requirement.compiles_iff :
    r.Compiles flags ↔ Pattern.Compiles flags r.fragment.render := by
  simp only [Requirement.Compiles, Requirement.compileAlone, Pattern.Compiles, compileFor_eq_ok]

/-! ### The first requirement that is refused -/

theorem all_or_firstRefused (flags : Flags) (rs : List Requirement) :
    (∀ r ∈ rs, r.Compiles flags) ∨ ∃ r e, FirstRefused flags rs r e := by
  induction rs with
  | nil => exact .inl (by simp)
  | cons q rest ih =>
    cases hq : q.compileAlone flags with
    | error e => exact .inr ⟨q, e, [], rest, rfl, by simp, hq⟩
    | ok c =>
      have hcompiles : q.Compiles flags := ⟨c, hq⟩
      rcases ih with hall | ⟨r, e, before, after, rfl, hbefore, hr⟩
      · exact .inl (List.forall_mem_cons.mpr ⟨hcompiles, hall⟩)
      · exact .inr ⟨r, e, q :: before, after, rfl,
          List.forall_mem_cons.mpr ⟨hcompiles, hbefore⟩, hr⟩

theorem compose_of_firstRefused (h : FirstRefused flags rs r e) : compose rs flags = .error e := by
  obtain ⟨before, after, rfl, hbefore, hr⟩ := h
  have hmap : (before ++ r :: after).mapM (fun q => q.compileAlone flags) = .error e := by
    induction before with
    | nil => simp [List.mapM_cons, hr, bind, Except.bind]
    | cons q rest ih =>
      obtain ⟨⟨c, hq⟩, hrest⟩ := List.forall_mem_cons.mp hbefore
      simp [List.mapM_cons, hq, ih hrest, bind, Except.bind]
  simp [compose, hmap, bind, Except.bind]

theorem diagnose_of_firstRefused (h : FirstRefused flags rs r e) (value : String) :
    diagnose rs value flags = .error e := by
  obtain ⟨before, after, rfl, hbefore, hr⟩ := h
  induction before with
  | nil => simp [diagnose, hr, bind, Except.bind]
  | cons q rest ih =>
    obtain ⟨⟨c, hq⟩, hrest⟩ := List.forall_mem_cons.mp hbefore
    simp [diagnose, hq, ih hrest, bind, Except.bind]

/-! ### No requirement is refused -/

theorem compose_of_all (h : ∀ r ∈ rs, r.Compiles flags) :
    compose rs flags = compileFor (composedText rs) flags .null := by
  have hmap : ∃ cs, rs.mapM (fun q => q.compileAlone flags) = .ok cs := by
    induction rs with
    | nil => exact ⟨[], rfl⟩
    | cons q rest ih =>
      obtain ⟨⟨c, hq⟩, hrest⟩ := List.forall_mem_cons.mp h
      obtain ⟨cs, hcs⟩ := ih hrest
      exact ⟨c :: cs, by simp [List.mapM_cons, hq, hcs, bind, Except.bind, pure, Except.pure]⟩
  obtain ⟨cs, hcs⟩ := hmap
  simp [compose, hcs, bind, Except.bind]

/-- Nothing has failed exactly when every pattern accepts the text. -/
theorem diagnose_of_all (h : ∀ r ∈ rs, r.Compiles flags) (value : String) :
    ∃ failed, diagnose rs value flags = .ok failed ∧
      (failed = [] ↔ ∀ r ∈ rs, ∀ c, r.compileAlone flags = .ok c → c.accepts value = true) := by
  induction rs with
  | nil => exact ⟨[], rfl, by simp⟩
  | cons q rest ih =>
    obtain ⟨⟨c, hq⟩, hrest⟩ := List.forall_mem_cons.mp h
    obtain ⟨failed, hfailed, hiff⟩ := ih hrest
    refine ⟨if c.accepts value then failed else q.message :: failed, ?_, ?_⟩
    · simp [diagnose, hq, hfailed, bind, Except.bind]
    · rw [List.forall_mem_cons, ← hiff]
      by_cases hc : c.accepts value = true
      · simp [hc, hq]
      · simp [hc, hq]

/-- The messages for two lists of requirements stand one behind the other. -/
theorem diagnose_append {rs' : List Requirement} {value : String} {failed failed' : List Value}
    (h : diagnose rs value flags = .ok failed) (h' : diagnose rs' value flags = .ok failed') :
    diagnose (rs ++ rs') value flags = .ok (failed ++ failed') := by
  induction rs generalizing failed with
  | nil =>
    obtain rfl := Except.ok.inj h
    exact h'
  | cons r rest ih =>
    obtain ⟨c, hc, h⟩ := bind_eq_ok.mp h
    obtain ⟨others, hothers, h⟩ := bind_eq_ok.mp h
    obtain rfl := Except.ok.inj h
    simp only [List.cons_append, diagnose, hc, ih hothers, bind, Except.bind]
    cases c.accepts value <;> rfl

/-- The message of a single requirement. -/
theorem diagnose_singleton {c : Compiled} (h : compile r.fragment.render flags = .ok c) (value : String) :
    diagnose [r] value flags = .ok (if c.accepts value then [] else [r.message]) := by
  have hc : r.compileAlone flags = .ok c := compileFor_eq_ok.mpr h
  simp only [diagnose, hc, bind, Except.bind]

/-- A fragment compiles alone and accepts a text. -/
def Fragment.Accepts (flags : Flags) (f : Fragment) (value : String) : Prop :=
  ∃ c, compile f.render flags = .ok c ∧ c.accepts value = true

theorem Fragment.accepts_iff {f : Fragment} {c : Compiled} (h : compile f.render flags = .ok c)
    (value : String) : f.Accepts flags value ↔ c.accepts value = true := by
  constructor
  · rintro ⟨c', hc', haccepts⟩
    rwa [Except.ok.inj (h.symm.trans hc')]
  · exact fun haccepts => ⟨c, h, haccepts⟩

theorem diagnose_eq_nil_iff (value : String) :
    diagnose rs value flags = .ok [] ↔ ∀ r ∈ rs, r.fragment.Accepts flags value := by
  rcases all_or_firstRefused flags rs with hall | ⟨r, e, hrefused⟩
  · obtain ⟨failed, hfailed, hiff⟩ := diagnose_of_all hall value
    rw [hfailed, Except.ok.injEq, hiff]
    refine forall₂_congr fun r hr => ?_
    obtain ⟨c, hc⟩ := hall r hr
    rw [Fragment.accepts_iff (compileFor_eq_ok.mp hc), hc]
    simp
  · -- The first fragment that does not compile is refused by the diagnosis and accepts nothing.
    rw [diagnose_of_firstRefused hrefused]
    obtain ⟨before, after, rfl, -, hr⟩ := hrefused
    refine ⟨fun h => (nomatch h), fun h => ?_⟩
    obtain ⟨c, hc, -⟩ := h r (List.mem_append_right _ List.mem_cons_self)
    cases hr.symm.trans (compileFor_eq_ok.mpr hc)

/-! ### Whole fragments -/

theorem compiles_of_whole (hwhole : ∀ f ∈ fragmentsOf rs, f.Whole flags) :
    ∀ r ∈ rs, ∃ c, r.compileAlone flags = .ok c ∧
      ∀ value, c.accepts value = r.fragment.holds flags value := by
  intro r hr
  obtain ⟨hflags, ls, halone⟩ :=
    Fragment.whole_iff.mp (hwhole r.fragment (List.mem_map_of_mem hr))
  obtain ⟨c, hcompile, haccepts⟩ := Fragment.render_accepts hflags halone
  exact ⟨c, compileFor_eq_ok.mpr hcompile, haccepts⟩

/-- The diagnosis of whole fragments: nothing has failed if the text has at its start what each of
    them asks for. -/
theorem diagnose_of_whole (hwhole : ∀ f ∈ fragmentsOf rs, f.Whole flags) (value : String) :
    ∃ failed, diagnose rs value flags = .ok failed ∧
      (failed = [] ↔ ∀ f ∈ fragmentsOf rs, f.holds flags value = true) := by
  have hcompiles := compiles_of_whole hwhole
  obtain ⟨failed, hfailed, hiff⟩ :=
    diagnose_of_all (fun r hr => (hcompiles r hr).imp fun _ h => h.1) value
  refine ⟨failed, hfailed, hiff.trans ?_⟩
  simp only [fragmentsOf, List.forall_mem_map]
  constructor
  · intro h r hr
    obtain ⟨c, hc, haccepts⟩ := hcompiles r hr
    rw [← haccepts value]
    exact h r hr c hc
  · intro h r hr c hc
    obtain ⟨c', hc', haccepts⟩ := hcompiles r hr
    obtain rfl := Except.ok.inj (hc.symm.trans hc')
    rw [haccepts value]
    exact h r hr

/-- The composition of whole fragments: it matches the whole text or nothing, or it fails without a
    requirement. -/
theorem compose_of_whole (hflags : flags.Accepted) (hwhole : ∀ f ∈ fragmentsOf rs, f.Whole flags) :
    (Composable flags (fragmentsOf rs) ∧ ∃ c, compose rs flags = .ok c ∧ ∀ value, c.match? value
        = if holdInTurn flags (fragmentsOf rs) value = true ∧ (value ≠ "" ∨ rs = []) then
            some value.length
          else none) ∨
    (¬ Composable flags (fragmentsOf rs) ∧ ∃ reason, compose rs flags
        = .error (.record (.pattern (.str (composedText rs)) (.str reason) .null))) := by
  have hcompiles := compiles_of_whole hwhole
  rw [compose_of_all fun r hr => (hcompiles r hr).imp fun _ h => h.1]
  rcases compileChars_composedText hflags hwhole with ⟨hcond, trees, htrees, hcompile⟩ | ⟨hcond, hfault⟩
  · refine .inl ⟨hcond, _, compileFor_eq_ok.mpr (compile_eq_ok.mpr ⟨_, hcompile, rfl⟩), ?_⟩
    intro value
    simp only [Compiled.match?, composedTree_matchAt, leastTaken_le, holdInTurn, htrees]
  · exact .inr ⟨hcond, compileFor_malformed _ (compile_malformed hfault)⟩

end TextCriteria
