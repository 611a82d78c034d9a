import TextCriteria.Proofs.Pattern.Planting

namespace TextCriteria.Pattern

/-!
# When a text compiles

* `Flags.Accepted` — flags that patterns can be compiled under.
* `Draft.Complete` — a draft with nothing open, nothing missing and nothing forbidden in it.
* `compileChars_eq_ok` — a text that is read to a complete draft compiles to its tree.
* `groupsOf`, `namesOf`, `lexemesOf` — the groups, names and lexemes of a text.
* `ReadsTo` — a text that is read to a tree; `ReadsTo.compile_eq`, what it compiles to.
-/

/-- Flags are accepted if the empty pattern compiles under them. -/
def Flags.Accepted (flags : Flags) : Prop := ∃ c, compile "" flags = .ok c

/-- A draft that compiles: no parenthesis is open, every group that is asked for exists, and the tree
    contains nothing that is refused. -/
structure Draft.Complete (template : Bool) (d : Draft) : Prop where
  outer : d.outer = []
  missing : d.missingGroup? = none
  fault : d.frame.body.fault? template = none

/-! ### From drafts to compiled patterns -/

variable {text : List Char} {flags : Flags} {d : Draft}

/-- Reading from the start. -/
abbrev readText (flags : Flags) (text : List Char) : Outcome Draft :=
  (Draft.start flags.verbose text.length).readAll text

theorem Draft.finish_closed (h : d.outer = []) : d.finish = .ok d.frame.body := by
  unfold Draft.finish
  rw [h]

theorem Draft.finish_open (h : d.outer ≠ []) : d.finish = Pattern.fault .unterminatedGroup d.frame.left := by
  unfold Draft.finish
  split
  · rename_i heq
    exact absurd heq h
  · rfl

/-- The flags in force when none are set inside a pattern. -/
def Flags.inForce (flags : Flags) : Flags :=
  match flags.check with
  | .ok f => f
  | .error _ => flags

/-- Reading text as Unicode does not touch the switches below that one. -/
theorem Flags.inForce_hasBit (flags : Flags) {k : Nat} (hk : k < 5) :
    hasBit flags.inForce k = hasBit flags k := by
  unfold inForce check
  split
  · rename_i f heq
    split at heq
    · simp at heq
    split at heq
    · simp at heq
    · obtain rfl := Except.ok.inj heq
      unfold normalize setBit
      split
      · rfl
      split
      · rfl
      · have hdiv : ∀ n : Int, (n + 32) / (weight k : Int) % 2 = n / (weight k : Int) % 2 := by
          have hweights : (weight k : Int) ∈ ([1, 2, 4, 8, 16] : List Int) := by
            rcases (by omega : k = 0 ∨ k = 1 ∨ k = 2 ∨ k = 3 ∨ k = 4) with rfl | rfl | rfl | rfl | rfl <;>
              decide
          intro n
          simp only [List.mem_cons, List.not_mem_nil, or_false] at hweights
          rcases hweights with h | h | h | h | h <;> rw [h] <;> omega
        have hweight : (weight 5 : Int) = 32 := rfl
        rw [hasBit, hasBit, hweight, hdiv]
  · rfl

theorem Flags.inForce_template (flags : Flags) : flags.inForce.template = flags.template :=
  flags.inForce_hasBit (by omega)

theorem Flags.inForce_ignoreCase (flags : Flags) : flags.inForce.ignoreCase = flags.ignoreCase :=
  flags.inForce_hasBit (by omega)

/-- Reading text as Unicode does not touch the flag for ASCII. -/
theorem Flags.inForce_ascii (flags : Flags) : flags.inForce.ascii = flags.ascii := by
  unfold inForce check
  split
  · rename_i f heq
    split at heq
    · cases heq
    split at heq
    · cases heq
    · obtain rfl := Except.ok.inj heq
      unfold normalize setBit
      split
      · rfl
      split
      · rfl
      · next hnot =>
        -- The bit that is set was not set before, so nothing is carried over to the higher ones.
        have hdiv : ∀ n : Int, ¬n / 32 % 2 = 1 → (n + 32) / 256 = n / 256 := by omega
        have hweights : (weight 5 : Int) = 32 ∧ (weight 8 : Int) = 256 := ⟨rfl, rfl⟩
        rw [hasBit, hweights.1, beq_iff_eq] at hnot
        rw [ascii, ascii, hasBit, hasBit, hweights.1, hweights.2, hdiv flags hnot]
  · rfl

/-- Flags are accepted if they can stand together and fit. -/
theorem Flags.Accepted.check (h : flags.Accepted) :
    ∃ f, flags.check = .ok f ∧ ¬ ((f < -2147483648 || 2147483647 < f) = true) := by
  obtain ⟨c, h⟩ := h
  obtain ⟨⟨f, tree⟩, h, -⟩ := bind_eq_ok.mp h
  have hread : readText flags [] = .ok (Draft.start flags.verbose 0) := rfl
  unfold compileChars at h
  split at h
  · rename_i heq
    cases hread.symm.trans heq
  · rename_i heq
    cases hread.symm.trans heq
  · rename_i d heq
    obtain rfl := Except.ok.inj (hread.symm.trans heq)
    obtain ⟨tree', -, h⟩ := bind_eq_ok.mp h
    obtain ⟨f', hcheck, h⟩ := bind_eq_ok.mp h
    refine ⟨f', hcheck, fun hlarge => ?_⟩
    split at h
    · simp [fault] at h
    split at h
    · simp at h
    rw [if_pos hlarge] at h
    simp at h

theorem Flags.accepted_of_check {f : Flags} (hcheck : flags.check = .ok f)
    (hsize : ¬ ((f < -2147483648 || 2147483647 < f) = true)) : flags.Accepted := by
  have hchars : compileChars [] flags = .ok (f, .empty) := by
    have hfinish : (Draft.start flags.verbose 0).finish = .ok .empty := rfl
    have hmissing : (Draft.start flags.verbose 0).missingGroup? = none := rfl
    have hglobals : (Draft.start flags.verbose 0).globals = [] := rfl
    unfold compileChars
    simp only [List.length_nil, Draft.readAll_nil, hfinish, hglobals, Flags.withLetters,
      List.foldl_nil, hcheck, bind, Except.bind, hmissing, Regex.fault?]
    rw [if_neg hsize]
  exact ⟨_, by unfold compile; rw [show "".toList = [] from rfl, hchars]; rfl⟩

/-- What compiles has been read to a complete draft. -/
theorem compileChars_complete {x : Flags × Regex} (h : compileChars text flags = .ok x) :
    ∃ d, readText flags text = .ok d ∧ d.Complete x.1.template ∧ x.2 = d.frame.body ∧
      (d.globals = [] → flags.Accepted ∧ x.1 = flags.inForce) := by
  unfold compileChars at h
  split at h
  · obtain ⟨_, -, h⟩ := bind_eq_ok.mp h
    simp at h
  · simp at h
  · rename_i d hread
    refine ⟨d, hread, ?_⟩
    obtain ⟨tree, htree, h⟩ := bind_eq_ok.mp h
    obtain ⟨f, hcheck, h⟩ := bind_eq_ok.mp h
    have houter : d.outer = [] := by
      by_cases houter : d.outer = []
      · exact houter
      · simp [Draft.finish_open houter, fault] at htree
    rw [Draft.finish_closed houter] at htree
    obtain rfl := Except.ok.inj htree
    split at h
    · simp [fault] at h
    rename_i hmissing
    split at h
    · simp at h
    rename_i hfault
    split at h
    · simp at h
    · rename_i hsize
      obtain rfl := Except.ok.inj h
      refine ⟨⟨houter, hmissing, hfault⟩, rfl, fun hglobals => ?_⟩
      rw [hglobals] at hcheck
      have hcheck : flags.check = .ok f := hcheck
      exact ⟨Flags.accepted_of_check hcheck hsize, by simp [Flags.inForce, hcheck]⟩

/-- A text that is read to a complete draft compiles to its tree. -/
theorem compileChars_eq_ok (hflags : flags.Accepted) (hread : readText flags text = .ok d)
    (hglobals : d.globals = []) (hd : d.Complete flags.template) :
    compileChars text flags = .ok (flags.inForce, d.frame.body) := by
  obtain ⟨f, hcheck, hsize⟩ := hflags.check
  have hf : flags.inForce = f := by simp [Flags.inForce, hcheck]
  have hfault := hd.fault
  rw [← flags.inForce_template, hf] at hfault
  unfold compileChars
  simp only [hread, Draft.finish_closed hd.outer, hglobals, Flags.withLetters, List.foldl_nil, hcheck,
    bind, Except.bind, hd.missing, hfault]
  rw [if_neg hsize, hf]

/-! ### What a text contains -/

/-- The text is a pattern by itself. -/
def Compiles (flags : Flags) (text : String) : Prop := ∃ c, compile text flags = .ok c

/-- The draft that a text is read to. -/
def draftOf (flags : Flags) (text : String) : Draft :=
  match readText flags text.toList with
  | .ok d => d
  | .error _ => Draft.start flags.verbose 0

/-- How many groups a text opens. -/
def groupsOf (flags : Flags) (text : String) : Nat := (draftOf flags text).groups

/-- The names that a text gives to groups. -/
def namesOf (flags : Flags) (text : String) : List (List Char) :=
  (draftOf flags text).names.map Prod.fst

/-- The lexemes of a text. -/
def lexemesOf (flags : Flags) (text : String) : List Lexeme :=
  (Draft.start flags.verbose text.toList.length).lexemes text.toList

theorem draftOf_eq {text : String} (h : readText flags text.toList = .ok d) :
    draftOf flags text = d := by
  simp only [draftOf, h]

/-! ### Malformed texts -/

/-- What cannot be read is refused for the same reason. -/
theorem compileChars_error_of_read (hflags : flags.Accepted) {e : Refusal}
    (hread : readText flags text = .error e) : compileChars text flags = .error e := by
  obtain ⟨f, hcheck, -⟩ := hflags.check
  unfold compileChars
  split
  · rename_i left heq
    obtain rfl : e = .malformed .unbalanced left := Except.error.inj (hread.symm.trans heq)
    rw [hcheck]
    rfl
  · rename_i heq
    rw [← Except.error.inj (hread.symm.trans heq)]
  · rename_i heq
    cases hread.symm.trans heq

theorem compileChars_malformed_of_read (hflags : flags.Accepted)
    (hread : (readText flags text).Malformed) : (compileChars text flags).Malformed := by
  obtain ⟨cause, left, hread⟩ := hread
  exact ⟨cause, left, compileChars_error_of_read hflags hread⟩

theorem compileChars_malformed_of_open (hread : readText flags text = .ok d) (hd : d.outer ≠ []) :
    (compileChars text flags).Malformed := by
  refine ⟨.unterminatedGroup, some d.frame.left, ?_⟩
  unfold compileChars
  simp only [hread, Draft.finish_open hd, bind, Except.bind, fault]

/-- A group that a conditional asks for is missing. -/
theorem compileChars_malformed_of_missing (hflags : flags.Accepted)
    (hread : readText flags text = .ok d) (hglobals : d.globals = []) (houter : d.outer = [])
    (hmissing : d.missingGroup? ≠ none) : (compileChars text flags).Malformed := by
  obtain ⟨f, hcheck, -⟩ := hflags.check
  obtain ⟨⟨index, left⟩, hgroup⟩ := Option.ne_none_iff_exists'.mp hmissing
  refine ⟨.invalidGroup index, some left, ?_⟩
  unfold compileChars
  simp only [hread, Draft.finish_closed houter, hglobals, Flags.withLetters, List.foldl_nil, hcheck,
    bind, Except.bind, hgroup, fault]

theorem compileChars_error_of_fault (hflags : flags.Accepted)
    (hread : readText flags text = .ok d) (hglobals : d.globals = []) (houter : d.outer = [])
    (hmissing : d.missingGroup? = none) {cause : Cause}
    (hfault : d.frame.body.fault? flags.template = some cause) :
    compileChars text flags = .error (.malformed cause none) := by
  obtain ⟨f, hcheck, -⟩ := hflags.check
  have hf : flags.inForce = f := by simp [Flags.inForce, hcheck]
  rw [← flags.inForce_template, hf] at hfault
  unfold compileChars
  simp only [hread, Draft.finish_closed houter, hglobals, Flags.withLetters, List.foldl_nil, hcheck,
    bind, Except.bind, hmissing, hfault]

theorem compileChars_malformed_of_fault (hflags : flags.Accepted)
    (hread : readText flags text = .ok d) (hglobals : d.globals = []) (houter : d.outer = [])
    (hmissing : d.missingGroup? = none) (hfault : d.frame.body.fault? flags.template ≠ none) :
    (compileChars text flags).Malformed := by
  obtain ⟨cause, hcause⟩ := Option.ne_none_iff_exists'.mp hfault
  exact ⟨cause, none, compileChars_error_of_fault hflags hread hglobals houter hmissing hcause⟩

/-! ### Texts as strings -/

theorem compile_eq_ok {text : String} {c : Compiled} :
    compile text flags = .ok c ↔
      ∃ x, compileChars text.toList flags = .ok x ∧ c = { text := text, flags := x.1, tree := x.2 } := by
  unfold compile
  rw [bind_eq_ok]
  constructor
  · rintro ⟨x, hx, h⟩
    exact ⟨x, hx, (Except.ok.inj h).symm⟩
  · rintro ⟨x, hx, rfl⟩
    exact ⟨x, hx, rfl⟩

theorem compile_eq_error {text : String} {e : Refusal} :
    compile text flags = .error e ↔ compileChars text.toList flags = .error e := by
  unfold compile
  cases compileChars text.toList flags <;> simp [bind, Except.bind]

/-- The text is read to its end, with nothing open or missing and no flags of the whole pattern, and has the
    tree. -/
def ReadsTo (flags : Flags) (text : List Char) (tree : Regex) : Prop :=
  ∃ d, readText flags text = .ok d ∧ d.outer = [] ∧ d.missingGroup? = none ∧ d.globals = [] ∧
    d.frame.body = tree

/-- Such a text compiles to its tree, unless that is refused. -/
theorem ReadsTo.compile_eq {text : String} {tree : Regex} (hflags : flags.Accepted)
    (h : ReadsTo flags text.toList tree) :
    compile text flags = match tree.fault? flags.template with
      | none => .ok ⟨text, flags.inForce, tree⟩
      | some cause => .error (.malformed cause none) := by
  obtain ⟨d, hread, houter, hmissing, hglobals, rfl⟩ := h
  cases hfault : d.frame.body.fault? flags.template with
  | none =>
    exact compile_eq_ok.mpr ⟨_, compileChars_eq_ok hflags hread hglobals ⟨houter, hmissing, hfault⟩, rfl⟩
  | some cause =>
    exact compile_eq_error.mpr (compileChars_error_of_fault hflags hread hglobals houter hmissing hfault)

theorem compile_malformed {text : String} (h : (compileChars text.toList flags).Malformed) :
    (compile text flags).Malformed := by
  obtain ⟨cause, left, h⟩ := h
  exact ⟨cause, left, compile_eq_error.mpr h⟩

end TextCriteria.Pattern
