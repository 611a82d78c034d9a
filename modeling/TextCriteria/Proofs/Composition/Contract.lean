import TextCriteria.Proofs.Builder.Flags
import TextCriteria.Proofs.Composition.Refusal
import TextCriteria.Proofs.Requirement.Standard

namespace TextCriteria

open TextCriteria.Pattern

/-!
# The contract of composition and diagnosis

For requirements without groups, standard ones and ones of the caller's, in any order.

* `Requirement.Admissible` — the requirements that the contract is about.
* `Builder.isValid_iff` — what a builder accepts.
* `compose_agrees` — composition and diagnosis fail alike or agree on every text, except under the
  template flag.
* `compose_template_refused` — the exception.
-/

variable {flags : Flags} {rs rs' : List Requirement} {r : Requirement} {c c' : Compiled}

/-- A requirement that a call adds, or one with a body that is a pattern by itself without groups. -/
def Requirement.Admissible (flags : Flags) (r : Requirement) : Prop :=
  (∃ (s : Settings) (call : Call), call.IsStandard ∧ r ∈ (call.change s).added) ∨
    (Pattern.Compiles flags r.fragment.body ∧ groupsOf flags r.fragment.body = 0)

theorem Requirement.Admissible.settled (hflags : flags.Accepted) (h : r.Admissible flags) :
    r.fragment.Settled flags := by
  rcases h with ⟨s, call, hcall, hr⟩ | ⟨hbody, hfree⟩
  · exact (Call.change_standard s hcall r hr).settled hflags
  · rintro ⟨alone, hcompile⟩
    rcases Fragment.whole_or_malformed hflags hbody with ⟨hwhole, hcount⟩ | ⟨cause, left, hrefused⟩
    · exact ⟨hwhole, hcount.trans hfree⟩
    · cases hrefused.symm.trans hcompile

/-! ### Lists without groups -/

/-- Without groups there are no names of groups. -/
theorem Fragment.groupNames_eq_nil {f : Fragment} (hwhole : f.Whole flags)
    (hfree : f.groupCount flags = 0) : f.groupNames flags = [] := by
  obtain ⟨-, ls, halone⟩ := Fragment.whole_iff.mp hwhole
  have hnames := (halone.reads.sound (Draft.start_sound _ _)).names
  rw [Fragment.groupNames, namesOf, List.map_eq_nil_iff, List.eq_nil_iff_forall_not_mem]
  intro e he
  have hle : 0 < e.2 ∧ e.2 ≤ f.groupCount flags := hnames e he
  omega

theorem namesApart_of_groupFree {fs : List Fragment} (hwhole : ∀ f ∈ fs, f.Whole flags)
    (hfree : ∀ f ∈ fs, f.groupCount flags = 0) : NamesApart flags fs := by
  refine List.Pairwise.imp_of_mem (R := fun _ _ => True) (fun {f g} hf _ _ name hname => ?_)
    (List.pairwise_of_forall fun _ _ => trivial)
  rw [Fragment.groupNames_eq_nil (hwhole f hf) (hfree f hf)] at hname
  cases hname

theorem groupFree_of_admissible (hflags : flags.Accepted) (hrs : ∀ r ∈ rs, r.Admissible flags)
    (hall : ∀ r ∈ rs, r.Compiles flags) :
    ∀ f ∈ fragmentsOf rs, f.Whole flags ∧ f.groupCount flags = 0 := by
  simp only [fragmentsOf, List.forall_mem_map]
  intro r hr
  exact (hrs r hr).settled hflags (Requirement.compiles_iff.mp (hall r hr))

/-- When no admissible requirement is refused alone, the template flag decides on the composition. -/
theorem compose_of_admissible (hflags : flags.Accepted) (hrs : ∀ r ∈ rs, r.Admissible flags)
    (hall : ∀ r ∈ rs, r.Compiles flags) :
    (flags.template = false ∧ ∃ c, compose rs flags = .ok c) ∨
    (flags.template = true ∧ ∃ e, e.Names (composedText rs) .null ∧ compose rs flags = .error e) := by
  have hsettled := groupFree_of_admissible hflags hrs hall
  have hapart := namesApart_of_groupFree (fun f hf => (hsettled f hf).1) fun f hf => (hsettled f hf).2
  have hkept := numbersKept_of_groupFree fun f hf => (hsettled f hf).2
  rcases compose_of_kept hflags (fun f hf => (hsettled f hf).1) hapart hkept with
    ⟨htemplate, c, hc, -⟩ | hrefused
  · exact .inl ⟨htemplate, c, hc⟩
  · exact .inr hrefused

/-- A composition of admissible requirements matches the whole text or nothing, and it matches what
    the diagnosis finds nothing in. -/
theorem match?_of_admissible (hflags : flags.Accepted) (hrs : ∀ r ∈ rs, r.Admissible flags)
    (hcompose : compose rs flags = .ok c) (value : String) :
    (c.accepts value = true ↔ diagnose rs value flags = .ok [] ∧ (value ≠ "" ∨ rs = [])) ∧
      ∀ n, c.match? value = some n → n = value.length := by
  have hsettled := groupFree_of_admissible hflags hrs (compiles_of_compose hcompose)
  have hwhole : ∀ f ∈ fragmentsOf rs, f.Whole flags := fun f hf => (hsettled f hf).1
  have hkept := numbersKept_of_groupFree fun f hf => (hsettled f hf).2
  have hmatch := match?_of_whole hflags hwhole hcompose value
  simp only [holdInTurn_of_kept hwhole hkept] at hmatch
  obtain ⟨failed, hfailed, hiff⟩ := diagnose_of_whole hwhole value
  constructor
  · rw [Compiled.accepts, hmatch, hfailed, Except.ok.injEq, hiff]
    split <;> simp_all
  · intro n hn
    rw [hmatch] at hn
    split at hn
    · exact (Option.some.inj hn).symm
    · cases hn

/-- The order of the requirements makes no difference to the diagnosis finding nothing. -/
theorem diagnose_nil_perm (hall : ∀ r ∈ rs, r.Compiles flags) (hperm : rs.Perm rs') (value : String) :
    diagnose rs value flags = .ok [] ↔ diagnose rs' value flags = .ok [] := by
  have hall' : ∀ r ∈ rs', r.Compiles flags := fun r hr => hall r (hperm.mem_iff.mpr hr)
  obtain ⟨failed, hfailed, hiff⟩ := diagnose_of_all hall value
  obtain ⟨failed', hfailed', hiff'⟩ := diagnose_of_all hall' value
  rw [hfailed, hfailed', Except.ok.injEq, Except.ok.injEq, hiff, hiff']
  simp only [hperm.mem_iff]

theorem match?_perm (hflags : flags.Accepted) (hrs : ∀ r ∈ rs, r.Admissible flags)
    (hperm : rs.Perm rs') (hcompose : compose rs flags = .ok c) (hcompose' : compose rs' flags = .ok c')
    (value : String) : c'.match? value = c.match? value := by
  have hrs' : ∀ r ∈ rs', r.Admissible flags := fun r hr => hrs r (hperm.mem_iff.mpr hr)
  obtain ⟨haccepts, hend⟩ := match?_of_admissible hflags hrs hcompose value
  obtain ⟨haccepts', hend'⟩ := match?_of_admissible hflags hrs' hcompose' value
  have hnil : rs = [] ↔ rs' = [] :=
    ⟨fun h => by rw [h] at hperm; exact hperm.nil_eq.symm,
      fun h => by rw [h] at hperm; exact hperm.eq_nil⟩
  have hsame : c.accepts value = c'.accepts value := by
    rw [Bool.eq_iff_iff, haccepts, haccepts', hnil,
      diagnose_nil_perm (compiles_of_compose hcompose) hperm value]
  unfold Compiled.accepts at hsame
  cases hm : c.match? value with
  | none => simpa [hm] using hsame.symm
  | some n =>
    obtain ⟨n', hm'⟩ : ∃ n', c'.match? value = some n' :=
      Option.isSome_iff_exists.mp (by rw [← hsame, hm]; rfl)
    rw [hm', hend n hm, hend' n' hm']

/-! ### Builders -/

/-- What a builder accepts: the texts that each fragment accepts, except for the empty one if there are
    requirements. Where repetitions are forbidden it accepts nothing. -/
theorem Builder.isValid_iff {b : Builder} (hflags : b.flags.Accepted)
    (hrs : ∀ r ∈ b.requirements, r.Admissible b.flags) (value : String) :
    b.isValid (.str value) = .ok true ↔ b.flags.template = false ∧
      (∀ r ∈ b.requirements, r.fragment.Accepts b.flags value) ∧ (value ≠ "" ∨ b.requirements = []) := by
  constructor
  · intro hvalid
    obtain ⟨c, hbuild, hvalid⟩ := bind_eq_ok.mp hvalid
    have hcompose : compose b.requirements b.flags = .ok c := Builder.compose_of_build hbuild
    have haccepts : c.accepts value = true := Except.ok.inj hvalid
    rw [(match?_of_admissible hflags hrs hcompose value).1, diagnose_eq_nil_iff] at haccepts
    rcases compose_of_admissible hflags hrs (compiles_of_compose hcompose) with
      ⟨htemplate, -⟩ | ⟨-, e, -, hrefused⟩
    · exact ⟨htemplate, haccepts⟩
    · cases hcompose.symm.trans hrefused
  · rintro ⟨htemplate, haccepts⟩
    have hall : ∀ r ∈ b.requirements, r.Compiles b.flags := by
      intro r hr
      obtain ⟨c, hc, -⟩ := haccepts.1 r hr
      exact Requirement.compiles_iff.mpr ⟨c, hc⟩
    rcases compose_of_admissible hflags hrs hall with ⟨-, c, hcompose⟩ | ⟨hrefused, -⟩
    · rw [← diagnose_eq_nil_iff, ← (match?_of_admissible hflags hrs hcompose value).1] at haccepts
      have hbuild : b.build = .ok c := (Builder.build_of_accepted hflags).trans hcompose
      simp [Builder.isValid, hbuild, Builder.subject, haccepts, bind, Except.bind]
    · exact absurd (htemplate.symm.trans hrefused) Bool.false_ne_true

/-! ### The contract -/

/-- **Contract.** Composition and diagnosis fail for the same first requirement, or the diagnosis
    succeeds. Then, without the template flag, so does the composition; it matches exactly the texts
    that the diagnosis finds nothing in and that are not empty if there are requirements, each from
    end to end, and in whatever order the requirements stand. Under the template flag it is refused. -/
theorem compose_agrees (hflags : flags.Accepted) (hrs : ∀ r ∈ rs, r.Admissible flags) :
    (∃ r e, FirstRefused flags rs r e ∧ compose rs flags = .error e ∧
      ∀ value, diagnose rs value flags = .error e) ∨
    ((∀ value, ∃ failed, diagnose rs value flags = .ok failed) ∧
      ((flags.template = false ∧ ∃ c, compose rs flags = .ok c ∧
        (∀ value, (c.accepts value = true ↔
            diagnose rs value flags = .ok [] ∧ (value ≠ "" ∨ rs = [])) ∧
          ∀ n, c.match? value = some n → n = value.length) ∧
        ∀ rs', rs.Perm rs' → ∃ c', compose rs' flags = .ok c' ∧
          ∀ value, c'.match? value = c.match? value) ∨
      (flags.template = true ∧
        ∃ e, e.Names (composedText rs) .null ∧ compose rs flags = .error e))) := by
  rcases all_or_firstRefused flags rs with hall | ⟨r, e, hrefused⟩
  · refine .inr ⟨fun value => ?_, ?_⟩
    · obtain ⟨failed, hfailed, -⟩ := diagnose_of_all hall value
      exact ⟨failed, hfailed⟩
    rcases compose_of_admissible hflags hrs hall with ⟨htemplate, c, hc⟩ | hfault
    · refine .inl ⟨htemplate, c, hc, match?_of_admissible hflags hrs hc, fun rs' hperm => ?_⟩
      rcases compose_of_admissible hflags (fun r hr => hrs r (hperm.mem_iff.mpr hr))
          (fun r hr => hall r (hperm.mem_iff.mpr hr)) with ⟨-, c', hc'⟩ | ⟨htemplate', -⟩
      · exact ⟨c', hc', match?_perm hflags hrs hperm hc hc'⟩
      · rw [htemplate] at htemplate'
        cases htemplate'
    · exact .inr hfault
  · exact .inl ⟨r, e, hrefused, compose_of_firstRefused hrefused, diagnose_of_firstRefused hrefused⟩

/-- A least length beside a pattern of the caller's, with a bar at its top. -/
theorem compose_agrees_length :
    ∃ c, compose [.minLength 2 .null, ⟨.anchored "a|b+", .str "m"⟩] 0 = .ok c ∧
      ∀ value, c.accepts value = true ↔
        diagnose [.minLength 2 .null, ⟨.anchored "a|b+", .str "m"⟩] value 0 = .ok [] ∧
          (value ≠ "" ∨ [Requirement.minLength 2 .null, ⟨.anchored "a|b+", .str "m"⟩] = []) := by
  have hrs : ∀ r ∈ [Requirement.minLength 2 .null, ⟨.anchored "a|b+", .str "m"⟩],
      r.Admissible 0 := by
    simp only [List.forall_mem_cons]
    refine ⟨.inl ⟨{}, .length .least (.int 2) .null, trivial, List.mem_cons_self⟩,
      .inr ⟨⟨_, rfl⟩, rfl⟩, by simp⟩
  have hcompose : ∃ c, compose [.minLength 2 .null, ⟨.anchored "a|b+", .str "m"⟩] 0 = .ok c :=
    ⟨_, rfl⟩
  obtain ⟨c, hc⟩ := hcompose
  rcases compose_agrees ⟨_, rfl⟩ hrs with
    ⟨r, e, -, he, -⟩ | ⟨-, ⟨-, c', hc', hagrees, -⟩ | ⟨htemplate, -⟩⟩
  · cases hc.symm.trans he
  · exact ⟨c', hc', fun value => (hagrees value).1⟩
  · cases htemplate

/-- **Template flag.** One requirement, which compiles alone and is met, has no composition. -/
theorem compose_template_refused :
    Flags.Accepted 1 ∧ (⟨.anchored "a", .str "m"⟩ : Requirement).Admissible 1 ∧
      diagnose [⟨.anchored "a", .str "m"⟩] "a" 1 = .ok [] ∧
      compose [⟨.anchored "a", .str "m"⟩] 1
        = .error (.record (.pattern (.str "^(?=^(?:a)\\Z)(?s:.+)\\Z")
            (.str "internal: unsupported template operator MAX_REPEAT") .null)) :=
  ⟨⟨_, rfl⟩, .inr ⟨⟨_, rfl⟩, rfl⟩, rfl, rfl⟩

end TextCriteria
