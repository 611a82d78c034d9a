import TextCriteria.Builder.Validator
import TextCriteria.Proofs.Builder.Change
import TextCriteria.Proofs.Composition.Contract
import TextCriteria.Proofs.Composition.Number

namespace TextCriteria

open TextCriteria.Pattern

/-!
# What the operations of a builder fail with

* `Builder.calls` — a builder after some calls; `Builder.calls_admissible`, its requirements.
* `Evaluation` — the operations that compile the requirements of a builder.
* `Builder.failed_str` — the messages for a text are those of the diagnosis.
* `messageTexts_ofTexts` — messages that are texts can be told.
* `evaluations_fail_alike` — when the operations fail, and with what.
* `evaluations_fail_for_number` — a failure that is none of a pattern.
-/

variable {flags : Flags} {rs : List Requirement} {b : Builder}

/-! ### Builders and their messages -/

/-- The builder after some calls. -/
def Builder.calls (b : Builder) (cs : List Call) : Builder := cs.foldl Builder.call b

theorem Builder.calls_flags (b : Builder) (cs : List Call) : (b.calls cs).flags = b.flags := by
  induction cs generalizing b with
  | nil => rfl
  | cons c rest ih => exact ih (b.call c)

/-- **Run.** What all calls give to the requirements that they add, all requirements have after them. -/
theorem Builder.calls_forall {P : Requirement → Prop} {cs : List Call}
    (hcs : ∀ c ∈ cs, ∀ s, (c.change s).Adds P) (hb : ∀ r ∈ b.requirements, P r) :
    ∀ r ∈ (b.calls cs).requirements, P r := by
  induction cs generalizing b with
  | nil => exact hb
  | cons c rest ih =>
    obtain ⟨hc, hrest⟩ := List.forall_mem_cons.mp hcs
    refine ih hrest fun r hr => ?_
    rcases List.mem_append.mp hr with hr | hr
    · exact hb r hr
    · exact hc b.settings r hr

/-- Calls with messages that are texts lead to requirements with such messages. -/
theorem Builder.calls_worded {cs : List Call} (hcs : ∀ c ∈ cs, c.Worded)
    (hb : ∀ r ∈ b.requirements, r.Worded) : ∀ r ∈ (b.calls cs).requirements, r.Worded :=
  Builder.calls_forall (fun c hc s => Call.change_worded s (hcs c hc)) hb

/-- Calls with neither a fragment nor a pattern of the caller's lead to admissible requirements. -/
theorem Builder.calls_admissible {cs : List Call} (hcs : ∀ c ∈ cs, c.IsStandard)
    (hb : ∀ r ∈ b.requirements, r.Admissible flags) :
    ∀ r ∈ (b.calls cs).requirements, r.Admissible flags :=
  Builder.calls_forall (fun c hc s _ hr => .inl ⟨s, c, hcs c hc, hr⟩) hb

/-- Messages that are texts, as texts. -/
theorem exists_texts {messages : List Value} (h : ∀ m ∈ messages, ∃ s, m = .str s) :
    ∃ texts : List String, messages = texts.map Value.str := by
  induction messages with
  | nil => exact ⟨[], rfl⟩
  | cons m rest ih =>
    obtain ⟨⟨s, rfl⟩, hrest⟩ := List.forall_mem_cons.mp h
    obtain ⟨texts, rfl⟩ := ih hrest
    exact ⟨s :: texts, rfl⟩

/-- Messages that are texts can be told. -/
theorem messageTexts_ofTexts (field : String) (texts : List String) :
    messageTexts field (texts.map Value.str) = .ok texts := by
  refine (if_pos ?_).trans ?_
  · rw [List.isEmpty_iff, List.filterMap_eq_nil_iff]
    rintro ⟨v, i⟩ hv
    obtain ⟨s, -, rfl⟩ := List.mem_map.mp (List.fst_mem_of_mem_zipIdx hv)
    rfl
  · rw [List.filterMap_map]
    exact congrArg Except.ok List.filterMap_some

/-- The messages of a diagnosis are messages of requirements. -/
theorem diagnose_sublist {value : String} {failed : List Value}
    (h : diagnose rs value flags = .ok failed) : failed.Sublist (rs.map (·.message)) := by
  induction rs generalizing failed with
  | nil =>
    obtain rfl := Except.ok.inj h
    exact .slnil
  | cons r rest ih =>
    obtain ⟨c, -, h⟩ := bind_eq_ok.mp h
    obtain ⟨others, hothers, h⟩ := bind_eq_ok.mp h
    obtain rfl := Except.ok.inj h
    split
    · exact (ih hothers).cons _
    · exact (ih hothers).cons_cons _

theorem diagnose_texts (hrs : ∀ r ∈ rs, r.Worded) {value : String} {failed : List Value}
    (h : diagnose rs value flags = .ok failed) :
    ∃ texts : List String, failed = texts.map Value.str := by
  refine exists_texts fun m hm => ?_
  obtain ⟨r, hr, rfl⟩ := List.mem_map.mp ((diagnose_sublist h).subset hm)
  exact hrs r hr

/-- The messages for a text are those of the diagnosis. -/
theorem Builder.failed_str (hflags : b.flags.Accepted) (value : String) :
    b.failed (.str value) = diagnose b.requirements value b.flags := by
  have hgiven : b.given.flags? = .ok b.flags := Value.flags?_of_accepted hflags
  unfold Builder.failed
  split
  · rename_i hnil
    rw [hnil]
    rfl
  · rename_i r rest hcons
    rw [hcons, hgiven]
    cases hr : r.compileAlone b.flags with
    | error e => simp [diagnose, hr, bind, Except.bind]
    | ok c => simp [Builder.subject, hr, bind, Except.bind]

/-! ### Evaluations -/

/-- The operations that compile the requirements of a builder. -/
inductive Evaluation
  | build
  | isValid
  | failed
  | testOne
  | overview
  | validator

/-- Whether an operation succeeds on a text, and else what it fails with. -/
def Evaluation.run (b : Builder) (value : String) : Evaluation → Except Failure Unit
  | .build => discard b.build
  | .isValid => discard (b.isValid (.str value))
  | .failed => discard (b.failed (.str value))
  | .testOne => discard (b.testOne (.str value))
  | .overview => discard b.overview
  | .validator => discard b.validator

/-- All operations but the diagnosis put the one pattern together first. -/
theorem Evaluation.run_of_build_error {e : Failure} (h : b.build = .error e) (value : String)
    {ev : Evaluation} (hev : ev ≠ .failed) : ev.run b value = .error e := by
  cases ev with
  | failed => exact absurd rfl hev
  | _ => simp [Evaluation.run, Builder.isValid, Builder.testOne, Builder.overview, Builder.validator, h,
      discard, Functor.discard, Functor.mapConst, Except.map, bind, Except.bind]

theorem Evaluation.run_of_build_ok (hflags : b.flags.Accepted) (hrs : ∀ r ∈ b.requirements, r.Worded)
    {c : Compiled} (hbuild : b.build = .ok c) {value : String} {failed : List Value}
    (hfailed : diagnose b.requirements value b.flags = .ok failed) (ev : Evaluation) :
    ev.run b value = .ok () := by
  obtain ⟨texts, rfl⟩ := diagnose_texts hrs hfailed
  have hmessages : ∃ texts : List String, b.requirements.map (·.message) = texts.map Value.str := by
    refine exists_texts fun m hm => ?_
    obtain ⟨r, hr, rfl⟩ := List.mem_map.mp hm
    exact hrs r hr
  obtain ⟨all, hall⟩ := hmessages
  cases ev with
  | failed => simp [Evaluation.run, Builder.failed_str hflags, hfailed, discard, Functor.discard,
      Functor.mapConst, Except.map]
  | _ => simp [Evaluation.run, Builder.isValid, Builder.testOne, Builder.overview, Builder.validator,
      Builder.subject, hbuild, hfailed, hall, messageTexts_ofTexts, discard, Functor.discard,
      Functor.mapConst, Except.map, bind, Except.bind]

/-- **Evaluations.** After any calls with messages that are texts, and under any flags that patterns can
    be compiled under, all operations fail alike for the first fragment that does not compile, or the
    diagnosis succeeds. Then the others succeed too, or they fail alike for the one pattern. Each failure
    names the pattern, unless it is for a number in a body: a bound that is too large or has too many digits,
    or the code of a character that is too large. Bodies are read here to any depth of nesting; the stack of a
    machine, which may be too small for a deep one, is no part of the definitions. -/
theorem evaluations_fail_alike {settings : Settings} {given : Value} {cs : List Call}
    (hcs : ∀ c ∈ cs, c.Worded) (hflags : (Builder.create given settings).flags.Accepted)
    (hb : b = (Builder.create given settings).calls cs) (value : String) :
    (∃ r e, FirstRefused b.flags b.requirements r e ∧
      (e.Names r.fragment.render r.message ∨ e.OfNumber r.fragment.body) ∧
      ∀ ev : Evaluation, ev.run b value = .error e) ∨
    ((∀ r ∈ b.requirements, r.Compiles b.flags) ∧ Evaluation.failed.run b value = .ok () ∧
      ((∀ ev : Evaluation, ev.run b value = .ok ()) ∨
        ∃ e, (e.Names (composedText b.requirements) .null ∨
            ∃ r ∈ b.requirements, e.OfNumber r.fragment.body) ∧
          ∀ ev : Evaluation, ev ≠ .failed → ev.run b value = .error e)) := by
  have hworded : ∀ r ∈ b.requirements, r.Worded := by
    rw [hb]
    exact Builder.calls_worded hcs (by simp [Builder.create])
  have hflags : b.flags.Accepted := by
    rwa [hb, Builder.calls_flags]
  have hdiagnosed : ∀ {x : Except Failure (List Value)}, diagnose b.requirements value b.flags = x →
      Evaluation.failed.run b value = discard x := by
    rintro x rfl
    simp only [Evaluation.run, Builder.failed_str hflags]
  rcases all_or_firstRefused b.flags b.requirements with hall | ⟨r, e, hrefused⟩
  · obtain ⟨failed, hfailed, -⟩ := diagnose_of_all hall value
    refine .inr ⟨hall, hdiagnosed hfailed, ?_⟩
    cases hbuild : b.build with
    | ok c => exact .inl fun ev => Evaluation.run_of_build_ok hflags hworded hbuild hfailed ev
    | error e =>
      have hcompose := (compose_of_all hall).symm.trans ((Builder.build_of_accepted hflags).symm.trans hbuild)
      exact .inr ⟨e, compile_composedText_error hflags hcompose,
        fun ev hev => Evaluation.run_of_build_error hbuild value hev⟩
  · refine .inl ⟨r, e, hrefused, ?_, fun ev => ?_⟩
    · obtain ⟨_, _, -, -, hr⟩ := hrefused
      exact Requirement.compileAlone_error hflags hr
    · by_cases hev : ev = .failed
      · rw [hev]
        exact hdiagnosed (diagnose_of_firstRefused hrefused value)
      · refine Evaluation.run_of_build_error ?_ value hev
        rw [Builder.build_of_accepted hflags]
        exact compose_of_firstRefused hrefused

/-- A least length and a preset. -/
theorem evaluations_of_length :
    (Builder.create .null {}).flags.Accepted ∧ ∀ ev : Evaluation,
      ev.run ((Builder.create .null {}).calls
        [.length .least (.int 2) .null, .preset (.str "username") .null]) "ab1" = .ok () := by
  have hcs : ∀ c ∈ [Call.length .least (.int 2) .null, .preset (.str "username") .null],
      c.Worded := by
    simp only [List.forall_mem_cons]
    exact ⟨.inl rfl, trivial, by simp⟩
  have hflags : (Builder.create .null {}).flags.Accepted := ⟨_, rfl⟩
  refine ⟨hflags, ?_⟩
  rcases evaluations_fail_alike hcs hflags rfl "ab1" with
    ⟨r, e, -, -, he⟩ | ⟨-, -, hok | ⟨e, -, he⟩⟩
  · cases he .build
  · exact hok
  · cases he .build (by simp)

/-- **Too large.** A least length that the factory accepts and no repetition can have: every operation
    fails, and the failure names no pattern. -/
theorem evaluations_fail_for_number :
    (Builder.create .null {}).flags.Accepted ∧ Call.Worded (.length .least (.int 4294967295) .null) ∧
      (∀ ev : Evaluation, ev.run ((Builder.create .null {}).calls
        [.length .least (.int 4294967295) .null]) "a" = .error (.refused .repeatTooLarge)) ∧
      ∀ pattern requirement, ¬ (Failure.refused .repeatTooLarge).Names pattern requirement := by
  refine ⟨⟨_, rfl⟩, .inl rfl, fun ev => ?_, ?_⟩
  · cases ev <;> rfl
  · rintro pattern requirement ⟨reason, h⟩
    cases h

end TextCriteria
