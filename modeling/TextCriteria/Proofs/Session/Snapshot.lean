import TextCriteria.Proofs.Builder.Evaluation
import TextCriteria.Proofs.Session.Growth

namespace TextCriteria

open TextCriteria.Pattern

/-!
# Validators beside the builders they were made from

A validator keeps the requirements that its builder had when it was made. Whatever happens to the builder
and to the settings later, it goes on to say what the builder said then.

* `joinMessages_texts` — messages that are texts can be joined.
* `Builder.Passes` — a test of a text succeeds and finds it valid.
* `Builder.TextVerdict`, `Builder.Verdict` — what a validator of the builder has to answer.
* `Validator.check_verdict` — a validator answers that, for requirements without groups.
* `saveValidator_of_error`, `saveValidator_of_ok`, `validate_run` — making a validator and using it, as
  steps.
* `validator_keeps_verdict` — both together, with any steps between them.
-/

variable {b : Builder} {s : Session} {on saved : String}

/-! ### Messages -/

/-- Messages that are texts are joined with semicolons. -/
theorem joinMessages_texts (texts : List String) :
    joinMessages (texts.map Value.str) = .ok ("; ".intercalate texts) := by
  have hchecked : Value.checkTexts (texts.map Value.str) = .ok () := by
    have hnone : ((texts.map Value.str).zipIdx.find? fun m => m.1.asText?.isNone) = none := by
      rw [List.find?_eq_none]
      rintro ⟨v, i⟩ hv
      obtain ⟨s, -, rfl⟩ := List.mem_map.mp (List.fst_mem_of_mem_zipIdx hv)
      simp [Value.asText?]
    rw [Value.checkTexts, hnone]
  have htexts : (texts.map Value.str).filterMap Value.asText? = texts := by
    rw [List.filterMap_map]
    exact List.filterMap_some
  unfold joinMessages
  rw [hchecked, htexts]
  rfl

/-! ### Verdicts -/

/-- The builder finds the text valid. -/
def Builder.Passes (b : Builder) (text : String) : Prop :=
  ∃ test, b.testOne (.str text) = .ok test ∧ test.isValid = true

/-- What a validator of the builder answers for a text. It is passed on if the builder finds it valid; else the
    messages of the builder are told, or that a value must not be empty, if the text is empty and there are no
    messages. -/
def Builder.TextVerdict (b : Builder) (text : String) (answer : Except Failure Value) : Prop :=
  (b.Passes text ∧ answer = .ok (.str text)) ∨
  (¬ b.Passes text ∧ ∃ failed, b.failed (.str text) = .ok failed ∧
    ((failed ≠ [] ∧ ∀ texts : List String, failed = texts.map Value.str →
        answer = .error (.unmet ("; ".intercalate texts))) ∨
      (failed = [] ∧ text = "" ∧ answer = .error (.unmet emptyMessage))))

/-- What a validator of the builder answers for a value. Nothing at all is passed on, and any other value is
    taken by its text. A value with a number that cannot be written has none, and that is the answer. -/
def Builder.Verdict (b : Builder) (value : Value) (answer : Except Failure Value) : Prop :=
  (value = .null ∧ answer = .ok .null) ∨
  (value ≠ .null ∧ ∃ text, value.text = .ok text ∧ b.TextVerdict text answer) ∨
  (value ≠ .null ∧ value.text = .error .unwritable ∧ answer = .error .unwritable)

/-- Flags under which there is a composition are accepted. -/
theorem accepted_of_compose {flags : Flags} {rs : List Requirement} {c : Compiled}
    (h : compose rs flags = .ok c) : flags.Accepted := by
  have hcompile := (compose_of_all (compiles_of_compose h)).symm.trans h
  obtain ⟨x, hchars, -⟩ := compile_eq_ok.mp (compileFor_eq_ok.mp hcompile)
  obtain ⟨d, hread, -, -, hglobals⟩ := compileChars_complete hchars
  exact (hglobals ((begins_composedText rs).globals hread)).1

theorem Builder.passes_iff {c : Compiled} {text : String} (hbuild : b.build = .ok c)
    (haccepts : c.accepts text = true → diagnose b.requirements text b.flags = .ok []) :
    b.Passes text ↔ c.accepts text = true := by
  constructor
  · rintro ⟨test, htest, hvalid⟩
    obtain ⟨c', hbuild', htest⟩ := bind_eq_ok.mp htest
    obtain ⟨text', htext, htest⟩ := bind_eq_ok.mp htest
    obtain ⟨failed, -, htest⟩ := bind_eq_ok.mp htest
    obtain ⟨texts, -, htest⟩ := bind_eq_ok.mp htest
    obtain rfl := Except.ok.inj (hbuild.symm.trans hbuild')
    obtain rfl := Except.ok.inj htext
    obtain rfl := Except.ok.inj htest
    exact hvalid
  · intro h
    refine ⟨⟨text, true, []⟩, ?_, rfl⟩
    simp [Builder.testOne, hbuild, Builder.subject, haccepts h, h, messageTexts, bind, Except.bind]

section Check

variable {c : Compiled} {text : String}

/-- A text that is refused is answered with the messages for it. If there are none, it is said to be empty. -/
theorem Validator.checkText_refused {v : Validator} {texts : List String}
    (hrefused : ¬ v.pattern.accepts text = true)
    (hfailed : diagnose v.requirements text v.flags = .ok (texts.map Value.str)) :
    v.checkText text = .error (.unmet ("; ".intercalate (if texts = [] then [emptyMessage] else texts))) := by
  have hmessages : (if (texts.map Value.str).isEmpty = true then [Value.str emptyMessage]
      else texts.map Value.str) = (if texts = [] then [emptyMessage] else texts).map Value.str := by
    cases texts <;> rfl
  rw [checkText, if_neg hrefused, hfailed]
  simp only [bind, Except.bind, hmessages, joinMessages_texts]

/-- The validator of a builder with admissible requirements answers for a text what the builder says of it. -/
theorem Validator.checkText_verdict (hrs : ∀ r ∈ b.requirements, r.Admissible b.flags) (hbuild : b.build = .ok c)
    (text : String) : b.TextVerdict text (Validator.checkText ⟨b.requirements, b.flags, c⟩ text) := by
  have hcompose := Builder.compose_of_build hbuild
  have hflags := accepted_of_compose hcompose
  obtain ⟨hagrees, -⟩ := match?_of_admissible hflags hrs hcompose text
  obtain ⟨failed, hfailed, -⟩ := diagnose_of_all (compiles_of_compose hcompose) text
  have hpasses := Builder.passes_iff hbuild fun h => (hagrees.mp h).1
  by_cases haccepts : c.accepts text = true
  · exact .inl ⟨hpasses.mpr haccepts, if_pos haccepts⟩
  · refine .inr ⟨mt hpasses.mp haccepts, failed, ?_, ?_⟩
    · rw [Builder.failed_str hflags, hfailed]
    by_cases hnil : failed = []
    · subst hnil
      -- Every requirement is met, so the text can only be refused for being empty.
      have hempty : text = "" := by
        by_contra hne
        exact haccepts (hagrees.mpr ⟨hfailed, .inl hne⟩)
      refine .inr ⟨rfl, hempty, ?_⟩
      have hnone : diagnose b.requirements text b.flags = .ok (([] : List String).map Value.str) := hfailed
      rw [Validator.checkText_refused haccepts hnone]
      simp
    · refine .inl ⟨hnil, ?_⟩
      rintro texts rfl
      have htexts : texts ≠ [] := fun h => hnil (by rw [h]; rfl)
      rw [Validator.checkText_refused haccepts hfailed, if_neg htexts]

/-- The validator of a builder with admissible requirements answers what the builder says. -/
theorem Validator.check_verdict (hrs : ∀ r ∈ b.requirements, r.Admissible b.flags) (hbuild : b.build = .ok c)
    (value : Value) : b.Verdict value (Validator.check ⟨b.requirements, b.flags, c⟩ value) := by
  by_cases hnull : value = .null
  · subst hnull
    exact .inl ⟨rfl, rfl⟩
  have hcheck : Validator.check ⟨b.requirements, b.flags, c⟩ value
      = value.text >>= Validator.checkText ⟨b.requirements, b.flags, c⟩ := by
    unfold Validator.check
    split
    · exact absurd rfl hnull
    · rfl
  rw [hcheck]
  cases htext : value.text with
  | ok text => exact .inr (.inl ⟨hnull, text, htext, checkText_verdict hrs hbuild text⟩)
  | error f =>
    obtain ⟨-, rfl⟩ := Value.text_eq_error.mp htext
    exact .inr (.inr ⟨hnull, htext, rfl⟩)

end Check

/-! ### Steps -/

/-- Making a validator fails as putting the pattern together does. -/
theorem saveValidator_of_error (hb : s.builders.lookup on = some b) {e : Failure}
    (hbuild : b.build = .error e) (saved : String) :
    ((Step.saveValidator on saved).run s).1 = .failed e := by
  have hresult : ((Step.saveValidator on saved).action.run.run s).1 = .error e := by
    simp only [Step.action, Action.bind_run, builder_run hb, Session.noteBuild, hbuild,
      Builder.validator]
    rfl
  rw [Step.run_of_error hresult]

/-- Otherwise the requirements of the builder are stored with their pattern. -/
theorem saveValidator_of_ok (hb : s.builders.lookup on = some b) {c : Compiled}
    (hbuild : b.build = .ok c) (saved : String) :
    ((Step.saveValidator on saved).run s).1 = .value (.str "BeforeValidator") ∧
      ((Step.saveValidator on saved).run s).2.stored.lookup saved
        = some (.validator ⟨b.requirements, b.flags, c⟩) := by
  have hresult : (Step.saveValidator on saved).action.run.run s
      = (.ok (.value (.str "BeforeValidator")),
        (s.note [b.buildNote]).store saved (.validator ⟨b.requirements, b.flags, c⟩)) := by
    simp only [Step.action, Action.bind_run, builder_run hb, Session.noteBuild, hbuild,
      Builder.validator]
    rfl
  have hok : ((Step.saveValidator on saved).action.run.run s).1 = .ok _ := congrArg Prod.fst hresult
  rw [Step.run_of_ok hok, hresult]
  exact ⟨rfl, lookup_putNamed_self⟩

/-- A value is checked by the validator that is stored. -/
theorem validate_run {v : Validator} (hstored : s.stored.lookup saved = some (.validator v))
    (value : Value) :
    ((Step.validate saved value .function).run s).1 = .ofResult (v.check value) := by
  have hvalidator : (storedValidator saved).run.run s = (.ok v, s) := by
    rw [storedValidator, Action.bind_run, Action.get_run]
    simp only [hstored]
    rfl
  have hresult : ((Step.validate saved value .function).action.run.run s).1
      = (v.check value).map Reply.value := by
    simp only [Step.action, Action.bind_run, hvalidator, Session.checked, Action.lift_run]
    cases v.check value <;> rfl
  cases hcheck : v.check value with
  | ok answer =>
    rw [hcheck] at hresult
    rw [Step.run_of_ok hresult]
    rfl
  | error e =>
    rw [hcheck] at hresult
    rw [Step.run_of_error hresult]
    rfl

/-! ### Runs -/

/-- **Snapshots.** For a builder with admissible requirements: a validator cannot be made for the reason that
    the pattern cannot be put together, and for no other. Once it is made, it answers for every value what
    the builder said then, after any steps that store nothing in its place. -/
theorem validator_keeps_verdict (hb : s.builders.lookup on = some b)
    (hrs : ∀ r ∈ b.requirements, r.Admissible b.flags) (saved : String) :
    (∀ e, ((Step.saveValidator on saved).run s).1 = .failed e ↔ b.build = .error e) ∧
    ∀ c, b.build = .ok c → ∀ later : List Step, (∀ x ∈ later, x.storeOf? ≠ some saved) →
      ∀ value, ∃ answer, b.Verdict value answer ∧
        ((Step.validate saved value .function).run
          (((Step.saveValidator on saved).run s).2.run later).2).1 = .ofResult answer := by
  constructor
  · intro e
    cases hbuild : b.build with
    | error e' =>
      rw [saveValidator_of_error hb hbuild]
      simp
    | ok c =>
      rw [(saveValidator_of_ok hb hbuild saved).1]
      simp
  · intro c hbuild later hlater value
    have hstored := (Session.run_stored hlater _).trans (saveValidator_of_ok hb hbuild saved).2
    exact ⟨_, Validator.check_verdict hrs hbuild value, validate_run hstored value⟩

/-- A preset and a rule string. Later another requirement is added and the settings are replaced. -/
theorem validator_keeps_verdict_username :
    let b := (Builder.create .null {}).calls
      [.preset (.str "username") .null, .field (.str "name") (.str "min:3|max:8")]
    let s : Session := { builders := [("b", b)] }
    let later : List Step := [.call "b" (Call.plainForm "is_email" .email) [],
      .configure none [("default_username_level", .str "strict")], .resetSettings]
    ∃ answer, b.Verdict (.int 12) answer ∧
      ((Step.validate "v" (.int 12) .function).run
        (((Step.saveValidator "b" "v").run s).2.run later).2).1 = .ofResult answer := by
  intro b s later
  have hcs : ∀ c ∈ [Call.preset (.str "username") .null, .field (.str "name") (.str "min:3|max:8")],
      c.IsStandard := by
    simp only [List.forall_mem_cons]
    exact ⟨trivial, trivial, by simp⟩
  have hrs : ∀ r ∈ b.requirements, r.Admissible b.flags :=
    Builder.calls_admissible hcs (by simp [Builder.create])
  have hbuild : ∃ c, ((Builder.create .null {}).calls
      [.preset (.str "username") .null, .field (.str "name") (.str "min:3|max:8")]).build = .ok c :=
    ⟨_, rfl⟩
  obtain ⟨c, hc⟩ := hbuild
  have hlater : ∀ x ∈ later, x.storeOf? ≠ some "v" := by
    simp [later, Step.storeOf?]
  have hb : s.builders.lookup "b" = some b := rfl
  exact (validator_keeps_verdict hb hrs "v").2 c hc later hlater (.int 12)

end TextCriteria
