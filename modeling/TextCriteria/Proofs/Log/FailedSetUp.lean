import TextCriteria.Proofs.Log.SetUp

namespace TextCriteria

/-!
# Set-ups that fail

A set-up is refused at once for its name or its level, and then nothing has happened. All else is looked at when
the logger has the new level already and its handlers are gone. Nothing is put back then.

* `Log.SetUp.RefusedAtOnce`, `Log.SetUp.RefusedLate` — the causes of a failure.
* `Log.SetUp.Fails` — what a failing set-up leaves; `Log.setUp_fails`, that it does.
* `Step.run_failed`, `Step.run_failed_of_none` — the step fails with its set-up, or without one.
* `failed_set_up` — what a step leaves of all loggers; `failed_set_up_strips`, a logger that has lost its handlers.
-/

namespace Log

variable {o : SetUp} {s : LogState} {name : String} {e : Failure}

/-- A set-up is refused before anything has happened. -/
inductive SetUp.RefusedAtOnce (o : SetUp) : Failure → Prop
  | name {e : Failure} (h : nameOf o.name = .error e) : o.RefusedAtOnce e
  | level {e : Failure} (h : levelOf o.level = .error e) : o.RefusedAtOnce e

/-- A set-up is refused when the logger has been changed: for its template, for what is given as a path, for the
    directories of the file, for what cannot be the name of an encoding, for the file itself or for the name of
    an encoding that there is not. -/
inductive SetUp.RefusedLate (o : SetUp) (files : Files) : Failure → Prop
  | template {e : Failure} (h : LineFormat.create o.template o.microseconds = .error e) :
      o.RefusedLate files e
  | path {e : Failure} (hfile : o.file.isTrue = true) (h : pathOf o.file = .error e) : o.RefusedLate files e
  | directories {path : String} {e : Failure} (hfile : o.LogsTo path)
      (h : files.makeDirectories (Path.parent (Path.normal path)) = .error e) : o.RefusedLate files e
  | encodingKind {path : String} {e : Failure} (hfile : o.LogsTo path) (h : checkEncoding o.encoding = .error e) :
      o.RefusedLate files e
  | file {path : String} {made : Files} {e : Failure} (hfile : o.LogsTo path)
      (hmade : files.makeDirectories (Path.parent (Path.normal path)) = .ok made)
      (h : made.openForAppend (Path.normal path) = .error e) : o.RefusedLate files e
  | encoding {path : String} {e : Failure} (hfile : o.LogsTo path) (h : encodingOf o.encoding = .error e) :
      o.RefusedLate files e

/-- What a set-up that fails leaves of the loggers: all of them as they were, or the one that it names without
    handlers. -/
inductive SetUp.Fails (o : SetUp) (s : LogState) (e : Failure) : Loggers → Prop
  | atOnce (h : o.RefusedAtOnce e) : o.Fails s e s.loggers
  | late {name : String} {level : Level} (hname : nameOf o.name = .ok name) (hlevel : levelOf o.level = .ok level)
      (h : o.RefusedLate s.files e) : o.Fails s e (s.loggers.put name ⟨level, o.propagate, []⟩)

/-- Why the targets of a set-up cannot be had. -/
theorem targets_error (h : ((targets o).run.run s).1 = .error e) : o.RefusedLate s.files e := by
  rw [targets_run] at h
  split at h
  · cases h
  next hfile =>
  have hgiven : o.file.isTrue = true := by simpa using hfile
  split at h
  · next hpath =>
    obtain rfl := Except.error.inj h
    exact .path hgiven hpath
  next path hpath =>
  have hlogs : o.LogsTo path := ⟨hgiven, hpath⟩
  split at h
  · next hmade =>
    obtain rfl := Except.error.inj h
    exact .directories hlogs hmade
  next made hmade =>
  split at h
  · next hkind =>
    obtain rfl := Except.error.inj h
    exact .encodingKind hlogs hkind
  split at h
  · next hopen =>
    obtain rfl := Except.error.inj h
    exact .file hlogs hmade hopen
  split at h
  · next hencoding =>
    obtain rfl := Except.error.inj h
    exact .encoding hlogs hencoding
  · cases h

/-- **One set-up.** What a set-up that fails leaves of the loggers. -/
theorem setUp_fails (h : ((setUp o).run.run s).1 = .error e) :
    o.Fails s e ((setUp o).run.run s).2.loggers := by
  rw [setUp_run] at h ⊢
  cases hname : nameOf o.name with
  | error f =>
    rw [hname] at h
    obtain rfl := Except.error.inj h
    exact .atOnce (.name hname)
  | ok name =>
    cases hlevel : levelOf o.level with
    | error f =>
      rw [hname, hlevel] at h
      obtain rfl := Except.error.inj h
      exact .atOnce (.level hlevel)
    | ok level =>
      simp only [hname, hlevel] at h ⊢
      cases hformat : LineFormat.create o.template o.microseconds with
      | error f =>
        rw [hformat] at h
        obtain rfl := Except.error.inj h
        exact .late hname hlevel (.template hformat)
      | ok format =>
        simp only [hformat] at h ⊢
        -- Opening the file changes no logger, so it is the bare one that is left.
        have hloggers := (targets_cases o { s with loggers := s.loggers.put name ⟨level, o.propagate, []⟩ }).1
        rcases hrun : (targets o).run.run _ with ⟨f | ts, s'⟩ <;> rw [hrun] at h hloggers
        · obtain rfl := Except.error.inj h
          have hlate := targets_error (congrArg Prod.fst hrun)
          exact hloggers ▸ .late hname hlevel hlate
        · cases h

/-- What is left of the logger that is named, and of all others. -/
theorem SetUp.Fails.cases {l : Loggers} (h : o.Fails s e l) :
    (o.RefusedAtOnce e ∧ l = s.loggers) ∨
      (o.RefusedLate s.files e ∧ ∃ name level, nameOf o.name = .ok name ∧ levelOf o.level = .ok level ∧
        l.get name = ⟨level, o.propagate, []⟩ ∧ ∀ other, other ≠ name → l.get other = s.loggers.get other) := by
  cases h with
  | atOnce h => exact .inl ⟨h, rfl⟩
  | @late name level hname hlevel h =>
    refine .inr ⟨h, name, level, hname, hlevel, ?_, fun other hother => ?_⟩
    · rw [Loggers.get_put, if_pos rfl]
    · rw [Loggers.get_put, if_neg hother]

end Log

/-! ### Steps -/

open Log

variable {step : Step} {s : Session} {o : SetUp} {e : Failure}

/-- A step that sets up a logger fails if it comes to no set-up. -/
theorem Step.run_failed_of_none (hsets : step.setsUp = true) (hnone : step.setUp? s = none) :
    ∃ f, (step.run s).1 = .failed f := by
  have hsetsUp := Step.action_setsUp hsets s
  rw [hnone] at hsetsUp
  generalize hresult : step.action.run.run s = result at hsetsUp
  cases hsetsUp with
  | @nothing f => exact ⟨f, by rw [Step.run_of_error (congrArg Prod.fst hresult)]⟩

/-- A step fails with the set-up that it comes to. -/
theorem Step.run_failed (ho : step.setUp? s = some o) (h : ((Log.setUp o).run.run s.log).1 = .error e) :
    (step.run s).1 = .failed e := by
  cases hsets : step.setsUp with
  | false => cases ho.symm.trans (Step.setUp?_eq_none hsets s)
  | true =>
    have hsetsUp := Step.action_setsUp hsets s
    rw [ho] at hsetsUp
    generalize hresult : step.action.run.run s = result at hsetsUp
    cases hsetsUp with
    | done hlog =>
      rw [← hlog] at h
      have herror : (step.action.run.run s).1 = .error e := by
        rw [hresult]
        simp only [Session.setUpBy, Action.bind_run, useLog_run, h]
      rw [Step.run_of_error herror]

/-- **Failing set-ups.** A step that is to set up a logger may come to no set-up, because its arguments or the
    settings cannot be read. Then it fails, and all loggers are as before. They are so too if the set-up fails for
    its name or its level. If it fails for anything else, the logger that it names has the new level and the new
    flag, and no handlers; all other loggers are as before. -/
theorem failed_set_up (step : Step) (s : Session) :
    (step.setsUp = true → step.setUp? s = none →
      (∃ f, (step.run s).1 = .failed f) ∧ (step.run s).2.log.loggers = s.log.loggers) ∧
    ∀ o e, step.setUp? s = some o → ((Log.setUp o).run.run s.log).1 = .error e →
      (step.run s).1 = .failed e ∧
      ((o.RefusedAtOnce e ∧ (step.run s).2.log.loggers = s.log.loggers) ∨
        (o.RefusedLate s.log.files e ∧ ∃ name level, Log.nameOf o.name = .ok name ∧ levelOf o.level = .ok level ∧
          (step.run s).2.log.loggers.get name = ⟨level, o.propagate, []⟩ ∧
          ∀ other, other ≠ name → (step.run s).2.log.loggers.get other = s.log.loggers.get other)) := by
  constructor
  · intro hsets hnone
    refine ⟨Step.run_failed_of_none hsets hnone, ?_⟩
    rw [Step.run_loggers, hnone]
  · intro o e ho h
    have hleft : (step.run s).2.log.loggers = ((Log.setUp o).run.run s.log).2.loggers := by
      rw [Step.run_loggers, ho]
    rw [hleft]
    exact ⟨Step.run_failed ho h, (Log.setUp_fails h).cases⟩

/-- A parameter that does not exist, and an encoding that does not: the file is opened, and the logger has no
    handler for it. -/
theorem failed_set_up_encoding :
    let misnamed : Step := .setUpLogger [("name", .str "app"), ("colour", .str "red")]
    let step : Step := .setUpLogger [("name", .str "app"), ("level", .str "ERROR"), ("log_file", .str "a.log"),
      ("log_format", .str "%(message)s"), ("encoding", .str "none")]
    ((∃ f, (misnamed.run {}).1 = .failed f) ∧ (misnamed.run {}).2.log.loggers = {}) ∧
      (step.run {}).1 = .failed (.encoding "none") ∧
      (step.run {}).2.log.loggers.get "app" = ⟨40, .bool true, []⟩ ∧
      (step.run {}).2.log.loggers.get "other" = ⟨Level.unset, .bool true, []⟩ := by
  intro misnamed step
  refine ⟨(failed_set_up misnamed {}).1 rfl rfl, ?_⟩
  obtain ⟨hreply, ⟨hrefused, -⟩ | ⟨-, name, level, hname, hlevel, hleft, hothers⟩⟩ :=
    (failed_set_up step {}).2 _ (.encoding "none") rfl rfl
  · -- The name and the level are good.
    cases hrefused with
    | name h => cases h
    | level h => cases h
  · obtain rfl := Except.ok.inj hname
    obtain rfl := Except.ok.inj hlevel
    exact ⟨hreply, hleft, hothers "other" (by decide)⟩

/-- **Nothing is put back.** A logger for errors on the console is set up once more, with a template that refers to
    nothing. That fails, and the logger has the new level and no handler. -/
theorem failed_set_up_strips :
    let before := (Session.run {} [.setUpLogger [("name", .str "app"), ("level", .str "ERROR"),
      ("log_format", .str "%(message)s")]]).2
    let again := Step.run (.setUpLogger [("name", .str "app"), ("level", .str "DEBUG"), ("log_format", .str "x")])
      before
    again.1 = .failed (.logFormat "x") ∧
      before.log.loggers.get "app" = ⟨40, .bool true, [⟨.console, ⟨"%(message)s", true⟩⟩]⟩ ∧
      again.2.log.loggers.get "app" = ⟨Level.debug, .bool true, []⟩ :=
  ⟨rfl, rfl, rfl⟩

end TextCriteria
