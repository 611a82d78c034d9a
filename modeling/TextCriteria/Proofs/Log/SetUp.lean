import TextCriteria.Proofs.Files
import TextCriteria.Proofs.Session.Frame

namespace TextCriteria

/-!
# Loggers that are set up

A logger is what the last set-up of it says, and a set-up says nothing about any other logger. Loggers that
were never set up are as they were at the start, without handlers.

* `Log.SetUp.Describes` — a logger with the level, the flag and the handlers that a set-up asks for.
* `Log.setUp_run`, `Log.setUp_other`, `Log.setUp_describes` — what one set-up leaves, also if it fails.
* `Step.setUp?` — the set-up that a step comes to; `Session.SetsUp`, how it ends.
* `Step.run_logger` — what a step leaves of a logger.
* `NeverSetUp`, `LastSetUp` — runs in which a logger was not set up, and its last set-up.
* `loggers_told` — what every logger is after any run.
-/

namespace Log

/-! ### Loggers by name -/

namespace Loggers

@[simp] theorem get_put (l : Loggers) (name other : String) (logger : Logger) :
    (l.put name logger).get other = if other = name then logger else l.get other := by
  unfold put get
  rw [lookup_entry]
  split
  · rfl
  · next h => rw [lookup_filter_ne l.known h]

theorem put_put (l : Loggers) (name : String) (logger logger' : Logger) :
    (l.put name logger).put name logger' = l.put name logger' := by
  simp [put, List.filter_filter]

end Loggers

/-! ### One set-up -/

/-- A set-up asks for a file, at a path. -/
structure SetUp.LogsTo (o : SetUp) (path : String) : Prop where
  given : o.file.isTrue = true
  path : pathOf o.file = .ok path

/-- The files that a set-up has lines written to: one at most, at an absolute place. -/
inductive SetUp.Writes (o : SetUp) : List Target → Prop
  | nothing (hfile : o.file.isTrue = false) : o.Writes []
  | file {path : String} {encoding : Text.Encoding} (hfile : o.LogsTo path)
      (hencoding : encodingOf o.encoding = .ok encoding) :
      o.Writes [.file (Path.names (Path.join Path.workingDirectory (Path.normal path))) encoding]

/-- A logger as a set-up asks for it: it has the level and the flag, and no handlers but one for the console
    and then one for the file, where these are asked for, all of them with the format asked for. -/
structure SetUp.Describes (o : SetUp) (logger : Logger) : Prop where
  level : levelOf o.level = .ok logger.level
  propagate : logger.propagate = o.propagate
  handlers : ∃ format files, LineFormat.create o.template o.microseconds = .ok format ∧
    o.Writes files ∧ logger.handlers
      = ((if o.console.isTrue then [Target.console] else []) ++ files).map fun t => ⟨t, format⟩

variable {o : SetUp} {s s' : LogState} {name other : String}

/-- The targets for the console. -/
abbrev SetUp.onConsole (o : SetUp) : List Target := if o.console.isTrue then [Target.console] else []

/-- How a set-up comes to its targets: directories and files are made one after the other, and what was made
    before a failure is still there. -/
theorem targets_run (o : SetUp) (s : LogState) : (targets o).run.run s
    = if o.file.isTrue = false then (.ok o.onConsole, s)
      else match pathOf o.file with
      | .error f => (.error f, s)
      | .ok path =>
        match s.files.makeDirectories (Path.parent (Path.normal path)) with
        | .error f => (.error f, s)
        | .ok made =>
          match checkEncoding o.encoding with
          | .error f => (.error f, { s with files := made })
          | .ok () =>
            match made.openForAppend (Path.normal path) with
            | .error f => (.error f, { s with files := made })
            | .ok (place, files) =>
              match encodingOf o.encoding with
              | .error f => (.error f, { s with files })
              | .ok encoding => (.ok (o.onConsole ++ [.file place encoding]), { s with files }) := by
  unfold targets
  cases o.file.isTrue with
  | false => rfl
  | true =>
    simp only [Bool.not_true, Bool.false_eq_true, ↓reduceIte, makeLogDirectory, openFile, Action.bind_run,
      Action.get_run, Action.lift_run, Action.modify_run, Action.pure_run]
    cases pathOf o.file with
    | error f => rfl
    | ok path =>
      dsimp only
      cases s.files.makeDirectories (Path.parent (Path.normal path)) with
      | error f => rfl
      | ok made =>
        dsimp only
        cases checkEncoding o.encoding with
        | error f => rfl
        | ok _ =>
          dsimp only
          cases made.openForAppend (Path.normal path) with
          | error f => rfl
          | ok opened => cases encodingOf o.encoding <;> rfl

/-- The targets of a set-up change no logger, and are those that it asks for. -/
theorem targets_cases (o : SetUp) (s : LogState) :
    ((targets o).run.run s).2.loggers = s.loggers ∧
      ∀ ts, ((targets o).run.run s).1 = .ok ts → ∃ files, o.Writes files ∧ ts = o.onConsole ++ files := by
  rw [targets_run]
  split
  · next hfile => exact ⟨rfl, fun _ h => ⟨[], .nothing hfile, by simpa using (Except.ok.inj h).symm⟩⟩
  next hfile =>
  split
  · exact ⟨rfl, fun _ h => nomatch h⟩
  next path hpath =>
  split
  · exact ⟨rfl, fun _ h => nomatch h⟩
  split
  · exact ⟨rfl, fun _ h => nomatch h⟩
  split
  · exact ⟨rfl, fun _ h => nomatch h⟩
  next place files hopen =>
  split
  · exact ⟨rfl, fun _ h => nomatch h⟩
  next encoding hencoding =>
  have hwrites : o.Writes [.file place encoding] := by
    rw [Files.place_eq (Files.openForAppend_ok hopen)]
    exact .file ⟨by simpa using hfile, hpath⟩ hencoding
  exact ⟨rfl, fun ts h => ⟨_, hwrites, (Except.ok.inj h).symm⟩⟩

/-- What a set-up does: nothing if the name or the level is bad; else the logger has the level and the flag,
    and it has no handlers unless everything succeeds. -/
theorem setUp_run (o : SetUp) (s : LogState) : (setUp o).run.run s
    = match nameOf o.name, levelOf o.level with
      | .error f, _ => (.error f, s)
      | .ok _, .error f => (.error f, s)
      | .ok name, .ok level =>
        let bare : LogState := { s with loggers := s.loggers.put name ⟨level, o.propagate, []⟩ }
        match LineFormat.create o.template o.microseconds, (targets o).run.run bare with
        | .error f, _ => (.error f, bare)
        | .ok _, (.error f, s') => (.error f, s')
        | .ok format, (.ok ts, s') =>
          let handlers := ts.map fun t => ⟨t, format⟩
          let logger : Logger := { s'.loggers.get name with handlers }
          (.ok name, { s' with loggers := s'.loggers.put name logger }) := by
  simp only [setUp, Action.bind_run, Action.lift_run, Action.pure_run, changeLogger, Action.modify_run]
  cases nameOf o.name with
  | error f => rfl
  | ok name =>
    cases levelOf o.level with
    | error f => rfl
    | ok level =>
      -- The flag is set on the logger that has the level already: one logger is put in the end.
      simp only [Loggers.get_put, Loggers.put_put, ↓reduceIte]
      cases LineFormat.create o.template o.microseconds with
      | error f => rfl
      | ok format =>
        dsimp only
        rcases (targets o).run.run _ with ⟨f | ts, s'⟩ <;> rfl

/-- **Frame.** A set-up of one logger leaves every other one as it is, also if it fails. -/
theorem setUp_other (h : nameOf o.name ≠ .ok other) (s : LogState) :
    ((setUp o).run.run s).2.loggers.get other = s.loggers.get other := by
  rw [setUp_run]
  cases hname : nameOf o.name with
  | error f => rfl
  | ok name =>
    have hne : other ≠ name := fun heq => h (by rw [hname, heq])
    cases levelOf o.level with
    | error f => rfl
    | ok level =>
      have hbare : (s.loggers.put name ⟨level, o.propagate, []⟩).get other = s.loggers.get other := by
        rw [Loggers.get_put, if_neg hne]
      cases LineFormat.create o.template o.microseconds with
      | error f => exact hbare
      | ok format =>
        -- Opening the file changes no logger, and the handlers go to the logger of the set-up.
        have htargets := (targets_cases o
          { s with loggers := s.loggers.put name ⟨level, o.propagate, []⟩ }).1
        dsimp only
        rcases hrun : (targets o).run.run _ with ⟨f | ts, s'⟩ <;> rw [hrun] at htargets
        · exact (congrArg (Loggers.get · other) htargets).trans hbare
        · dsimp only
          rw [Loggers.get_put, if_neg hne]
          exact (congrArg (Loggers.get · other) htargets).trans hbare

/-- A set-up that succeeds leaves the logger as it asks for. -/
theorem setUp_describes (h : ((setUp o).run.run s).1 = .ok name) :
    nameOf o.name = .ok name ∧ o.Describes (((setUp o).run.run s).2.loggers.get name) := by
  rw [setUp_run] at h ⊢
  cases hname : nameOf o.name with
  | error f => simp [hname] at h
  | ok name' =>
    cases hlevel : levelOf o.level with
    | error f => simp [hname, hlevel] at h
    | ok level =>
      cases hformat : LineFormat.create o.template o.microseconds with
      | error f => simp [hname, hlevel, hformat] at h
      | ok format =>
        have htargets := targets_cases o
          { s with loggers := s.loggers.put name' ⟨level, o.propagate, []⟩ }
        simp only [hname, hlevel, hformat] at h ⊢
        rcases hrun : (targets o).run.run _ with ⟨f | ts, s'⟩ <;> rw [hrun] at h htargets
        · cases h
        · obtain rfl := Except.ok.inj h
          obtain ⟨hloggers, hts⟩ := htargets
          obtain ⟨files, hfiles, rfl⟩ := hts ts rfl
          have hbare : s'.loggers.get name' = ⟨level, o.propagate, []⟩ :=
            (congrArg (Loggers.get · name') hloggers).trans (by rw [Loggers.get_put, if_pos rfl])
          refine ⟨rfl, ?_⟩
          rw [Loggers.get_put, if_pos rfl, hbare]
          exact ⟨hlevel, rfl, format, files, hformat, hfiles, rfl⟩

end Log

/-! ### Steps -/

open Log

/-- The set-up that a step comes to: it is told by arguments, or by settings of the log and arguments over
    them. -/
def Step.setUp? (step : Step) (s : Session) : Option SetUp :=
  match step with
  | .setUpLogger arguments => (SetUp.ofArguments arguments).toOption
  | .setUpPackage config arguments => do
    let logging ← match config with
      | some config => (LogSettings.make s.environment config).toOption.map LogChoice.settings
      | none => (s.defaults.get s.environment).1.toOption.map Settings.logging
    (SetUp.ofArguments (SetUp.override (SetUp.ofSettings logging) arguments)).toOption
  | _ => none

variable {s : Session} {steps : List Step} {step : Step} {name : String} {o : SetUp}

instance : Indifferent fun s s' : Session => s'.log.loggers = s.log.loggers where
  refl _ := rfl
  trans h h' := h'.trans h
  environment _ _ := rfl
  defaults _ _ := rfl
  files _ _ := rfl
  newBuilder _ _ := rfl

/-- A logger set up, and what is told about it. -/
def Session.setUpBy (o : SetUp) : Action Reply := do
  let name ← useLog (Log.setUp o)
  return .logger (← (← get).log.loggers.summary name)

/-- How a set-up ends: there is none, or it is done to the loggers and files that there were. -/
inductive Session.SetsUp (s : Session) : Option SetUp → Except Failure Reply × Session → Prop
  | nothing {f : Failure} {s' : Session} (hlog : s'.log = s.log) : s.SetsUp none (.error f, s')
  | done {o : SetUp} {s' : Session} (hlog : s'.log = s.log) :
      s.SetsUp (some o) ((Session.setUpBy o).run.run s')

theorem setUpBy_log (o : SetUp) (s : Session) :
    ((Session.setUpBy o).run.run s).2.log = ((Log.setUp o).run.run s.log).2 := by
  simp only [Session.setUpBy, Action.bind_run, Action.lift_run, Action.get_run, useLog_run]
  cases ((Log.setUp o).run.run s.log).1 with
  | error f => rfl
  | ok name =>
    dsimp only
    cases Loggers.summary _ name <;> rfl

theorem setUpLogger_setsUp {s' : Session} (hlog : s'.log = s.log) (arguments : Arguments) :
    s.SetsUp (SetUp.ofArguments arguments).toOption ((Session.setUpLogger arguments).run.run s') := by
  rw [Session.setUpLogger, Action.bind_run, Action.lift_run]
  cases SetUp.ofArguments arguments with
  | error f => exact .nothing hlog
  | ok o => exact .done hlog

/-- A step that sets up a logger does so by the set-up that it comes to. -/
theorem Step.action_setsUp (hsets : step.setsUp = true) (s : Session) :
    s.SetsUp (step.setUp? s) (step.action.run.run s) := by
  cases step with
  | setUpLogger arguments => exact setUpLogger_setsUp rfl arguments
  | setUpPackage config arguments =>
    cases config with
    | none =>
      -- The settings are read first, and only they are kept.
      have hlog : ({ s with defaults := (s.defaults.get s.environment).2 } : Session).log = s.log := rfl
      simp only [Step.action, Step.setUp?, Action.bind_run, defaultSettings, useDefaults_run,
        Action.pure_run]
      cases (s.defaults.get s.environment).1 with
      | error f => exact .nothing rfl
      | ok settings => exact setUpLogger_setsUp hlog _
    | some config =>
      simp only [Step.action, Step.setUp?, Session.makeLogSettings, Action.bind_run, Action.get_run]
      cases LogSettings.make s.environment config with
      | error complaints => exact .nothing rfl
      | ok settings => exact setUpLogger_setsUp rfl _
  | _ => cases hsets

/-- Other steps come to no set-up. -/
theorem Step.setUp?_eq_none (h : step.setsUp = false) (s : Session) : step.setUp? s = none := by
  cases step with
  | setUpLogger | setUpPackage => cases h
  | _ => rfl

/-- **Step.** Loggers are as the set-up leaves them that the step comes to. A step that comes to none leaves
    them as they are. -/
theorem Step.run_loggers (step : Step) (s : Session) : (step.run s).2.log.loggers
    = match step.setUp? s with
      | some o => ((Log.setUp o).run.run s.log).2.loggers
      | none => s.log.loggers := by
  rw [Step.run_snd]
  cases hsets : step.setsUp with
  | false =>
    -- No other step changes the loggers; messages go to files.
    have hleads : step.action.Leads fun s s' : Session => s'.log.loggers = s.log.loggers :=
      Step.action_leads (fun _ _ _ _ => rfl) (fun _ _ _ _ => rfl) (fun _ _ _ => rfl)
        fun h => by simp [hsets] at h
    rw [Step.setUp?_eq_none hsets]
    exact hleads s
  | true =>
    have hsetsUp := Step.action_setsUp hsets s
    generalize step.setUp? s = found, step.action.run.run s = result at hsetsUp ⊢
    cases hsetsUp with
    | nothing hlog => exact congrArg LogState.loggers hlog
    | done hlog => rw [setUpBy_log, hlog]

/-- What a step leaves of a logger that no set-up of it names. -/
theorem Step.run_logger (h : ∀ o, step.setUp? s = some o → Log.nameOf o.name ≠ .ok name) :
    (step.run s).2.log.loggers.get name = s.log.loggers.get name := by
  rw [Step.run_loggers]
  cases ho : step.setUp? s with
  | none => rfl
  | some o => exact Log.setUp_other (h o ho) s.log

/-! ### Runs -/

/-- No step of a run comes to a set-up that names the logger. -/
def NeverSetUp (s : Session) (steps : List Step) (name : String) : Prop :=
  ∀ before step after o, steps = before ++ step :: after → step.setUp? (s.run before).2 = some o →
    Log.nameOf o.name ≠ .ok name

/-- A set-up of the logger in a run that succeeds, behind which there is no other one of this logger. -/
def LastSetUp (s : Session) (steps : List Step) (name : String) (o : SetUp) : Prop :=
  ∃ before step after, steps = before ++ step :: after ∧ step.setUp? (s.run before).2 = some o ∧
    ((Log.setUp o).run.run (s.run before).2.log).1 = .ok name ∧
    NeverSetUp (step.run (s.run before).2).2 after name

/-- All set-ups that the steps of a run come to succeed. -/
def SetUpsSucceed (s : Session) (steps : List Step) : Prop :=
  ∀ before step after o, steps = before ++ step :: after → step.setUp? (s.run before).2 = some o →
    ∃ name, ((Log.setUp o).run.run (s.run before).2.log).1 = .ok name

theorem neverSetUp_nil (s : Session) (name : String) : NeverSetUp s [] name := by
  intro before step after o h
  simp at h

theorem neverSetUp_cons : NeverSetUp s (step :: steps) name ↔
    (∀ o, step.setUp? s = some o → Log.nameOf o.name ≠ .ok name) ∧
      NeverSetUp (step.run s).2 steps name := by
  constructor
  · intro h
    refine ⟨fun o => h [] step steps o rfl, fun before x after o hsteps => ?_⟩
    exact h (step :: before) x after o (by rw [hsteps, List.cons_append])
  · rintro ⟨hstep, hrest⟩ before x after o hsteps
    cases before with
    | nil =>
      obtain ⟨rfl, -⟩ := List.cons.inj hsteps
      exact hstep o
    | cons y before =>
      obtain ⟨rfl, hlater⟩ := List.cons.inj hsteps
      exact hrest before x after o hlater

/-- **Run.** A logger that is not set up stays as it is. -/
theorem NeverSetUp.get_run (h : NeverSetUp s steps name) :
    (s.run steps).2.log.loggers.get name = s.log.loggers.get name := by
  induction steps generalizing s with
  | nil => rfl
  | cons step rest ih =>
    obtain ⟨hstep, hrest⟩ := neverSetUp_cons.mp h
    exact (ih hrest).trans (Step.run_logger hstep)

/-- The last set-up of a logger tells what it is. -/
theorem LastSetUp.describes (h : LastSetUp s steps name o) :
    o.Describes ((s.run steps).2.log.loggers.get name) := by
  obtain ⟨before, step, after, rfl, hstep, hok, hnever⟩ := h
  rw [Session.run_append_snd]
  have hset : o.Describes ((step.run (s.run before).2).2.log.loggers.get name) := by
    rw [Step.run_loggers, hstep]
    exact (Log.setUp_describes hok).2
  exact hnever.get_run ▸ hset

theorem LastSetUp.cons (h : LastSetUp (step.run s).2 steps name o) : LastSetUp s (step :: steps) name o := by
  obtain ⟨before, x, after, rfl, hx⟩ := h
  exact ⟨step :: before, x, after, rfl, hx⟩

/-- If all set-ups succeed, a logger has a last set-up unless it was never set up. -/
theorem SetUpsSucceed.never_or_last (h : SetUpsSucceed s steps) (name : String) :
    NeverSetUp s steps name ∨ ∃ o, LastSetUp s steps name o := by
  induction steps generalizing s with
  | nil => exact .inl (neverSetUp_nil s name)
  | cons step rest ih =>
    have hrest : SetUpsSucceed (step.run s).2 rest := fun before x after o hsteps =>
      h (step :: before) x after o (by rw [hsteps, List.cons_append])
    -- The first step counts only if the logger is not set up again behind it.
    rcases ih hrest with hnever | ⟨o, hlast⟩
    · by_cases hstep : ∃ o, step.setUp? s = some o ∧ Log.nameOf o.name = .ok name
      · obtain ⟨o, ho, hname⟩ := hstep
        obtain ⟨name', hok⟩ := h [] step rest o rfl ho
        obtain rfl : name' = name :=
          Except.ok.inj ((Log.setUp_describes hok).1.symm.trans hname)
        exact .inr ⟨o, [], step, rest, rfl, ho, hok, hnever⟩
      · exact .inl (neverSetUp_cons.mpr ⟨fun o ho hname => hstep ⟨o, ho, hname⟩, hnever⟩)
    · exact .inr ⟨o, hlast.cons⟩

/-- **Handlers.** After any steps, every logger is what its last set-up asks for: its level, its flag, and
    its handlers and no others. A logger that was never set up is as at the start, without handlers in a new
    process. Nothing, the empty text and `root` name the root. A further set-up leaves all other loggers as
    they are, whether it succeeds or not. If all set-ups succeed, these are all cases. -/
theorem loggers_told (s : Session) (steps : List Step) :
    (∀ name o, LastSetUp s steps name o → o.Describes ((s.run steps).2.log.loggers.get name)) ∧
    (∀ name, NeverSetUp s steps name →
      (s.run steps).2.log.loggers.get name = s.log.loggers.get name ∧
      (s.log.loggers.known = [] → ((s.run steps).2.log.loggers.get name).handlers = [])) ∧
    (∀ (step : Step) (o : SetUp) (name : String), step.setUp? (s.run steps).2 = some o →
      Log.nameOf o.name ≠ .ok name →
      (step.run (s.run steps).2).2.log.loggers.get name = (s.run steps).2.log.loggers.get name) ∧
    (SetUpsSucceed s steps → ∀ name, NeverSetUp s steps name ∨ ∃ o, LastSetUp s steps name o) ∧
    ∀ name ∈ [Value.null, .str "", .str "root"], Log.nameOf name = .ok "root" := by
  refine ⟨fun name o => LastSetUp.describes, fun name hnever => ⟨hnever.get_run, fun hstart => ?_⟩,
    fun step o name ho hname => ?_, SetUpsSucceed.never_or_last, ?_⟩
  · rw [hnever.get_run, Log.Loggers.get, hstart]
    split <;> rfl
  · refine Step.run_logger fun o' ho' => ?_
    obtain rfl := Option.some.inj (ho.symm.trans ho')
    exact hname
  · simp [Log.nameOf, Value.isTrue, Value.asText?, Log.rootName]

/-- A second set-up of a logger takes away the handler of the first one. -/
theorem loggers_told_again :
    ((Session.run {} [.setUpLogger [("name", .str "app")],
      .setUpLogger [("name", .str "app"), ("console", .bool false)]]).2.log.loggers.get "app").handlers
        = [] := by
  have hformat : LineFormat.create .null (.bool true) = .ok ⟨LineFormat.standardTemplate, true⟩ := by
    have hrefers : LineFormat.refersToField LineFormat.standardTemplate = true := by decide +kernel
    simp [LineFormat.create, Value.orElse, Value.isTrue, Value.asText?, hrefers]
  have hok (s : LogState) : ((Log.setUp ⟨.str "app", .str "INFO", .null, .null, .bool false, .bool true,
      .bool true, .str "utf-8"⟩).run.run s).1 = .ok "app" := by
    have hname : Log.nameOf (.str "app") = .ok "app" := rfl
    have hlevel : levelOf (.str "INFO") = .ok Level.info := rfl
    rw [Log.setUp_run]
    simp only [hname, hlevel, hformat]
    rfl
  have hlast : LastSetUp {} [.setUpLogger [("name", .str "app")],
      .setUpLogger [("name", .str "app"), ("console", .bool false)]] "app" ⟨.str "app", .str "INFO", .null,
        .null, .bool false, .bool true, .bool true, .str "utf-8"⟩ :=
    ⟨[.setUpLogger [("name", .str "app")]], .setUpLogger [("name", .str "app"), ("console", .bool false)], [],
      rfl, rfl, hok _, neverSetUp_nil _ _⟩
  obtain ⟨format, files, -, hfiles, hhandlers⟩ := ((loggers_told {} _).1 "app" _ hlast).handlers
  cases hfiles with
  | nothing => exact hhandlers
  | file hfile => cases hfile.given

end TextCriteria
