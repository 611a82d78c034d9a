import TextCriteria.Proofs.Session.Frame
import TextCriteria.Proofs.Settings.Override

namespace TextCriteria

/-!
# Which source a setting comes from

Settings that are loaded from a file have four sources: the caller, the file, the environment, and the
defaults. The first one that sets a setting counts, and what it says has to be acceptable.

* `IsLeaf` — a setting is what its source says, or its default.
* `Settings.TakenFrom`, `LogSettings.TakenFrom` — all settings are what their sources say.
* `Settings.make_eq_ok_iff` — when settings are made, and from which sources.
* `Sources` — a caller, a file and an environment; `Sources.plain?` and `Sources.log?`, the first of them
  that sets a setting; `Sources.inForce?`, where settings of the log really come from.
* `loadSettings_run` — what loading answers; `loadSettings_takenFrom`, that the first source counts.
* `file_path_from_environment` — settings of the log that the caller states hide all those of the file.
-/

/-! ### One setting -/

/-- A setting is what its source says, or its default where no source sets it. -/
def IsLeaf {α : Type} (read : Value → Except Problem α) (default : α) : Option Value → α → Prop
  | none, a => a = default
  | some v, a => read v = .ok a

section Leaves

variable {α β : Type}

theorem leaf_eq_ok_iff {read : Value → Except Problem α} {default a : α} {field : String}
    {source : Option Value} :
    leaf read default field source = .ok a ↔ IsLeaf read default source a := by
  cases source with
  | none => exact ⟨fun h => (Except.ok.inj h).symm, fun h => congrArg Except.ok h.symm⟩
  | some v => cases hread : read v <;> simp [leaf, IsLeaf, hread]

theorem Checked.both_eq_ok_iff {f : Checked (α → β)} {x : Checked α} {b : β} :
    Checked.both f x = .ok b ↔ ∃ g a, f = .ok g ∧ x = .ok a ∧ g a = b := by
  cases f <;> cases x <;> simp [Checked.both]

/-- All arguments are for fields. -/
def Known (fields : List String) (arguments : Arguments) : Prop :=
  ∀ field, (arguments.lookup field).isSome → field ∈ fields

theorem noExtras_eq_ok_iff {fields : List String} {arguments : Arguments} {a b : α} :
    noExtras fields arguments a = .ok b ↔ a = b ∧ Known fields arguments := by
  have hnone : (arguments.filter fun x => !fields.contains x.1) = [] ↔ Known fields arguments := by
    simp only [List.filter_eq_nil_iff, Known, List.lookup_isSome_iff]
    constructor
    · rintro h field ⟨x, hx, hfield⟩
      obtain rfl := eq_of_beq hfield
      simpa using h x hx
    · intro h x hx
      simpa using h x.1 ⟨x, hx, by simp⟩
  rw [← hnone]
  unfold noExtras
  cases hextras : arguments.filter fun x => !fields.contains x.1 <;> simp

theorem Checked.without_eq_ok_iff {fields : List String} {arguments : Arguments} {x : Checked α} {a : α} :
    Checked.without fields arguments x = .ok a ↔ x = .ok a ∧ Known fields arguments := by
  simp [Checked.without, Checked.both_eq_ok_iff, noExtras_eq_ok_iff, Checked.of]

end Leaves

/-! ### All settings -/

/-- The settings of the log are what their sources say. -/
structure LogSettings.TakenFrom (source : String → Option Value) (s : LogSettings) : Prop where
  level : IsLeaf readText "INFO" (source "level") s.level
  filePath : IsLeaf (readOptional readText) none (source "file_path") s.filePath
  fileEncoding : IsLeaf readText "utf-8" (source "file_encoding") s.fileEncoding
  enableConsole : IsLeaf readTruth true (source "enable_console") s.enableConsole
  logFormat : IsLeaf (readOptional readText) none (source "log_format") s.logFormat
  useMicroseconds : IsLeaf readTruth true (source "use_microseconds") s.useMicroseconds

/-- The settings are what their sources say, and so are those of the log. -/
structure Settings.TakenFrom (plain log : String → Option Value) (s : Settings) : Prop where
  flags : ∃ n, s.flags = .int n ∧ IsLeaf readWhole 0 (plain "default_flags") n
  phoneRegion : ∃ t, s.phoneRegion = .str t ∧
    IsLeaf readText "international" (plain "default_phone_region") t
  dateTemplate : ∃ t, s.dateTemplate = .str t ∧
    IsLeaf readText "YYYY-MM-DD" (plain "default_date_format") t
  urlNeedsScheme : ∃ b, s.urlNeedsScheme = .bool b ∧ IsLeaf readTruth true (plain "url_require_protocol") b
  passwordLevel : ∃ t, s.passwordLevel = .str t ∧
    IsLeaf readText "medium" (plain "default_password_level") t
  usernameLevel : ∃ t, s.usernameLevel = .str t ∧
    IsLeaf readText "standard" (plain "default_username_level") t
  logging : ∃ l, s.logging = .settings l ∧ l.TakenFrom log

/-- The settings of the log that a statement sets: none without a statement, and the entries of a
    mapping of names. Other statements are no settings. -/
def logLeaves? : Option Value → Option Arguments
  | none => some []
  | some (.dict entries) => textKeys? entries
  | some _ => none

/-- What a statement says of one setting of the log. -/
def logLeaf? (stated : Option Value) (field : String) : Option Value :=
  logLeaves? stated >>= fun leaves => leaves.lookup field

section Making

variable {env : Environment} {arguments : Arguments}

theorem LogSettings.make_eq_ok_iff {s : LogSettings} :
    make env arguments = .ok s ↔ Known names arguments ∧ s.TakenFrom (given? env logPrefix arguments) := by
  simp only [make, Checked.without_eq_ok_iff, Checked.both_eq_ok_iff, leaf_eq_ok_iff, Checked.of]
  constructor
  · rintro ⟨⟨_, _, ⟨_, _, ⟨_, _, ⟨_, _, ⟨_, _, ⟨_, _, hmk, hlevel, rfl⟩, hpath, rfl⟩, hencoding, rfl⟩, hconsole,
      rfl⟩, hformat, rfl⟩, hmicroseconds, rfl⟩, hknown⟩
    obtain rfl := Except.ok.inj hmk
    exact ⟨hknown, hlevel, hpath, hencoding, hconsole, hformat, hmicroseconds⟩
  · rintro ⟨hknown, hlevel, hpath, hencoding, hconsole, hformat, hmicroseconds⟩
    exact ⟨⟨_, _, ⟨_, _, ⟨_, _, ⟨_, _, ⟨_, _, ⟨_, _, rfl, hlevel, rfl⟩, hpath, rfl⟩, hencoding, rfl⟩, hconsole,
      rfl⟩, hformat, rfl⟩, hmicroseconds, rfl⟩, hknown⟩

/-- Settings of the log are made from what is stated about them, if that is a mapping. -/
theorem loggingSettings_eq_ok_iff {stated : Option Value} {l : LogSettings} :
    loggingSettings env stated = .ok (.ok l) ↔
      ∃ leaves, logLeaves? stated = some leaves ∧ Known LogSettings.names leaves ∧
        l.TakenFrom (given? env logPrefix leaves) := by
  simp only [← LogSettings.make_eq_ok_iff]
  cases stated with
  | none => cases hmake : LogSettings.make env [] <;> simp [loggingSettings, logLeaves?, hmake]
  | some v =>
    cases v with
    | dict entries =>
      cases hkeys : textKeys? entries with
      | none => simp [loggingSettings, logLeaves?, hkeys]
      | some leaves =>
        cases hmake : LogSettings.make env leaves <;>
          simp [loggingSettings, logLeaves?, hkeys, Checked.under, hmake]
    | _ => simp [loggingSettings, logLeaves?]

/-- Settings are made if every argument is for a setting, what is stated about the log is a mapping of its
    settings, and everything is acceptable. -/
theorem Settings.make_eq_ok_iff (hvariable : env.value? (settingsPrefix ++ "logging") = none) {s : Settings} :
    make env arguments = .ok s ↔ Known names arguments ∧
      ∃ leaves, logLeaves? (arguments.lookup "logging") = some leaves ∧ Known LogSettings.names leaves ∧
        s.TakenFrom (given? env settingsPrefix arguments) (given? env logPrefix leaves) := by
  have hstated : loggingVariable env = .ok none := by simp [loggingVariable, hvariable]
  have hgiven : loggingGiven none arguments = arguments.lookup "logging" := rfl
  simp only [make, hstated, hgiven, bind, Except.bind]
  cases hlogging : loggingSettings env (arguments.lookup "logging") with
  | error f =>
    constructor
    · rintro ⟨⟩
    · rintro ⟨-, leaves, hleaves, hknown, h⟩
      obtain ⟨l, -, hl⟩ := h.logging
      cases hlogging.symm.trans (loggingSettings_eq_ok_iff.mpr ⟨leaves, hleaves, hknown, hl⟩)
  | ok logging =>
    dsimp only
    generalize hall : Checked.without names arguments _ = all
    -- Complaints are wrapped in a failure, and everything else stays.
    refine Iff.trans (b := all = .ok s) (by cases all <;> simp) ?_
    rw [← hall]
    simp only [Checked.without_eq_ok_iff, Checked.both_eq_ok_iff, leaf_eq_ok_iff, Checked.of]
    constructor
    · rintro ⟨⟨_, l, ⟨_, _, ⟨_, _, ⟨_, _, ⟨_, _, ⟨_, _, ⟨_, _, hmk, hflags, rfl⟩, hregion, rfl⟩, htemplate, rfl⟩,
        hscheme, rfl⟩, hpassword, rfl⟩, husername, rfl⟩, hl, rfl⟩, hknown⟩
      obtain rfl := Except.ok.inj hmk
      subst hl
      obtain ⟨leaves, hleaves, hnames, htaken⟩ := loggingSettings_eq_ok_iff.mp hlogging
      exact ⟨hknown, leaves, hleaves, hnames, ⟨_, rfl, hflags⟩, ⟨_, rfl, hregion⟩, ⟨_, rfl, htemplate⟩,
        ⟨_, rfl, hscheme⟩, ⟨_, rfl, hpassword⟩, ⟨_, rfl, husername⟩, ⟨l, rfl, htaken⟩⟩
    · rintro ⟨hknown, leaves, hleaves, hnames, ⟨_, h₁, hflags⟩, ⟨_, h₂, hregion⟩, ⟨_, h₃, htemplate⟩,
        ⟨_, h₄, hscheme⟩, ⟨_, h₅, hpassword⟩, ⟨_, h₆, husername⟩, ⟨l, h₇, htaken⟩⟩
      have hl : logging = .ok l :=
        Except.ok.inj (hlogging.symm.trans (loggingSettings_eq_ok_iff.mpr ⟨leaves, hleaves, hnames, htaken⟩))
      obtain ⟨flags, region, template, scheme, password, username, log⟩ := s
      subst h₁ h₂ h₃ h₄ h₅ h₆ h₇
      exact ⟨⟨_, _, ⟨_, _, ⟨_, _, ⟨_, _, ⟨_, _, ⟨_, _, ⟨_, _, rfl, hflags, rfl⟩, hregion, rfl⟩, htemplate, rfl⟩,
        hscheme, rfl⟩, hpassword, rfl⟩, husername, rfl⟩, hl, rfl⟩, hknown⟩

end Making

/-! ### Sources -/

/-- Where settings that are loaded come from. -/
structure Sources where
  overrides : Arguments
  file : Arguments
  environment : Environment

namespace Sources

variable (o : Sources)

/-- What the first of caller, file and environment says that sets a setting. -/
def plain? (field : String) : Option Value :=
  (latest? field o.overrides).or ((o.file.lookup field).or
    ((o.environment.value? (settingsPrefix ++ field)).map .str))

/-- What the first of them says that sets a setting of the log. -/
def log? (field : String) : Option Value :=
  (logLeaf? (latest? "logging" o.overrides) field).or ((logLeaf? (o.file.lookup "logging") field).or
    ((o.environment.value? (logPrefix ++ field)).map .str))

/-- What is stated about the log. The statement of a caller takes the place of that of the file. -/
def logStated? : Option Value := (latest? "logging" o.overrides).or (o.file.lookup "logging")

/-- Where a setting of the log comes from: what is stated, or else the environment. -/
def inForce? (field : String) : Option Value :=
  (logLeaf? o.logStated? field).or ((o.environment.value? (logPrefix ++ field)).map .str)

/-- Caller and file state nothing but settings. -/
structure Accepted : Prop where
  names : ∀ field, ((latest? field o.overrides).or (o.file.lookup field)).isSome → field ∈ Settings.names
  logging : ∃ leaves, logLeaves? o.logStated? = some leaves ∧ Known LogSettings.names leaves

/-- If the caller states anything about the log, then also every setting of the log that the file sets. -/
def KeepsLog : Prop :=
  ∀ field ∈ LogSettings.names, latest? "logging" o.overrides ≠ none →
    logLeaf? (o.file.lookup "logging") field ≠ none → logLeaf? (latest? "logging" o.overrides) field ≠ none

variable {o}

/-- A caller that leaves nothing out hides nothing. -/
theorem KeepsLog.inForce? (h : o.KeepsLog) {field : String} (hfield : field ∈ LogSettings.names) :
    o.inForce? field = o.log? field := by
  unfold Sources.inForce? Sources.log? logStated?
  cases hcaller : latest? "logging" o.overrides with
  | none => simp [logLeaf?, logLeaves?]
  | some v =>
    cases hfile : logLeaf? (o.file.lookup "logging") field with
    | none => simp
    | some w =>
      -- The file is not asked, since the caller sets what the file sets.
      have hsome : logLeaf? (some v) field ≠ none := by
        rw [← hcaller]
        exact h field hfield (by simp [hcaller]) (by simp [hfile])
      obtain ⟨u, hu⟩ := Option.ne_none_iff_exists'.mp hsome
      simp [hu]

end Sources

/-- Only the sources of the settings matter. -/
theorem LogSettings.TakenFrom.congr {source source' : String → Option Value} {s : LogSettings}
    (h : s.TakenFrom source) (hsource : ∀ field ∈ names, source field = source' field) :
    s.TakenFrom source' where
  level := hsource "level" (by simp [names, fields]) ▸ h.level
  filePath := hsource "file_path" (by simp [names, fields]) ▸ h.filePath
  fileEncoding := hsource "file_encoding" (by simp [names, fields]) ▸ h.fileEncoding
  enableConsole := hsource "enable_console" (by simp [names, fields]) ▸ h.enableConsole
  logFormat := hsource "log_format" (by simp [names, fields]) ▸ h.logFormat
  useMicroseconds := hsource "use_microseconds" (by simp [names, fields]) ▸ h.useMicroseconds

theorem Settings.TakenFrom.congr {plain log log' : String → Option Value} {s : Settings}
    (h : s.TakenFrom plain log) (hlog : ∀ field ∈ LogSettings.names, log field = log' field) :
    s.TakenFrom plain log' := by
  obtain ⟨l, hl, htaken⟩ := h.logging
  exact { h with logging := ⟨l, hl, htaken.congr hlog⟩ }

/-! ### Loading -/

section Loading

variable {s : Session} {file : FilePlan} {entries : List (Value × Value)}

/-- What loading settings answers: the settings, if they can be made from the entries of the file under the
    overrides. -/
theorem loadSettings_reply
    (hdocument : (s.documents.load s.log.files (Session.used file) file.base).1 = .ok (.dict entries))
    {overrides arguments' : Arguments}
    (harguments : Document.argumentsOf (Document.withOverrides entries overrides) = .ok arguments')
    (apply : Bool) :
    ((Step.loadSettings .builder file overrides apply).run s).1
      = match Settings.make s.environment arguments' with
        | .ok settings => .value (Session.settingsValue settings)
        | .error f => .failed f := by
  -- Reading the file touches only the documents that are kept, so the environment is as before.
  let s' : Session :=
    { s with documents := (s.documents.load s.log.files (Session.used file) file.base).2 }
  have hcontent : (document (Session.used file) file.base).run.run s = (.ok (.dict entries), s') := by
    rw [document_run, hdocument]
  have hsetting : Document.settingArguments (.dict entries) overrides = .ok arguments' := harguments
  have hmake : (Session.makeSettings arguments').run.run s' = (Settings.make s.environment arguments', s') :=
    Action.lift_run _ _
  have hrun : (Step.loadSettings .builder file overrides apply).action.run.run s
      = match Settings.make s.environment arguments' with
        | .ok settings => (.ok (.value (Session.settingsValue settings)),
            if apply then { s' with defaults := ⟨some settings⟩ } else s')
        | .error f => (.error f, s') := by
    simp only [Step.action, Session.loadSettings, Action.bind_run, hcontent, hsetting, Action.lift_run, hmake]
    cases Settings.make s.environment arguments' with
    | error f => rfl
    | ok settings => cases apply <;> rfl
  cases hresult : Settings.make s.environment arguments' with
  | ok settings =>
    rw [hresult] at hrun
    rw [Step.run_of_ok (congrArg Prod.fst hrun)]
  | error f =>
    rw [hresult] at hrun
    rw [Step.run_of_error (congrArg Prod.fst hrun)]

theorem given?_eq_or (env : Environment) (start : String) (arguments : Arguments) (field : String) :
    given? env start arguments field
      = (arguments.lookup field).or ((env.value? (start ++ field)).map .str) := by
  unfold given?
  cases arguments.lookup field <;> rfl

/-- Settings for the arguments of caller and file. -/
theorem Sources.make_eq_ok_iff {o : Sources}
    (hvariable : o.environment.value? (settingsPrefix ++ "logging") = none) {arguments : Arguments}
    (hlookup : ∀ field, arguments.lookup field = (latest? field o.overrides).or (o.file.lookup field))
    {settings : Settings} :
    Settings.make o.environment arguments = .ok settings ↔
      o.Accepted ∧ settings.TakenFrom o.plain? o.inForce? := by
  have hplain : given? o.environment settingsPrefix arguments = o.plain? := by
    funext field
    rw [given?_eq_or, hlookup, Option.or_assoc]
    rfl
  have hstated : arguments.lookup "logging" = o.logStated? := hlookup "logging"
  have hforce {leaves : Arguments} (hleaves : logLeaves? o.logStated? = some leaves) :
      given? o.environment logPrefix leaves = o.inForce? := by
    funext field
    rw [given?_eq_or, inForce?, logLeaf?, hleaves]
    rfl
  have hknown : Known Settings.names arguments ↔
      ∀ field, ((latest? field o.overrides).or (o.file.lookup field)).isSome → field ∈ Settings.names := by
    simp only [Known, hlookup]
  rw [Settings.make_eq_ok_iff hvariable, hstated, hplain, hknown]
  constructor
  · rintro ⟨hnames, leaves, hleaves, hlog, htaken⟩
    rw [hforce hleaves] at htaken
    exact ⟨⟨hnames, leaves, hleaves, hlog⟩, htaken⟩
  · rintro ⟨⟨hnames, leaves, hleaves, hlog⟩, htaken⟩
    rw [← hforce hleaves] at htaken
    exact ⟨hnames, leaves, hleaves, hlog, htaken⟩

/-- **Loading.** Settings are what the caller, the file, the environment or the defaults say, where the
    caller's statement about the log hides that of the file. -/
theorem loadSettings_run {o : Sources} (henvironment : s.environment = o.environment)
    (hvariable : s.environment.value? (settingsPrefix ++ "logging") = none)
    (hdocument : (s.documents.load s.log.files (Session.used file) file.base).1 = .ok (.dict entries))
    (hfile : textKeys? entries = some o.file) (apply : Bool) (v : Value) :
    ((Step.loadSettings .builder file o.overrides apply).run s).1 = .value v ↔
      o.Accepted ∧ ∃ settings, v = Session.settingsValue settings ∧ settings.TakenFrom o.plain? o.inForce? := by
  obtain ⟨arguments, harguments, hlookup⟩ := Document.withOverrides_arguments hfile o.overrides
  rw [henvironment] at hvariable
  rw [loadSettings_reply hdocument harguments, henvironment]
  constructor
  · intro h
    cases hresult : Settings.make o.environment arguments with
    | error f =>
      rw [hresult] at h
      cases h
    | ok settings =>
      rw [hresult] at h
      obtain ⟨haccepted, htaken⟩ := (Sources.make_eq_ok_iff hvariable hlookup).mp hresult
      exact ⟨haccepted, settings, (Reply.value.inj h).symm, htaken⟩
  · rintro ⟨haccepted, settings, rfl, htaken⟩
    rw [(Sources.make_eq_ok_iff hvariable hlookup).mpr ⟨haccepted, htaken⟩]

/-- **Precedence.** Settings that are loaded are what the first of caller, file, environment and defaults
    says, each setting of the log by itself, unless the caller states something about the log and leaves
    out what the file states. -/
theorem loadSettings_takenFrom {o : Sources} (henvironment : s.environment = o.environment)
    (hvariable : s.environment.value? (settingsPrefix ++ "logging") = none)
    (hdocument : (s.documents.load s.log.files (Session.used file) file.base).1 = .ok (.dict entries))
    (hfile : textKeys? entries = some o.file) (hkept : o.KeepsLog) (apply : Bool) (v : Value) :
    ((Step.loadSettings .builder file o.overrides apply).run s).1 = .value v ↔
      o.Accepted ∧ ∃ settings, v = Session.settingsValue settings ∧ settings.TakenFrom o.plain? o.log? := by
  rw [loadSettings_run henvironment hvariable hdocument hfile]
  refine and_congr_right fun _ => exists_congr fun settings => and_congr_right fun _ => ?_
  exact ⟨fun h => h.congr fun _ hfield => hkept.inForce? hfield,
    fun h => h.congr fun _ hfield => (hkept.inForce? hfield).symm⟩

theorem loadSettings_takenFrom_level :
    let s : Session :=
      { environment := ⟨[("REGEXCRAFT_LOG_LEVEL", "ERROR")]⟩
        documents := ⟨[("<cwd>/c.yaml", .dict [(.str "logging", .dict [(.str "file_path", .str "file.log")])])]⟩ }
    let o : Sources :=
      { overrides := [("logging", .dict [(.str "enable_console", .str "no"), (.str "file_path", .str "own.log")])]
        file := [("logging", .dict [(.str "file_path", .str "file.log")])]
        environment := s.environment }
    let settings : Settings :=
      { logging := .settings { level := "ERROR", filePath := some "own.log", enableConsole := false } }
    o.KeepsLog ∧ o.Accepted ∧ ∃ settings', Session.settingsValue settings = Session.settingsValue settings' ∧
      settings'.TakenFrom o.plain? o.log? := by
  intro s o settings
  have hkept : o.KeepsLog := by
    intro field hfield _ hfile
    simp only [LogSettings.names, LogSettings.fields, List.map_cons, List.map_nil, List.mem_cons,
      List.not_mem_nil, or_false] at hfield
    -- The file sets nothing but the path, which the caller sets too.
    rcases hfield with rfl | rfl | rfl | rfl | rfl | rfl
    all_goals first | exact Option.some_ne_none _ | exact absurd rfl hfile
  have hreply : ((Step.loadSettings .builder ⟨"c.yaml", none, false⟩ o.overrides false).run s).1
      = .value (Session.settingsValue settings) := rfl
  exact ⟨hkept, (loadSettings_takenFrom rfl rfl rfl rfl hkept false _).mp hreply⟩

/-- A caller's statement about the level hides the path that the file states, which comes from the environment
    then. -/
theorem file_path_from_environment :
    let s : Session :=
      { environment := ⟨[("REGEXCRAFT_LOG_FILE_PATH", "env.log")]⟩
        documents := ⟨[("<cwd>/c.yaml", .dict [(.str "logging", .dict [(.str "file_path", .str "file.log")])])]⟩ }
    let o : Sources :=
      { overrides := [("logging", .dict [(.str "level", .str "DEBUG")])]
        file := [("logging", .dict [(.str "file_path", .str "file.log")])]
        environment := s.environment }
    let settings : Settings := { logging := .settings { level := "DEBUG", filePath := some "env.log" } }
    ((Step.loadSettings .builder ⟨"c.yaml", none, false⟩ o.overrides false).run s).1
        = .value (Session.settingsValue settings) ∧
      o.log? "file_path" = some (.str "file.log") ∧
      ¬∃ settings', Session.settingsValue settings = Session.settingsValue settings' ∧
        settings'.TakenFrom o.plain? o.log? := by
  intro s o settings
  refine ⟨rfl, rfl, ?_⟩
  rintro ⟨settings', hvalue, htaken⟩
  obtain ⟨l, hl, hlog⟩ := htaken.logging
  have hpath : l.filePath = some "file.log" := (Except.ok.inj hlog.filePath).symm
  simp [Session.settingsValue, Settings.fields, Value.ofFields, hl, LogChoice.toValue, LogSettings.fields,
    hpath, settings, Value.ofText?] at hvalue

end Loading
end TextCriteria
