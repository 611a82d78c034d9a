import TextCriteria.Session.Basic

namespace TextCriteria

open TextCriteria.Text

/-!
# Steps of a session

* `Step` — an operation with its arguments; `Reply`, what it answers.
* `Step.action` — what a step does.
* `Session.run` — the answers of some steps, one after the other; a step that fails is no end.
-/

/-- How a value is checked: by the function itself, as a text, or as a text or nothing. -/
inductive CheckMode
  | function
  | text
  | optional
  deriving DecidableEq, Repr

/-- The two kinds of settings. -/
inductive SettingsKind
  | builder
  | log
  deriving DecidableEq, Repr

/-- A field of a model: its name, the name of its validator and maybe a default. -/
structure FieldPlan where
  name : String
  validator : String
  fallback : Option Value
  deriving Repr

/-- Arguments by name. -/
abbrev Arguments := List (String × Value)

/-- Where a file of configuration is. An absolute path is made so before it is used. -/
structure FilePlan where
  path : String
  base : Option String
  absolute : Bool
  deriving DecidableEq, Repr

/-- An operation with its arguments. -/
inductive Step
  | create (on : String) (flags : Value) (settings : Option Arguments)
  | call (on : String) (form : Call.Form) (arguments : Arguments)
  | requirements (on : String)
  | shown (on : String)
  | build (on : String) (saveAs : Option String)
  | matchSaved (saved : String) (value : Value)
  | failed (on : String) (value : Value)
  | isValid (on : String) (value : Value)
  | testOne (on : String) (value : Value)
  | test (on : String) (values : List Value)
  | overview (on : String)
  | saveValidator (on : String) (saveAs : String)
  | saveType (on : String) (saveAs : String)
  | validate (saved : String) (value : Value) (mode : CheckMode)
  | model (fields : List FieldPlan) (data : Value)
  | setVariable (name : String) (text : Option String)
  | settings (kind : SettingsKind) (values : Value)
  | currentSettings
  | configure (settings : Option Arguments) (overrides : Arguments)
  | resetSettings
  | write (path text : String)
  | remove (path : String)
  | load (file : FilePlan)
  | clearDocuments
  | loadSettings (kind : SettingsKind) (file : FilePlan) (overrides : Arguments) (apply : Bool)
  | setUpLogger (arguments : Arguments)
  | setUpPackage (config : Option Arguments) (arguments : Arguments)
  | loggerNamed (name : String)
  | loggerOfCaller (caller : Value)
  | log (name : String) (level : Value) (text : Value)
  | read (path : String) (encoding : Value)

/-- What a step answers. -/
inductive Reply
  | failed (f : Failure)
  | added (failure : Option Failure) (requirements : List Requirement)
  | value (v : Value)
  | requirements (rs : List Requirement)
  | pattern (c : Pattern.Compiled)
  | span (end? : Option Nat)
  | results (single : Bool) (results : List TestResult)
  | overview (o : Overview)
  | logger (s : Log.LoggerSummary)

namespace Session

/-- Settings for a caller's values. -/
def makeSettings (arguments : Arguments) : Action Settings := do
  Settings.make (← get).environment arguments

/-- Settings of the log for a caller's values. -/
def makeLogSettings (arguments : Arguments) : Action LogSettings := do
  match LogSettings.make (← get).environment arguments with
  | .ok s => return s
  | .error complaints => throw (.invalid complaints)

/-- All fields of settings. -/
def settingsValue (s : Settings) : Value :=
  .ofFields (s.fields ++ [("logging", s.logging.toValue)])

/-- The arguments that a value states. -/
def argumentsOf (v : Value) : Except Failure Arguments :=
  match v with
  | .dict entries => Document.argumentsOf entries
  | _ => .ok []

/-- The pattern of a builder is put together, and a note is left if that succeeds. -/
def noteBuild (b : Builder) : Action Unit :=
  match b.build with
  | .ok _ => modify (Session.note [b.buildNote])
  | .error _ => return

/-- Some values tested one after the other. -/
def testAll (b : Builder) : List Value → Action (List TestResult)
  | [] => return []
  | v :: rest => do
    noteBuild b
    let r ← b.testOne v
    let others ← testAll b rest
    return r :: others

/-- The fields of a model with their validators. -/
def modelFields : List FieldPlan → Action (List ModelField)
  | [] => return []
  | p :: rest => do
    let validator ← storedValidator p.validator
    let others ← modelFields rest
    return { name := p.name, validator, fallback := p.fallback } :: others

/-- A value checked in a mode. -/
def checked (v : Validator) (value : Value) : CheckMode → Except Failure Value
  | .function => v.check value
  | .text => do
    match ← v.read value with
    | .ok s => .ok (.str s)
    | .error e => .error (.invalid e)
  | .optional => do
    match ← v.readOptional value with
    | .ok s => .ok (.ofText? s)
    | .error e => .error (.invalid e)

/-- A call on a builder: requirements are added, also those before a failure. -/
def callOn (on : String) (form : Call.Form) (arguments : Arguments) : Action Reply := do
  let b ← builder on
  match form.call arguments with
  | .error f => return .added (some f) []
  | .ok none => return .added none []
  | .ok (some c) =>
    let change := b.change c
    -- The requirements are there even if the call failed after it had added them.
    modify (Session.putBuilder on (b.call c))
    modify (Session.note change.notes)
    return .added change.failure change.added

/-- The path of a file as it is used. -/
def used (f : FilePlan) : String :=
  if f.absolute then Path.normal f.path else f.path

/-- Settings from a file. -/
def loadSettings (kind : SettingsKind) (file : FilePlan) (overrides : Arguments) (apply : Bool) :
    Action Reply := do
  let content ← document (used file) file.base
  let arguments ← Document.settingArguments content overrides
  match kind with
  | .builder => do
    let s ← makeSettings arguments
    if apply then
      let _ ← useDefaults fun d env => d.configure env (some s) []
    return .value (settingsValue s)
  | .log => do
    let s ← makeLogSettings arguments
    return .value (.ofFields s.fields)

/-- The text of a file in an encoding. -/
def readText (path : String) (encoding : Value) : Action Reply := do
  Log.checkEncoding encoding
  let log := (← get).log
  -- A missing file is told before an unknown encoding.
  let bytes ← log.files.read path
  let encoding ← Log.encodingOf encoding
  match encoding.decode bytes log.tables with
  | .ok s => return .value (.str (String.ofList (unifyBreaks s)))
  | .error fault => throw (.decoding (encoding.faultMessage bytes fault))

/-- A logger set up, and what is told about it. -/
def setUpLogger (arguments : Arguments) : Action Reply := do
  let o ← Log.SetUp.ofArguments arguments
  let name ← useLog (Log.setUp o)
  return .logger (← (← get).log.loggers.summary name)

/-- The level of a message as a number. -/
def levelNumber? : Value → Option Int
  | .int n => some n
  | .bool b => some (if b then 1 else 0)
  | _ => none

/-- A level at which lines are written has to have a name. -/
def checkLabel (loggers : Log.Loggers) (m : Log.Message) (n : Int) : Except Failure Unit :=
  if loggers.effective m.logger ≤ n then discard (Log.Level.label m.level) else .ok ()

/-- A message in the log. -/
def logMessage (name : String) (level text : Value) : Action Reply := do
  match levelNumber? level with
  | some n =>
    let logger ← Log.nameOf (.str (Log.packageLogger name))
    let m : Log.Message := { logger, level, text, created := .int 0 }
    checkLabel (← get).log.loggers m n
    modify fun s => { s with log := Log.emit m n s.log }
    return .value .null
  | none => throw .messageLevel

end Session

open Session in
/-- What a step does. -/
def Step.action : Step → Action Reply
  | .create on flags given => do
    let s ← match given with
      | some arguments => makeSettings arguments
      | none => defaultSettings
    let b := Builder.create flags s
    modify (Session.putBuilder on b)
    return .value (.str (← b.shown))
  | .call on form arguments => callOn on form arguments
  | .requirements on => do return .requirements (← builder on).requirements
  | .shown on => do return .value (.str (← (← builder on).shown))
  | .build on saveAs => do
    let b ← builder on
    let c ← b.build
    noteBuild b
    match saveAs with
    | some name => modify (Session.store name (.pattern c))
    | none => pure ()
    return .pattern c
  | .matchSaved saved value => do
    let c ← storedPattern saved
    return .span (c.match? (← Builder.subject value))
  | .failed on value => do return .value (.list (← (← builder on).failed value))
  | .isValid on value => do
    let b ← builder on
    noteBuild b
    return .value (.bool (← b.isValid value))
  | .testOne on value => do
    let b ← builder on
    return .results true (← testAll b [value])
  | .test on values => do
    let b ← builder on
    return .results false (← testAll b values)
  | .overview on => do
    let b ← builder on
    noteBuild b
    return .overview (← b.overview)
  | .saveValidator on saveAs => do
    let b ← builder on
    noteBuild b
    modify (Session.store saveAs (.validator (← b.validator)))
    return .value (.str "BeforeValidator")
  | .saveType on saveAs => do
    let b ← builder on
    noteBuild b
    modify (Session.store saveAs (.validator (← b.validator)))
    return .value (.str "Annotated")
  | .validate saved value mode => do
    let v ← storedValidator saved
    return .value (← checked v value mode)
  | .model fields data => do
    let m : Model := { name := "M", fields := ← modelFields fields }
    return .value (.ofFields (← m.read data))
  | .setVariable name text => do
    modify fun s => { s with environment := match text with
      | some text => s.environment.put name text
      | none => s.environment.drop name }
    return .value .null
  | .settings .builder values => do
    return .value (settingsValue (← makeSettings (← argumentsOf values)))
  | .settings .log values => do
    return .value (.ofFields (← makeLogSettings (← argumentsOf values)).fields)
  | .currentSettings => do return .value (settingsValue (← defaultSettings))
  | .configure given overrides => do
    let given ← match given with
      | some arguments => do pure (some (← makeSettings arguments))
      | none => pure none
    let s ← useDefaults fun d env => d.configure env given overrides
    return .value (.ofFields s.fields)
  | .resetSettings => do
    modify fun s => { s with defaults := s.defaults.reset }
    return .value .null
  | .write path text => do
    useFiles fun f => f.write path (text.toList.flatMap Encoding.utf8Bytes)
    return .value .null
  | .remove path => do
    useFiles fun f => f.remove path
    return .value .null
  | .load file => do return .value (← document (used file) file.base)
  | .clearDocuments => do
    modify fun s => { s with documents := s.documents.clear }
    return .value .null
  | .loadSettings kind file overrides apply => Session.loadSettings kind file overrides apply
  | .setUpLogger arguments => Session.setUpLogger arguments
  | .setUpPackage config arguments => do
    let logging ← match config with
      | some config => do pure (.settings (← makeLogSettings config))
      | none => do pure (← defaultSettings).logging
    Session.setUpLogger (Log.SetUp.override (Log.SetUp.ofSettings logging) arguments)
  | .loggerNamed name => do return .value (.str (← Log.nameOf (.str (Log.packageLogger name))))
  | .loggerOfCaller caller => do
    return .value (.str (← Log.nameOf (caller.getD (.str Log.packageName))))
  | .log name level text => logMessage name level text
  | .read path encoding => Session.readText path encoding

/-- The answer of a step and the session after it. -/
def Step.run (step : Step) (s : Session) : Reply × Session :=
  let (result, s) := step.action.run.run s
  match result with
  | .ok reply => (reply, s)
  | .error f => (.failed f, s)

/-- The answers of some steps and the session after them. -/
def Session.run (s : Session) : List Step → List Reply × Session
  | [] => ([], s)
  | step :: rest =>
    let (reply, s) := step.run s
    let (replies, s) := s.run rest
    (reply :: replies, s)

end TextCriteria
