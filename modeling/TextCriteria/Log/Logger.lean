import TextCriteria.Arguments
import TextCriteria.Files
import TextCriteria.Log.Line
import TextCriteria.Note
import TextCriteria.Settings.Basic

namespace TextCriteria.Log

open TextCriteria.Text

/-!
# Loggers

Messages go to the handlers of a logger and of the loggers above it, whose names are the beginnings of
its name up to a dot; the root is above all.

* `Logger`, `Loggers` — loggers by name; those that were never set up have no handlers.
* `setUp` — a logger set up anew: the handlers it had are gone.
* `Loggers.effective` — the level that counts for a logger.
* `emit` — a message goes to the files of all handlers that it reaches.
-/

/-- Where lines go. -/
inductive Target
  | console
  | file (place : Place) (encoding : Encoding)
  deriving DecidableEq, Repr

/-- Writes lines. -/
structure Handler where
  target : Target
  format : LineFormat
  deriving DecidableEq, Repr

/-- The name of the kind of a handler. -/
def Handler.label (h : Handler) : String :=
  match h.target with
  | .console => "StreamHandler"
  | .file _ _ => "FileHandler"

/-- A logger. Messages go on to the loggers above if `propagate` counts as given. -/
structure Logger where
  level : Level := Level.unset
  propagate : Value := .bool true
  handlers : List Handler := []
  deriving Repr

/-- The loggers that are not as they were at the start. -/
structure Loggers where
  known : List (String × Logger) := []
  deriving Repr

/-- The name of the root. -/
def rootName : String := "root"

namespace Loggers

/-- The logger with a name. -/
def get (l : Loggers) (name : String) : Logger :=
  (l.known.lookup name).getD (if name == rootName then { level := Level.warning } else {})

/-- A logger replaced. -/
def put (l : Loggers) (name : String) (logger : Logger) : Loggers :=
  ⟨(name, logger) :: l.known.filter fun k => k.1 != name⟩

/-- The names of a logger and of all loggers above it, from its reversed name. -/
def chainChars : List Char → List String
  | [] => [rootName]
  | c :: rest =>
    let above := String.ofList rest.reverse
    -- A name that ends in a dot has the loggers of its front above it.
    if c == '.' && !rest.isEmpty && above != rootName then above :: chainChars rest
    else chainChars rest

/-- The names of a logger and of all loggers above it. -/
def chain (name : String) : List String :=
  if name == rootName then [rootName] else name :: chainChars name.toList.reverse

/-- The level that counts for a logger: its own, or that of the first logger above that has one. -/
def effective (l : Loggers) (name : String) : Level :=
  ((chain name).map fun n => (l.get n).level).find? (· != Level.unset) |>.getD Level.unset

/-- The handlers that messages of some loggers reach, from the first one upwards. -/
def reached (l : Loggers) : List String → List Handler
  | [] => []
  | name :: above =>
    let logger := l.get name
    logger.handlers ++ (if logger.propagate.isTrue then l.reached above else [])

end Loggers

/-! ### Names -/

/-- The name of the package and of its logger. -/
def packageName : String := "regexcraft"

/-- The logger that a name means: nothing means the root. -/
def nameOf (name : Value) : Except Failure String :=
  if !name.isTrue then .ok rootName
  else match name.asText? with
    | some s => .ok s
    | none => .error .loggerName

/-- The logger that a short or full name means in the package. -/
def packageLogger (name : String) : String :=
  if name == packageName || name.toList.contains '.' then name else packageName ++ "." ++ name

/-! ### Setting up -/

/-- What a logger is set up with. -/
structure SetUp where
  name : Value
  level : Value
  file : Value
  template : Value
  console : Value
  microseconds : Value
  propagate : Value
  encoding : Value
  deriving Repr

namespace SetUp

/-- The parameters of a set-up by name. -/
def operation : Operation where
  name := "setup_logger"
  parameters :=
    [ .optional "name", .withDefault "level" (.str "INFO"), .optional "log_file",
      .optional "log_format", .withDefault "console" (.bool true),
      .withDefault "use_microseconds" (.bool true), .withDefault "propagate" (.bool true),
      .withDefault "encoding" (.str "utf-8")]

/-- A set-up for arguments by name. -/
def ofArguments (arguments : List (String × Value)) : Except Failure SetUp := do
  match ← operation.byName arguments with
  | [name, level, file, template, console, microseconds, propagate, encoding] =>
    .ok { name, level, file, template, console, microseconds, propagate, encoding }
  | _ => .error .loggerName

/-- The arguments that settings stand for. What is no settings says nothing. -/
def ofSettings (settings : LogChoice) : List (String × Value) :=
  let s : LogSettings := match settings with
    | .settings s => s
    | .replaced _ => {}
  [ ("name", .str packageName), ("level", .str s.level), ("log_file", .ofText? s.filePath),
    ("log_format", .ofText? s.logFormat), ("console", .bool s.enableConsole),
    ("use_microseconds", .bool s.useMicroseconds), ("encoding", .str s.fileEncoding),
    ("propagate", .bool false)]

/-- Arguments over others of the same names. -/
def override (arguments given : List (String × Value)) : List (String × Value) :=
  given ++ arguments.filter fun a => !given.any fun g => g.1 == a.1

end SetUp

/-- Loggers and the files that they write to, and the tables of encodings that have no rules of their own. -/
structure LogState where
  loggers : Loggers := {}
  files : Files := {}
  tables : CodeTables := []
  deriving Repr

/-- What changes loggers and files and may fail on the way. -/
abbrev LogAction := ExceptT Failure (StateM LogState)

/-- A logger is changed. -/
def changeLogger (name : String) (f : Logger → Logger) : LogAction Unit :=
  modify fun s => { s with loggers := s.loggers.put name (f (s.loggers.get name)) }

/-- The level that a value stands for. -/
def levelOf (v : Value) : Except Failure Level :=
  match v.asText? with
  | some s => Level.ofName s
  | none =>
    match v with
    -- Bytes have an upper case, but attributes have no bytes for names.
    | .bytes _ => .error (.attributeKind v.fullKind)
    | v => .error (.noAttribute v.fullKind "upper")

/-- The path that a value stands for. Bytes that are no text stand for one all the same. -/
def pathOf : Value → Except Failure String
  | .str path => .ok path
  | .choice c => .ok c.code
  | .bytes b =>
    match (Encoding.utf8 false).decode b with
    | .ok s => .ok (String.ofList s)
    | .error _ => .ok (String.ofList (b.map fun byte => Char.ofNat byte.toNat))
  | .foreign o =>
    match o.path? with
    | some path => .ok path
    | none => .error (.pathKind o.kind)
  | v => .error (.pathKind v.kind)

/-- Refuses what cannot be the name of an encoding. -/
def checkEncoding (v : Value) : Except Failure Unit :=
  match v, v.asText? with
  | .null, _ => .ok ()
  | _, some s => if s.toList.contains '\x00' then .error (.outOfRange "embedded null character") else .ok ()
  | v, none => .error (.encodingKind v.fullKind)

/-- The encoding that a value stands for: by its name, or that of the place where the program runs. -/
def encodingOf (v : Value) : Except Failure Encoding :=
  match v.asText? with
  | some "locale" => .ok (.utf8 false)
  | some s =>
    match Encoding.named? s with
    | some e => .ok e
    | none => .error (.encoding s)
  | none => .ok (.utf8 false)

/-- The directories of a log file are made. -/
def makeLogDirectory (path : String) : LogAction Unit := do
  let files ← (← get).files.makeDirectories (Path.parent (Path.normal path))
  modify fun s => { s with files }

/-- The place of a log file that is opened. -/
def openFile (path : String) : LogAction Place := do
  let (place, files) ← (← get).files.openForAppend (Path.normal path)
  modify fun s => { s with files }
  return place

/-- The targets of a logger. -/
def targets (o : SetUp) : LogAction (List Target) := do
  let console := if o.console.isTrue then [Target.console] else []
  if !o.file.isTrue then return console
  let path ← pathOf o.file
  makeLogDirectory path
  checkEncoding o.encoding
  -- The file is made before its encoding is looked up.
  let place ← openFile path
  let encoding ← encodingOf o.encoding
  return console ++ [.file place encoding]

/-- A logger is set up: first its level, then whether messages go on, then its handlers. What was done
    before a failure stays done. -/
def setUp (o : SetUp) : LogAction String := do
  let name ← nameOf o.name
  -- Nothing has happened up to here: a bad name or level changes no logger.
  let level ← levelOf o.level
  changeLogger name fun l => { l with level }
  changeLogger name fun l => { l with propagate := o.propagate, handlers := [] }
  -- From here on a failure leaves the logger without handlers.
  let format ← LineFormat.create o.template o.microseconds
  let targets ← targets o
  changeLogger name fun l => { l with handlers := targets.map fun t => ⟨t, format⟩ }
  return name

/-! ### Messages -/

/-- A line at the end of a file. What the encoding lacks is not written at all. -/
def writeLine (tables : CodeTables) (files : Files) (place : Place) (encoding : Encoding) (line : String) :
    Files :=
  match encoding.encode? tables (line ++ "\n") with
  | none => files
  | some bytes =>
    -- A mark of byte order stands at the beginning of a file only.
    let mark := match files.node? place with
      | some (.file []) => encoding.mark
      | _ => []
    files.append place (mark ++ bytes)

/-- A message through one handler. A line that cannot be made is not written. -/
def Handler.emit (tables : CodeTables) (m : Message) (files : Files) (h : Handler) : Files :=
  match h.target, h.format.line m with
  | .file place encoding, .ok line => writeLine tables files place encoding line
  | _, _ => files

/-- A message of a logger. -/
def emit (m : Message) (level : Level) (s : LogState) : LogState :=
  if level < s.loggers.effective m.logger then s
  else
    let handlers := s.loggers.reached (Loggers.chain m.logger)
    { s with files := handlers.foldl (Handler.emit s.tables m) s.files }

/-- A note of the library. -/
def emitNote (s : LogState) (n : Note) : LogState :=
  emit { logger := n.topic.loggerName, level := .int Level.debug, text := .str n.text,
         created := .int 0 } Level.debug s

/-! ### Descriptions -/

/-- What is told about a handler. -/
structure HandlerSummary where
  label : String
  format : String
  sample : String
  deriving DecidableEq, Repr

/-- What is told about a logger. -/
structure LoggerSummary where
  name : String
  level : Level
  effective : Level
  propagate : Value
  handlers : List HandlerSummary
  deriving Repr

/-- A handler with a line as it writes them. -/
def Handler.summary (name : String) (h : Handler) : Except Failure HandlerSummary := do
  let sample ← h.format.line
    { logger := name, level := .int Level.info, text := .str "msg", created := .int 0 }
  .ok { label := h.label, format := h.format.label, sample }

/-- A logger and its handlers. -/
def Loggers.summary (l : Loggers) (name : String) : Except Failure LoggerSummary := do
  let logger := l.get name
  let handlers ← logger.handlers.mapM (Handler.summary name)
  .ok { name, level := logger.level, effective := l.effective name, propagate := logger.propagate,
        handlers }

end TextCriteria.Log
