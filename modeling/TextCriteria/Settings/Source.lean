import TextCriteria.Environment
import TextCriteria.Failure.Basic
import TextCriteria.Settings.Basic
import TextCriteria.Settings.Leaf
import TextCriteria.Value.Json

namespace TextCriteria

/-!
# Where settings come from

Every setting is taken from the caller, else from the environment, else from the defaults.

* `given?` — the value of a setting from the caller or the environment.
* `leaf` — a setting, or a complaint about its value.
* `LogSettings.make`, `Settings.make` — settings for a caller's values.
-/

/-- The names of the variables that settings of builders are read from begin with this. -/
def settingsPrefix : String := "REGEXCRAFT_"

/-- The same for settings of the log. -/
def logPrefix : String := "REGEXCRAFT_LOG_"

/-- The value of a setting: the caller's, or that of its variable. -/
def given? (env : Environment) (start : String) (arguments : List (String × Value)) (field : String) :
    Option Value :=
  match arguments.lookup field with
  | some v => some v
  -- A variable counts only where the caller says nothing.
  | none => (env.value? (start ++ field)).map .str

/-- A setting with its default. -/
def leaf {α : Type} (read : Value → Except Problem α) (default : α) (field : String) :
    Option Value → Checked α
  | none => .ok default
  | some v =>
    match read v with
    | .ok a => .ok a
    | .error p => .error [⟨p, [.field field]⟩]

/-- Refuses arguments for which there is no setting. -/
def noExtras {α : Type} (fields : List String) (arguments : List (String × Value)) (a : α) :
    Checked α :=
  match arguments.filter fun x => !fields.contains x.1 with
  | [] => .ok a
  | extras => .error (extras.map fun x => ⟨.extraForbidden, [.field x.1]⟩)

/-- A result without extras, with the complaints of both. -/
def Checked.without {α : Type} (fields : List String) (arguments : List (String × Value))
    (a : Checked α) : Checked α :=
  .both (.both (.of fun a _ => a) a) (noExtras fields arguments ())

namespace LogSettings

/-- The names of the settings of the log. -/
def names : List String := (({} : LogSettings).fields).map (·.1)

/-- Settings of the log for a caller's values. -/
def make (env : Environment) (arguments : List (String × Value)) : Checked LogSettings :=
  let defaults : LogSettings := {}
  let value := given? env logPrefix arguments
  let all : Checked LogSettings := (Checked.of LogSettings.mk)
    |>.both (leaf readText defaults.level "level" (value "level"))
    |>.both (leaf (readOptional readText) defaults.filePath "file_path" (value "file_path"))
    |>.both (leaf readText defaults.fileEncoding "file_encoding" (value "file_encoding"))
    |>.both (leaf readTruth defaults.enableConsole "enable_console" (value "enable_console"))
    |>.both (leaf (readOptional readText) defaults.logFormat "log_format" (value "log_format"))
    |>.both (leaf readTruth defaults.useMicroseconds "use_microseconds" (value "use_microseconds"))
  .without names arguments all

end LogSettings

/-! ### The settings of the log inside those of builders -/

/-- The entries of a mapping whose keys are all texts. -/
def textKeys? : List (Value × Value) → Option (List (String × Value))
  | [] => some []
  | (.str k, v) :: rest => (textKeys? rest).map ((k, v) :: ·)
  | _ => none

/-- The name of a setting of the log that a key means in any case, or the key. -/
def logName (key : String) : String :=
  (LogSettings.names.find? fun name => lowerCase name == lowerCase key).getD key

/-- A mapping from the environment with the names of settings in their own case. -/
def withLogNames : List (Value × Value) → List (Value × Value)
  | [] => []
  | (.str k, v) :: rest => (.str (logName k), v) :: withLogNames rest
  | e :: rest => e :: withLogNames rest

/-- The later of two entries of one name wins and keeps the place of the first. -/
def uniteEntries (entries : List (Value × Value)) : List (Value × Value) :=
  entries.foldl (fun acc e =>
    match e with
    | (.str k, v) => Json.put k v acc
    | e => acc ++ [e]) []

mutual

/-- A mapping over another one: entries of both are merged where both are mappings, and else the upper
    one wins. -/
def mergeValue (lower : Value) : Value → Value
  | .dict upper =>
    match lower with
    | .dict below => .dict (mergeEntries below upper)
    | _ => .dict upper
  | v => v

/-- Entries over others, one after the other. -/
def mergeEntries (below : List (Value × Value)) : List (Value × Value) → List (Value × Value)
  | [] => below
  | (.str k, v) :: rest =>
    -- Where the lower mapping lacks the name, the upper value is merged over nothing.
    let old := (below.findSome? fun
      | (.str name, w) => if name == k then some w else none
      | _ => none).getD .null
    mergeEntries (Json.put k (mergeValue old v) below) rest
  | e :: rest => mergeEntries (below ++ [e]) rest

end

/-- The settings of the log that the environment states as one text. Nothing at all counts as no
    statement. -/
def loggingVariable (env : Environment) : Except Failure (Option Value) :=
  match env.value? (settingsPrefix ++ "logging") with
  | none => .ok none
  | some text =>
    match Value.ofJson? text with
    | none => .error (.environmentValue "logging")
    -- A variable that states nothing at all is as good as none.
    | some .null => .ok none
    | some (.dict entries) => .ok (some (.dict (uniteEntries (withLogNames entries))))
    | some v => .ok (some v)

/-- What is stated about the log: by the caller over the environment. -/
def loggingGiven (stated : Option Value) (arguments : List (String × Value)) : Option Value :=
  match stated, arguments.lookup "logging" with
  | some below, some v => some (mergeValue below v)
  | some below, none => some below
  | none, v => v

/-- The settings of the log for what is stated about it. If nothing is, what is wrong with the
    environment is complained about on its own. -/
def loggingSettings (env : Environment) : Option Value → Except Failure (Checked LogSettings)
  | none =>
    match LogSettings.make env [] with
    | .ok s => .ok (.ok s)
    | .error e => .error (.invalid e)
  | some (.dict entries) =>
    match textKeys? entries with
    | some arguments => .ok (.under "logging" (LogSettings.make env arguments))
    | none => .error .keywords
  | some _ => .ok (.error [⟨.modelType "LoggingSettings", [.field "logging"]⟩])

namespace Settings

/-- The names of all settings. -/
def names : List String := (({} : Settings).fields).map (·.1) ++ ["logging"]

/-- Settings that were read, as values. -/
def ofLeaves (flags : Int) (phoneRegion dateTemplate : String) (urlNeedsScheme : Bool)
    (passwordLevel usernameLevel : String) (logging : LogSettings) : Settings where
  flags := .int flags
  phoneRegion := .str phoneRegion
  dateTemplate := .str dateTemplate
  urlNeedsScheme := .bool urlNeedsScheme
  passwordLevel := .str passwordLevel
  usernameLevel := .str usernameLevel
  logging := .settings logging

/-- Settings for a caller's values. -/
def make (env : Environment) (arguments : List (String × Value)) : Except Failure Settings := do
  -- A text that is no value at all fails before any setting is looked at.
  let stated ← loggingVariable env
  let logging ← loggingSettings env (loggingGiven stated arguments)
  let value := given? env settingsPrefix arguments
  let text (default field : String) : Checked String := leaf readText default field (value field)
  let all : Checked Settings := (Checked.of ofLeaves)
    |>.both (leaf readWhole 0 "default_flags" (value "default_flags"))
    |>.both (text "international" "default_phone_region")
    |>.both (text "YYYY-MM-DD" "default_date_format")
    |>.both (leaf readTruth true "url_require_protocol" (value "url_require_protocol"))
    |>.both (text "medium" "default_password_level")
    |>.both (text "standard" "default_username_level")
    |>.both logging
  match all.without names arguments with
  | .ok s => .ok s
  | .error e => .error (.invalid e)

end Settings
end TextCriteria
