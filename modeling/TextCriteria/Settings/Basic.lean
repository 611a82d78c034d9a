import TextCriteria.Value

namespace TextCriteria

/-!
# Settings

* `Settings` — what builders fall back on where a caller says nothing.
* `LogSettings` — how the log is set up.

The fields of `Settings` hold values of any kind, since a caller may replace one without a check.
-/

/-- How the log is set up. -/
structure LogSettings where
  level : String := "INFO"
  filePath : Option String := none
  fileEncoding : String := "utf-8"
  enableConsole : Bool := true
  logFormat : Option String := none
  useMicroseconds : Bool := true
  deriving DecidableEq, Repr

/-- Settings of the log, or whatever a caller put in their place. -/
inductive LogChoice
  | settings (s : LogSettings)
  | replaced (v : Value)
  deriving Repr

/-- Defaults of builders. -/
structure Settings where
  flags : Value := .int 0
  phoneRegion : Value := .str "international"
  dateTemplate : Value := .str "YYYY-MM-DD"
  urlNeedsScheme : Value := .bool true
  passwordLevel : Value := .str "medium"
  usernameLevel : Value := .str "standard"
  logging : LogChoice := .settings {}
  deriving Repr

/-- A text if there is one. -/
def Value.ofText? : Option String → Value
  | some s => .str s
  | none => .null

/-- The fields of settings of the log. -/
def LogSettings.fields (s : LogSettings) : List (String × Value) :=
  [ ("level", .str s.level), ("file_path", .ofText? s.filePath),
    ("file_encoding", .str s.fileEncoding), ("enable_console", .bool s.enableConsole),
    ("log_format", .ofText? s.logFormat), ("use_microseconds", .bool s.useMicroseconds)]

/-- A mapping of names. -/
def Value.ofFields (fields : List (String × Value)) : Value :=
  .dict (fields.map fun f => (.str f.1, f.2))

/-- The log settings as a value. -/
def LogChoice.toValue : LogChoice → Value
  | .settings s => .ofFields s.fields
  | .replaced v => v

namespace Settings

/-- The level that settings give for a kind of preset. -/
def levelFor (s : Settings) : PresetType → Value
  | .password => s.passwordLevel
  | .username => s.usernameLevel

/-- The fields that builders read. -/
def fields (s : Settings) : List (String × Value) :=
  [ ("default_flags", s.flags), ("default_phone_region", s.phoneRegion),
    ("default_date_format", s.dateTemplate), ("url_require_protocol", s.urlNeedsScheme),
    ("default_password_level", s.passwordLevel), ("default_username_level", s.usernameLevel)]

/-- Settings with one field replaced by a value that is not checked. Names of no field are passed
    over. -/
def replace (s : Settings) (field : String) (v : Value) : Settings :=
  match field with
  | "default_flags" => { s with flags := v }
  | "default_phone_region" => { s with phoneRegion := v }
  | "default_date_format" => { s with dateTemplate := v }
  | "url_require_protocol" => { s with urlNeedsScheme := v }
  | "default_password_level" => { s with passwordLevel := v }
  | "default_username_level" => { s with usernameLevel := v }
  | "logging" => { s with logging := .replaced v }
  | _ => s

/-- Settings with some fields replaced. -/
def replaceAll (s : Settings) (overrides : List (String × Value)) : Settings :=
  overrides.foldl (fun s o => s.replace o.1 o.2) s

end Settings
end TextCriteria
